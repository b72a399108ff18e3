import WebHarvest.Url.Host

/-! Addresses of hosts in the Internet protocol, read and written on their own. -/

namespace WebHarvest.Access

/-- An address: four numbers below 256, or eight below 65536. -/
inductive Address where
  | v4 (parts : List Nat)
  | v6 (pieces : List Nat)
  deriving DecidableEq, Repr

namespace Address

/-- Reads four decimal numbers with points between them, or hexadecimal pieces with colons. -/
def read? (text : String) : Option Address :=
  match Url.Host.dotted? text.toList, Url.Host.ipv6? text.toList with
  | some parts, _ => some (v4 parts)
  | none, some (.ipv6 pieces) => some (v6 pieces)
  | none, _ => none

/-- Numbers with points between them. -/
def dots (parts : List Nat) : String :=
  ".".intercalate (parts.map toString)

/-- The text of an address. One of version six that stands for one of version four ends in the
dotted form. -/
def text : Address → String
  | v4 parts => dots parts
  | v6 [0, 0, 0, 0, 0, 0xffff, high, low] =>
    "::ffff:" ++ dots [high / 256, high % 256, low / 256, low % 256]
  | v6 pieces => String.ofList ((Url.Host.ipv6Text pieces).toList.drop 1).dropLast

end Address

end WebHarvest.Access

import WebHarvest.Text.Ascii
import WebHarvest.Text.Utf8

/-! Bytes written as pairs of hexadecimal digits in lower case. -/

namespace WebHarvest.Text.Hex

/-- A digit below sixteen. -/
def digit (n : Nat) : Char :=
  if n < 10 then Char.ofNat ('0'.toNat + n) else Char.ofNat ('a'.toNat + (n - 10))

/-- Two digits for each byte, the high half first. -/
def encode (bytes : Bytes) : String :=
  String.ofList (bytes.flatMap fun b => [digit (b.toNat / 16), digit (b.toNat % 16)])

/-- Reads pairs of digits of either case; an odd digit or any other character is refused. -/
def decode? : List Char → Option Bytes
  | [] => some []
  | [_] => none
  | h :: l :: rest => do
    let high ← hexValue? h
    let low ← hexValue? l
    let bytes ← decode? rest
    return UInt8.ofNat (16 * high + low) :: bytes

end WebHarvest.Text.Hex

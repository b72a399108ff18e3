import WebHarvest.Clock.Timer

/-! Pacing by tokens. A bucket is refilled at a steady rate up to its capacity, one token is one
byte, and a reservation may overdraw it; the debt is then waited off. The bucket's arithmetic is a
parameter: double precision for the harvester, rational numbers for exact statements. -/

namespace WebHarvest.Recording

open Clock (Instant)

/-- Numbers of tokens, and what a bucket does with them. -/
class Tokens (α : Type) where
  ofNat : Nat → α
  add : α → α → α
  sub : α → α → α
  least : α → α → α
  isDebt : α → Bool
  /-- Tokens that come in at a rate per second during a number of nanoseconds. -/
  income : (nanos : Nat) → (rate : α) → α
  /-- Nanoseconds in which a rate per second makes up for a debt. -/
  patience : (debt rate : α) → Nat

/-- A bucket: its capacity, the tokens that come in per second, the tokens in it and the instant at
which they were counted. -/
structure TokenBucket (α : Type) where
  capacity : α
  rate : α
  tokens : α
  counted : Instant

namespace TokenBucket

variable {α : Type} [Tokens α]

/-- A full bucket. A capacity or rate of zero counts as one. -/
def full (now : Instant) (capacity rate : Nat) : TokenBucket α where
  capacity := Tokens.ofNat (max capacity 1)
  rate := Tokens.ofNat (max rate 1)
  tokens := Tokens.ofNat (max capacity 1)
  counted := now

/-- A full bucket that holds what comes in within a second. -/
def perSecond (now : Instant) (rate : Nat) : TokenBucket α :=
  full now rate rate

/-- Adds what has come in since the last count. -/
def refill (now : Instant) (bucket : TokenBucket α) : TokenBucket α :=
  let income := Tokens.income (now - bucket.counted) bucket.rate
  { bucket with
    tokens := Tokens.least (Tokens.add bucket.tokens income) bucket.capacity
    counted := now }

/-- Takes tokens, into debt if need be, and tells how many nanoseconds the debt lasts. -/
def reserve (now : Instant) (bytes : Nat) (bucket : TokenBucket α) : Nat × TokenBucket α :=
  let filled := bucket.refill now
  let tokens := Tokens.sub filled.tokens (Tokens.ofNat bytes)
  (if Tokens.isDebt tokens then Tokens.patience tokens filled.rate else 0, { filled with tokens })

/-- Takes tokens and waits off the debt; gives the instant at which the wait is over. -/
def acquire (now : Instant) (bytes : Nat) (bucket : TokenBucket α) : Instant × TokenBucket α :=
  let (wait, bucket) := bucket.reserve now bytes
  (if wait == 0 then now else Clock.wake now wait, bucket)

end TokenBucket

/-- Bits of the fraction of a double. -/
def fractionBits : Nat := 52

/-- A quotient rounded to the nearest whole number, a tie to the even one. -/
def roundHalfEven (numerator denominator : Nat) : Nat :=
  let whole := numerator / denominator
  let double := 2 * (numerator % denominator)
  if denominator < double || (double == denominator && whole % 2 == 1) then whole + 1 else whole

/-- The value of a positive double times `scale`, rounded to the nearest whole number. -/
def scaledDouble (x : Float) (scale : Nat) : Nat :=
  let bits := x.toBits.toNat
  let exponent := bits / Nat.pow 2 fractionBits % Nat.pow 2 11
  let fraction := bits % Nat.pow 2 fractionBits
  let significand := if exponent == 0 then fraction else Nat.pow 2 fractionBits + fraction
  let power := max exponent 1
  if 1075 ≤ power then significand * scale * Nat.pow 2 (power - 1075)
  else roundHalfEven (significand * scale) (Nat.pow 2 (1075 - power))

/-- Tokens in double precision. -/
instance : Tokens Float where
  ofNat n := (UInt64.ofNat n).toFloat
  add := (· + ·)
  sub := (· - ·)
  least x y := if y < x then y else x
  isDebt x := x < 0
  income nanos rate :=
    let seconds := (UInt64.ofNat (nanos / Clock.second)).toFloat
    let part := (UInt64.ofNat (nanos % Clock.second)).toFloat / 1e9
    (seconds + part) * rate
  patience debt rate := scaledDouble (-debt / rate) Clock.second

end WebHarvest.Recording

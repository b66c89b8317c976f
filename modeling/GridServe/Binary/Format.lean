namespace GridServe

/-- A binary interchange format with `precision` significand bits, the leading one included,
and `exponentBits` bits of biased exponent. -/
structure BinaryFormat where
  precision : Nat
  exponentBits : Nat

namespace BinaryFormat

def binary64 : BinaryFormat := ⟨53, 11⟩

def binary32 : BinaryFormat := ⟨24, 8⟩

def fractionBits (fmt : BinaryFormat) : Nat := fmt.precision - 1

def bias (fmt : BinaryFormat) : Nat := Nat.pow 2 (fmt.exponentBits - 1) - 1

def specialField (fmt : BinaryFormat) : Nat := Nat.pow 2 fmt.exponentBits - 1

def minQuantum (fmt : BinaryFormat) : Int := 1 - (fmt.bias : Int) - fmt.fractionBits

def maxQuantum (fmt : BinaryFormat) : Int := (fmt.bias : Int) - fmt.fractionBits

def fractionOf (fmt : BinaryFormat) (bits : Nat) : Nat := bits % Nat.pow 2 fmt.fractionBits

def fieldOf (fmt : BinaryFormat) (bits : Nat) : Nat :=
  bits / Nat.pow 2 fmt.fractionBits % Nat.pow 2 fmt.exponentBits

def signOf (fmt : BinaryFormat) (bits : Nat) : Bool :=
  bits / Nat.pow 2 (fmt.fractionBits + fmt.exponentBits) % 2 == 1

end BinaryFormat

/-- What a bit pattern denotes. A finite value is `(-1)^negative * significand * 2^quantum`. -/
inductive BinaryValue where
  | nan
  | infinite (negative : Bool)
  | finite (negative : Bool) (significand : Nat) (quantum : Int)
  deriving Repr, DecidableEq

namespace BinaryFormat

def decode (fmt : BinaryFormat) (bits : Nat) : BinaryValue :=
  let fraction := fmt.fractionOf bits
  let field := fmt.fieldOf bits
  let negative := fmt.signOf bits
  if field = fmt.specialField then
    if fraction = 0 then .infinite negative else .nan
  else if field = 0 then .finite negative fraction fmt.minQuantum
  else .finite negative (fraction + Nat.pow 2 fmt.fractionBits) (field + fmt.minQuantum - 1)

def isFinite (fmt : BinaryFormat) (bits : Nat) : Bool :=
  fmt.fieldOf bits != fmt.specialField

/-- Bits of a positive finite value with `significand < 2 ^ precision` at `quantum`, where a
significand below `2 ^ fractionBits` only occurs at the least quantum. -/
def pack (fmt : BinaryFormat) (significand : Nat) (quantum : Int) : Nat :=
  if significand < Nat.pow 2 fmt.fractionBits then significand
  else ((quantum - fmt.minQuantum + 1).toNat <<< fmt.fractionBits)
    + (significand - Nat.pow 2 fmt.fractionBits)

def infinityBits (fmt : BinaryFormat) : Nat := fmt.specialField <<< fmt.fractionBits

private def powTwoParts (e : Int) : Nat × Nat :=
  if 0 ≤ e then (Nat.pow 2 e.toNat, 1) else (1, Nat.pow 2 (-e).toNat)

def binaryMagnitude (num den : Nat) : Int :=
  let guess : Int := (num.log2 : Int) - den.log2
  let (up, down) := powTwoParts guess
  if num * down ≥ den * up then guess else guess - 1

/-- Round the positive ratio `num / den` to a significand at `quantum`: the quotient, plus one
when the remainder is more than half, or exactly half with an odd quotient. -/
def roundAt (num den : Nat) (quantum : Int) : Nat :=
  let (up, down) := powTwoParts quantum
  let n := num * down
  let d := den * up
  let q := n / d
  let r := n % d
  if 2 * r > d ∨ (2 * r = d ∧ q % 2 = 1) then q + 1 else q

/-- Bits of the value of `fmt` nearest to `num / den`, a tie going to the even significand;
ratios beyond the largest finite value round to infinity. -/
def nearest (fmt : BinaryFormat) (num den : Nat) : Nat :=
  if num = 0 ∨ den = 0 then 0 else
  let e := binaryMagnitude num den
  let quantum := max (e - fmt.fractionBits) fmt.minQuantum
  let m := roundAt num den quantum
  let (m, quantum) := if m = Nat.pow 2 fmt.precision then (Nat.pow 2 fmt.fractionBits, quantum + 1)
    else (m, quantum)
  if quantum > fmt.maxQuantum then fmt.infinityBits else fmt.pack m quantum

end BinaryFormat

end GridServe

import GridServe.Binary.Format

/-!
Text of binary floating-point values. The digits are always the shortest that read back
(`ReadBackInterval.shortest`); the two styles differ in where the point goes, whether an
exponent is written, and how a tie between two shortest candidates is broken.

Shortest decimal digits of a binary value. A positive value `scaled * 2 ^ exponent` owns the
interval of reals that read back as it; the digits chosen are the fewest on a decimal grid that
meet the interval, and of the two grid neighbours of the value the nearer one.
-/

namespace GridServe

structure Decimal where
  digits : Nat
  exponent : Int
  deriving Repr, DecidableEq

def Decimal.trim (d : Decimal) : Decimal :=
  if h : d.digits ≠ 0 ∧ d.digits % 10 = 0 then
    Decimal.trim ⟨d.digits / 10, d.exponent + 1⟩
  else d
termination_by d.digits
decreasing_by omega

def digitCount (n : Nat) : Nat :=
  if n < 10 then 1 else digitCount (n / 10) + 1
termination_by n
decreasing_by omega

/-- A positive binary value together with the reals that read back as it: those strictly
between `(scaled - below) * 2 ^ exponent` and `(scaled + above) * 2 ^ exponent`, and the two
ends as well when `closed`. -/
structure ReadBackInterval where
  scaled : Nat
  below : Nat
  above : Nat
  exponent : Int
  closed : Bool
  deriving Repr

inductive TieBreak where
  | up
  | even
  deriving Repr, DecidableEq

namespace ReadBackInterval

/-- The interval of the finite positive value `significand * 2 ^ quantum`. Its half-gap below is
half as wide when the significand is the least of its binade, for every normal binade. -/
def ofSignificand (fmt : BinaryFormat) (significand : Nat) (quantum : Int) : ReadBackInterval :=
  if significand = Nat.pow 2 fmt.fractionBits then
    ⟨4 * significand, 1, 2, quantum - 2, significand % 2 == 0⟩
  else
    ⟨2 * significand, 1, 1, quantum - 1, significand % 2 == 0⟩

def compareScaled (c : Nat) (s : Int) (u : Nat) (e : Int) : Ordering :=
  compare (c * Nat.pow 10 s.toNat * Nat.pow 2 (-e).toNat) (u * Nat.pow 10 (-s).toNat * Nat.pow 2 e.toNat)

def floorOnGrid (s : Int) (u : Nat) (e : Int) : Nat :=
  u * Nat.pow 10 (-s).toNat * Nat.pow 2 e.toNat / (Nat.pow 10 s.toNat * Nat.pow 2 (-e).toNat)

def decimalMagnitude (u : Nat) (e : Int) : Int :=
  let guess : Int := (digitCount (u * Nat.pow 2 e.toNat) : Int) - digitCount (Nat.pow 2 (-e).toNat)
  if compareScaled 1 guess u e == .gt then guess - 1 else guess

def admits (iv : ReadBackInterval) (c : Nat) (s : Int) : Bool :=
  let low := compareScaled c s (iv.scaled - iv.below) iv.exponent
  let high := compareScaled c s (iv.scaled + iv.above) iv.exponent
  if iv.closed then low != .lt && high != .gt else low == .gt && high == .lt

def pickOnGrid (iv : ReadBackInterval) (tie : TieBreak) (s : Int) : Option Nat :=
  let down := floorOnGrid s iv.scaled iv.exponent
  let up := down + 1
  match iv.admits down s, iv.admits up s with
  | false, false => none
  | true, false => some down
  | false, true => some up
  | true, true =>
    -- the midpoint `(2 * down + 1) * 10 ^ s` against twice the value
    match compareScaled (2 * down + 1) s (2 * iv.scaled) iv.exponent with
    | .gt => some down
    | .lt => some up
    | .eq =>
      match tie with
      | .up => some up
      | .even => if down % 2 = 0 then some down else some up

def searchFrom (iv : ReadBackInterval) (tie : TieBreak) (magnitude : Int) :
    Nat → Nat → Decimal
  | 0, _ =>
    -- the exact decimal of the value
    if 0 ≤ iv.exponent then ⟨iv.scaled * Nat.pow 2 iv.exponent.toNat, 0⟩
    else ⟨iv.scaled * Nat.pow 5 (-iv.exponent).toNat, iv.exponent⟩
  | fuel + 1, count =>
    let s := magnitude - count + 1
    match iv.pickOnGrid tie s with
    | some c => Decimal.trim ⟨c, s⟩
    | none => iv.searchFrom tie magnitude fuel (count + 1)

/-- The shortest decimal that reads back as the value, nearest of those. Forty grids are more
than enough: seventeen significant digits always meet the interval of a double. -/
def shortest (iv : ReadBackInterval) (tie : TieBreak) : Decimal :=
  iv.searchFrom tie (decimalMagnitude iv.scaled iv.exponent) 40 1

end ReadBackInterval

inductive FloatStyle where
  /-- Positional for every exponent; an integral value has no point; a tie of two shortest
  candidates goes to the larger magnitude. -/
  | plain
  /-- Positional while the point falls within sixteen digits of the first one (or at most
  five places after it), an exponent otherwise; an integral value keeps `.0`; a tie goes to
  the even digit. -/
  | json
  deriving Repr, DecidableEq

namespace FloatStyle

def tieBreak : FloatStyle → TieBreak
  | .plain => .up
  | .json => .even

end FloatStyle

private def zeros (n : Nat) : List Char := List.replicate n '0'

namespace Decimal

def positional (d : Decimal) : String :=
  let ds := (toString d.digits).toList
  if 0 ≤ d.exponent then String.ofList (ds ++ zeros d.exponent.toNat)
  else
    let point : Int := ds.length + d.exponent
    if 0 < point then String.ofList (ds.take point.toNat ++ '.' :: ds.drop point.toNat)
    else String.ofList ('0' :: '.' :: zeros (-point).toNat ++ ds)

def jsonLayout (d : Decimal) : String :=
  let ds := (toString d.digits).toList
  let len : Int := ds.length
  let point := len + d.exponent
  if 0 ≤ d.exponent ∧ point ≤ 16 then
    String.ofList (ds ++ zeros d.exponent.toNat ++ ['.', '0'])
  else if 0 < point ∧ point ≤ 16 then
    String.ofList (ds.take point.toNat ++ '.' :: ds.drop point.toNat)
  else if -5 < point ∧ point ≤ 0 then
    String.ofList ('0' :: '.' :: zeros (-point).toNat ++ ds)
  else
    let mantissa := match ds with
      | [c] => [c]
      | c :: rest => c :: '.' :: rest
      | [] => []
    String.ofList mantissa ++ "e" ++ toString (point - 1)

end Decimal

namespace FloatStyle

def layout (style : FloatStyle) (d : Decimal) : String :=
  match style with
  | .plain => d.positional
  | .json => d.jsonLayout

def zeroText : FloatStyle → String
  | .plain => "0"
  | .json => "0.0"

end FloatStyle

/-- Text of the value denoted by `bits` in `fmt`: NaN, `inf` and `-inf` for the special values,
a minus sign for every negative value, zero included. -/
def floatText (fmt : BinaryFormat) (style : FloatStyle) (bits : Nat) : String :=
  match fmt.decode bits with
  | .nan => "NaN"
  | .infinite negative => if negative then "-inf" else "inf"
  | .finite negative significand quantum =>
    let sign := if negative then "-" else ""
    if significand = 0 then sign ++ style.zeroText
    else
      let interval := ReadBackInterval.ofSignificand fmt significand quantum
      sign ++ style.layout (interval.shortest style.tieBreak)

def Float.plainText (x : Float) : String :=
  floatText .binary64 .plain x.toBits.toNat

def Float32.plainText (x : Float32) : String :=
  floatText .binary32 .plain x.toBits.toNat

/-- JSON text of a double; `none` for NaN and the infinities, which JSON cannot write. -/
def Float.jsonText? (x : Float) : Option String :=
  if BinaryFormat.binary64.isFinite x.toBits.toNat then
    some (floatText .binary64 .json x.toBits.toNat)
  else none

end GridServe

/-!
Indices as request parameters give them: an optional `+` and decimal digits for a value below
`2 ^ 64`. Digits are read from the left; the first character that is not a digit, or the first
digit that takes the value past the bound, decides the error.
-/

namespace GridServe

inductive IndexError where
  | empty
  | invalidDigit
  | tooLarge
  | tooSmall
  deriving Repr, DecidableEq, Inhabited

namespace IndexError

def message : IndexError → String
  | .empty => "cannot parse integer from empty string"
  | .invalidDigit => "invalid digit found in string"
  | .tooLarge => "number too large to fit in target type"
  | .tooSmall => "number too small to fit in target type"

end IndexError

namespace Index

def max : Nat := Nat.pow 2 64 - 1

/-- Read digits onto `acc`, failing with `overflow` once the value passes `limit`. -/
def digits (limit : Nat) (overflow : IndexError) (acc : Nat) : List Char → Except IndexError Nat
  | [] => .ok acc
  | c :: rest =>
    if c.isDigit then
      let next := acc * 10 + (c.toNat - '0'.toNat)
      if next > limit then .error overflow else digits limit overflow next rest
    else .error .invalidDigit

def parse (text : String) : Except IndexError Nat :=
  match text.toList with
  | [] => .error .empty
  | ['+'] => .error .invalidDigit
  | ['-'] => .error .invalidDigit
  | '+' :: rest => digits max .tooLarge 0 rest
  | cs => digits max .tooLarge 0 cs

def parseSigned (text : String) : Except IndexError Int :=
  match text.toList with
  | [] => .error .empty
  | ['+'] => .error .invalidDigit
  | ['-'] => .error .invalidDigit
  | '-' :: rest => (digits (Nat.pow 2 63) .tooSmall 0 rest).map fun n => -(n : Int)
  | '+' :: rest => (digits (Nat.pow 2 63 - 1) .tooLarge 0 rest).map fun n => (n : Int)
  | cs => (digits (Nat.pow 2 63 - 1) .tooLarge 0 cs).map fun n => (n : Int)

end Index

end GridServe

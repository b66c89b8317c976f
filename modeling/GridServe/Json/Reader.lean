import GridServe.Json.Value
import GridServe.Binary.Format

/-!
Reading JSON text. The grammar is strict: no trailing commas, no leading zeros, at least one
digit after a point or an exponent mark, no raw control characters in strings and escapes from
the fixed set. A text that follows the grammar but holds something no consumer can take as data
still reads: a string with a surrogate escape outside a high-low pair, an object with such a
key, and a number beyond the range of doubles each read as `Json.unreadable`, so that only a
consumer that uses the value refuses it.

Numbers follow a best-effort rule rather than correct rounding. The significand digits are
gathered into a 64-bit integer (digits that no longer fit are dropped and only counted), the
integer is rounded to a double, and the result is multiplied or divided once by the double
nearest to `10 ^ |e|` when `|e| ≤ 308`; a larger negative exponent divides by `1e308` until it
fits. A product that overflows is refused.
-/

namespace GridServe

inductive JsonError where
  | unexpectedEnd
  | unexpected (c : Char)
  | invalidNumber
  | numberOutOfRange
  | invalidEscape
  | controlCharacter
  | trailing (c : Char)
  deriving Repr, DecidableEq

namespace JsonReader

abbrev Result (α : Type) := Except JsonError (α × List Char)

def isBlank (c : Char) : Bool := c == ' ' || c == '\t' || c == '\n' || c == '\r'

def skipBlank : List Char → List Char
  | c :: rest => if isBlank c then skipBlank rest else c :: rest
  | [] => []

def digitValue (c : Char) : Nat := c.toNat - '0'.toNat

def u64Max : Nat := Nat.pow 2 64 - 1

def i32Max : Nat := Nat.pow 2 31 - 1

def overflows (acc d limit : Nat) : Bool :=
  acc ≥ limit / 10 && (acc > limit / 10 || d > limit % 10)

def powersOfTen : Array Float :=
  ((List.range 309).map fun k =>
    Float.ofBits (BinaryFormat.binary64.nearest (Nat.pow 10 k) 1).toUInt64).toArray

def powerOfTen (k : Nat) : Float := powersOfTen.getD k 0

/-- `significand * 10 ^ exponent` by the best-effort rule, `none` when a product overflows. -/
def scaleByTen (significand : Nat) (exponent : Int) : Option Float :=
  go ((exponent.natAbs / 308) + 2) significand.toUInt64.toFloat exponent
where
  go : Nat → Float → Int → Option Float
    | 0, f, _ => some f
    | fuel + 1, f, e =>
      if e.natAbs ≤ 308 then
        if 0 ≤ e then
          let g := f * powerOfTen e.natAbs
          if g.isInf then none else some g
        else some (f / powerOfTen e.natAbs)
      else if f == 0 then some f
      else if 0 ≤ e then none
      else go fuel (f / 1e308) (e + 308)

def signed (positive : Bool) (f : Float) : Float := if positive then f else -f

def fromParts (positive : Bool) (significand : Nat) (exponent : Int) : Except JsonError Float :=
  match scaleByTen significand exponent with
  | some f => .ok (signed positive f)
  | none => .error .numberOutOfRange

/-- An exponent beyond 32 bits: zero unless a nonzero significand is scaled up. -/
def exponentOverflow (positive zero positiveExp : Bool) (cs : List Char) : Result Float :=
  if !zero && positiveExp then .error .numberOutOfRange
  else .ok (signed positive 0, cs.dropWhile Char.isDigit)

def exponentDigits (positive : Bool) (significand : Nat) (start : Int) (positiveExp : Bool) :
    Nat → List Char → Result Float
  | acc, c :: rest =>
    if c.isDigit then
      if overflows acc (digitValue c) i32Max then
        exponentOverflow positive (significand == 0) positiveExp rest
      else exponentDigits positive significand start positiveExp (acc * 10 + digitValue c) rest
    else finish acc (c :: rest)
  | acc, [] => finish acc []
where
  finish (acc : Nat) (cs : List Char) : Result Float :=
    -- the exponent saturates at the 32-bit bounds
    let e := if positiveExp then min (start + acc) i32Max else max (start - acc) (-(i32Max + 1))
    (fromParts positive significand e).map (·, cs)

def exponent (positive : Bool) (significand : Nat) (start : Int) (cs : List Char) :
    Result Float :=
  let (positiveExp, cs) := match cs with
    | '+' :: rest => (true, rest)
    | '-' :: rest => (false, rest)
    | _ => (true, cs)
  match cs with
  | c :: rest =>
    if c.isDigit then exponentDigits positive significand start positiveExp (digitValue c) rest
    else .error .invalidNumber
  | [] => .error .unexpectedEnd

def decimalOverflow (positive : Bool) (significand : Nat) (exp : Int) (cs : List Char) :
    Result Float :=
  let cs := cs.dropWhile Char.isDigit
  match cs with
  | c :: rest => if c == 'e' || c == 'E' then exponent positive significand exp rest
    else (fromParts positive significand exp).map (·, cs)
  | [] => (fromParts positive significand exp).map (·, [])

def fractionDigits (positive : Bool) (before : Int) :
    Nat → Nat → List Char → Result Float
  | significand, taken, c :: rest =>
    if c.isDigit then
      if overflows significand (digitValue c) u64Max then
        decimalOverflow positive significand (before - taken) (c :: rest)
      else fractionDigits positive before (significand * 10 + digitValue c) (taken + 1) rest
    else done significand taken (c :: rest)
  | significand, taken, [] => done significand taken []
where
  done (significand taken : Nat) (cs : List Char) : Result Float :=
    if taken = 0 then
      match cs with
      | [] => .error .unexpectedEnd
      | _ => .error .invalidNumber
    else
      match cs with
      | c :: rest => if c == 'e' || c == 'E' then exponent positive significand (before - taken) rest
        else (fromParts positive significand (before - taken)).map (·, cs)
      | [] => (fromParts positive significand (before - taken)).map (·, [])

def afterInteger (positive : Bool) (significand : Nat) (cs : List Char) : Result JsonNumber :=
  match cs with
  | '.' :: rest => (fractionDigits positive 0 significand 0 rest).map fun (f, r) => (.double f, r)
  | c :: rest =>
    if c == 'e' || c == 'E' then
      (exponent positive significand 0 rest).map fun (f, r) => (.double f, r)
    else .ok (integerValue, cs)
  | [] => .ok (integerValue, [])
where
  integerValue : JsonNumber :=
    if positive then .natural significand
    else if significand = 0 then .double (-0.0)
    else if significand ≤ Nat.pow 2 63 then .negative (-(significand : Int))
    else .double (-(significand.toUInt64.toFloat))

def longInteger (positive : Bool) (significand : Nat) : Nat → List Char → Result Float
  | extra, c :: rest =>
    if c.isDigit then longInteger positive significand (extra + 1) rest
    else if c == '.' then fractionDigits positive extra significand 0 rest
    else if c == 'e' || c == 'E' then exponent positive significand extra rest
    else (fromParts positive significand extra).map (·, c :: rest)
  | extra, [] => (fromParts positive significand extra).map (·, [])

def integerDigits (positive : Bool) : Nat → List Char → Result JsonNumber
  | significand, c :: rest =>
    if c.isDigit then
      if overflows significand (digitValue c) u64Max then
        (longInteger positive significand 0 (c :: rest)).map fun (f, r) => (.double f, r)
      else integerDigits positive (significand * 10 + digitValue c) rest
    else afterInteger positive significand (c :: rest)
  | significand, [] => afterInteger positive significand []

def numberBody (positive : Bool) : List Char → Result JsonNumber
  | '0' :: rest =>
    match rest with
    | c :: _ => if c.isDigit then .error .invalidNumber else afterInteger positive 0 rest
    | [] => afterInteger positive 0 []
  | c :: rest =>
    if c.isDigit then integerDigits positive (digitValue c) rest else .error .invalidNumber
  | [] => .error .unexpectedEnd

def skipDigits (cs : List Char) : List Char := cs.dropWhile Char.isDigit

def skipExponent (cs : List Char) : Except JsonError (List Char) :=
  let cs := match cs with
    | '+' :: rest | '-' :: rest => rest
    | _ => cs
  match cs with
  | c :: rest => if c.isDigit then .ok (skipDigits rest) else .error .invalidNumber
  | [] => .error .unexpectedEnd

def skipNumber (cs : List Char) : Except JsonError (List Char) :=
  let body := match cs with
    | '-' :: rest => rest
    | _ => cs
  let afterInteger : Except JsonError (List Char) := match body with
    | '0' :: rest =>
      match rest with
      | c :: _ => if c.isDigit then .error .invalidNumber else .ok rest
      | [] => .ok []
    | c :: rest => if c.isDigit then .ok (skipDigits rest) else .error .invalidNumber
    | [] => .error .unexpectedEnd
  afterInteger.bind fun rest =>
    let afterFraction : Except JsonError (List Char) := match rest with
      | '.' :: c :: more => if c.isDigit then .ok (skipDigits more) else .error .invalidNumber
      | ['.'] => .error .unexpectedEnd
      | _ => .ok rest
    afterFraction.bind fun rest =>
      match rest with
      | c :: more => if c == 'e' || c == 'E' then skipExponent more else .ok rest
      | [] => .ok []

/-- A number literal. One whose value is beyond the range of doubles is `none`: it follows the
grammar, and reading goes on after it. -/
def number (cs : List Char) : Result (Option JsonNumber) :=
  let (positive, body) := match cs with
    | '-' :: rest => (false, rest)
    | _ => (true, cs)
  match numberBody positive body with
  | .error .numberOutOfRange => (skipNumber cs).map fun rest => (none, rest)
  | .error e => .error e
  | .ok (n, rest) => .ok (some n, rest)

def hexValue (c : Char) : Option Nat :=
  if c.isDigit then some (digitValue c)
  else if 'a' ≤ c ∧ c ≤ 'f' then some (c.toNat - 'a'.toNat + 10)
  else if 'A' ≤ c ∧ c ≤ 'F' then some (c.toNat - 'A'.toNat + 10)
  else none

def hex4 : List Char → Result Nat
  | a :: b :: c :: d :: rest =>
    match hexValue a, hexValue b, hexValue c, hexValue d with
    | some a, some b, some c, some d => .ok (((a * 16 + b) * 16 + c) * 16 + d, rest)
    | _, _, _, _ => .error .invalidEscape
  | _ => .error .unexpectedEnd

/-- The character of a `\u` escape, after the `u`, or `none` for a surrogate outside a pair: a
low one, or a high one not directly followed by the escape of a low one. -/
def unicodeEscape (cs : List Char) : Result (Option Char) :=
  match hex4 cs with
  | .error e => .error e
  | .ok (code, rest) =>
    if 0xDC00 ≤ code ∧ code ≤ 0xDFFF then .ok (none, rest)
    else if 0xD800 ≤ code ∧ code ≤ 0xDBFF then
      match rest with
      | '\\' :: 'u' :: more =>
        match hex4 more with
        | .ok (low, after) =>
          if 0xDC00 ≤ low ∧ low ≤ 0xDFFF then
            .ok (some (Char.ofNat (0x10000 + (code - 0xD800) * 0x400 + (low - 0xDC00))), after)
          else .ok (none, rest)
        | .error _ => .ok (none, rest)
      | _ => .ok (none, rest)
    else .ok (some (Char.ofNat code), rest)

def escape : List Char → Result (Option Char)
  | '"' :: rest => .ok (some '"', rest)
  | '\\' :: rest => .ok (some '\\', rest)
  | '/' :: rest => .ok (some '/', rest)
  | 'b' :: rest => .ok (some '\x08', rest)
  | 'f' :: rest => .ok (some '\x0c', rest)
  | 'n' :: rest => .ok (some '\n', rest)
  | 'r' :: rest => .ok (some '\r', rest)
  | 't' :: rest => .ok (some '\t', rest)
  | 'u' :: rest => unicodeEscape rest
  | _ :: _ => .error .invalidEscape
  | [] => .error .unexpectedEnd

/-- The characters of a string up to its closing quote, after the opening one; `none` when an
escape stands for a surrogate outside a pair. Every step reads at least one character, so
`fuel` at least the length of the input suffices. -/
def stringBody : Nat → Bool → List Char → List Char → Result (Option String)
  | 0, _, _, _ => .error .unexpectedEnd
  | fuel + 1, wellFormed, acc, cs =>
    match cs with
    | '"' :: rest => .ok (if wellFormed then some (String.ofList acc.reverse) else none, rest)
    | '\\' :: rest =>
      match escape rest with
      | .ok (some c, rest) => stringBody fuel wellFormed (c :: acc) rest
      | .ok (none, rest) => stringBody fuel false acc rest
      | .error e => .error e
    | c :: rest =>
      if c.toNat < 0x20 then .error .controlCharacter
      else stringBody fuel wellFormed (c :: acc) rest
    | [] => .error .unexpectedEnd

def string (cs : List Char) : Result (Option String) := stringBody (cs.length + 1) true [] cs

def expectWord (word : List Char) (value : Json) (cs : List Char) : Result Json :=
  if word.isPrefixOf cs then .ok (value, cs.drop word.length)
  else match cs.drop (cs.zip word |>.takeWhile (fun (a, b) => a == b)).length with
    | c :: _ => .error (.unexpected c)
    | [] => .error .unexpectedEnd

mutual

/-- A value, after blanks; `fuel` bounds the nesting. -/
def value (fuel : Nat) (cs : List Char) : Result Json :=
  match fuel with
  | 0 => .error .unexpectedEnd
  | fuel + 1 =>
    match cs with
    | 'n' :: _ => expectWord ['n', 'u', 'l', 'l'] .null cs
    | 't' :: _ => expectWord ['t', 'r', 'u', 'e'] (.bool true) cs
    | 'f' :: _ => expectWord ['f', 'a', 'l', 's', 'e'] (.bool false) cs
    | '"' :: rest => (string rest).map fun (s, r) => ((s.map Json.string).getD .unreadable, r)
    | '[' :: rest =>
      match skipBlank rest with
      | ']' :: rest => .ok (.array [], rest)
      | rest => items fuel [] rest
    | '{' :: rest =>
      match skipBlank rest with
      | '}' :: rest => .ok (.object [], rest)
      | rest => fields fuel true [] rest
    | c :: _ =>
      if c == '-' || c.isDigit then
        (number cs).map fun (n, r) => ((n.map Json.number).getD .unreadable, r)
      else .error (.unexpected c)
    | [] => .error .unexpectedEnd

def items (fuel : Nat) (acc : List Json) (cs : List Char) : Result Json :=
  match fuel with
  | 0 => .error .unexpectedEnd
  | fuel + 1 =>
    match value fuel cs with
    | .error e => .error e
    | .ok (v, rest) =>
      match skipBlank rest with
      | ',' :: rest => items fuel (v :: acc) (skipBlank rest)
      | ']' :: rest => .ok (.array (v :: acc).reverse, rest)
      | c :: _ => .error (.unexpected c)
      | [] => .error .unexpectedEnd

/-- Object fields, the next one starting at `cs` (after blanks). `keysOk` says whether every
key so far was well formed; an object with a key that is not reads as unreadable. -/
def fields (fuel : Nat) (keysOk : Bool) (acc : List (String × Json)) (cs : List Char) :
    Result Json :=
  match fuel with
  | 0 => .error .unexpectedEnd
  | fuel + 1 =>
    match cs with
    | '"' :: rest =>
      match string rest with
      | .error e => .error e
      | .ok (key, rest) =>
        match skipBlank rest with
        | ':' :: rest =>
          match value fuel (skipBlank rest) with
          | .error e => .error e
          | .ok (v, rest) =>
            let keysOk := keysOk && key.isSome
            let acc := (key.getD "", v) :: acc
            match skipBlank rest with
            | ',' :: rest => fields fuel keysOk acc (skipBlank rest)
            | '}' :: rest => .ok (if keysOk then .object acc.reverse else .unreadable, rest)
            | c :: _ => .error (.unexpected c)
            | [] => .error .unexpectedEnd
        | c :: _ => .error (.unexpected c)
        | [] => .error .unexpectedEnd
    | c :: _ => .error (.unexpected c)
    | [] => .error .unexpectedEnd

end

end JsonReader

def Json.read (text : String) : Except JsonError Json :=
  let cs := text.toList
  match JsonReader.value (2 * cs.length + 2) (JsonReader.skipBlank cs) with
  | .error e => .error e
  | .ok (v, rest) =>
    match JsonReader.skipBlank rest with
    | [] => .ok v
    | c :: _ => .error (.trailing c)

end GridServe

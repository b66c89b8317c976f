import GridServe.Text.Debug

/-!
Reading the sections of a PEM text. The text is taken line by line, a line ending after the
first line feed or carriage return. A line that starts with `-----BEGIN ` opens a section,
named by what stands between that prefix and the last five dashes; a line that starts with
`-----END label-----` closes the open section, whose body is the base64 of the lines between,
each with its trailing line ends and spaces removed. Opening a section inside another keeps the
body read so far. Sections of the kinds below are kept; others, revocation lists among them,
are decoded and dropped. A text that ends inside a section is an error.

Standard base64 (alphabet `A–Z a–z 0–9 + /`, padding `=`) as PEM bodies are decoded. The text
is taken in groups of eight symbols: every group but the last must hold symbols only, and the
last group may end in padding. How much padding there is does not matter, so a last group
of two or three symbols may have it or not, but the bits that the last symbol carries past the
final byte must be zero. Each way a text can fail has its own error, naming the first offending
byte and its offset where there is one.
-/

namespace GridServe

namespace Base64

inductive DecodeError where
  | invalidByte (offset : Nat) (byte : UInt8)
  | invalidLength
  | invalidLastSymbol (offset : Nat) (byte : UInt8)
  deriving Repr, DecidableEq

def DecodeError.message : DecodeError → String
  | .invalidByte o b => "Invalid byte " ++ toString b.toNat ++ ", offset " ++ toString o ++ "."
  | .invalidLength => "Encoded text cannot have a 6-bit remainder."
  | .invalidLastSymbol o b =>
    "Invalid last symbol " ++ toString b.toNat ++ ", offset " ++ toString o ++ "."

def pad : UInt8 := 61

def symbolValue (b : UInt8) : Option Nat :=
  if 65 ≤ b ∧ b ≤ 90 then some (b.toNat - 65)
  else if 97 ≤ b ∧ b ≤ 122 then some (b.toNat - 71)
  else if 48 ≤ b ∧ b ≤ 57 then some (b.toNat + 4)
  else if b = 43 then some 62
  else if b = 47 then some 63
  else none

/-- The values of the symbols before the last group, or the first byte there that is not a
symbol, with its offset (`i` is the offset of the first byte given). -/
def bodyValues : Nat → List UInt8 → Except DecodeError (List Nat)
  | _, [] => .ok []
  | i, b :: rest =>
    match symbolValue b with
    | none => .error (.invalidByte i b)
    | some v => (v :: ·) <$> bodyValues (i + 1) rest

structure LastGroup where
  values : List Nat := []
  padding : Nat := 0
  firstPad : Nat := 0
  lastSymbol : UInt8 := 0
  deriving Repr

/-- Read the last group, whose first byte is at offset `start`; `i` counts within the group.
Padding may stand third or fourth in a run of four and must end the text. -/
def lastGroup (start : Nat) : Nat → List UInt8 → LastGroup → Except DecodeError LastGroup
  | _, [], g => .ok g
  | i, b :: rest, g =>
    if b = pad then
      if i % 4 < 2 then
        .error (.invalidByte (start + if g.padding > 0 then g.firstPad else i) b)
      else
        lastGroup start (i + 1) rest
          { g with padding := g.padding + 1, firstPad := if g.padding = 0 then i else g.firstPad }
    else if g.padding > 0 then .error (.invalidByte (start + g.firstPad) pad)
    else
      match symbolValue b with
      | none => .error (.invalidByte (start + i) b)
      | some v => lastGroup start (i + 1) rest { g with values := g.values ++ [v], lastSymbol := b }

/-- The symbol values of the last group, once its last symbol carries no bits past the final
byte. Two symbols leave four such bits and three leave two. -/
def lastValues (start : Nat) (bytes : List UInt8) : Except DecodeError (List Nat) :=
  match lastGroup start 0 bytes {} with
  | .error e => .error e
  | .ok g =>
    let count := g.values.length
    let spare := if count % 4 = 2 then 16 else if count % 4 = 3 then 4 else 1
    match g.values.getLast? with
    | some v => if v % spare ≠ 0 then .error (.invalidLastSymbol (start + count - 1) g.lastSymbol)
      else .ok g.values
    | none => .ok g.values

def bytesOf : List Nat → List UInt8
  | a :: b :: c :: d :: rest =>
    let n := ((a * 64 + b) * 64 + c) * 64 + d
    UInt8.ofNat (n / 65536) :: UInt8.ofNat (n / 256 % 256) :: UInt8.ofNat (n % 256) :: bytesOf rest
  | [a, b, c] =>
    let n := (a * 64 + b) * 64 + c
    [UInt8.ofNat (n / 1024), UInt8.ofNat (n / 4 % 256)]
  | [a, b] => [UInt8.ofNat ((a * 64 + b) / 16)]
  | _ => []

/-- Decode a base64 text. A length of one or five past a multiple of eight cannot be
decoded; its last byte is named when it is neither a symbol nor padding. -/
def decode (text : List UInt8) : Except DecodeError (List UInt8) :=
  let len := text.length
  let r := len % 8
  if r = 1 ∨ r = 5 then
    match text.getLast? with
    | some b =>
      if b ≠ pad ∧ (symbolValue b).isNone then .error (.invalidByte (len - 1) b)
      else .error .invalidLength
    | none => .error .invalidLength
  else
    let start := if r = 0 then len - 8 else len - r
    match bodyValues 0 (text.take start) with
    | .error e => .error e
    | .ok body =>
      match lastValues start (text.drop start) with
      | .error e => .error e
      | .ok last => .ok (bytesOf (body ++ last))

end Base64

namespace Pem

inductive ItemKind where
  | certificate
  | rsaKey
  | pkcs8Key
  | ecKey
  deriving Repr, DecidableEq

def ascii (s : String) : List UInt8 := s.toUTF8.toList

def textOf (bytes : List UInt8) : String := (String.fromUTF8? ⟨bytes.toArray⟩).getD ""

def ItemKind.ofLabel (label : List UInt8) : Option ItemKind :=
  if label = ascii "CERTIFICATE" then some .certificate
  else if label = ascii "RSA PRIVATE KEY" then some .rsaKey
  else if label = ascii "PRIVATE KEY" then some .pkcs8Key
  else if label = ascii "EC PRIVATE KEY" then some .ecKey
  else none

structure Item where
  kind : ItemKind
  der : List UInt8
  deriving Repr, DecidableEq

def Item.isKey (i : Item) : Bool :=
  match i.kind with
  | .rsaKey | .pkcs8Key | .ecKey => true
  | _ => false

def splitLines (current : List UInt8) : List UInt8 → List (List UInt8)
  | [] => if current.isEmpty then [] else [current.reverse]
  | b :: rest =>
    if b = 10 ∨ b = 13 then (b :: current).reverse :: splitLines [] rest
    else splitLines (b :: current) rest

/-- Count the dashes at the end of a line, passing over line ends and spaces, from the last
byte backwards; also the offset of the earliest dash counted. The pairs are offsets with
their bytes, last first. -/
def dashTrailer (count first : Nat) : List (Nat × UInt8) → Nat × Nat
  | [] => (count, first)
  | (i, b) :: rest =>
    if b = 45 then dashTrailer (count + 1) i rest
    else if b = 10 ∨ b = 13 ∨ b = 32 then dashTrailer count first rest
    else (count, first)

def beginPrefix : List UInt8 := ascii "-----BEGIN "

def beginLabel (line : List UInt8) : Option (List UInt8) :=
  let (count, first) := dashTrailer 0 line.length ((List.range line.length).zip line).reverse
  if count = 5 then some ((line.take first).drop beginPrefix.length) else none

def endMarker (label : List UInt8) : List UInt8 :=
  ascii "-----END " ++ label ++ ascii "-----"

def trimLine (line : List UInt8) : List UInt8 :=
  ((line.reverse.dropWhile fun b => b = 10 ∨ b = 13 ∨ b = 32)).reverse

structure ReadState where
  label : Option (List UInt8) := none
  body : List UInt8 := []
  items : List Item := []
  deriving Repr

def ReadState.close (st : ReadState) (label : List UInt8) : Except String ReadState :=
  match Base64.decode st.body with
  | .error e => .error e.message
  | .ok der =>
    match ItemKind.ofLabel label with
    | some kind => .ok { label := none, body := [], items := ⟨kind, der⟩ :: st.items }
    | none => .ok { st with label := none, body := [] }

def ReadState.line (st : ReadState) (line : List UInt8) : Except String ReadState :=
  if beginPrefix.isPrefixOf line then
    match beginLabel line with
    | some label => .ok { st with label := some label }
    | none => .error ("illegal section start: " ++ DebugText.quote (textOf line))
  else
    let closed : Except String ReadState :=
      match st.label with
      | some label => if (endMarker label).isPrefixOf line then st.close label else .ok st
      | none => .ok st
    closed.map fun st =>
      if st.label.isSome then { st with body := st.body ++ trimLine line } else st

def missingEnd (label : List UInt8) : String :=
  "section end " ++ DebugText.quote (textOf (endMarker label)) ++ " missing"

def items (text : String) : Except String (List Item) :=
  match (splitLines [] text.toUTF8.toList).foldlM ReadState.line {} with
  | .error e => .error e
  | .ok { label := some label, .. } => .error (missingEnd label)
  | .ok st => .ok st.items.reverse

def firstFrom (st : ReadState) : List (List UInt8) → Except String (Option Item)
  | [] =>
    match st.label with
    | some label => .error (missingEnd label)
    | none => .ok none
  | line :: rest =>
    match st.line line with
    | .error e => .error e
    | .ok st =>
      match st.items with
      | item :: _ => .ok (some item)
      | [] => firstFrom st rest

/-- The first kept item of a PEM text, read no further than the end line of that item: what
follows it is never looked at. `none` when the text holds no kept item. -/
def firstItem (text : String) : Except String (Option Item) :=
  firstFrom {} (splitLines [] text.toUTF8.toList)

end Pem

end GridServe

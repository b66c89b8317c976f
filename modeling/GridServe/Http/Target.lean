import GridServe.Text.Utf8

/-!
Request targets. A target is read as a URI the way the server's HTTP layer reads it: a target
starting with `/` is a path with an optional query; `*` stands alone; a target with a scheme
(`name://`) has an authority and then a path; anything else must be an authority alone, which
has an empty path. A path may hold the printable ASCII characters other than space, `<`, `>`
and the backquote; a query may hold those other than space, `"`, `<` and `>`. A `#` ends the
target and what follows it is dropped.

Before routing, a path that ends with `/` or starts with `//` loses all its leading and trailing
slashes and gets one leading slash back; the query is kept.
-/

namespace GridServe

structure Target where
  path : String
  query : Option String
  deriving Repr, DecidableEq

namespace Target

def maxLength : Nat := 65534

def pathByte (b : Nat) : Bool :=
  b = 0x21 || (0x24 ≤ b && b ≤ 0x3B) || b = 0x3D || (0x40 ≤ b && b ≤ 0x5F) ||
    (0x61 ≤ b && b ≤ 0x7A) || b = 0x7C || b = 0x7E || b = 0x22 || b = 0x7B || b = 0x7D

def queryByte (b : Nat) : Bool :=
  b = 0x21 || (0x24 ≤ b && b ≤ 0x3B) || b = 0x3D || (0x3F ≤ b && b ≤ 0x7E)

def asciiText (bytes : List UInt8) : String := String.ofList (bytes.map fun b => Char.ofNat b.toNat)

def readQuery : List UInt8 → Option (List UInt8)
  | [] => some []
  | b :: rest =>
    if b.toNat = 0x23 then some []
    else if queryByte b.toNat then (readQuery rest).map (b :: ·)
    else none

def readPath : List UInt8 → Option (List UInt8 × Option (List UInt8))
  | [] => some ([], none)
  | b :: rest =>
    if b.toNat = 0x3F then (readQuery rest).map fun q => ([], some q)
    else if b.toNat = 0x23 then some ([], none)
    else if pathByte b.toNat then (readPath rest).map fun (p, q) => (b :: p, q)
    else none

/-- A path and query from the bytes after the authority; an empty path reads as `/` when
`rooted`. -/
def pathAndQuery (rooted : Bool) (bytes : List UInt8) : Option Target :=
  (readPath bytes).map fun (p, q) =>
    ⟨if p.isEmpty && rooted then "/" else asciiText p, q.map asciiText⟩

def authorityByte (b : Nat) : Bool :=
  b = 0x21 || b = 0x23 || b = 0x24 || (0x26 ≤ b && b ≤ 0x3B) || b = 0x3D || b = 0x3F ||
    (0x40 ≤ b && b ≤ 0x5B) || b = 0x5D || b = 0x5F || (0x61 ≤ b && b ≤ 0x7A) || b = 0x7E

structure AuthorityScan where
  colons : Nat := 0
  openBracket : Bool := false
  closeBracket : Bool := false
  percent : Bool := false
  atSign : Option Nat := none

def authorityEnd (bytes : List UInt8) : Option Nat :=
  let rec go (i : Nat) (st : AuthorityScan) : List UInt8 → Option (Nat × AuthorityScan)
    | [] => some (i, st)
    | b :: rest =>
      let n := b.toNat
      if n = 0x2F || n = 0x3F || n = 0x23 then some (i, st)
      else if n = 0x25 then go (i + 1) { st with percent := true } rest
      else if !authorityByte n then none
      else if n = 0x3A then
        if st.colons ≥ 8 then none else go (i + 1) { st with colons := st.colons + 1 } rest
      else if n = 0x5B then
        if st.percent || st.openBracket then none
        else go (i + 1) { st with openBracket := true } rest
      else if n = 0x5D then
        if !st.openBracket || st.closeBracket then none
        else go (i + 1) { st with closeBracket := true, colons := 0, percent := false } rest
      else if n = 0x40 then go (i + 1) { st with atSign := some i, colons := 0, percent := false } rest
      else go (i + 1) st rest
  match go 0 {} bytes with
  | none => none
  | some (stop, st) =>
    if st.openBracket != st.closeBracket then none
    else if st.colons > 1 then none
    else if stop > 0 && st.atSign = some (stop - 1) then none
    else if st.percent then none
    else some stop

def schemeByte (b : Nat) : Bool :=
  (0x30 ≤ b && b ≤ 0x39) || (0x41 ≤ b && b ≤ 0x5A) || (0x61 ≤ b && b ≤ 0x7A) ||
    b = 0x2B || b = 0x2D || b = 0x2E || b = 0x7E

def lowerByte (b : UInt8) : Nat := if 0x41 ≤ b.toNat && b.toNat ≤ 0x5A then b.toNat + 32 else b.toNat

def schemeLength (bytes : List UInt8) : Option Nat :=
  let lower := bytes.map lowerByte
  let http := "http://".toList.map Char.toNat
  let https := "https://".toList.map Char.toNat
  if lower.take 7 = http then some 4
  else if lower.take 8 = https then some 5
  else if bytes.length ≤ 3 then none
  else
    let rec scan (i : Nat) : List UInt8 → Option Nat
      | [] => none
      | b :: rest =>
        if b.toNat = 0x3A then
          if (rest.take 2).map UInt8.toNat = [0x2F, 0x2F] then some i else none
        else if schemeByte b.toNat then scan (i + 1) rest
        else none
    scan 0 bytes

def parse (text : String) : Option Target :=
  let bytes := Utf8.encode text
  if bytes.length > maxLength then none
  else match bytes with
  | [] => none
  | [b] =>
    if b.toNat = 0x2F then some ⟨"/", none⟩
    else if b.toNat = 0x2A then some ⟨"*", none⟩
    else if authorityEnd [b] = some 1 then some ⟨"", none⟩
    else none
  | b :: _ =>
    if b.toNat = 0x2F then pathAndQuery false bytes
    else match schemeLength bytes with
      | some n =>
        if n > 64 then none
        else
          let rest := bytes.drop (n + 3)
          match authorityEnd rest with
          | none => none
          | some 0 => none
          | some stop => pathAndQuery true (rest.drop stop)
      | none =>
        match authorityEnd bytes with
        | some stop => if stop = bytes.length then some ⟨"", none⟩ else none
        | none => none

/-- Trim every leading and trailing slash of a path and put one back in front, when the path
ends with a slash or starts with two. -/
def normalize (t : Target) : Target :=
  let cs := t.path.toList
  if cs.getLast? = some '/' || cs.take 2 = ['/', '/'] then
    let trimmed := ((cs.dropWhile (· = '/')).reverse.dropWhile (· = '/')).reverse
    { t with path := String.ofList ('/' :: trimmed) }
  else t

end Target

end GridServe



/-!
The PKCS #8 wrapping of a private key: a SEQUENCE of a version, an algorithm identifier, the
private key as an OCTET STRING, optional attributes `[0]` and, in version 2 only, the public key
`[1]` as a BIT STRING. The algorithm identifier must be exactly the one the key kind expects,
and nothing may follow the fields.

Strict reading of DER elements, as private keys are checked. An element is a tag byte, a
length and that many bytes of contents. Tags must use the low-number form; lengths must be in
their shortest form and at most two bytes long. Integers must be nonnegative and minimally
encoded. Every reader takes the bytes left and gives back what it read with the bytes after it.
-/

namespace GridServe

namespace Der

def integerTag : UInt8 := 0x02
def bitStringTag : UInt8 := 0x03
def octetStringTag : UInt8 := 0x04
def nullTag : UInt8 := 0x05
def objectIdTag : UInt8 := 0x06
def sequenceTag : UInt8 := 0x30
def context0Tag : UInt8 := 0xA0
def context1Tag : UInt8 := 0xA1

def length : List UInt8 → Option (Nat × List UInt8)
  | b :: rest =>
    if b < 0x80 then some (b.toNat, rest)
    else if b = 0x81 then
      match rest with
      | n :: rest => if n < 0x80 then none else some (n.toNat, rest)
      | [] => none
    else if b = 0x82 then
      match rest with
      | hi :: lo :: rest =>
        let n := hi.toNat * 256 + lo.toNat
        if n < 256 then none else some (n, rest)
      | _ => none
    else none
  | [] => none

def element : List UInt8 → Option (UInt8 × List UInt8 × List UInt8)
  | tag :: rest =>
    if tag &&& 0x1F = 0x1F then none
    else
      match length rest with
      | some (n, rest) => if n ≤ rest.length then some (tag, rest.take n, rest.drop n) else none
      | none => none
  | [] => none

def expect (tag : UInt8) (bytes : List UInt8) : Option (List UInt8 × List UInt8) :=
  match element bytes with
  | some (t, contents, rest) => if t = tag then some (contents, rest) else none
  | none => none

def whole (tag : UInt8) (bytes : List UInt8) : Option (List UInt8) :=
  match expect tag bytes with
  | some (contents, []) => some contents
  | _ => none

def natOf (bytes : List UInt8) : Nat := bytes.foldl (fun acc b => acc * 256 + b.toNat) 0

def nonnegative (least : Nat) (bytes : List UInt8) : Option (List UInt8 × List UInt8) :=
  match expect integerTag bytes with
  | some (value, rest) =>
    match value with
    | [] => none
    | [0] => if least > 0 then none else some ([0], rest)
    | 0 :: second :: more =>
      if second &&& 0x80 = 0 then none else some (second :: more, rest)
    | first :: more =>
      if first &&& 0x80 ≠ 0 then none
      else if more.isEmpty ∧ first.toNat < least then none
      else some (first :: more, rest)
  | none => none

def positive (bytes : List UInt8) : Option (Nat × List UInt8) :=
  (nonnegative 1 bytes).map fun (value, rest) => (natOf value, rest)

def small (bytes : List UInt8) : Option (Nat × List UInt8) :=
  match nonnegative 0 bytes with
  | some ([b], rest) => some (b.toNat, rest)
  | _ => none

def bitString (bytes : List UInt8) : Option (List UInt8 × List UInt8) :=
  match expect bitStringTag bytes with
  | some (0 :: bits, rest) => some (bits, rest)
  | _ => none

end Der

namespace Pkcs8

/-- The private key bytes and, in version 2, the public key bits of a PrivateKeyInfo whose
algorithm identifier has the given contents. Version 2 is read only when `allowV2` holds. -/
def unwrap (algorithm : List UInt8) (allowV2 : Bool) (bytes : List UInt8) :
    Option (List UInt8 × Option (List UInt8)) := do
  let info ← Der.whole Der.sequenceTag bytes
  let (version, rest) ← Der.small info
  guard (version ≤ 1)
  let (alg, rest) ← Der.expect Der.sequenceTag rest
  guard (alg = algorithm)
  guard (version = 0 ∨ allowV2)
  let (key, rest) ← Der.expect Der.octetStringTag rest
  let rest ← match rest with
    | 0xA0 :: _ => (Der.expect Der.context0Tag rest).map (·.2)
    | _ => some rest
  if version = 1 then
    let (outer, rest) ← Der.expect Der.context1Tag rest
    let (bits, inner) ← Der.bitString outer
    guard (inner.isEmpty ∧ rest.isEmpty)
    pure (key, some bits)
  else
    guard rest.isEmpty
    pure (key, none)

end Pkcs8

end GridServe

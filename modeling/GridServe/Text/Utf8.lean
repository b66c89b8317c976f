namespace GridServe

namespace Utf8

def replacement : Char := '�'

def sequenceLength (lead : Nat) : Nat :=
  if lead < 0x80 then 1
  else if 0xC2 ≤ lead ∧ lead ≤ 0xDF then 2
  else if 0xE0 ≤ lead ∧ lead ≤ 0xEF then 3
  else if 0xF0 ≤ lead ∧ lead ≤ 0xF4 then 4
  else 0

/-- The range allowed for the byte after `lead`; it excludes overlong forms, surrogates and
code points above U+10FFFF. -/
def secondByteRange (lead : Nat) : Nat × Nat :=
  if lead = 0xE0 then (0xA0, 0xBF)
  else if lead = 0xED then (0x80, 0x9F)
  else if lead = 0xF0 then (0x90, 0xBF)
  else if lead = 0xF4 then (0x80, 0x8F)
  else (0x80, 0xBF)

def isContinuation (b : Nat) : Bool := 0x80 ≤ b && b ≤ 0xBF

inductive Piece where
  | char (c : Char) (extra : Nat)
  /-- A maximal ill-formed part, `extra + 1` bytes long. -/
  | invalid (extra : Nat)
  deriving Repr, DecidableEq

def Piece.width : Piece → Nat
  | .char _ extra => extra + 1
  | .invalid extra => extra + 1

theorem Piece.width_pos (piece : Piece) : 0 < piece.width := by
  cases piece <;> simp [Piece.width]

def front (b0 : UInt8) (rest : List UInt8) : Piece :=
  let lead := b0.toNat
  let n := sequenceLength lead
  if n = 1 then .char (Char.ofNat lead) 0
  else if n = 0 then .invalid 0
  else
    let (lo, hi) := secondByteRange lead
    match rest with
    | [] => .invalid 0
    | b1 :: rest =>
      if !(lo ≤ b1.toNat && b1.toNat ≤ hi) then .invalid 0
      else if n = 2 then .char (Char.ofNat ((lead % 0x20) * 0x40 + b1.toNat % 0x40)) 1
      else match rest with
        | [] => .invalid 1
        | b2 :: rest =>
          if !isContinuation b2.toNat then .invalid 1
          else if n = 3 then
            .char (Char.ofNat ((lead % 0x10) * 0x1000 + (b1.toNat % 0x40) * 0x40
              + b2.toNat % 0x40)) 2
          else match rest with
            | [] => .invalid 2
            | b3 :: _ =>
              if !isContinuation b3.toNat then .invalid 2
              else .char (Char.ofNat ((lead % 0x08) * 0x40000 + (b1.toNat % 0x40) * 0x1000
                + (b2.toNat % 0x40) * 0x40 + b3.toNat % 0x40)) 3

/-- Characters of a byte list, each maximal ill-formed part replaced by U+FFFD. -/
def decodeLossyChars : List UInt8 → List Char
  | [] => []
  | b0 :: rest =>
    let piece := front b0 rest
    let c := match piece with
      | .char c _ => c
      | .invalid _ => replacement
    c :: decodeLossyChars ((b0 :: rest).drop piece.width)
termination_by bytes => bytes.length
decreasing_by
  have := (front b0 rest).width_pos
  simp only [List.length_drop, List.length_cons]
  omega

def decodeLossy (bytes : List UInt8) : String := String.ofList (decodeLossyChars bytes)

def decode? (bytes : List UInt8) : Option String := String.fromUTF8? (ByteArray.mk bytes.toArray)

def encode (s : String) : List UInt8 := s.toUTF8.toList

theorem byteArray_toList_loop (bytes : ByteArray) (i : Nat) (acc : List UInt8) :
    ByteArray.toList.loop bytes i acc = acc.reverse ++ bytes.data.toList.drop i := by
  fun_induction ByteArray.toList.loop bytes i acc with
  | case1 i acc inside ih =>
    have front : bytes.data.toList.drop i = bytes.get! i :: bytes.data.toList.drop (i + 1) := by
      rw [List.drop_eq_getElem_cons (by rw [Array.length_toList]; exact inside)]
      simp [ByteArray.get!, getElem!_pos bytes.data i inside]
    rw [ih, front]
    simp
  | case2 i acc outside =>
    rw [List.drop_eq_nil_of_le (by rw [Array.length_toList]; exact Nat.le_of_not_lt outside)]
    simp

theorem byteArray_toList (bytes : ByteArray) : bytes.toList = bytes.data.toList := by
  rw [ByteArray.toList, byteArray_toList_loop]
  simp

theorem decode?_encode (s : String) : decode? (encode s) = some s := by
  have bytes : ByteArray.mk (encode s).toArray = s.toUTF8 := by
    simp [encode, byteArray_toList]
  simp [decode?, bytes, String.fromUTF8?, String.fromUTF8, s.isValidUTF8]

end Utf8

end GridServe

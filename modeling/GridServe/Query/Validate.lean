import GridServe.Error.Server
import GridServe.Dataset.Basic
import GridServe.NameMap
import GridServe.Text.Utf8

/-!
Checking a slice request's parameters. The checks run in a fixed order and the first failure
wins: both `time` and `z` present; each an index, `time` first; no other key (the least other
key in byte order is named); each index inside its dimension, `time` first.

Query strings in the form encoding. The text is split at every `&`, empty pieces are skipped,
and each piece is split at its first `=` (a piece without one has the value `""`). In keys and
values `+` stands for a space and `%` followed by two hex digits for that byte; any other `%`
stays as it is. The bytes are then read as UTF-8, each ill-formed part becoming U+FFFD.
-/

namespace GridServe

namespace FormQuery

def hexDigit? (b : UInt8) : Option Nat :=
  let n := b.toNat
  if 0x30 ≤ n ∧ n ≤ 0x39 then some (n - 0x30)
  else if 0x41 ≤ n ∧ n ≤ 0x46 then some (n - 0x41 + 10)
  else if 0x61 ≤ n ∧ n ≤ 0x66 then some (n - 0x61 + 10)
  else none

def percentDecode : List UInt8 → List UInt8
  | [] => []
  | b :: h :: l :: tail =>
    if b.toNat = 0x25 then
      match hexDigit? h, hexDigit? l with
      | some hi, some lo => UInt8.ofNat (hi * 16 + lo) :: percentDecode tail
      | _, _ => b :: percentDecode (h :: l :: tail)
    else b :: percentDecode (h :: l :: tail)
  | b :: rest => b :: percentDecode rest

def plusToSpace (b : UInt8) : UInt8 := if b.toNat = 0x2B then 0x20 else b

def decodePart (bytes : List UInt8) : String :=
  Utf8.decodeLossy (percentDecode (bytes.map plusToSpace))

def splitOn (sep : UInt8) (bytes : List UInt8) : List (List UInt8) :=
  (bytes.foldr (fun b (cur, done) => if b == sep then ([], cur :: done) else (b :: cur, done))
    ([], [])) |> fun (cur, done) => cur :: done

def splitPair (piece : List UInt8) : List UInt8 × List UInt8 :=
  match piece.idxOf? 0x3D with
  | some i => (piece.take i, piece.drop (i + 1))
  | none => (piece, [])

def pairs (query : String) : List (String × String) :=
  ((splitOn 0x26 (Utf8.encode query)).filter (!·.isEmpty)).map fun piece =>
    let (k, v) := splitPair piece
    (decodePart k, decodePart v)

/-- The parameters of a query, the last value of a repeated key winning; an absent query has
none. -/
def parse (query : Option String) : NameMap String :=
  match query with
  | none => NameMap.empty
  | some q => NameMap.ofList (pairs q)

end FormQuery

structure SliceRequest where
  time : Nat
  z : Nat
  deriving Repr, DecidableEq

namespace SliceRequest

def parseParameter (name value : String) : Except ServerError Nat :=
  match Index.parse value with
  | .ok n => .ok n
  | .error e => .error (.malformedParameter name value e)

def checkRange (d : Dataset) (dimension : String) (index : Nat) : Except ServerError Unit :=
  match d.dimension? dimension with
  | none => .error (.dimensionNotFound dimension)
  | some dim =>
    if dim.size = 0 then .error (.emptyDimension dimension)
    else if index ≥ dim.size then .error (.indexOutOfRange dimension (dim.size - 1))
    else .ok ()

def least : List String → Option String
  | [] => none
  | k :: rest =>
    match least rest with
    | none => some k
    | some m => some (if k < m then k else m)

/-- Check parameters against the dataset, indexing dimensions `timeDim` and `zDim`. -/
def validate (params : NameMap String) (d : Dataset) (timeDim zDim : String) :
    Except ServerError SliceRequest :=
  match params.get? "time", params.get? "z" with
  | some timeText, some zText =>
    match parseParameter "time" timeText with
    | .error e => .error e
    | .ok time =>
      match parseParameter "z" zText with
      | .error e => .error e
      | .ok z =>
        match least (params.keys.filter fun k => k != "time" && k != "z") with
        | some key => .error (.unknownParameter key)
        | none =>
          match checkRange d timeDim time with
          | .error e => .error e
          | .ok () =>
            match checkRange d zDim z with
            | .error e => .error e
            | .ok () => .ok ⟨time, z⟩
  | _, _ => .error .missingParameters

end SliceRequest

end GridServe

import GridServe.Dataset.Check

/-!
Bounded reads: a box given by an origin and an extent per axis, its values in row-major
order. A read succeeds when the variable exists, both vectors have its rank, every axis has
`origin + extent ≤ size`, and the non-zero sizes of the variable multiply to at most the largest
signed 64-bit index. The checks run in that order.
-/

namespace GridServe

/-- The largest index of a 64-bit signed address space. -/
def maxIndex : Nat := Nat.pow 2 63 - 1

def nonzeroProduct (shape : List Nat) : Nat := shapeSize (shape.filter (· ≠ 0))

def boxFits (shape origin extent : List Nat) : Bool :=
  (shape.zip (origin.zip extent)).all fun (size, start, count) => start + count ≤ size

/-- The checks of a read against a variable's shape: rank of the origin, then of the extent,
then the bounds. -/
def checkBounds (var : String) (shape origin extent : List Nat) :
    Except DatasetError Unit :=
  if origin.length ≠ shape.length then .error (.rankMismatch var shape.length origin.length)
  else if extent.length ≠ shape.length then
    .error (.rankMismatch var shape.length extent.length)
  else if boxFits shape origin extent then .ok ()
  else .error (.outOfBounds var shape)

/-- Row-major offsets of the cells of a box, the last axis fastest. -/
def boxOffsets : List Nat → List Nat → List Nat → List Nat
  | _ :: shape, start :: origin, count :: extent =>
    let inner := boxOffsets shape origin extent
    let stride := shapeSize shape
    (List.range count).flatMap fun i => inner.map fun offset => (start + i) * stride + offset
  | _, _, _ => [0]

def boxCells (shape origin extent : List Nat) : List Nat :=
  if extent.any (· = 0) then [] else boxOffsets shape origin extent

namespace Dataset

def read (d : Dataset) (name : String) (origin extent : List Nat) :
    Except DatasetError (List Float) :=
  match d.findVariable name with
  | none => .error (.variableNotFound name)
  | some v =>
    match d.shapeOf v with
    | .error e => .error e
    | .ok shape =>
      match checkBounds name shape origin extent with
      | .error e => .error e
      | .ok () =>
        if nonzeroProduct shape > maxIndex then .error .shapeOverflow
        else .ok ((boxCells shape origin extent).map fun k => v.values.getD k 0)

end Dataset

end GridServe

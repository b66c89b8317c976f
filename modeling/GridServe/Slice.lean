import GridServe.Dataset.Read
import GridServe.Heatmap.Render
import GridServe.Query.Validate

/-!
Two-dimensional slices of a field over `(time, z, y, x)`. The x and y coordinate variables are
read whole; each must have rank one. The field is then read at the requested time and height
over the full extent of both axes, giving one row per y value.
-/

namespace GridServe

structure SliceVariables where
  field : String
  x : String
  y : String
  deriving Repr

/-- A slice: the coordinates and the field values, one row per y value. -/
structure Slice where
  x : List Float
  y : List Float
  field : Grid

namespace Slice

def readAxis (d : Dataset) (name : String) : Except DatasetError (List Float) :=
  match d.shape name with
  | .error e => .error e
  | .ok shape =>
    if shape.length ≠ 1 then .error (.rankMismatch name 1 shape.length)
    else d.read name [0] shape

def read (d : Dataset) (vars : SliceVariables) (req : SliceRequest) :
    Except DatasetError Slice :=
  match readAxis d vars.x with
  | .error e => .error e
  | .ok x =>
    match readAxis d vars.y with
    | .error e => .error e
    | .ok y =>
      match d.read vars.field [req.time, req.z, 0, 0] [1, 1, y.length, x.length] with
      | .error e => .error e
      | .ok values => .ok ⟨x, y, ⟨y.length, x.length, values.toArray⟩⟩

def extract (d : Dataset) (vars : SliceVariables) (req : SliceRequest) :
    Except ServerError Slice :=
  match read d vars req with
  | .error e => .error (.extractionFailure e)
  | .ok s => .ok s

def toJson (s : Slice) : Json :=
  .object [("x", .array (s.x.map Json.ofFloat)), ("y", .array (s.y.map Json.ofFloat)),
    ("concentration", .array (s.field.toRows.map fun row => .array (row.map Json.ofFloat)))]

end Slice

end GridServe

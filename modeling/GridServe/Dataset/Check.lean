import GridServe.Dataset.Basic
import GridServe.Dataset.Error

/-!
Consistency of a dataset: every dimension a variable names exists, and the variable holds as
many values as the product of the sizes of those dimensions (the first entry of each name).
`Dataset.check` reports the first variable in order that breaks this, a missing dimension
before a wrong count. The sizes are multiplied in order as machine words, and a running product
past the largest word stops the check with the panic of an overflowing multiplication, reported
as an error of its own. The builder steps keep a consistent dataset consistent; a step that
fails leaves the dataset as it was.
-/

namespace GridServe

namespace Dataset

/-- The sizes of a variable's dimensions, each resolved to its first entry. -/
def shapeOf (d : Dataset) (v : Variable) : Except DatasetError (List Nat) :=
  v.dimensions.mapM fun name =>
    match d.dimension? name with
    | some dim => .ok dim.size
    | none => .error (.dimensionNotFound v.name name)

def wordBound : Nat := Nat.pow 2 64

def checkedProductFrom (acc : Nat) : List Nat → Option Nat
  | [] => some acc
  | size :: rest => if acc * size < wordBound then checkedProductFrom (acc * size) rest else none

def checkedProduct (shape : List Nat) : Option Nat := checkedProductFrom 1 shape

def checkVariable (d : Dataset) (v : Variable) : Except DatasetError Unit :=
  match d.shapeOf v with
  | .error e => .error e
  | .ok shape =>
    match checkedProduct shape with
    | none => .error .productOverflow
    | some expected =>
      if v.values.size = expected then .ok ()
      else .error (.valueCount v.name expected v.values.size)

def check (d : Dataset) : Except DatasetError Unit :=
  d.vars.forM d.checkVariable

def Valid (d : Dataset) : Prop :=
  ∀ v ∈ d.vars, ∃ shape, d.shapeOf v = .ok shape ∧ v.values.size = shapeSize shape

def shape (d : Dataset) (name : String) : Except DatasetError (List Nat) :=
  match d.findVariable name with
  | some v => d.shapeOf v
  | none => .error (.variableNotFound name)

def withDimension (d : Dataset) (name : String) (size : Nat) : Dataset :=
  { d with dimensions := d.dimensions ++ [⟨name, size⟩] }

def withVariable (d : Dataset) (name : String) (dimensions : List String)
    (values : Array Float) : Except DatasetError Dataset :=
  let v : Variable := ⟨name, .double, dimensions, [], values⟩
  match d.checkVariable v with
  | .error e => .error e
  | .ok () => .ok { d with vars := d.vars ++ [v] }

def attachTo (var : String) (attr : Attribute) : List Variable → Option (List Variable)
  | [] => none
  | v :: rest =>
    if v.name == var then some ({ v with attributes := v.attributes ++ [attr] } :: rest)
    else (attachTo var attr rest).map (v :: ·)

def withVariableAttribute (d : Dataset) (var : String) (attr : Attribute) :
    Except DatasetError Dataset :=
  match attachTo var attr d.vars with
  | some vars => .ok { d with vars }
  | none => .error (.variableNotFound var)

def withGlobal (d : Dataset) (attr : Attribute) : Dataset :=
  { d with globals := d.globals ++ [attr] }

end Dataset

end GridServe

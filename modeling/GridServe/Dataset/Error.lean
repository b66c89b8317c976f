import GridServe.Error.Io

namespace GridServe

inductive DatasetError where
  | variableNotFound (name : String)
  | dimensionNotFound (var dimension : String)
  /-- A read's origin or extent has `actual` axes, the variable `expected`. -/
  | rankMismatch (var : String) (expected actual : Nat)
  | outOfBounds (var : String) (shape : List Nat)
  /-- A variable holds `actual` values where its shape needs `expected`. -/
  | valueCount (var : String) (expected actual : Nat)
  | unsupportedFormat (path : String)
  | io (cause : IoError)
  | json (cause : List String)
  | shapeOverflow
  | productOverflow
  deriving Repr, DecidableEq, Inhabited

def listText (items : List Nat) : String :=
  "[" ++ ", ".intercalate (items.map toString) ++ "]"

namespace DatasetError

def kindName : DatasetError → String
  | .variableNotFound _ => "VariableNotFound"
  | .dimensionNotFound .. => "DimensionNotFound"
  | .rankMismatch .. => "RankMismatch"
  | .outOfBounds .. => "OutOfBounds"
  | .valueCount .. => "ValueCount"
  | .unsupportedFormat _ => "UnsupportedFormat"
  | .io _ => "Io"
  | .json _ => "Json"
  | .shapeOverflow => "Shape"
  | .productOverflow => "panic"

def message : DatasetError → String
  | .variableNotFound name => "variable " ++ name ++ " not found"
  | .dimensionNotFound var dimension =>
    "dimension " ++ dimension ++ " of variable " ++ var ++ " not found"
  | .rankMismatch var expected actual =>
    "read of " ++ var ++ " has rank " ++ toString actual ++ " but variable has rank "
      ++ toString expected
  | .outOfBounds var shape => "read of " ++ var ++ " exceeds its shape " ++ listText shape
  | .valueCount var expected actual =>
    "variable " ++ var ++ " holds " ++ toString actual ++ " values but its shape requires "
      ++ toString expected
  | .unsupportedFormat path => "unsupported dataset format for " ++ path
  | .io _ => "failed to read dataset file"
  | .json _ => "failed to parse dataset description"
  | .shapeOverflow => "failed to index variable values"
  | .productOverflow => "attempt to multiply with overflow"

/-- Texts of the causes, outermost first. -/
def causes : DatasetError → List String
  | .io cause => [cause.message]
  | .json cause => cause
  | .shapeOverflow => ["ShapeError/Overflow: arithmetic overflow"]
  | _ => []

end DatasetError

end GridServe

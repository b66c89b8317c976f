/-!
Datasets: named dimensions with sizes, variables of double values laid out row-major over
their dimensions, and attributes. Dimensions and variables are found by name, and the first
entry with a name is the one found. Sizes, indices and counts are naturals below `2 ^ 64`.
-/

namespace GridServe

inductive ElemType where
  | byte | char | short | int | int64 | float | double
  | ubyte | ushort | uint | uint64 | string | compound
  deriving Repr, DecidableEq, Inhabited

namespace ElemType

def all : List ElemType :=
  [.byte, .char, .short, .int, .int64, .float, .double, .ubyte, .ushort, .uint, .uint64,
    .string, .compound]

def name : ElemType → String
  | .byte => "byte" | .char => "char" | .short => "short" | .int => "int"
  | .int64 => "int64" | .float => "float" | .double => "double" | .ubyte => "ubyte"
  | .ushort => "ushort" | .uint => "uint" | .uint64 => "uint64" | .string => "string"
  | .compound => "compound"

def ofName? (s : String) : Option ElemType := all.find? (·.name == s)

end ElemType

structure Dimension where
  name : String
  size : Nat
  deriving Repr, DecidableEq, Inhabited

def shapeSize (shape : List Nat) : Nat := shape.foldr (· * ·) 1

inductive AttrValue where
  | text (s : String)
  | ints (values : List Int)
  | floats (values : List Float32)
  | doubles (values : List Float)
  | other (type : ElemType)
  deriving Repr, Inhabited

structure Attribute where
  name : String
  value : AttrValue
  deriving Repr, Inhabited

/-- A variable: its values are row-major over its dimensions, the last one varying fastest. -/
structure Variable where
  name : String
  elemType : ElemType
  dimensions : List String
  attributes : List Attribute
  values : Array Float
  deriving Repr, Inhabited

structure Dataset where
  dimensions : List Dimension
  vars : List Variable
  globals : List Attribute
  deriving Repr, Inhabited

namespace Dataset

def empty : Dataset := ⟨[], [], []⟩

/-- The first dimension called `name`. -/
def dimension? (d : Dataset) (name : String) : Option Dimension :=
  d.dimensions.find? (·.name == name)

def findVariable (d : Dataset) (name : String) : Option Variable :=
  d.vars.find? (·.name == name)

end Dataset

end GridServe

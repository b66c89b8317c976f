import GridServe.NameMap
import GridServe.Error.Server
import GridServe.Dataset.Basic
import GridServe.Decimal.Text

/-!
The description of a dataset served to clients: dimension sizes by name, each variable's type,
dimensions and attribute texts by name, and the global attribute texts. Repeated names keep the
last entry. A variable attribute named `type` or `dimensions` is left out, since those names
hold the variable's own type and dimensions.

Describing a dataset reads its dimensions and lists its variables, then its global attributes.
A dataset read from a file may fail to list either, and the first failure ends the description;
a dataset held in memory always lists both.

Attribute values as metadata text. Text is cut at its first NUL and then to at most 255 bytes,
never inside a character: the cut starts at the byte budget and steps back one byte at a time
until it stands on a character boundary. Numbers are written in plain decimal, shortest digits
that read back as the same single or double, and joined by `", "`. Values of other types have
no text.
-/

namespace GridServe

namespace AttrValue

/-- The most bytes of text reported, one less than the buffer that holds it with its NUL. -/
def textBudget : Nat := 255

def beforeNul (s : String) : String := String.ofList (s.toList.takeWhile (· ≠ '\x00'))

/-- The greatest character boundary of `s` at or below byte offset `i`, found by stepping down
one byte at a time. -/
def boundaryAtOrBelow (s : String) (i : Nat) : s.Pos :=
  if h : (String.Pos.Raw.mk i).IsValid s then ⟨⟨i⟩, h⟩ else boundaryAtOrBelow s (i - 1)
termination_by i
decreasing_by
  -- Offset zero is always a boundary, so the walk never steps below it.
  have nonzero : i ≠ 0 := by
    rintro rfl
    exact h String.Pos.Raw.isValid_zero
  omega

def truncateText (s : String) : String :=
  let text := beforeNul s
  (text.sliceTo (boundaryAtOrBelow text (min text.utf8ByteSize textBudget))).copy

def joinText (items : List String) : String := ", ".intercalate items

def stringify : AttrValue → String
  | .text s => truncateText s
  | .ints values => joinText (values.map toString)
  | .floats values => joinText (values.map Float32.plainText)
  | .doubles values => joinText (values.map Float.plainText)
  | .other _ => "Unknown type"

end AttrValue

structure VariableInfo where
  name : String
  elemType : ElemType
  dimensions : List String
  attributes : List Attribute
  deriving Repr

def Variable.info (v : Variable) : VariableInfo := ⟨v.name, v.elemType, v.dimensions, v.attributes⟩

/-- What describing a dataset reads from it: its dimensions, and the listings of its variables
and of its global attributes, either of which may fail. -/
structure Listings where
  dimensions : List Dimension
  vars : Except DatasetError (List VariableInfo)
  globals : Except DatasetError (List Attribute)

def Dataset.listings (d : Dataset) : Listings :=
  ⟨d.dimensions, .ok (d.vars.map Variable.info), .ok d.globals⟩

structure VariableMetadata where
  elemType : ElemType
  dimensions : List String
  attributes : NameMap String
  deriving Repr

structure DatasetMetadata where
  dimensions : NameMap Nat
  vars : NameMap VariableMetadata
  globals : NameMap String
  deriving Repr

namespace DatasetMetadata

/-- Attribute names that a variable's own fields take. -/
def reserved (name : String) : Bool := name == "type" || name == "dimensions"

def ofVariable (v : VariableInfo) : VariableMetadata :=
  ⟨v.elemType, v.dimensions,
    NameMap.ofList ((v.attributes.filter fun a => !reserved a.name).map
      fun a => (a.name, a.value.stringify))⟩

def ofLists (dims : List Dimension) (vars : List VariableInfo) (globals : List Attribute) :
    DatasetMetadata :=
  ⟨NameMap.ofList (dims.map fun dim => (dim.name, dim.size)),
    NameMap.ofList (vars.map fun v => (v.name, ofVariable v)),
    NameMap.ofList (globals.map fun a => (a.name, a.value.stringify))⟩

def describe (l : Listings) : Except ServerError DatasetMetadata :=
  match l.vars, l.globals with
  | .error e, _ => .error (.metadataFailure e)
  | .ok _, .error e => .error (.metadataFailure e)
  | .ok vars, .ok globals => .ok (ofLists l.dimensions vars globals)

def compute (d : Dataset) : DatasetMetadata :=
  ofLists d.dimensions (d.vars.map Variable.info) d.globals

def variableJson (v : VariableMetadata) : Json :=
  .object ([("type", .string v.elemType.name), ("dimensions", .array (v.dimensions.map .string))]
    ++ v.attributes.entries.map fun (k, s) => (k, .string s))

def toJson (m : DatasetMetadata) : Json :=
  .object [("dimensions", .object (m.dimensions.entries.map fun (k, n) => (k, Json.ofNat n))),
    ("variables", .object (m.vars.entries.map fun (k, v) => (k, variableJson v))),
    ("global_attributes", .object (m.globals.entries.map fun (k, s) => (k, .string s)))]

end DatasetMetadata

end GridServe

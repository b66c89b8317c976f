import GridServe.Dataset.Check
import GridServe.Json.Reader
import GridServe.Json.Writer

/-!
The JSON description of a dataset and of its parts.

A record is an object or an array. In an object the fields may come in any order, unknown
names are skipped and a known name given twice is refused; in an array the fields come in
declaration order and trailing optional fields may be left out. Attribute values are tagged
records `{"type": tag, "value": content}` (or `[tag, content]`), the tag being a variant name.
Element types are lower-case names, or one-field objects naming the type with a `null` value.

When the content of an attribute value comes before its tag, it is held as a generic value
until the tag is known and then read from that value; this is the one place where an element
type may also be written with an empty object in place of `null`.
-/

namespace GridServe

namespace DatasetFormat

/-- The fields of a record named `names`, aligned with `names`; `none` when the value is not a
record of at most these fields or names a field twice. -/
def recordFields (names : List String) : Json → Option (List (Option Json))
  | .object fields =>
    fields.foldlM (fun acc (key, value) =>
      match names.idxOf? key with
      | none => some acc
      | some i =>
        match acc[i]? with
        | some (some _) => none
        | _ => some (acc.set i (some value))) (names.map fun _ => none)
  | .array items =>
    if items.length ≤ names.length then
      some (items.map some ++ List.replicate (names.length - items.length) none)
    else none
  | _ => none

def required (fields : List (Option Json)) (i : Nat) : Option Json := fields[i]?.join

def optional {α : Type} (fields : List (Option Json)) (i : Nat) (default : α)
    (decode : Json → Option α) : Option α :=
  match fields[i]?.join with
  | none => some default
  | some v => decode v

def text : Json → Option String
  | .string s => some s
  | _ => none

def list {α : Type} (decode : Json → Option α) : Json → Option (List α)
  | .array items => items.mapM decode
  | _ => none

def size : Json → Option Nat
  | .number (.natural n) => some n
  | _ => none

def int64 : Json → Option Int
  | .number (.natural n) => if n < Nat.pow 2 63 then some n else none
  | .number (.negative n) => some n
  | _ => none

def double : Json → Option Float
  | .number (.natural n) => some n.toUInt64.toFloat
  | .number (.negative n) => some (-(n.natAbs.toUInt64.toFloat))
  | .number (.double x) => some x
  | _ => none

def single : Json → Option Float32
  | .number (.natural n) => some n.toUInt64.toFloat32
  | .number (.negative n) => some (-(n.natAbs.toUInt64.toFloat32))
  | .number (.double x) => some x.toFloat32
  | _ => none

def elemType (held : Bool) : Json → Option ElemType
  | .string s => ElemType.ofName? s
  | .object [(s, .null)] => ElemType.ofName? s
  | .object [(s, .object [])] => if held then ElemType.ofName? s else none
  | _ => none

def attrTags : List String := ["text", "ints", "floats", "doubles", "other"]

def attrTag : Json → Option Nat
  | .string s => attrTags.idxOf? s
  | _ => none

def attrContent (held : Bool) : Nat → Json → Option AttrValue
  | 0, v => (text v).map .text
  | 1, v => (list int64 v).map .ints
  | 2, v => (list single v).map .floats
  | 3, v => (list double v).map .doubles
  | 4, v => (elemType held v).map .other
  | _, _ => none

def contentFirst : Json → Bool
  | .object fields =>
    match fields.find? fun (k, _) => k == "type" || k == "value" with
    | some (k, _) => k == "value"
    | none => false
  | _ => false

def attrValue (v : Json) : Option AttrValue := do
  let fields ← recordFields ["type", "value"] v
  let tag ← required fields 0 >>= attrTag
  let content ← required fields 1
  attrContent (contentFirst v) tag content

def attributeRecord (v : Json) : Option Attribute := do
  let fields ← recordFields ["name", "value"] v
  let name ← required fields 0 >>= text
  let value ← required fields 1 >>= attrValue
  pure ⟨name, value⟩

def dimension (v : Json) : Option Dimension := do
  let fields ← recordFields ["name", "size"] v
  let name ← required fields 0 >>= text
  let size ← required fields 1 >>= size
  pure ⟨name, size⟩

def variableRecord (v : Json) : Option Variable := do
  let fields ← recordFields ["name", "type", "dimensions", "attributes", "values"] v
  let name ← required fields 0 >>= text
  let elemType ← required fields 1 >>= elemType false
  let dimensions ← required fields 2 >>= list text
  let attributes ← optional fields 3 [] (list attributeRecord)
  let values ← optional fields 4 [] (list double)
  pure ⟨name, elemType, dimensions, attributes, values.toArray⟩

def dataset (v : Json) : Option Dataset := do
  let fields ← recordFields ["dimensions", "variables", "global_attributes"] v
  let dimensions ← required fields 0 >>= list dimension
  let vars ← optional fields 1 [] (list variableRecord)
  let globals ← optional fields 2 [] (list attributeRecord)
  pure ⟨dimensions, vars, globals⟩

/-! Writing the description back. Singles are shown as the doubles they widen to. -/

def attrValueJson : AttrValue → Json
  | .text s => .object [("type", .string "text"), ("value", .string s)]
  | .ints values => .object [("type", .string "ints"),
      ("value", .array (values.map fun n =>
        if n < 0 then .number (.negative n) else .number (.natural n.toNat)))]
  | .floats values => .object [("type", .string "floats"),
      ("value", .array (values.map fun x => Json.ofFloat x.toFloat))]
  | .doubles values => .object [("type", .string "doubles"),
      ("value", .array (values.map Json.ofFloat))]
  | .other t => .object [("type", .string "other"), ("value", .string t.name)]

def attributeJson (a : Attribute) : Json :=
  .object [("name", .string a.name), ("value", attrValueJson a.value)]

def dimensionJson (d : Dimension) : Json :=
  .object [("name", .string d.name), ("size", Json.ofNat d.size)]

def variableInfoJson (v : Variable) : Json :=
  .object [("name", .string v.name), ("type", .string v.elemType.name),
    ("dimensions", .array (v.dimensions.map .string)),
    ("attributes", .array (v.attributes.map attributeJson))]

def variableJson (v : Variable) : Json :=
  .object [("name", .string v.name), ("type", .string v.elemType.name),
    ("dimensions", .array (v.dimensions.map .string)),
    ("attributes", .array (v.attributes.map attributeJson)),
    ("values", .array (v.values.toList.map Json.ofFloat))]

def datasetJson (d : Dataset) : Json :=
  .object [("dimensions", .array (d.dimensions.map dimensionJson)),
    ("variables", .array (d.vars.map variableJson)),
    ("global_attributes", .array (d.globals.map attributeJson))]

end DatasetFormat

namespace Dataset

/-- The texts of the reader library's error for a text it refuses. The library is not part of
this program and its wording is not reproduced; no answer of the server shows it. -/
def readerRefusal : List String := []

def load (text : String) : Except DatasetError Dataset :=
  match Json.read text with
  | .error _ => .error (.json readerRefusal)
  | .ok v =>
    match DatasetFormat.dataset v with
    | none => .error (.json readerRefusal)
    | some d =>
      match d.check with
      | .error e => .error e
      | .ok () => .ok d

end Dataset

end GridServe

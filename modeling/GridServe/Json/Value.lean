/-!
JSON values as the dataset format reads them. Numbers keep the class the reader gives them:
an integer literal within 64 bits stays an integer and everything else is a double. A value
that follows the grammar but cannot be taken as data is kept as unreadable, so that only a
consumer that uses it refuses it. Objects keep every field in order, repeated names included;
each consumer decides whether the first, the last or a repetition wins.
-/

namespace GridServe

inductive JsonNumber where
  /-- An integer literal in `0 ≤ n < 2 ^ 64`. -/
  | natural (n : Nat)
  /-- An integer literal in `-2 ^ 63 ≤ n < 0`. -/
  | negative (n : Int)
  /-- Any other literal, as the nearest double the reader finds. -/
  | double (x : Float)
  deriving Inhabited, Repr

inductive Json where
  | null
  | bool (b : Bool)
  | number (n : JsonNumber)
  | string (s : String)
  | array (items : List Json)
  | object (fields : List (String × Json))
  /-- A string with a surrogate escape outside a pair, an object with such a key, or a number
  beyond the range of doubles. -/
  | unreadable
  deriving Inhabited, Repr

namespace Json

/-- The value of the last field called `key`, as a map that lets later fields win sees it. -/
def lookupLast (fields : List (String × Json)) (key : String) : Option Json :=
  fields.foldl (fun found (k, v) => if k == key then some v else found) none

def field? (v : Json) (key : String) : Option Json :=
  match v with
  | .object fields => lookupLast fields key
  | _ => none

def asString? : Json → Option String
  | .string s => some s
  | _ => none

def asArray? : Json → Option (List Json)
  | .array items => some items
  | _ => none

def asBool? : Json → Option Bool
  | .bool b => some b
  | _ => none

def asNatural? : Json → Option Nat
  | .number (.natural n) => some n
  | _ => none

/-- Any representable number as a double: integers are rounded to the nearest double. -/
def asFloat? : Json → Option Float
  | .number (.natural n) => some n.toUInt64.toFloat
  | .number (.negative n) => some (-(n.natAbs.toUInt64.toFloat))
  | .number (.double x) => some x
  | _ => none

def dedupeFields (fields : List (String × Json)) : List (String × Json) :=
  fields.foldr (fun (k, v) kept => if kept.any (·.1 == k) then kept else (k, v) :: kept) []

def sortFields (fields : List (String × Json)) : List (String × Json) :=
  fields.mergeSort fun a b => !(b.1 < a.1)

mutual

/-- The value as a document backed by an ordered map holds it: in every object, the last field
of each name wins and the fields come in the order of their names. -/
def lastWins : Json → Json
  | .array items => .array (itemsLastWins items)
  | .object fields => .object (sortFields (dedupeFields (fieldsLastWins fields)))
  | v => v

def itemsLastWins : List Json → List Json
  | [] => []
  | item :: rest => lastWins item :: itemsLastWins rest

def fieldsLastWins : List (String × Json) → List (String × Json)
  | [] => []
  | (k, item) :: rest => (k, lastWins item) :: fieldsLastWins rest

end

end Json

end GridServe

/-!
Maps keyed by text, kept as association lists sorted by key with each key once. Building a
map from a list of entries lets a later entry replace an earlier one with the same key, so
the result is "last one wins" and its order is byte order of the keys.
-/

namespace GridServe

/-- Entries sorted by key, each key once. -/
structure NameMap (α : Type) where
  entries : List (String × α)
  deriving Inhabited, Repr

namespace NameMap

variable {α : Type}

def empty : NameMap α := ⟨[]⟩

def insertEntry (key : String) (value : α) : List (String × α) → List (String × α)
  | [] => [(key, value)]
  | (k, v) :: rest =>
    if key < k then (key, value) :: (k, v) :: rest
    else if key = k then (key, value) :: rest
    else (k, v) :: insertEntry key value rest

def insert (m : NameMap α) (key : String) (value : α) : NameMap α :=
  ⟨insertEntry key value m.entries⟩

/-- The map of a list of entries in which the last entry for a key wins. -/
def ofList (entries : List (String × α)) : NameMap α :=
  entries.foldl (fun m (k, v) => m.insert k v) empty

def get? (m : NameMap α) (key : String) : Option α :=
  (m.entries.find? (·.1 == key)).map (·.2)

def keys (m : NameMap α) : List String := m.entries.map (·.1)

def size (m : NameMap α) : Nat := m.entries.length

def map {β : Type} (f : α → β) (m : NameMap α) : NameMap β :=
  ⟨m.entries.map fun (k, v) => (k, f v)⟩

end NameMap

end GridServe

import Mathlib
import GridServe.Metadata.Basic

namespace GridServe

namespace NameMap

variable {α : Type}

theorem find?_cons_entry (key k : String) (value : α) (rest : List (String × α)) :
    ((key, value) :: rest).find? (·.1 == k) =
      if k = key then some (key, value) else rest.find? (·.1 == k) := by
  by_cases same : k = key
  · subst same
    simp
  · simp [same, Ne.symm same]

theorem find?_insertEntry (key k : String) (value : α) (entries : List (String × α)) :
    (insertEntry key value entries).find? (·.1 == k) =
      if k = key then some (key, value) else entries.find? (·.1 == k) := by
  induction entries with
  | nil => rw [insertEntry, find?_cons_entry]
  | cons entry rest ih =>
    obtain ⟨k0, v0⟩ := entry
    rw [insertEntry]
    split
    · rw [find?_cons_entry]
    · split
      · -- The new entry replaces the old one of the same key.
        rename_i replaced
        subst replaced
        rw [find?_cons_entry, find?_cons_entry]
        by_cases same : k = key <;> simp [same]
      · rename_i differ
        rw [find?_cons_entry, ih, find?_cons_entry]
        by_cases same : k = key
        · subst same
          simp [differ]
        · simp [same]

theorem get?_insert (m : NameMap α) (key k : String) (value : α) :
    (m.insert key value).get? k = if k = key then some value else m.get? k := by
  unfold get? insert
  rw [find?_insertEntry]
  split <;> simp

theorem ofList_append_single (entries : List (String × α)) (key : String) (value : α) :
    ofList (entries ++ [(key, value)]) = (ofList entries).insert key value := by
  simp [ofList, List.foldl_append]

theorem get?_ofList (entries : List (String × α)) (k : String) :
    (ofList entries).get? k = (entries.reverse.find? (·.1 == k)).map (·.2) := by
  induction entries using List.reverseRecOn with
  | nil => rfl
  | append_singleton entries entry ih =>
    obtain ⟨key, value⟩ := entry
    rw [ofList_append_single, get?_insert, ih, List.reverse_append, List.reverse_singleton,
      List.singleton_append, find?_cons_entry]
    by_cases same : k = key <;> simp [same]

theorem mem_insertEntry {key : String} {value : α} {entries : List (String × α)}
    {entry : String × α} (member : entry ∈ insertEntry key value entries) :
    entry = (key, value) ∨ entry ∈ entries := by
  induction entries with
  | nil => simpa [insertEntry] using member
  | cons first rest ih =>
    unfold insertEntry at member
    split at member
    · simpa using member
    · split at member
      · simp only [List.mem_cons] at member ⊢
        tauto
      · simp only [List.mem_cons] at member ⊢
        rcases member with here | later
        · exact .inr (.inl here)
        · rcases ih later with new | old
          · exact .inl new
          · exact .inr (.inr old)

theorem sorted_insertEntry (key : String) (value : α) {entries : List (String × α)}
    (sorted : entries.Pairwise (·.1 < ·.1)) :
    (insertEntry key value entries).Pairwise (·.1 < ·.1) := by
  induction entries with
  | nil => simp [insertEntry]
  | cons first rest ih =>
    obtain ⟨below, restSorted⟩ := List.pairwise_cons.mp sorted
    unfold insertEntry
    split
    · rename_i before
      refine List.pairwise_cons.mpr ⟨?_, sorted⟩
      intro other member
      rcases List.mem_cons.mp member with rfl | later
      · exact before
      · exact lt_trans before (below other later)
    · split
      · rename_i replaced
        subst replaced
        exact List.pairwise_cons.mpr ⟨below, restSorted⟩
      · rename_i after replaced
        -- Neither before nor equal: the first key is below the new one.
        have above : first.1 < key :=
          lt_of_le_of_ne (not_lt.mp after) (Ne.symm replaced)
        refine List.pairwise_cons.mpr ⟨?_, ih restSorted⟩
        intro other member
        rcases mem_insertEntry member with rfl | old
        · exact above
        · exact below other old

theorem sorted_ofList (entries : List (String × α)) :
    (ofList entries).entries.Pairwise (·.1 < ·.1) := by
  induction entries using List.reverseRecOn with
  | nil => exact List.Pairwise.nil
  | append_singleton entries entry ih =>
    rw [ofList_append_single]
    exact sorted_insertEntry _ _ ih

theorem nodup_keys_ofList (entries : List (String × α)) : (ofList entries).keys.Nodup :=
  List.pairwise_map.mpr ((sorted_ofList entries).imp ne_of_lt)

theorem mem_keys_iff (m : NameMap α) (k : String) : k ∈ m.keys ↔ (m.get? k).isSome := by
  simp [keys, get?, List.find?_isSome]

end NameMap

namespace DatasetMetadata

def lastNamed {α : Type} (nameOf : α → String) (items : List α) (name : String) : Option α :=
  items.reverse.find? (nameOf · == name)

theorem get?_ofList_map {α β : Type} (nameOf : α → String) (f : α → β) (items : List α)
    (name : String) :
    (NameMap.ofList (items.map fun x => (nameOf x, f x))).get? name =
      (lastNamed nameOf items name).map f := by
  rw [NameMap.get?_ofList, ← List.map_reverse, List.find?_map, Option.map_map]
  rfl

theorem reserved_iff (name : String) :
    reserved name = true ↔ name = "type" ∨ name = "dimensions" := by
  simp [reserved]

theorem lastNamed_filter {α : Type} (nameOf : α → String) (items : List α) (name : String) :
    lastNamed nameOf (items.filter fun x => !reserved (nameOf x)) name =
      if reserved name then none else lastNamed nameOf items name := by
  unfold lastNamed
  rw [← List.filter_reverse, List.find?_filter]
  split
  · rename_i taken
    rw [List.find?_eq_none]
    intro x _ found
    simp only [Bool.not_eq_true', beq_iff_eq, decide_eq_true_eq] at found
    obtain ⟨kept, named⟩ := found
    rw [named, taken] at kept
    cases kept
  · rename_i kept
    congr 1
    funext x
    by_cases named : nameOf x = name
    · simp [named, kept]
    · simp [named]

/-- What the metadata of a variable says of it: its type and dimension names as declared, and for
each name other than `type` and `dimensions` the text of its last attribute of that name. -/
structure DescribesVariable (v : VariableInfo) (vm : VariableMetadata) : Prop where
  elemType : vm.elemType = v.elemType
  dimensions : vm.dimensions = v.dimensions
  attributes : ∀ name, vm.attributes.get? name =
    if name = "type" ∨ name = "dimensions" then none
    else (lastNamed (·.name) v.attributes name).map (·.value.stringify)

/-- What the metadata of listed dimensions, variables and global attributes says: each map holds,
for each name, what the last entry of that name says. -/
structure Describes (dims : List Dimension) (vars : List VariableInfo) (globals : List Attribute)
    (m : DatasetMetadata) : Prop where
  dimensions : ∀ name, m.dimensions.get? name = (lastNamed (·.name) dims name).map (·.size)
  vars : ∀ name, Option.Rel DescribesVariable (lastNamed (·.name) vars name) (m.vars.get? name)
  globals : ∀ name, m.globals.get? name = (lastNamed (·.name) globals name).map (·.value.stringify)

theorem describesVariable_ofVariable (v : VariableInfo) : DescribesVariable v (ofVariable v) where
  elemType := rfl
  dimensions := rfl
  attributes name := by
    rw [ofVariable, get?_ofList_map, lastNamed_filter]
    by_cases taken : reserved name <;> simp_all [reserved_iff]

theorem describes_ofLists (dims : List Dimension) (vars : List VariableInfo)
    (globals : List Attribute) : Describes dims vars globals (ofLists dims vars globals) where
  dimensions name := get?_ofList_map _ _ dims name
  vars name := by
    rw [ofLists, get?_ofList_map]
    cases lastNamed (·.name) vars name with
    | none => exact .none
    | some v => exact .some (describesVariable_ofVariable v)
  globals name := get?_ofList_map _ _ globals name

theorem variableJson_keys (vm : VariableMetadata) :
    ∃ fields, variableJson vm = .object fields ∧
      fields.map (·.1) = "type" :: "dimensions" :: vm.attributes.keys :=
  ⟨_, rfl, by simp [NameMap.keys]⟩

theorem variableJson_keys_nodup (v : VariableInfo) :
    ∃ fields, variableJson (ofVariable v) = .object fields ∧ (fields.map (·.1)).Nodup := by
  obtain ⟨fields, written, keys⟩ := variableJson_keys (ofVariable v)
  have absent : ∀ name, reserved name = true → name ∉ (ofVariable v).attributes.keys := by
    intro name taken
    rw [NameMap.mem_keys_iff, (describesVariable_ofVariable v).attributes name,
      if_pos ((reserved_iff name).mp taken)]
    simp
  refine ⟨fields, written, ?_⟩
  rw [keys]
  refine List.nodup_cons.mpr ⟨?_, List.nodup_cons.mpr ⟨absent _ (by decide), ?_⟩⟩
  · simpa using absent "type" (by decide)
  · exact NameMap.nodup_keys_ofList _

theorem describe_listings (d : Dataset) : describe d.listings = .ok (compute d) := rfl

/-- Describing a dataset lists its variables, then its global attributes, and a listing that
fails ends it with that error as the metadata failure. When both listings succeed, the dimensions,
variables and global attributes are maps from each name to what its last entry says, and each
variable's JSON object names each key once. A dataset held in memory always lists both. -/
theorem description_last_entries (l : Listings) :
    (∀ d : Dataset, describe d.listings = .ok (compute d)) ∧
      (∀ e, l.vars = .error e → describe l = .error (.metadataFailure e)) ∧
      (∀ vars e, l.vars = .ok vars → l.globals = .error e →
        describe l = .error (.metadataFailure e)) ∧
      ∀ vars globals, l.vars = .ok vars → l.globals = .ok globals →
        ∃ m, describe l = .ok m ∧ Describes l.dimensions vars globals m ∧
          ∀ name vm, m.vars.get? name = some vm →
            ∃ fields, variableJson vm = .object fields ∧ (fields.map (·.1)).Nodup := by
  refine ⟨describe_listings, fun e failed => ?_, fun vars e listed failed => ?_,
    fun vars globals listed globalsListed => ?_⟩
  · simp [describe, failed]
  · simp [describe, listed, failed]
  · refine ⟨ofLists l.dimensions vars globals, by simp [describe, listed, globalsListed],
      describes_ofLists _ _ _, fun name vm found => ?_⟩
    rw [ofLists, get?_ofList_map] at found
    obtain ⟨v, -, rfl⟩ := Option.map_eq_some_iff.mp found
    exact variableJson_keys_nodup v

end DatasetMetadata

end GridServe

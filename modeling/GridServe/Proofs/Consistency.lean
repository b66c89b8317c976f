import Mathlib
import GridServe.Dataset.Format

namespace GridServe

theorem shapeSize_eq_prod (shape : List Nat) : shapeSize shape = shape.prod := rfl

theorem mapM_eq_ok_iff {α β ε : Type} {f : α → Except ε β} {items : List α}
    {results : List β} :
    items.mapM f = .ok results ↔
      List.Forall₂ (fun item result => f item = .ok result) items results := by
  induction items generalizing results with
  | nil => cases results <;> simp [Pure.pure, Except.pure]
  | cons item items ih =>
    simp only [List.mapM_cons, Bind.bind, Except.bind]
    cases hf : f item with
    | error e => cases results <;> simp [hf]
    | ok result =>
      cases hr : items.mapM f with
      | error e =>
        have no_tail : ∀ rest, ¬ List.Forall₂ (fun item result => f item = .ok result) items rest :=
          fun rest tail => by rw [ih.mpr tail] at hr; cases hr
        cases results <;> simp [hf, no_tail]
      | ok rest => cases results <;> simp [Pure.pure, Except.pure, hf, ← ih, hr]

theorem forM_eq_ok_iff {α ε : Type} {f : α → Except ε Unit} {items : List α} :
    items.forM f = .ok () ↔ ∀ item ∈ items, f item = .ok () := by
  induction items with
  | nil => simp [Pure.pure, Except.pure]
  | cons item items ih =>
    simp only [List.forM, Bind.bind, Except.bind, List.mem_cons, forall_eq_or_imp]
    cases hf : f item with
    | error e => simp
    | ok u => simpa using ih

namespace Dataset

variable {d : Dataset}

/-- The running products of a shape's sizes, multiplied in order from one, stay below the machine
word bound. -/
def ProductFits (shape : List Nat) : Prop := ∀ k, (shape.take k).prod < wordBound

theorem checkedProductFrom_eq_some_iff {acc n : Nat} {shape : List Nat} (small : acc < wordBound) :
    checkedProductFrom acc shape = some n ↔
      (∀ k, acc * (shape.take k).prod < wordBound) ∧ n = acc * shape.prod := by
  induction shape generalizing acc with
  | nil => simp [checkedProductFrom, small, eq_comm]
  | cons size rest ih =>
    unfold checkedProductFrom
    split
    · rename_i fits
      rw [ih fits]
      constructor
      · rintro ⟨running, rfl⟩
        refine ⟨fun k => ?_, by rw [List.prod_cons, Nat.mul_assoc]⟩
        cases k with
        | zero => simpa using small
        | succ k => simpa [List.take_succ_cons, List.prod_cons, Nat.mul_assoc] using running k
      · rintro ⟨running, rfl⟩
        refine ⟨fun k => by simpa [Nat.mul_assoc] using running (k + 1), ?_⟩
        rw [List.prod_cons, Nat.mul_assoc]
    · -- The first running product past the bound is the one just refused.
      rename_i passes
      simp only [reduceCtorEq, false_iff, not_and]
      intro running
      exact absurd (by simpa using running 1) passes

theorem checkedProduct_eq_some_iff {n : Nat} {shape : List Nat} :
    checkedProduct shape = some n ↔ ProductFits shape ∧ n = shapeSize shape := by
  rw [checkedProduct, checkedProductFrom_eq_some_iff (by decide)]
  simp [ProductFits, shapeSize_eq_prod]

theorem checkedProduct_eq_none_iff {shape : List Nat} :
    checkedProduct shape = none ↔ ¬ ProductFits shape := by
  simp [Option.eq_none_iff_forall_ne_some, checkedProduct_eq_some_iff]

theorem checkedProduct_eq_some {n : Nat} {shape : List Nat}
    (h : checkedProduct shape = some n) : n = shapeSize shape :=
  (checkedProduct_eq_some_iff.mp h).2

theorem mem_of_findVariable {name : String} {v : Variable} (found : d.findVariable name = some v) :
    v ∈ d.vars :=
  List.mem_of_find?_eq_some found

theorem shapeOf_eq_ok_iff {v : Variable} {shape : List Nat} :
    d.shapeOf v = .ok shape ↔
      List.Forall₂ (fun name size => (d.dimension? name).map (·.size) = some size)
        v.dimensions shape := by
  unfold shapeOf
  rw [mapM_eq_ok_iff]
  constructor <;> intro resolved <;> refine resolved.imp fun name size found => ?_ <;>
    cases entry : d.dimension? name <;> simp_all

theorem shapeOf_eq_single {v : Variable} {name : String} {entry : Dimension}
    (dims : v.dimensions = [name]) (found : d.dimension? name = some entry) :
    d.shapeOf v = .ok [entry.size] := by
  rw [shapeOf_eq_ok_iff, dims]
  simp [found]

theorem checkVariable_eq_ok_iff {v : Variable} :
    d.checkVariable v = .ok () ↔
      ∃ shape, d.shapeOf v = .ok shape ∧ checkedProduct shape = some v.values.size := by
  unfold checkVariable
  cases d.shapeOf v with
  | error e => simp
  | ok shape =>
    cases product : checkedProduct shape with
    | none => simp [product]
    | some expected =>
      by_cases fits : v.values.size = expected
      · simp [product, fits]
      · simp [product, fits, Ne.symm fits]

theorem check_eq_ok_iff :
    d.check = .ok () ↔
      ∀ v ∈ d.vars, ∃ shape, d.shapeOf v = .ok shape ∧ checkedProduct shape = some v.values.size := by
  unfold check
  rw [forM_eq_ok_iff]
  simp only [checkVariable_eq_ok_iff]

theorem valid_of_check (checked : d.check = .ok ()) : d.Valid := by
  intro v member
  obtain ⟨shape, resolved, product⟩ := check_eq_ok_iff.mp checked v member
  exact ⟨shape, resolved, checkedProduct_eq_some product⟩

theorem Valid.size_of_shapeOf {name : String} {v : Variable} {shape : List Nat}
    (valid : d.Valid) (found : d.findVariable name = some v) (resolved : d.shapeOf v = .ok shape) :
    v.values.size = shapeSize shape := by
  obtain ⟨stored, resolvedAgain, count⟩ := valid v (mem_of_findVariable found)
  rw [resolved, Except.ok.injEq] at resolvedAgain
  rw [count, resolvedAgain]

theorem Valid.shape_error {name : String} {e : DatasetError} (valid : d.Valid)
    (h : d.shape name = .error e) : e = .variableNotFound name := by
  unfold shape at h
  cases found : d.findVariable name with
  | none =>
    simp only [found, Except.error.injEq] at h
    exact h.symm
  | some v =>
    simp only [found] at h
    obtain ⟨shape, ok, -⟩ := valid v (mem_of_findVariable found)
    rw [ok] at h
    cases h

theorem Valid.shape_ok {name : String} {shape : List Nat} (valid : d.Valid)
    (h : d.shape name = .ok shape) :
    ∃ v, d.findVariable name = some v ∧ v.values.size = shapeSize shape := by
  unfold Dataset.shape at h
  cases found : d.findVariable name with
  | none => simp [found] at h
  | some v =>
    simp only [found] at h
    exact ⟨v, rfl, valid.size_of_shapeOf found h⟩

theorem shapeOf_congr {v w : Variable} (names : v.name = w.name)
    (dims : v.dimensions = w.dimensions) : d.shapeOf v = d.shapeOf w := by
  unfold shapeOf
  rw [names, dims]

theorem dimension?_withDimension {entry name : String} {size : Nat} {dim : Dimension}
    (found : d.dimension? entry = some dim) :
    (d.withDimension name size).dimension? entry = some dim := by
  unfold dimension? at found ⊢
  simp [withDimension, List.find?_append, found]

theorem shapeOf_withDimension {v : Variable} {shape : List Nat} {name : String} {size : Nat}
    (h : d.shapeOf v = .ok shape) : (d.withDimension name size).shapeOf v = .ok shape := by
  rw [shapeOf_eq_ok_iff] at h ⊢
  refine h.imp fun entry entrySize resolved => ?_
  cases found : d.dimension? entry with
  | none => simp [found] at resolved
  | some dim => simpa [dimension?_withDimension found, found] using resolved

theorem attachTo_mem {var : String} {attr : Attribute} {vars attached : List Variable}
    (h : attachTo var attr vars = some attached) {w : Variable} (member : w ∈ attached) :
    ∃ u ∈ vars, w.name = u.name ∧ w.dimensions = u.dimensions ∧ w.values = u.values := by
  induction vars generalizing attached with
  | nil => simp [attachTo] at h
  | cons u rest ih =>
    unfold attachTo at h
    split at h
    · cases h
      rcases List.mem_cons.mp member with rfl | member
      · exact ⟨u, List.mem_cons_self, rfl, rfl, rfl⟩
      · exact ⟨w, List.mem_cons_of_mem _ member, rfl, rfl, rfl⟩
    · obtain ⟨others, attachedRest, rfl⟩ := Option.map_eq_some_iff.mp h
      rcases List.mem_cons.mp member with rfl | member
      · exact ⟨w, List.mem_cons_self, rfl, rfl, rfl⟩
      · obtain ⟨original, inRest, same⟩ := ih attachedRest member
        exact ⟨original, List.mem_cons_of_mem _ inRest, same⟩

theorem valid_empty : Dataset.empty.Valid := by
  intro v member
  simp [empty] at member

theorem valid_of_load {text : String} (h : Dataset.load text = .ok d) : d.Valid := by
  unfold load at h
  split at h
  · cases h
  · split at h
    · cases h
    · split at h
      · cases h
      · rename_i checked
        cases h
        exact valid_of_check checked

theorem Valid.withDimension (valid : d.Valid) (name : String) (size : Nat) :
    (d.withDimension name size).Valid := by
  intro v member
  obtain ⟨shape, ok, count⟩ := valid v member
  exact ⟨shape, shapeOf_withDimension ok, count⟩

theorem Valid.withVariable {next : Dataset} {name : String} {dimensions : List String}
    {values : Array Float} (valid : d.Valid)
    (h : d.withVariable name dimensions values = .ok next) : next.Valid := by
  unfold Dataset.withVariable at h
  cases checked : d.checkVariable ⟨name, .double, dimensions, [], values⟩ with
  | error e => simp [checked] at h
  | ok u =>
    simp only [checked, Except.ok.injEq] at h
    subst h
    intro v member
    rcases List.mem_append.mp member with member | member
    · exact valid v member
    · rw [List.mem_singleton] at member
      subst member
      obtain ⟨shape, resolved, product⟩ := checkVariable_eq_ok_iff.mp checked
      exact ⟨shape, resolved, checkedProduct_eq_some product⟩

theorem Valid.withVariableAttribute {next : Dataset} {var : String} {attr : Attribute}
    (valid : d.Valid) (h : d.withVariableAttribute var attr = .ok next) : next.Valid := by
  unfold Dataset.withVariableAttribute at h
  cases attached : attachTo var attr d.vars with
  | none => simp [attached] at h
  | some vars =>
    simp only [attached, Except.ok.injEq] at h
    subst h
    intro w member
    obtain ⟨u, original, names, dims, values⟩ := attachTo_mem attached member
    obtain ⟨shape, ok, count⟩ := valid u original
    refine ⟨shape, (shapeOf_congr names dims).trans ok, ?_⟩
    rw [values]
    exact count

theorem Valid.withGlobal (valid : d.Valid) (attr : Attribute) : (d.withGlobal attr).Valid :=
  fun v member => valid v member

end Dataset

inductive BuildStep where
  | withDimension (name : String) (size : Nat)
  | withVariable (name : String) (dimensions : List String) (values : Array Float)
  | withVariableAttribute (var : String) (attr : Attribute)
  | withGlobal (attr : Attribute)

namespace BuildStep

/-- The dataset after one builder call; a call that fails leaves the dataset as it was. -/
def apply (d : Dataset) : BuildStep → Dataset
  | .withDimension name size => d.withDimension name size
  | .withVariable name dimensions values =>
    match d.withVariable name dimensions values with
    | .ok next => next
    | .error _ => d
  | .withVariableAttribute var attr =>
    match d.withVariableAttribute var attr with
    | .ok next => next
    | .error _ => d
  | .withGlobal attr => d.withGlobal attr

end BuildStep

namespace Dataset

def build (d : Dataset) (steps : List BuildStep) : Dataset := steps.foldl BuildStep.apply d

variable {d : Dataset}

theorem Valid.apply (valid : d.Valid) (step : BuildStep) : (step.apply d).Valid := by
  cases step with
  | withDimension name size => exact valid.withDimension name size
  | withVariable name dimensions values =>
    simp only [BuildStep.apply]
    split
    · rename_i added
      exact valid.withVariable added
    · exact valid
  | withVariableAttribute var attr =>
    simp only [BuildStep.apply]
    split
    · rename_i attached
      exact valid.withVariableAttribute attached
    · exact valid
  | withGlobal attr => exact valid.withGlobal attr

theorem Valid.build (valid : d.Valid) (steps : List BuildStep) : (d.build steps).Valid := by
  induction steps generalizing d with
  | nil => exact valid
  | cons step steps ih => exact ih (valid.apply step)

/-- Builder calls from the empty dataset or a loaded description keep every dataset consistent. -/
theorem built_dataset_consistent (start : d = .empty ∨ ∃ text, Dataset.load text = .ok d)
    (steps : List BuildStep) :
    (d.build steps).Valid ∧
      (∀ name e, (d.build steps).shape name = .error e → e = .variableNotFound name) ∧
      ∀ name shape, (d.build steps).shape name = .ok shape →
        ∃ v, (d.build steps).findVariable name = some v ∧ v.values.size = shapeSize shape := by
  have initial : d.Valid := by
    rcases start with rfl | ⟨text, loaded⟩
    · exact valid_empty
    · exact valid_of_load loaded
  have valid := initial.build steps
  exact ⟨valid, fun name e h => valid.shape_error h, fun name shape h => valid.shape_ok h⟩

def repeatedSteps : List BuildStep :=
  [.withDimension "a" 2, .withDimension "a" 3, .withVariable "v" ["a", "a"] #[0, 1, 2, 3],
    .withVariableAttribute "v" ⟨"units", .text "m"⟩, .withVariable "w" ["b"] #[0]]

theorem built_dataset_consistent_repeated :
    (Dataset.empty = .empty ∨ ∃ text, Dataset.load text = .ok Dataset.empty) ∧
      (Dataset.empty.build repeatedSteps).Valid ∧
      (∀ name e, (Dataset.empty.build repeatedSteps).shape name = .error e →
        e = .variableNotFound name) ∧
      ∀ name shape, (Dataset.empty.build repeatedSteps).shape name = .ok shape →
        ∃ v, (Dataset.empty.build repeatedSteps).findVariable name = some v ∧
          v.values.size = shapeSize shape :=
  ⟨Or.inl rfl, built_dataset_consistent (Or.inl rfl) repeatedSteps⟩

end Dataset

end GridServe

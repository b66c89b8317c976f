import Mathlib
import GridServe.Proofs.Consistency

namespace GridServe

section FirstRefusal

variable {α β ε : Type}

theorem exists_first_cons_iff {P Q : α → Prop} {y : α} {rest : List α} :
    (∃ before x after, y :: rest = before ++ x :: after ∧ (∀ z ∈ before, P z) ∧ Q x) ↔
      Q y ∨ P y ∧ ∃ before x after, rest = before ++ x :: after ∧ (∀ z ∈ before, P z) ∧ Q x := by
  constructor
  · rintro ⟨_ | ⟨b, before⟩, x, after, split, passed, refused⟩
    · obtain ⟨rfl, -⟩ := List.cons.inj split
      exact .inl refused
    · obtain ⟨rfl, tail⟩ := List.cons.inj split
      exact .inr ⟨passed y List.mem_cons_self, before, x, after, tail,
        fun z member => passed z (List.mem_cons_of_mem _ member), refused⟩
  · rintro (refused | ⟨passed, before, x, after, rfl, earlier, refused⟩)
    · exact ⟨[], y, rest, rfl, nofun, refused⟩
    · exact ⟨y :: before, x, after, rfl, List.forall_mem_cons.mpr ⟨passed, earlier⟩, refused⟩

theorem mapM_cons_eq_error_iff {f : α → Except ε β} {y : α} {rest : List α} {e : ε} :
    (y :: rest).mapM f = .error e ↔
      f y = .error e ∨ (∃ r, f y = .ok r) ∧ rest.mapM f = .error e := by
  simp only [List.mapM_cons, Bind.bind, Except.bind]
  cases f y with
  | error e' => simp
  | ok r => cases rest.mapM f <;> simp [Pure.pure, Except.pure]

theorem forM_cons_eq_error_iff {f : α → Except ε Unit} {y : α} {rest : List α} {e : ε} :
    (y :: rest).forM f = .error e ↔ f y = .error e ∨ f y = .ok () ∧ rest.forM f = .error e := by
  simp only [List.forM, Bind.bind, Except.bind]
  cases f y <;> simp

/-- Mapping over a list fails with `e` exactly when some item fails with `e` after every item
before it succeeds. -/
theorem mapM_eq_error_iff {f : α → Except ε β} {items : List α} {e : ε} :
    items.mapM f = .error e ↔
      ∃ before x after, items = before ++ x :: after ∧ (∀ y ∈ before, ∃ r, f y = .ok r) ∧
        f x = .error e := by
  induction items with
  | nil => simp [Pure.pure, Except.pure]
  | cons y rest ih => rw [mapM_cons_eq_error_iff, ih, exists_first_cons_iff]

theorem forM_eq_error_iff {f : α → Except ε Unit} {items : List α} {e : ε} :
    items.forM f = .error e ↔
      ∃ before x after, items = before ++ x :: after ∧ (∀ y ∈ before, f y = .ok ()) ∧
        f x = .error e := by
  induction items with
  | nil => simp [List.forM, Pure.pure, Except.pure]
  | cons y rest ih => rw [forM_cons_eq_error_iff, ih, exists_first_cons_iff]

end FirstRefusal

namespace Dataset

variable {d : Dataset}

def Resolves (d : Dataset) (v : Variable) (shape : List Nat) : Prop :=
  List.Forall₂ (fun name size => (d.dimension? name).map (·.size) = some size) v.dimensions shape

/-- A variable the check accepts: its dimensions resolve, the running products of their sizes
stay below the machine word bound, and it holds as many values as their product. -/
def Passes (d : Dataset) (v : Variable) : Prop :=
  ∃ shape, Resolves d v shape ∧ ProductFits shape ∧ v.values.size = shapeSize shape

inductive Fault (d : Dataset) (v : Variable) : DatasetError → Prop
  | missing (before after : List String) (name : String)
      (split : v.dimensions = before ++ name :: after)
      (found : ∀ n ∈ before, (d.dimension? n).isSome) (absent : d.dimension? name = none) :
      Fault d v (.dimensionNotFound v.name name)
  | overflow (shape : List Nat) (resolves : Resolves d v shape) (passes : ¬ ProductFits shape) :
      Fault d v .productOverflow
  | count (shape : List Nat) (resolves : Resolves d v shape) (fits : ProductFits shape)
      (wrong : v.values.size ≠ shapeSize shape) :
      Fault d v (.valueCount v.name (shapeSize shape) v.values.size)

theorem resolves_iff {v : Variable} {shape : List Nat} :
    Resolves d v shape ↔ d.shapeOf v = .ok shape :=
  shapeOf_eq_ok_iff.symm

theorem shapeOf_eq_error_iff {v : Variable} {e : DatasetError} :
    d.shapeOf v = .error e ↔
      ∃ before name after, v.dimensions = before ++ name :: after ∧
        (∀ n ∈ before, (d.dimension? n).isSome) ∧ d.dimension? name = none ∧
        e = .dimensionNotFound v.name name := by
  unfold shapeOf
  rw [mapM_eq_error_iff]
  constructor
  · rintro ⟨before, name, after, split, resolved, refused⟩
    refine ⟨before, name, after, split, fun n member => ?_, ?_⟩
    · obtain ⟨size, ok⟩ := resolved n member
      cases found : d.dimension? n <;> simp_all
    · cases found : d.dimension? name <;> simp_all
  · rintro ⟨before, name, after, split, resolved, absent, rfl⟩
    refine ⟨before, name, after, split, fun n member => ?_, by simp [absent]⟩
    obtain ⟨dim, found⟩ := Option.isSome_iff_exists.mp (resolved n member)
    exact ⟨dim.size, by simp [found]⟩

theorem checkVariable_eq_ok_iff_passes {v : Variable} :
    d.checkVariable v = .ok () ↔ Passes d v := by
  rw [checkVariable_eq_ok_iff]
  simp only [Passes, resolves_iff, checkedProduct_eq_some_iff]

theorem checkVariable_eq_error_iff {v : Variable} {e : DatasetError} :
    d.checkVariable v = .error e ↔ Fault d v e := by
  constructor
  · intro refused
    unfold checkVariable at refused
    cases resolved : d.shapeOf v with
    | error e' =>
      simp only [resolved, Except.error.injEq] at refused
      subst refused
      obtain ⟨before, name, after, split, found, absent, rfl⟩ := shapeOf_eq_error_iff.mp resolved
      exact .missing before after name split found absent
    | ok shape =>
      cases product : checkedProduct shape with
      | none =>
        simp only [resolved, product, Except.error.injEq] at refused
        subst refused
        exact .overflow shape (resolves_iff.mpr resolved) (checkedProduct_eq_none_iff.mp product)
      | some n =>
        obtain ⟨fits, rfl⟩ := checkedProduct_eq_some_iff.mp product
        by_cases wrong : v.values.size = shapeSize shape
        · simp [resolved, product, wrong] at refused
        · simp only [resolved, product, wrong, if_false, Except.error.injEq] at refused
          subst refused
          exact .count shape (resolves_iff.mpr resolved) fits wrong
  · intro fault
    cases fault with
    | missing before after name split found absent =>
      have refused : d.shapeOf v = .error (.dimensionNotFound v.name name) :=
        shapeOf_eq_error_iff.mpr ⟨before, name, after, split, found, absent, rfl⟩
      simp [checkVariable, refused]
    | overflow shape resolves passes =>
      simp [checkVariable, resolves_iff.mp resolves, checkedProduct_eq_none_iff.mpr passes]
    | count shape resolves fits wrong =>
      simp [checkVariable, resolves_iff.mp resolves, checkedProduct_eq_some_iff.mpr ⟨fits, rfl⟩,
        wrong]

theorem check_eq_ok_iff_passes : d.check = .ok () ↔ ∀ v ∈ d.vars, Passes d v := by
  unfold check
  rw [forM_eq_ok_iff]
  simp only [checkVariable_eq_ok_iff_passes]

theorem check_eq_error_iff {e : DatasetError} :
    d.check = .error e ↔
      ∃ before v after, d.vars = before ++ v :: after ∧ (∀ u ∈ before, Passes d u) ∧
        Fault d v e := by
  unfold check
  rw [forM_eq_error_iff]
  simp only [checkVariable_eq_ok_iff_passes, checkVariable_eq_error_iff]

theorem passes_iff {v : Variable} :
    Passes d v ↔ (∃ shape, d.shapeOf v = .ok shape ∧ v.values.size = shapeSize shape) ∧
      ∀ shape, d.shapeOf v = .ok shape → ProductFits shape := by
  simp only [Passes, resolves_iff]
  constructor
  · rintro ⟨shape, resolved, fits, count⟩
    refine ⟨⟨shape, resolved, count⟩, fun other again => ?_⟩
    rw [resolved, Except.ok.injEq] at again
    exact again ▸ fits
  · rintro ⟨⟨shape, resolved, count⟩, fits⟩
    exact ⟨shape, resolved, fits shape resolved, count⟩

theorem check_eq_ok_iff_valid :
    d.check = .ok () ↔
      d.Valid ∧ ∀ v ∈ d.vars, ∀ shape, d.shapeOf v = .ok shape → ProductFits shape := by
  simp only [check_eq_ok_iff_passes, passes_iff, Valid]
  exact ⟨fun passes => ⟨fun v member => (passes v member).1, fun v member => (passes v member).2⟩,
    fun ⟨valid, fits⟩ v member => ⟨valid v member, fits v member⟩⟩

theorem load_eq_check {text : String} {json : Json} (read : Json.read text = .ok json)
    (parsed : DatasetFormat.dataset json = some d) :
    Dataset.load text = d.check.map fun _ => d := by
  unfold load
  rw [read]
  simp only [parsed]
  cases d.check <;> rfl

theorem withVariable_eq (name : String) (dimensions : List String) (values : Array Float) :
    d.withVariable name dimensions values =
      (d.checkVariable ⟨name, .double, dimensions, [], values⟩).map
        fun _ => { d with vars := d.vars ++ [⟨name, .double, dimensions, [], values⟩] } := by
  simp only [withVariable]
  cases d.checkVariable _ <;> rfl

theorem checkVariable_withVars (vars : List Variable) :
    ({ d with vars } : Dataset).checkVariable = d.checkVariable := rfl

theorem check_append (checked : d.check = .ok ()) (v : Variable) :
    ({ d with vars := d.vars ++ [v] } : Dataset).check = d.checkVariable v := by
  unfold check at checked ⊢
  rw [checkVariable_withVars]
  show (d.vars ++ [v]).forM d.checkVariable = _
  simp only [List.forM_eq_forM] at checked ⊢
  rw [List.forM_append, checked]
  -- What is left runs `ok ()` and then the new variable's check.
  simp only [List.forM_cons, List.forM_nil, bind_pure_unit]
  rfl

theorem withVariable_eq_error_iff {name : String} {dimensions : List String}
    {values : Array Float} {e : DatasetError} :
    d.withVariable name dimensions values = .error e ↔
      Fault d ⟨name, .double, dimensions, [], values⟩ e := by
  rw [withVariable_eq, ← checkVariable_eq_error_iff]
  cases d.checkVariable _ <;> simp [Except.map]

theorem withVariable_eq_ok_iff {name : String} {dimensions : List String}
    {values : Array Float} {next : Dataset} :
    d.withVariable name dimensions values = .ok next ↔
      Passes d ⟨name, .double, dimensions, [], values⟩ ∧
        next = { d with vars := d.vars ++ [⟨name, .double, dimensions, [], values⟩] } := by
  rw [withVariable_eq, ← checkVariable_eq_ok_iff_passes]
  cases d.checkVariable _ <;> simp [Except.map, eq_comm]

/-- The check passes exactly the consistent datasets whose running products all fit, and
otherwise reports the fault of the first variable in order that does not pass. Loading a parsed
dataset answers what its check answers. Adding a double variable reports its fault, or appends it
when it passes; to a dataset that passes, that is what the check of the grown dataset says. -/
theorem check_reports_first_fault (d : Dataset) :
    (d.check = .ok () ↔
        d.Valid ∧ ∀ v ∈ d.vars, ∀ shape, d.shapeOf v = .ok shape → ProductFits shape) ∧
      (∀ e, d.check = .error e ↔
        ∃ before v after, d.vars = before ++ v :: after ∧ (∀ u ∈ before, Passes d u) ∧
          Fault d v e) ∧
      (∀ text json, Json.read text = .ok json → DatasetFormat.dataset json = some d →
        Dataset.load text = d.check.map fun _ => d) ∧
      ∀ name dimensions values,
        let v : Variable := ⟨name, .double, dimensions, [], values⟩
        let grown : Dataset := { d with vars := d.vars ++ [v] }
        (∀ e, d.withVariable name dimensions values = .error e ↔ Fault d v e) ∧
          (∀ next, d.withVariable name dimensions values = .ok next ↔ Passes d v ∧ next = grown) ∧
          (d.check = .ok () → d.withVariable name dimensions values = grown.check.map fun _ => grown) := by
  refine ⟨check_eq_ok_iff_valid, fun e => check_eq_error_iff,
    fun text json read parsed => load_eq_check read parsed, fun name dimensions values => ?_⟩
  refine ⟨fun e => withVariable_eq_error_iff, fun next => withVariable_eq_ok_iff, fun checked => ?_⟩
  rw [withVariable_eq, check_append checked]

/-- A consistent dataset: its one variable has no values and a dimension of size zero, but the
running product of its sizes overflows before it reaches that zero. -/
def overflowBeforeZero : Dataset :=
  ⟨[⟨"a", 2 ^ 40⟩, ⟨"b", 0⟩], [⟨"v", .double, ["a", "a", "b"], [], #[]⟩], []⟩

theorem consistent_dataset_refused :
    overflowBeforeZero.Valid ∧ overflowBeforeZero.check = .error .productOverflow := by
  refine ⟨fun v member => ?_, by decide⟩
  simp only [overflowBeforeZero, List.mem_singleton] at member
  subst member
  exact ⟨[2 ^ 40, 2 ^ 40, 0], rfl, rfl⟩

end Dataset

end GridServe

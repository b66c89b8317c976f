import GridServe.Metadata.Cache

namespace GridServe

namespace MetadataCache

namespace Stage

def holding : Stage → Bool
  | .rechecking | .computing | .storing _ => true
  | _ => false

def pending : Stage → Bool
  | .computing | .storing _ => true
  | _ => false

theorem holding_of_pending {g : Stage} (pending : g.pending) : g.holding := by
  cases g <;> simp_all [Stage.pending, Stage.holding]

end Stage

namespace Caller

/-- The steps of caller `i`, one constructor per case of `Caller.step`. -/
inductive Moves (d : Dataset) (i : Nat) :
    Option Shared → Option Nat → Caller → Action → Option Shared → Option Nat → Caller → Prop
  | checkFound {value : Option Shared} {guard : Option Nat} {c : Caller} {v : Shared}
      (checking : c.stage = .checking) (found : value = some v) :
      Moves d i value guard c .check value guard { c with stage := .returned (.ok v) }
  | checkEmpty {value : Option Shared} {guard : Option Nat} {c : Caller}
      (checking : c.stage = .checking) (empty : value = none) :
      Moves d i value guard c .check value guard { c with stage := .locking }
  | lock {value : Option Shared} {guard : Option Nat} {c : Caller}
      (locking : c.stage = .locking) (free : guard = none) :
      Moves d i value guard c .lock value (some i) { c with stage := .rechecking }
  | recheckFound {value : Option Shared} {guard : Option Nat} {c : Caller} {v : Shared}
      (rechecking : c.stage = .rechecking) (found : value = some v) :
      Moves d i value guard c .recheck value none { c with stage := .returned (.ok v) }
  | recheckEmpty {value : Option Shared} {guard : Option Nat} {c : Caller}
      (rechecking : c.stage = .rechecking) (empty : value = none) :
      Moves d i value guard c .recheck value guard ⟨.computing, .running⟩
  | succeed {value : Option Shared} {guard : Option Nat} {c : Caller}
      (running : c.job = .running) (computing : c.stage = .computing) :
      Moves d i value guard c (.finish (.ok ())) value guard
        ⟨.storing (DatasetMetadata.compute d), .succeeded⟩
  | fail {value : Option Shared} {guard : Option Nat} {c : Caller} {e : ServerError}
      (running : c.job = .running) (computing : c.stage = .computing) :
      Moves d i value guard c (.finish (.error e)) value none ⟨.returned (.error e), .failed⟩
  | succeedAlone {value : Option Shared} {guard : Option Nat} {c : Caller}
      (running : c.job = .running) (away : c.stage ≠ .computing) :
      Moves d i value guard c (.finish (.ok ())) value guard { c with job := .succeeded }
  | failAlone {value : Option Shared} {guard : Option Nat} {c : Caller} {e : ServerError}
      (running : c.job = .running) (away : c.stage ≠ .computing) :
      Moves d i value guard c (.finish (.error e)) value guard { c with job := .failed }
  | store {value : Option Shared} {guard : Option Nat} {c : Caller} {m : DatasetMetadata}
      (storing : c.stage = .storing m) :
      Moves d i value guard c .store (some ⟨i, m⟩) none { c with stage := .returned (.ok ⟨i, m⟩) }
  | cancelWaiting {value : Option Shared} {guard : Option Nat} {c : Caller}
      (waiting : c.stage = .checking ∨ c.stage = .locking) :
      Moves d i value guard c .cancel value guard { c with stage := .cancelled }
  | cancelHolding {value : Option Shared} {guard : Option Nat} {c : Caller}
      (holding : c.stage.holding) :
      Moves d i value guard c .cancel value none { c with stage := .cancelled }

variable {d : Dataset} {i : Nat} {value value' : Option Shared} {guard guard' : Option Nat}
  {c c' : Caller} {a : Action}

theorem moves_of_step (stepped : c.step d value guard i a = some (value', guard', c')) :
    Moves d i value guard c a value' guard' c' := by
  cases a with
  | check =>
    simp only [step] at stepped
    split at stepped
    · next _ _ v checking =>
      cases stepped
      exact .checkFound checking rfl
    · next _ _ checking =>
      cases stepped
      exact .checkEmpty checking rfl
    · cases stepped
  | lock =>
    simp only [step] at stepped
    split at stepped
    · next _ _ locking =>
      cases stepped
      exact .lock locking rfl
    · cases stepped
  | recheck =>
    simp only [step] at stepped
    split at stepped
    · next _ _ v rechecking =>
      cases stepped
      exact .recheckFound rechecking rfl
    · next _ _ rechecking =>
      cases stepped
      exact .recheckEmpty rechecking rfl
    · cases stepped
  | finish outcome =>
    simp only [step] at stepped
    split at stepped
    · next _ _ _ running computing =>
      cases stepped
      exact .succeed running computing
    · next _ _ _ e running computing =>
      cases stepped
      exact .fail running computing
    · next _ _ _ running away =>
      cases stepped
      exact .succeedAlone running away
    · next _ _ _ e running away =>
      cases stepped
      exact .failAlone running away
    · cases stepped
  | store =>
    simp only [step] at stepped
    split at stepped
    · next _ m storing =>
      cases stepped
      exact .store storing
    · cases stepped
  | cancel =>
    simp only [step] at stepped
    split at stepped
    · next _ waiting =>
      cases stepped
      exact .cancelWaiting (.inl waiting)
    · next _ waiting =>
      cases stepped
      exact .cancelWaiting (.inr waiting)
    · next _ holding =>
      cases stepped
      exact .cancelHolding (by simp [holding, Stage.holding])
    · next _ holding =>
      cases stepped
      exact .cancelHolding (by simp [holding, Stage.holding])
    · next _ m holding =>
      cases stepped
      exact .cancelHolding (by simp [holding, Stage.holding])
    · cases stepped

theorem Moves.value_cases (moves : Moves d i value guard c a value' guard' c') :
    value' = value ∨ ∃ m, c.stage = .storing m ∧ value' = some ⟨i, m⟩ := by
  cases moves <;> simp_all

theorem Moves.guard_cases (moves : Moves d i value guard c a value' guard' c') :
    guard' = guard ∨ (guard = none ∧ guard' = some i) ∨ (c.stage.holding ∧ guard' = none) := by
  cases moves <;> simp_all [Stage.holding]

theorem Moves.storing_of_store (moves : Moves d i value guard c a value' guard' c')
    (store : a = .store) : ∃ m, c.stage = .storing m := by
  cases moves <;> simp_all

theorem Moves.value_eq_of_ne_store (moves : Moves d i value guard c a value' guard' c')
    (other : a ≠ .store) : value' = value := by
  cases moves <;> simp_all

theorem Moves.start_of_running (moves : Moves d i value guard c a value' guard' c')
    (idle : c.job ≠ .running) (started : c'.job = .running) :
    c.stage = .rechecking ∧ value = none := by
  cases moves <;> simp_all

theorem Moves.release_of_stop (moves : Moves d i value guard c a value' guard' c')
    (stops : (c.stage = .computing ∧ ∃ err, a = .finish (.error err)) ∨
      (c.stage.pending ∧ a = .cancel)) :
    value' = value ∧ guard' = none := by
  cases moves with
  | cancelWaiting waiting =>
    -- a caller still waiting is neither computing nor storing
    rcases waiting with waiting | waiting <;> simp_all [Stage.pending]
  | _ => simp_all [Stage.pending, Stage.holding]

/-- What holds of a caller in a run without cancellations: its computation runs only while it
waits for it, and has succeeded only for a caller that stores or has stored its metadata. -/
structure Flight (i : Nat) (c : Caller) : Prop where
  running : c.job = .running → c.stage = .computing
  succeeded : c.job = .succeeded →
    (∃ m, c.stage = .storing m) ∨ ∃ m, c.stage = .returned (.ok ⟨i, m⟩)

theorem Flight.moves (flight : Flight i c) (moves : Moves d i value guard c a value' guard' c')
    (kept : a ≠ .cancel) : Flight i c' := by
  obtain ⟨running, succeeded⟩ := flight
  cases moves <;> constructor <;> simp_all

theorem Flight.active (flight : Flight i c) (active : c.job = .running ∨ c.job = .succeeded) :
    c.stage.pending ∨ ∃ m, c.stage = .returned (.ok ⟨i, m⟩) := by
  rcases active with running | succeeded
  · simp [flight.running running, Stage.pending]
  · rcases flight.succeeded succeeded with ⟨m, storing⟩ | returned
    · simp [storing, Stage.pending]
    · exact .inr returned

end Caller

variable {d : Dataset}

theorem step_moves {s t : State} {e : Event} (stepped : step d s e = some t) :
    ∃ c value' guard' c', s.callers[e.caller]? = some c ∧
      Caller.Moves d e.caller s.value s.guard c e.action value' guard' c' ∧
      t = ⟨value', guard', s.callers.set e.caller c'⟩ := by
  unfold step at stepped
  split at stepped
  · cases stepped
  · next c found =>
    obtain ⟨⟨value', guard', c'⟩, moved, rfl⟩ := Option.map_eq_some_iff.mp stepped
    exact ⟨c, value', guard', c', found, Caller.moves_of_step moved, rfl⟩

theorem run_preserves (allowed : Event → Prop) (I : State → Prop)
    (keep : ∀ {s e t}, allowed e → I s → step d s e = some t → I t) {s t : State}
    {events : List Event} (within : ∀ e ∈ events, allowed e) (ran : run d s events = some t)
    (init : I s) : I t := by
  induction events generalizing s with
  | nil =>
    cases ran
    exact init
  | cons e rest ih =>
    obtain ⟨u, stepped, ran⟩ := Option.bind_eq_some_iff.mp ran
    exact ih (fun e mem => within e (List.mem_cons_of_mem _ mem)) ran
      (keep (within e List.mem_cons_self) init stepped)

theorem getElem?_set_cases {callers : List Caller} {j k : Nat} {c c' ck : Caller}
    (found : callers[j]? = some c) (after : (callers.set j c')[k]? = some ck) :
    (k = j ∧ ck = c') ∨ (k ≠ j ∧ callers[k]? = some ck) := by
  have bound : j < callers.length := (List.getElem?_eq_some_iff.mp found).1
  rw [List.getElem?_set] at after
  by_cases same : j = k
  · subst same
    simp_all
  · simp_all [Ne.symm same]

structure Sound (d : Dataset) (s : State) : Prop where
  -- The value, once stored, is the dataset's metadata.
  computed : ∀ v, s.value = some v → v.metadata = DatasetMetadata.compute d
  -- A caller between its guard and its return holds the guard.
  holds : ∀ (i : Nat) (c : Caller), s.callers[i]? = some c → c.stage.holding → s.guard = some i
  -- Nothing is stored while a caller computes or waits to store.
  empty : ∀ (i : Nat) (c : Caller), s.callers[i]? = some c → c.stage.pending → s.value = none
  storingComputed : ∀ (i : Nat) (c : Caller) m, s.callers[i]? = some c → c.stage = .storing m →
    m = DatasetMetadata.compute d
  -- A caller that got the metadata got the stored allocation.
  returnedStored : ∀ (i : Nat) (c : Caller) v, s.callers[i]? = some c →
    c.stage = .returned (.ok v) → s.value = some v

theorem start_caller {n i : Nat} {c : Caller} (found : (start n).callers[i]? = some c) :
    c = ⟨.checking, .idle⟩ := by
  simp only [start, List.getElem?_replicate] at found
  split at found
  · cases found
    rfl
  · cases found

theorem sound_start (d : Dataset) (n : Nat) : Sound d (start n) := by
  -- every caller is about to look, and nothing is stored or held
  constructor
  · simp [start]
  · intro i c found holding
    simp [start_caller found, Stage.holding] at holding
  · intro i c found pending
    simp [start_caller found, Stage.pending] at pending
  · intro i c m found storing
    simp [start_caller found] at storing
  · intro i c v found returned
    simp [start_caller found] at returned

theorem Sound.holder_unique {s : State} (sound : Sound d s) {i j : Nat} {ci cj : Caller}
    (foundI : s.callers[i]? = some ci) (foundJ : s.callers[j]? = some cj)
    (holdingI : ci.stage.holding) (holdingJ : cj.stage.holding) : i = j := by
  have guardI := sound.holds i ci foundI holdingI
  have guardJ := sound.holds j cj foundJ holdingJ
  simpa [guardI] using guardJ

theorem Sound.empty_of_storing {s : State} (sound : Sound d s) {i : Nat} {c : Caller}
    {m : DatasetMetadata} (found : s.callers[i]? = some c) (storing : c.stage = .storing m) :
    s.value = none :=
  sound.empty i c found (by simp [storing, Stage.pending])

section Step

variable {s : State} {j : Nat} {a : Action} {c c' : Caller} {value' : Option Shared}
  {guard' : Option Nat} (sound : Sound d s) (found : s.callers[j]? = some c)
  (moves : Caller.Moves d j s.value s.guard c a value' guard' c')
include sound found moves

theorem Sound.computed_step :
    ∀ v, value' = some v → v.metadata = DatasetMetadata.compute d := by
  intro v stored
  rcases moves.value_cases with same | ⟨m, storing, written⟩
  · exact sound.computed v (same ▸ stored)
  · -- the store writes what the storing caller computed
    rw [written] at stored
    cases stored
    exact sound.storingComputed j c m found storing

theorem Sound.holds_step :
    ∀ (k : Nat) (ck : Caller), (s.callers.set j c')[k]? = some ck → ck.stage.holding →
      guard' = some k := by
  intro k ck after holding
  rcases getElem?_set_cases found after with ⟨rfl, rfl⟩ | ⟨other, before⟩
  · have holds := sound.holds k c found
    cases moves <;> simp_all [Stage.holding]
  · -- the guard moves only from free, or from its holder, and another caller holds it
    have held := sound.holds k ck before holding
    rcases moves.guard_cases with same | ⟨free, -⟩ | ⟨holdingJ, -⟩
    · rw [same, held]
    · simp [held] at free
    · exact absurd (sound.holder_unique found before holdingJ holding) (Ne.symm other)

theorem Sound.empty_step :
    ∀ (k : Nat) (ck : Caller), (s.callers.set j c')[k]? = some ck → ck.stage.pending →
      value' = none := by
  intro k ck after pending
  rcases getElem?_set_cases found after with ⟨rfl, rfl⟩ | ⟨other, before⟩
  · have empty := sound.empty k c found
    cases moves <;> simp_all [Stage.pending]
  · rcases moves.value_cases with same | ⟨m, storing, -⟩
    · exact same ▸ sound.empty k ck before pending
    · -- a store is made by the guard's holder, which the pending caller is
      have holdingJ : c.stage.holding := by simp [storing, Stage.holding]
      exact absurd (sound.holder_unique found before holdingJ (Stage.holding_of_pending pending))
        (Ne.symm other)

theorem Sound.storingComputed_step :
    ∀ (k : Nat) (ck : Caller) m, (s.callers.set j c')[k]? = some ck →
      ck.stage = .storing m → m = DatasetMetadata.compute d := by
  intro k ck m after storing
  rcases getElem?_set_cases found after with ⟨rfl, rfl⟩ | ⟨-, before⟩
  · have storingComputed := sound.storingComputed k c
    cases moves <;> simp_all
  · exact sound.storingComputed k ck m before storing

theorem Sound.returnedStored_step :
    ∀ (k : Nat) (ck : Caller) v, (s.callers.set j c')[k]? = some ck →
      ck.stage = .returned (.ok v) → value' = some v := by
  intro k ck v after returned
  rcases getElem?_set_cases found after with ⟨rfl, rfl⟩ | ⟨-, before⟩
  · have returnedStored := sound.returnedStored k c
    cases moves <;> simp_all
  · have stored := sound.returnedStored k ck v before returned
    rcases moves.value_cases with same | ⟨m, storing, -⟩
    · rw [same, stored]
    · -- a store finds the value empty, so nobody has got it yet
      have empty := sound.empty_of_storing found storing
      simp [empty] at stored

theorem Sound.moved : Sound d ⟨value', guard', s.callers.set j c'⟩ where
  computed := sound.computed_step found moves
  holds := sound.holds_step found moves
  empty := sound.empty_step found moves
  storingComputed := sound.storingComputed_step found moves
  returnedStored := sound.returnedStored_step found moves

end Step

theorem sound_step {s t : State} {e : Event} (sound : Sound d s) (stepped : step d s e = some t) :
    Sound d t := by
  obtain ⟨c, value', guard', c', found, moves, rfl⟩ := step_moves stepped
  exact sound.moved found moves

theorem run_sound {n : Nat} {events : List Event} {s : State}
    (ran : run d (start n) events = some s) : Sound d s :=
  run_preserves (fun _ => True) (Sound d) (fun _ sound stepped => sound_step sound stepped)
    (fun _ _ => trivial) ran (sound_start d n)

theorem Sound.value_kept {s t : State} {e : Event} {v : Shared} (sound : Sound d s)
    (stepped : step d s e = some t) (stored : s.value = some v) : t.value = some v := by
  obtain ⟨c, value', guard', c', found, moves, rfl⟩ := step_moves stepped
  rcases moves.value_cases with same | ⟨m, storing, -⟩
  · exact same.trans stored
  · have empty := sound.empty_of_storing found storing
    simp [empty] at stored

theorem flight_step {s t : State} {e : Event} (kept : e.action ≠ .cancel)
    (flight : ∀ (i : Nat) (c : Caller), s.callers[i]? = some c → Caller.Flight i c)
    (stepped : step d s e = some t) :
    ∀ (i : Nat) (c : Caller), t.callers[i]? = some c → Caller.Flight i c := by
  obtain ⟨c, value', guard', c', found, moves, rfl⟩ := step_moves stepped
  intro k ck after
  rcases getElem?_set_cases found after with ⟨rfl, rfl⟩ | ⟨-, before⟩
  · exact (flight _ c found).moves moves kept
  · exact flight k ck before

/-- Without cancellations, at most one caller's computation is running or has succeeded. -/
theorem Sound.active_unique {s : State} (sound : Sound d s)
    (flight : ∀ (i : Nat) (c : Caller), s.callers[i]? = some c → Caller.Flight i c)
    {i j : Nat} {ci cj : Caller} (foundI : s.callers[i]? = some ci)
    (foundJ : s.callers[j]? = some cj) (activeI : ci.job = .running ∨ ci.job = .succeeded)
    (activeJ : cj.job = .running ∨ cj.job = .succeeded) : i = j := by
  -- each is the guard's holder with nothing stored yet, or the caller whose metadata is stored
  rcases (flight i ci foundI).active activeI with pendingI | ⟨mi, returnedI⟩ <;>
    rcases (flight j cj foundJ).active activeJ with pendingJ | ⟨mj, returnedJ⟩
  · exact sound.holder_unique foundI foundJ (Stage.holding_of_pending pendingI)
      (Stage.holding_of_pending pendingJ)
  · have empty := sound.empty i ci foundI pendingI
    have stored := sound.returnedStored j cj _ foundJ returnedJ
    simp [empty] at stored
  · have empty := sound.empty j cj foundJ pendingJ
    have stored := sound.returnedStored i ci _ foundI returnedI
    simp [empty] at stored
  · have storedI := sound.returnedStored i ci _ foundI returnedI
    have storedJ := sound.returnedStored j cj _ foundJ returnedJ
    rw [storedI] at storedJ
    cases storedJ
    rfl

theorem computes_again {s : State} (empty : s.value = none) (free : s.guard = none) {i : Nat}
    {c : Caller} (found : s.callers[i]? = some c) (checking : c.stage = .checking) :
    ∃ t c', run d s [⟨i, .check⟩, ⟨i, .lock⟩, ⟨i, .recheck⟩] = some t ∧
      t.callers[i]? = some c' ∧ c'.stage = .computing := by
  obtain ⟨bound, rfl⟩ := List.getElem?_eq_some_iff.mp found
  refine ⟨⟨none, some i, s.callers.set i ⟨.computing, .running⟩⟩, ⟨.computing, .running⟩, ?_,
    by simp [bound], rfl⟩
  simp [run, step, Caller.step, checking, empty, free, bound]

theorem Sound.run_value_kept {s t : State} {more : List Event} {v : Shared} (sound : Sound d s)
    (ran : run d s more = some t) (stored : s.value = some v) : t.value = some v :=
  (run_preserves (fun _ => True) (fun u => Sound d u ∧ u.value = some v)
    (fun _ ⟨sound, stored⟩ stepped => ⟨sound_step sound stepped, sound.value_kept stepped stored⟩)
    (fun _ _ => trivial) ran ⟨sound, stored⟩).2

theorem run_flight {n : Nat} {events : List Event} {s : State}
    (kept : ∀ e ∈ events, e.action ≠ .cancel) (ran : run d (start n) events = some s) :
    ∀ (i : Nat) (c : Caller), s.callers[i]? = some c → Caller.Flight i c := by
  refine run_preserves (fun e => e.action ≠ .cancel) _
    (fun kept flight stepped => flight_step kept flight stepped) kept ran ?_
  -- no computation has started yet
  intro i c found
  rw [start_caller found]
  constructor <;> simp

/-- In every interleaving of metadata callers: the value is empty or holds the dataset's
metadata; only a store changes it, every store finds it empty, and once stored it never changes;
a computation starts only at a caller's second look, with the guard held and the value seen empty;
a caller that got the metadata got the stored allocation; a computation that fails, or a caller
cancelled between computing and storing, leaves the value empty and the guard free, and then the
next caller computes; and without cancellations at most one caller's computation is ever running
or has succeeded. -/
theorem metadata_stored_once {d : Dataset} {n : Nat} {events : List Event} {s : State}
    (ran : run d (start n) events = some s) :
    (∀ v, s.value = some v → v.metadata = DatasetMetadata.compute d) ∧
    (∀ e t, step d s e = some t →
      (e.action = .store → s.value = none) ∧ (e.action ≠ .store → t.value = s.value)) ∧
    (∀ more t v, run d s more = some t → s.value = some v → t.value = some v) ∧
    (∀ e t c c', step d s e = some t → s.callers[e.caller]? = some c →
      t.callers[e.caller]? = some c' → c.job ≠ .running → c'.job = .running →
      s.guard = some e.caller ∧ c.stage = .rechecking ∧ s.value = none) ∧
    (∀ (i : Nat) (c : Caller) v, s.callers[i]? = some c → c.stage = .returned (.ok v) →
      s.value = some v) ∧
    (∀ e t c, step d s e = some t → s.callers[e.caller]? = some c →
      (c.stage = .computing ∧ ∃ err, e.action = .finish (.error err)) ∨
        ((c.stage = .computing ∨ ∃ m, c.stage = .storing m) ∧ e.action = .cancel) →
      t.value = none ∧ t.guard = none) ∧
    (s.value = none → s.guard = none → ∀ (i : Nat) (c : Caller), s.callers[i]? = some c →
      c.stage = .checking → ∃ t c', run d s [⟨i, .check⟩, ⟨i, .lock⟩, ⟨i, .recheck⟩] = some t ∧
        t.callers[i]? = some c' ∧ c'.stage = .computing) ∧
    ((∀ e ∈ events, e.action ≠ .cancel) → ∀ (i j : Nat) (ci cj : Caller),
      s.callers[i]? = some ci → s.callers[j]? = some cj →
      (ci.job = .running ∨ ci.job = .succeeded) → (cj.job = .running ∨ cj.job = .succeeded) →
      i = j) := by
  have sound := run_sound ran
  refine ⟨sound.computed, ?_, fun more t v => sound.run_value_kept, ?_, sound.returnedStored,
    ?_, fun empty free i c => computes_again empty free, ?_⟩
  · intro e t stepped
    obtain ⟨c, value', guard', c', found, moves, rfl⟩ := step_moves stepped
    refine ⟨fun store => ?_, moves.value_eq_of_ne_store⟩
    obtain ⟨m, storing⟩ := moves.storing_of_store store
    exact sound.empty_of_storing found storing
  · intro e t c c' stepped before after idle started
    obtain ⟨current, value', guard', updated, found, moves, rfl⟩ := step_moves stepped
    rw [found] at before
    cases before
    have same : c' = updated := by
      rcases getElem?_set_cases found after with ⟨-, same⟩ | ⟨other, -⟩
      · exact same
      · exact absurd rfl other
    subst same
    obtain ⟨rechecking, empty⟩ := moves.start_of_running idle started
    exact ⟨sound.holds _ c found (by simp [rechecking, Stage.holding]), rechecking, empty⟩
  · intro e t c stepped before stops
    obtain ⟨current, value', guard', updated, found, moves, rfl⟩ := step_moves stepped
    rw [found] at before
    cases before
    -- the stopped caller was computing or storing, so nothing was stored yet
    have pending : c.stage.pending := by
      rcases stops with ⟨computing, -⟩ | ⟨computing | ⟨m, storing⟩, -⟩ <;>
        simp [Stage.pending, *]
    have stops : (c.stage = .computing ∧ ∃ err, e.action = .finish (.error err)) ∨
        (c.stage.pending ∧ e.action = .cancel) := stops.imp id fun ⟨_, cancel⟩ => ⟨pending, cancel⟩
    obtain ⟨kept, released⟩ := moves.release_of_stop stops
    exact ⟨kept.trans (sound.empty _ c found pending), released⟩
  · intro kept i j ci cj foundI foundJ activeI activeJ
    exact sound.active_unique (run_flight kept ran) foundI foundJ activeI activeJ

theorem later_caller_gets_first_store :
    ∃ s, run Dataset.empty (start 2) [⟨0, .check⟩, ⟨1, .check⟩, ⟨0, .lock⟩, ⟨0, .recheck⟩,
        ⟨0, .finish (.ok ())⟩, ⟨0, .store⟩, ⟨1, .lock⟩, ⟨1, .recheck⟩] = some s ∧
      ∀ (i : Nat) (c : Caller) v, s.callers[i]? = some c → c.stage = .returned (.ok v) →
        v.owner = 0 := by
  have ran : run Dataset.empty (start 2) [⟨0, .check⟩, ⟨1, .check⟩, ⟨0, .lock⟩, ⟨0, .recheck⟩,
      ⟨0, .finish (.ok ())⟩, ⟨0, .store⟩, ⟨1, .lock⟩, ⟨1, .recheck⟩] = some _ := rfl
  refine ⟨_, ran, fun i c v found returned => ?_⟩
  have stored := (metadata_stored_once ran).2.2.2.2.1 i c v found returned
  have first : v = ⟨0, DatasetMetadata.compute Dataset.empty⟩ :=
    Option.some_inj.mp (stored.symm.trans rfl)
  rw [first]

end MetadataCache

end GridServe

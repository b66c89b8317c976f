import GridServe.Proofs.TaskSteps

namespace GridServe

namespace Tasks

namespace RequestStage

def guarded : RequestStage → Bool
  | .reportWait | .polling | .reading | .closing _ => true
  | _ => false

end RequestStage

namespace RenderStage

def cleans : RenderStage → Bool
  | .running _ | .returned _ | .orphaned => true
  | _ => false

theorem live_of_cleans {r : RenderStage} (cleans : r.cleans) : r.live := by
  cases r <;> simp_all [RenderStage.cleans, RenderStage.live]

end RenderStage

namespace Call

/-- What holds of a call in every run, as long as its renderer keeps the contract. -/
structure Tidy (c : Call) : Prop where
  -- A request still waiting for a permit has no render.
  spawned : c.request = .permitWait → c.render = .idle
  -- Nothing is written before the render starts.
  blank : c.render = .idle ∨ c.render = .queued → c.file = none
  -- The file only ever holds what the script writes.
  scripted : ∀ body, c.file = some body → body ∈ c.script.writes
  -- The render works through its script in order.
  inOrder : ∀ left, c.render = .running left → left <:+ c.script.writes
  -- An existing file still has someone to delete it: the request's guard, or the render.
  owned : c.file.isSome → c.request.guarded ∨ c.render.cleans
  -- A report in the channel was delivered by a render that returned it.
  posted : ∀ r, c.slot = some r → c.render = .delivered ∧ c.script.ending = some r
  -- A render that returned returned what its script says.
  returnedScripted : ∀ r, c.render = .returned r → c.script.ending = some r
  -- Checking and reading come only after a success report.
  reported : c.request = .polling ∨ c.request = .reading →
    c.render = .delivered ∧ c.heard = some (.ok ()) ∧ c.script.ending = some (.ok ())
  -- While reading, the file is what the check found.
  unchanged : c.request = .reading →
    ∃ body, c.found = some body ∧ c.file = some body ∧ body.nonempty
  -- A request answers with contents only after a success report and a check that found them.
  answered : ∀ body,
    c.request = .closing (some (.ok body)) ∨ c.request = .finished (some (.ok body)) →
      c.heard = some (.ok ()) ∧ c.found = some body ∧ body.nonempty ∧
        c.script.ending = some (.ok ())

theorem tidy_fresh (script : RenderScript) : (fresh script).Tidy := by
  constructor <;> simp [fresh]

variable {p : Pipeline} {free free' : Option Nat} {c c' : Call} {a : Action}

theorem spawned_moves (spawned : c.request = .permitWait → c.render = .idle)
    (moves : Moves p free c a free' c') : c'.request = .permitWait → c'.render = .idle := by
  cases moves <;> simp_all

namespace Tidy

variable (tidy : c.Tidy) (moves : Moves p free c a free' c')
include tidy moves

theorem blank_moves : c'.render = .idle ∨ c'.render = .queued → c'.file = none := by
  have spawned := tidy.spawned
  have blank := tidy.blank
  cases moves <;> simp_all

theorem scripted_moves : ∀ body, c'.file = some body → body ∈ c'.script.writes := by
  have scripted := tidy.scripted
  cases moves with
  | write running =>
    -- what is written is the head of what the script has left
    simpa using (tidy.inOrder _ running).subset List.mem_cons_self
  | _ => simp_all

theorem inOrder_moves : ∀ left, c'.render = .running left → left <:+ c'.script.writes := by
  have inOrder := tidy.inOrder
  cases moves with
  | write running => simpa using (List.suffix_cons _ _).trans (inOrder _ running)
  | _ => simp_all

theorem owned_moves (contract : c.script.Contract) :
    c'.file.isSome → c'.request.guarded ∨ c'.render.cleans := by
  have spawned := tidy.spawned
  have blank := tidy.blank
  have scripted := tidy.scripted
  have owned := tidy.owned
  -- a request that stops waiting has no file yet, a render dropped unrun or panicking has written
  -- nothing, and every other move hands the file from the guard to the render or back
  cases moves <;> simp_all [RequestStage.guarded, RenderStage.cleans, RenderScript.Contract,
    Option.isSome_iff_exists]

theorem posted_moves :
    ∀ r, c'.slot = some r → c'.render = .delivered ∧ c'.script.ending = some r := by
  have spawned := tidy.spawned
  have posted := tidy.posted
  have returnedScripted := tidy.returnedScripted
  cases moves <;> simp_all

theorem returnedScripted_moves : ∀ r, c'.render = .returned r → c'.script.ending = some r := by
  have returnedScripted := tidy.returnedScripted
  cases moves <;> simp_all

theorem reported_moves : c'.request = .polling ∨ c'.request = .reading →
    c'.render = .delivered ∧ c'.heard = some (.ok ()) ∧ c'.script.ending = some (.ok ()) := by
  have posted := tidy.posted
  have reported := tidy.reported
  cases moves <;> simp_all

theorem unchanged_moves : c'.request = .reading →
    ∃ body, c'.found = some body ∧ c'.file = some body ∧ body.nonempty := by
  have reported := tidy.reported
  have unchanged := tidy.unchanged
  cases moves <;> simp_all

theorem answered_moves : ∀ body,
    c'.request = .closing (some (.ok body)) ∨ c'.request = .finished (some (.ok body)) →
      c'.heard = some (.ok ()) ∧ c'.found = some body ∧ body.nonempty ∧
        c'.script.ending = some (.ok ()) := by
  have answered := tidy.answered
  cases moves with
  | read reading present =>
    -- the contents answered are those the check found
    obtain ⟨body, found, file, nonempty⟩ := tidy.unchanged reading
    obtain ⟨-, heard, ending⟩ := tidy.reported (.inr reading)
    simp_all
  -- the render's own steps leave the request's side alone
  | start _ | discard _ | write _ | finishReturn _ _ | finishPanic _ _ | deliver _ _ | orphan _ _
    | remove _ => exact answered
  | _ => simp_all

end Tidy

theorem Tidy.moves (contract : c.script.Contract) (tidy : c.Tidy)
    (moves : Moves p free c a free' c') : c'.Tidy where
  spawned := spawned_moves tidy.spawned moves
  blank := tidy.blank_moves moves
  scripted := tidy.scripted_moves moves
  inOrder := tidy.inOrder_moves moves
  owned := tidy.owned_moves moves contract
  posted := tidy.posted_moves moves
  returnedScripted := tidy.returnedScripted_moves moves
  reported := tidy.reported_moves moves
  unchanged := tidy.unchanged_moves moves
  answered := tidy.answered_moves moves

end Call

theorem run_tidy {p : Pipeline} {limit : Option Nat} {scripts : List RenderScript}
    {events : List Event} {s : State} (ran : run p (start limit scripts) events = some s) :
    ∀ c ∈ s.calls, c.script.Contract → c.Tidy := by
  refine run_forall_calls (fun c => c.script.Contract → c.Tidy) (fun before moves => ?_) ran ?_
  · intro contract
    rw [moves.script_eq] at contract
    exact (before contract).moves contract moves
  · intro c fresh _
    obtain ⟨script, -, rfl⟩ := List.mem_map.mp fresh
    exact Call.tidy_fresh script

/-- In every interleaving, a call whose renderer writes only on its way to returning leaves no
file once its request has finished and its render is over; and its request answers with contents
only after the render reported success over the channel and a check found those contents in a file
that was not empty. -/
theorem finished_call_cleaned_and_checked {p : Pipeline} {limit : Option Nat}
    {scripts : List RenderScript} {events : List Event} {s : State}
    (ran : run p (start limit scripts) events = some s) :
    ∀ c ∈ s.calls, c.script.Contract →
      ((∃ result, c.request = .finished result) → c.render.live = false → c.file = none) ∧
      (∀ body, c.request = .finished (some (.ok body)) →
        c.heard = some (.ok ()) ∧ c.found = some body ∧ body.nonempty ∧
          c.script.ending = some (.ok ())) := by
  intro c mem contract
  have tidy := run_tidy ran c mem contract
  constructor
  · rintro ⟨result, finished⟩ ended
    -- a file left behind would still be owned by the guard or by the render
    cases file : c.file with
    | none => rfl
    | some body =>
      rcases tidy.owned (by simp [file]) with guarded | cleans
      · simp [finished, RequestStage.guarded] at guarded
      · simp [RenderStage.live_of_cleans cleans] at ended
  · intro body finished
    exact tidy.answered body (.inr finished)

theorem rendered_request_cleaned_and_checked :
    ∃ s, run ⟨300, 10, true, .heatmap 10, "image_"⟩
        (start (some 1) [⟨[.bytes [1, 2]], some (.ok ())⟩])
        ([.acquire, .start, .write, .finish, .send, .receive, .check, .read, .cleanUp].map
          (Event.mk 0)) = some s ∧
      ∀ c ∈ s.calls, c.file = none ∧ c.found = some (.bytes [1, 2]) := by
  have ran : run ⟨300, 10, true, .heatmap 10, "image_"⟩
      (start (some 1) [⟨[.bytes [1, 2]], some (.ok ())⟩])
      ([.acquire, .start, .write, .finish, .send, .receive, .check, .read, .cleanUp].map
        (Event.mk 0)) = some _ := rfl
  refine ⟨_, ran, fun c mem => ?_⟩
  have contract : c.script.Contract := by
    rw [List.mem_singleton.mp mem]
    intro panics
    cases panics
  have guarantees := finished_call_cleaned_and_checked ran c mem contract
  obtain rfl := List.mem_singleton.mp mem
  exact ⟨guarantees.1 ⟨_, rfl⟩ rfl, (guarantees.2 _ rfl).2.1⟩

end Tasks

end GridServe

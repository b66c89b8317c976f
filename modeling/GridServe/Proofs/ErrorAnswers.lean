import Mathlib
import GridServe.Error.Server

namespace GridServe

theorem dedupConsecutive_eq_destutter (causes : List String) :
    dedupConsecutive causes = causes.destutter (· ≠ ·) := by
  fun_induction dedupConsecutive causes with
  | case1 => rfl
  | case2 x => rfl
  | case3 x rest ih =>
    -- the repeat is dropped and the walk goes on from its first copy
    rw [ih, List.destutter_cons', List.destutter_cons', List.destutter'_cons]
    simp
  | case4 x y rest differ ih =>
    rw [ih, List.destutter_cons', List.destutter_cons', List.destutter'_cons]
    simp [differ]

namespace ErrorResponse

theorem gather_eq (causes : Option (List String)) (sources : List String) :
    gather causes sources = if sources = [] then causes else some (causes.getD [] ++ sources) := by
  induction sources generalizing causes with
  | nil => rfl
  | cons source rest ih =>
    rw [gather, ih]
    cases rest <;> simp

/-- Starting from no causes, an error without sources gets no list of causes at all, never an
empty one. -/
theorem gather_none (sources : List String) :
    gather none sources = if sources = [] then none else some sources := by
  simp [gather_eq]

theorem causedBy_new (status : Nat) (text : String) (sources : List String) :
    (new status text sources).causedBy =
      if sources = [] then none else some (sources.destutter (· ≠ ·)) := by
  by_cases empty : sources = [] <;>
    simp [new, gather_none, empty, dedupConsecutive_eq_destutter]

theorem field?_json_error (r : ErrorResponse) : r.json.field? "error" = some (.string r.error) := by
  cases h : r.causedBy <;> simp [json, h, Json.field?, Json.lookupLast]

theorem field?_json_causedBy (r : ErrorResponse) :
    r.json.field? "caused_by" = r.causedBy.map fun causes => .array (causes.map .string) := by
  cases h : r.causedBy <;> simp [json, h, Json.field?, Json.lookupLast]

end ErrorResponse

namespace ServerError

theorem status_eq (e : ServerError) :
    e.response.status = if e.kindName ∈ ["MissingParameters", "MalformedParameter",
      "UnknownParameter", "IndexOutOfRange", "EmptyDimension", "QueryNotPermitted"] then 400
      else 500 := by
  cases e <;> simp [response, ErrorResponse.new, isBadRequest, kindName]

theorem causedBy_response (e : ServerError) :
    e.response.causedBy = if e.causes = [] then none else some (e.causes.destutter (· ≠ ·)) :=
  ErrorResponse.causedBy_new _ e.message e.causes

theorem caused_by_nonempty_iff (e : ServerError) :
    (∃ causes, e.body.field? "caused_by" = some (.array causes) ∧ causes ≠ []) ↔ e.causes ≠ [] := by
  rw [body, ErrorResponse.field?_json_causedBy, causedBy_response]
  by_cases empty : e.causes = [] <;> simp [empty]

/-- An error answer reports the error's own text, lists the texts of its chain of sources in
order with only consecutive repeats dropped, carries that list exactly when the error has a
source, and is a bad request exactly for the mistakes of a request. -/
theorem response_reports_source_chain (e : ServerError) :
    e.response.error = e.message ∧
    e.response.causedBy = (if e.causes = [] then none else some (e.causes.destutter (· ≠ ·))) ∧
    e.body.field? "error" = some (.string e.message) ∧
    ((∃ causes, e.body.field? "caused_by" = some (.array causes) ∧ causes ≠ []) ↔
      e.causes ≠ []) ∧
    e.response.status = if e.kindName ∈ ["MissingParameters", "MalformedParameter",
      "UnknownParameter", "IndexOutOfRange", "EmptyDimension", "QueryNotPermitted"] then 400
      else 500 :=
  ⟨rfl, causedBy_response e, ErrorResponse.field?_json_error e.response,
    caused_by_nonempty_iff e, status_eq e⟩

example : (renderFailed (.io (.custom .other "failed to write image"))).response =
    ⟨500, "failed to render image", some ["failed to write image"]⟩ := by decide

end ServerError

end GridServe

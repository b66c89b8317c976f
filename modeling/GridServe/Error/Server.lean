import GridServe.Dataset.Error
import GridServe.Heatmap.Render
import GridServe.Query.Index
import GridServe.Json.Writer

/-!
Errors answered to clients. Each has a text, a chain of cause texts and a status: request
mistakes are 400, everything else 500. The answer gathers the texts of the chain of sources,
starting its list of causes at the first source met, and drops consecutive repeats from it. Its
body is `{"error": text, "caused_by": causes}`, the field left out when the error has no source.

Spans of time as the server reports them: whole seconds and nanoseconds below a second, shown in
the largest of `s`, `ms`, `µs` and `ns` whose count is at least one, with the fraction's trailing
zeros dropped; zero is `0ns`.
-/

namespace GridServe

/-- A span of `secs` seconds and `nanos` nanoseconds, `nanos < 10 ^ 9`. -/
structure Duration where
  secs : Nat
  nanos : Nat
  deriving Repr, DecidableEq, Inhabited

namespace Duration

def ofMillis (ms : Nat) : Duration := ⟨ms / 1000, ms % 1000 * 1000000⟩

def ofParts (secs nanos : Nat) : Duration := ⟨secs + nanos / 1000000000, nanos % 1000000000⟩

def toNanos (d : Duration) : Nat := d.secs * 1000000000 + d.nanos

def fractionDigits (frac divisor : Nat) : Nat → List Char
  | 0 => []
  | fuel + 1 =>
    if frac = 0 ∨ divisor = 0 then []
    else Char.ofNat (0x30 + frac / divisor) :: fractionDigits (frac % divisor) (divisor / 10) fuel

def decimalText (whole frac divisor : Nat) (unit : String) : String :=
  let digits := fractionDigits frac divisor 10
  toString whole ++ (if digits.isEmpty then "" else "." ++ String.ofList digits) ++ unit

def text (d : Duration) : String :=
  if d.secs > 0 then decimalText d.secs d.nanos 100000000 "s"
  else if d.nanos ≥ 1000000 then decimalText (d.nanos / 1000000) (d.nanos % 1000000) 100000 "ms"
  else if d.nanos ≥ 1000 then decimalText (d.nanos / 1000) (d.nanos % 1000) 100 "µs"
  else decimalText d.nanos 0 1 "ns"

end Duration

inductive ServerError where
  | missingParameters
  | malformedParameter (name value : String) (cause : IndexError)
  | unknownParameter (name : String)
  | indexOutOfRange (dimension : String) (max : Nat)
  | emptyDimension (dimension : String)
  | queryNotPermitted
  | dimensionNotFound (dimension : String)
  | extractionFailure (cause : DatasetError)
  | metadataFailure (cause : DatasetError)
  | emptyGrid
  | renderFailed (cause : RenderError)
  | renderTimeout (after : Duration)
  | artifactUnreadable (cause : IoError)
  /-- A blocking task panicked or was cancelled; the runtime's text for that is the cause. -/
  | taskJoin (cause : String)
  | taskPanicked
  | semaphoreAcquireError
  deriving Repr

namespace ServerError

def kindName : ServerError → String
  | .missingParameters => "MissingParameters"
  | .malformedParameter .. => "MalformedParameter"
  | .unknownParameter _ => "UnknownParameter"
  | .indexOutOfRange .. => "IndexOutOfRange"
  | .emptyDimension _ => "EmptyDimension"
  | .queryNotPermitted => "QueryNotPermitted"
  | .dimensionNotFound _ => "DimensionNotFound"
  | .extractionFailure _ => "ExtractionFailure"
  | .metadataFailure _ => "MetadataFailure"
  | .emptyGrid => "EmptyGrid"
  | .renderFailed _ => "RenderFailed"
  | .renderTimeout _ => "RenderTimeout"
  | .artifactUnreadable _ => "ArtifactUnreadable"
  | .taskJoin _ => "TaskJoin"
  | .taskPanicked => "TaskPanicked"
  | .semaphoreAcquireError => "SemaphoreAcquireError"

def message : ServerError → String
  | .missingParameters => "Missing required parameters: time and z."
  | .malformedParameter name value _ => "Invalid value for parameter " ++ name ++ ": " ++ value ++ "."
  | .unknownParameter name => "Invalid parameter: " ++ name ++ "."
  | .indexOutOfRange dimension max =>
    dimension ++ " index out of range - Cannot exceed " ++ toString max ++ "."
  | .emptyDimension dimension => dimension ++ " index out of range - dimension is empty."
  | .queryNotPermitted => "Query parameters are not accepted. Remove them and try again."
  | .dimensionNotFound dimension => "dimension " ++ dimension ++ " not found in dataset"
  | .extractionFailure _ => "failed to extract slice"
  | .metadataFailure _ => "failed to read dataset metadata"
  | .emptyGrid => "Grid data is empty."
  | .renderFailed _ => "failed to render image"
  | .renderTimeout after => "rendered image not ready after " ++ after.text
  | .artifactUnreadable _ => "failed to read rendered image"
  | .taskJoin _ => "background task failed"
  | .taskPanicked => "background task panicked"
  | .semaphoreAcquireError => "error acquiring resources"

def causes : ServerError → List String
  | .malformedParameter _ _ cause => [cause.message]
  | .extractionFailure cause => cause.message :: cause.causes
  | .metadataFailure cause => cause.message :: cause.causes
  | .renderFailed cause => cause.message :: cause.causes
  | .artifactUnreadable cause => [cause.message]
  | .taskJoin cause => [cause]
  | .semaphoreAcquireError => ["semaphore closed"]
  | _ => []

def isBadRequest : ServerError → Bool
  | .missingParameters | .malformedParameter .. | .unknownParameter _ | .indexOutOfRange ..
  | .emptyDimension _ | .queryNotPermitted => true
  | _ => false

end ServerError

def dedupConsecutive : List String → List String
  | [] => []
  | [x] => [x]
  | x :: y :: rest => if x = y then dedupConsecutive (y :: rest) else x :: dedupConsecutive (y :: rest)

/-- An error answer: its status, the error's text and the texts of its causes, absent when
the error has no source. -/
structure ErrorResponse where
  status : Nat
  error : String
  causedBy : Option (List String)
  deriving Repr, DecidableEq

namespace ErrorResponse

/-- Walk a chain of sources, nearest first, adding each text to the causes gathered so far; the
list of causes is started by the first source met. -/
def gather (causes : Option (List String)) : List String → Option (List String)
  | [] => causes
  | source :: rest => gather (some (causes.getD [] ++ [source])) rest

/-- The answer with `status` to an error with text `text` whose chain of sources has the texts
`sources`: consecutive repeats among the causes are dropped. -/
def new (status : Nat) (text : String) (sources : List String) : ErrorResponse :=
  ⟨status, text, (gather none sources).map dedupConsecutive⟩

def json (r : ErrorResponse) : Json :=
  .object ([("error", .string r.error)] ++
    match r.causedBy with
    | none => []
    | some causes => [("caused_by", .array (causes.map .string))])

end ErrorResponse

namespace ServerError

/-- The answer to an error: a bad request for a request mistake, an internal server error for
anything else. -/
def response (e : ServerError) : ErrorResponse :=
  ErrorResponse.new (if e.isBadRequest then 400 else 500) e.message e.causes

def status (e : ServerError) : Nat := e.response.status

def body (e : ServerError) : Json := e.response.json

end ServerError

end GridServe

import GridServe.Http.Target
import GridServe.Options.Basic
import GridServe.Metadata.Basic
import GridServe.Slice
import GridServe.Dataset.Format
import GridServe.NameMap
import GridServe.Artifact.Pipeline

/-!
The HTTP service. Four routes answer `GET` (and `HEAD`, which drops the body): `/get-info` the
dataset's description, `/get-data` a slice as JSON, `/get-image` a slice as a heatmap, and
`/metrics` the counters. Any other method on these paths is 405 and any other path is 404, both
with an empty body. Every response says it must not be cached. Errors are answered with their
status and a JSON body.

Requests are served one after another; the state carries the counters from one to the next.

The server's counters: requests by method (counted when they arrive), responses by status and
in total (counted once they are sent), and image renders by outcome. A sample exists once its
counter has been raised.
-/

namespace GridServe

structure Counters where
  requests : NameMap Nat := NameMap.empty
  responses : NameMap Nat := NameMap.empty
  responseCount : Nat := 0
  artifacts : NameMap Nat := NameMap.empty
  deriving Inhabited

namespace Counters

def bump (m : NameMap Nat) (key : String) : NameMap Nat := m.insert key ((m.get? key).getD 0 + 1)

def countRequest (c : Counters) (method : String) : Counters :=
  { c with requests := bump c.requests method }

def countResponse (c : Counters) (status : Nat) : Counters :=
  { c with responses := bump c.responses (toString status), responseCount := c.responseCount + 1 }

def countArtifact (c : Counters) (outcome : ArtifactOutcome) : Counters :=
  { c with artifacts := bump c.artifacts outcome.label }

def sampleName (metric label value : String) : String :=
  metric ++ "\x7b" ++ label ++ "=\"" ++ value ++ "\"\x7d"

def samples (c : Counters) : List (String × Nat) :=
  c.requests.entries.map (fun (k, n) => (sampleName "incoming_requests" "http_method" k, n)) ++
  c.responses.entries.map (fun (k, n) => (sampleName "outgoing_response" "status_code" k, n)) ++
  (if c.responseCount = 0 then [] else [("response_time_count", c.responseCount)]) ++
  c.artifacts.entries.map (fun (k, n) => (sampleName "artifacts" "outcome" k, n))

end Counters

/-!
Request methods. The nine standard methods are recognised by their upper-case names; any other
non-empty name made of token characters is an extension method, compared exactly.
-/

inductive Method where
  | get
  | head
  | post
  | put
  | delete
  | options
  | connect
  | patch
  | trace
  | extension (name : String)
  deriving Repr, DecidableEq

namespace Method

def tokenChar (c : Char) : Bool :=
  c.isAlphanum ||
    [0x21, 0x23, 0x24, 0x25, 0x26, 0x27, 0x2A, 0x2B, 0x2D, 0x2E, 0x5E, 0x5F, 0x60, 0x7C,
      0x7E].contains c.toNat

def standard : List (String × Method) :=
  [("GET", .get), ("HEAD", .head), ("POST", .post), ("PUT", .put), ("DELETE", .delete),
    ("OPTIONS", .options), ("CONNECT", .connect), ("PATCH", .patch), ("TRACE", .trace)]

def parse (name : String) : Option Method :=
  match standard.lookup name with
  | some m => some m
  | none =>
    if name.isEmpty || !name.toList.all tokenChar then none else some (.extension name)

def name : Method → String
  | .extension n => n
  | m => ((standard.find? fun (_, m') => m' == m).map (·.1)).getD ""

def label (m : Method) : String := m.name.toUpper

end Method

structure Request where
  method : Method
  target : Target
  deriving Repr

inductive Body where
  | empty
  | json (value : Json)
  | artifact (body : ArtifactBody)
  | metrics (samples : List (String × Nat))

structure Response where
  status : Nat
  contentType : Option String
  cacheControl : Option String
  body : Body

namespace Response

def jsonType : String := "application/json"

def ok (v : Json) : Response := ⟨200, some jsonType, none, .json v⟩

def ofError (e : ServerError) : Response := ⟨e.status, some jsonType, none, .json e.body⟩

def bare (status : Nat) : Response := ⟨status, none, none, .empty⟩

def withoutBody (r : Response) : Response := { r with body := .empty }

end Response

structure ServiceConfig where
  options : Options
  renderer : Renderer := .heatmap Heatmap.defaultCellSize

structure ServiceState where
  counters : Counters := {}
  /-- The files in the image directory. Each request removes the file it renders before it
  answers, so requests leave this as they find it. -/
  artifactFiles : List String := []
  deriving Inhabited

namespace Service

def noStore : String := "no-cache, no-store"

def sliceVariables (o : Options) : SliceVariables := ⟨o.fieldVariable, o.xVariable, o.yVariable⟩

/-- The image pipeline a configuration sets up. Without a render limit there is one permit per
processor, and there is always at least one processor. -/
def pipeline (cfg : ServiceConfig) : Pipeline :=
  ⟨cfg.options.renderTimeoutMs, cfg.options.renderPollIntervalMs,
    (cfg.options.renderLimit.getD 1) > 0, cfg.renderer, cfg.options.artifactPrefix⟩

def slice (cfg : ServiceConfig) (d : Dataset) (query : Option String) : Except ServerError Slice :=
  match SliceRequest.validate (FormQuery.parse query) d cfg.options.timeDimension
      cfg.options.zDimension with
  | .error e => .error e
  | .ok req => Slice.extract d (sliceVariables cfg.options) req

def getInfo (d : Dataset) (query : Option String) : Response :=
  match query with
  | some _ => Response.ofError .queryNotPermitted
  | none => Response.ok (DatasetMetadata.compute d).toJson

def getData (cfg : ServiceConfig) (d : Dataset) (query : Option String) : Response :=
  match slice cfg d query with
  | .error e => Response.ofError e
  | .ok s => Response.ok s.toJson

def getImage (cfg : ServiceConfig) (d : Dataset) (st : ServiceState) (query : Option String) :
    Response × ServiceState :=
  match slice cfg d query with
  | .error e => (Response.ofError e, st)
  | .ok s =>
    let (result, outcome) := (pipeline cfg).produce s.field
    let st := match outcome with
      | some o => { st with counters := st.counters.countArtifact o }
      | none => st
    match result with
    | .error e => (Response.ofError e, st)
    | .ok body => (⟨200, some "image/png", none, .artifact body⟩, st)

def routes : List String := ["/get-info", "/get-data", "/get-image", "/metrics"]

def dispatch (cfg : ServiceConfig) (d : Dataset) (st : ServiceState) (path : String)
    (query : Option String) : Response × ServiceState :=
  if path = "/get-info" then (getInfo d query, st)
  else if path = "/get-data" then (getData cfg d query, st)
  else if path = "/get-image" then getImage cfg d st query
  else (⟨200, some "text/plain; charset=utf-8", none, .metrics st.counters.samples⟩, st)

def handle (cfg : ServiceConfig) (d : Dataset) (st : ServiceState) (req : Request) :
    Response × ServiceState :=
  let st := { st with counters := st.counters.countRequest req.method.label }
  let target := req.target.normalize
  let (resp, st) :=
    if routes.contains target.path then
      match req.method with
      | .get => dispatch cfg d st target.path target.query
      | .head =>
        let (resp, st) := dispatch cfg d st target.path target.query
        (resp.withoutBody, st)
      | _ => (Response.bare 405, st)
    else (Response.bare 404, st)
  let resp := { resp with cacheControl := some noStore }
  (resp, { st with counters := st.counters.countResponse resp.status })

end Service

end GridServe

import GridServe.Options.Parse
import GridServe.Options.Basic
import GridServe.Artifact.Sweep
import GridServe.Startup.Address
import GridServe.Startup.Log
import GridServe.Startup.Tls
import GridServe.Dataset.Format
import GridServe.Startup.Files

/-!
Starting the server. In order: read the settings (a request for help ends the run with code 0
and the help text on standard output, a refused command line with code 2 and a message on
standard error); log them; unless told not to, sweep the image
directory; open the dataset; read the listening address; for HTTPS, find and load the
certificate and key; announce the address; listen on it; then serve until a termination
signal, which ends the run with code 0. Any failure after the settings are read is logged and ends the run with
code 1, but a dataset whose sizes overflow the check's multiplication panics and ends it with
code 101. Log lines pass through the filter of the `RUST_LOG` setting; a filter directive that
cannot be cut where its reading asks stops the run before anything is logged, with code 101.

Opening a dataset by path. A path whose last part has the extension `json`, in any case, is a
dataset description, read and checked; no other format can be read. The extension is what
follows the last `.` of the last part, unless that `.` starts the name.
-/

namespace GridServe

namespace DatasetPath

def extension (path : String) : Option String :=
  match ((path.splitOn "/").filter fun p => p != "" && p != ".").getLast? with
  | none => none
  | some ".." => none
  | some name =>
    let cs := name.toList
    match cs.reverse.idxOf? '.' with
    | none => none
    | some k =>
      let dot := cs.length - 1 - k
      if dot = 0 then none else some (String.ofList (cs.drop (dot + 1)))

def isJson (path : String) : Bool :=
  match extension path with
  | some ext => ext.toLower == "json"
  | none => false

end DatasetPath

namespace Dataset

/-- Open the dataset at a path of the tree. A directory opens but reads as no description. -/
def openAt (t : FileTree) (path : String) : Except DatasetError Dataset :=
  if DatasetPath.isJson path then
    match t.readFile path with
    | .error e => .error (.io e)
    | .ok none => .error (.json readerRefusal)
    | .ok (some text) => Dataset.load text
  else .error (.unsupportedFormat path)

end Dataset

structure Launch where
  args : List String
  env : List (String × String)
  files : FileTree

structure RunResult where
  exitCode : Nat
  log : List LogLine
  stdout : String := ""
  stderr : String := ""
  files : FileTree

namespace Startup

structure Progress where
  log : List LogLine := []
  files : FileTree

def emit (p : Progress) (level : Level) (target message : String) : Progress :=
  { p with log := p.log ++ [⟨level, target, message⟩] }

def finish (p : Progress) (code : Nat) : RunResult := { exitCode := code, log := p.log, files := p.files }

def serverTarget : String := "ncserve::server"

def sweep (o : Options) (p : Progress) : Progress :=
  match Sweep.tree p.files o.artifactDir o.artifactPrefix with
  | .ok (n, files) =>
    emit { p with files } .info "ncserve"
      ("Removed " ++ toString n ++ " orphaned artifacts from " ++ o.artifactDir)
  | .error e =>
    emit p .warn "ncserve" ("Failed to sweep artifacts in " ++ o.artifactDir ++ ": " ++ e.message)

def tlsFile (home : String) (p : Progress) (path description : String) : Except String String :=
  match Tls.expandHome home path with
  | .error user =>
    .error ("Failed to expand ~ in " ++ description ++ " path " ++ path ++ ": user '" ++ user ++
      "', does not exist. Please provide an absolute path instead.")
  | .ok expanded =>
    if p.files.pathExists expanded then .ok expanded
    else .error ("TLS " ++ description ++ " file expected at '" ++ expanded ++ "' but not found.")

def loadTls (p : Progress) (cert key : String) : Except String Unit :=
  let read : String → Except String String := fun path =>
    match p.files.readFile path with
    | .ok (some text) => .ok text
    | .ok none => .error IoError.isADirectory.message
    | .error e => .error e.message
  match read cert with
  | .error e => .error ("Failed to load TLS certificate files: " ++ e)
  | .ok certText =>
    match read key with
    | .error e => .error ("Failed to load TLS certificate files: " ++ e)
    | .ok keyText =>
      match Tls.checkPair certText keyText with
      | .ok () => .ok ()
      | .error e => .error ("Failed to load TLS certificate files: " ++ e)

def serve (o : Options) (home : String) (p : Progress) : RunResult :=
  match SocketAddress.parse (o.host ++ ":" ++ toString o.listenOn) with
  | none =>
    finish (emit p .error serverTarget
      "Invalid host name, IP address or port number: invalid socket address syntax") 1
  | some addr =>
    let tls : Except String Unit :=
      if o.https then
        match tlsFile home p o.certFile "certificate" with
        | .error e => .error e
        | .ok cert =>
          match tlsFile home p o.keyFile "key" with
          | .error e => .error e
          | .ok key => loadTls p cert key
      else .ok ()
    match tls with
    | .error e => finish (emit p .error serverTarget e) 1
    | .ok () =>
      let scheme := if o.https then "https://" else "http://"
      let p := emit p .info serverTarget ("Listening on " ++ scheme ++ addr.text)
      match addr.bindError with
      | some e => finish (emit p .error serverTarget ("Server error: " ++ e.message)) 1
      | none => finish (emit p .info serverTarget "Signal received, starting graceful shutdown") 0

def afterOptions (o : Options) (home : String) (files : FileTree) : RunResult :=
  let p : Progress := emit { files } .debug "ncserve" o.debugText
  let p := if o.sweepArtifacts then sweep o p else p
  let p := if DatasetPath.isJson o.dataset then
    emit p .info "ncserve::dataset" ("Loading JSON dataset " ++ o.dataset) else p
  match Dataset.openAt p.files o.dataset with
  | .error .productOverflow =>
    -- The check's overflowing multiplication panics in the main thread.
    { finish p 101 with
      stderr := "thread 'main' panicked:\n" ++ DatasetError.productOverflow.message ++
        "\nnote: run with `RUST_BACKTRACE=1` environment variable to display a backtrace\n" }
  | .error e => finish (emit p .error "ncserve" ("Failed to open dataset " ++ o.dataset ++ ": " ++ e.message)) 1
  | .ok _ => serve o home p

/-- The home directory: the `HOME` setting when it is not empty, else the home of the account
the server runs as, `/root`. -/
def home (env : List (String × String)) : String :=
  match env.lookup "HOME" with
  | some h => if h.isEmpty then "/root" else h
  | none => "/root"

def run (l : Launch) : RunResult :=
  match Options.parse l.args l.env with
  | .error .help => { exitCode := 0, log := [], stdout := Options.helpText l.env, files := l.files }
  | .error e => { exitCode := 2, log := [], stderr := e.render, files := l.files }
  | .ok o =>
    match LogFilter.ofSetting (l.env.lookup "RUST_LOG") with
    | .error f => { exitCode := 101, log := [], stderr := f.report, files := l.files }
    | .ok filter =>
      let r := afterOptions o (home l.env) l.files
      { r with log := r.log.filter (LogFilter.allows filter) }

end Startup

end GridServe

import GridServe.Options.Basic
import GridServe.Query.Index

/-!
Reading the settings from the command line and the environment.

Options are long (`--host 0.0.0.0` or `--host=0.0.0.0`); `-h` and `--help` ask for help. An option's value
is the next argument unless that looks like an option; it is checked only when the option is
settled, which happens when the next option or `--` arrives or the arguments end. An argument that is
neither an option nor a value is refused at once, and a value still unsettled then is dropped.
Giving an option twice is refused when the second one is settled, before its value is read.
After `--` every argument is refused. Options absent from the command line take the value of
their environment variable, in the order options are declared, and then their default.

The Jaro similarity of two texts, used to suggest a known name for a mistyped one. Characters
match when equal and at most `max (|a|, |b|) / 2 - 1` positions apart, each character of `b`
matching at most once and the earliest free one winning; half the matched characters that
appear in a different order count as transpositions.
-/

namespace GridServe

namespace Similarity

def matchFlags (b : List Char) (range : Nat) : Nat → List Char → List Bool → List Bool × List Bool
  | _, [], bFlags => ([], bFlags)
  | i, c :: rest, bFlags =>
    let lo := i - range
    let hi := min b.length (i + range + 1)
    let hit := (List.range hi).find? fun j => lo ≤ j && b.getD j ' ' == c && !bFlags.getD j true
    let bFlags := match hit with
      | some j => bFlags.set j true
      | none => bFlags
    let (aFlags, bFlags) := matchFlags b range (i + 1) rest bFlags
    (hit.isSome :: aFlags, bFlags)

def matched (cs : List Char) (flags : List Bool) : List Char :=
  (cs.zip flags).filterMap fun (c, f) => if f then some c else none

def jaro (a b : String) : Float :=
  let a := a.toList
  let b := b.toList
  if a.isEmpty && b.isEmpty then 1.0
  else if a.isEmpty || b.isEmpty then 0.0
  else
    let range := max a.length b.length / 2 - 1
    let (aFlags, bFlags) := matchFlags b range 0 a (List.replicate b.length false)
    let ma := matched a aFlags
    let mb := matched b bFlags
    let m := ma.length
    if m = 0 then 0.0
    else
      let t := ((ma.zip mb).filter fun (x, y) => x != y).length / 2
      (m.toFloat / a.length.toFloat + m.toFloat / b.length.toFloat
        + (m - t).toFloat / m.toFloat) / 3.0

/-- The most similar candidate above 0.7; of equally similar ones the last. -/
def suggest (v : String) (candidates : List String) : Option String :=
  (candidates.foldl (fun best c =>
    let score := jaro v c
    if score > 0.7 then
      match best with
      | some (s, _) => if score >= s then some (score, c) else best
      | none => some (score, c)
    else best) none).map (·.2)

end Similarity

inductive ValueRule where
  | text
  | listenNumber
  | count
  | positive
  | choice
  | flag
  | help
  deriving Repr, DecidableEq

structure OptionSpec where
  long : String
  env : String
  rule : ValueRule
  about : String
  shownDefault : Option String := none
  deriving Repr

namespace OptionSpec

def takesValue (o : OptionSpec) : Bool :=
  match o.rule with
  | .flag | .help => false
  | _ => true

def valueName (o : OptionSpec) : String :=
  String.ofList (o.long.toList.map fun c => if c = '-' then '_' else c.toUpper)

def display (o : OptionSpec) : String :=
  if o.takesValue then "--" ++ o.long ++ " <" ++ o.valueName ++ ">" else "--" ++ o.long

end OptionSpec

def optionSpecs : List OptionSpec :=
  [⟨"host", "NCSERVE_HOST", .text, "The IP address on which the server should listen",
      some "0.0.0.0"⟩,
    ⟨"port", "NCSERVE_PORT", .listenNumber, "The port to which the server should bind",
      some "18080"⟩,
    ⟨"https", "NCSERVE_HTTPS", .flag, "Flag indicating whether HTTPS should be used", none⟩,
    ⟨"cert-file", "NCSERVE_CERT_FILE", .text,
      "Path to the certificate file to be used for HTTPS encryption",
      some "~/.config/ncserve/certs/cert.pem"⟩,
    ⟨"key-file", "NCSERVE_KEY_FILE", .text,
      "Path to the key file to be used for HTTPS encryption",
      some "~/.config/ncserve/certs/key.pem"⟩,
    ⟨"graceful-shutdown-timeout", "NCSERVE_SHUTDOWN_TIMEOUT", .count,
      "Maximum time in seconds to wait for requests to complete upon receiving `ctrl+c` signal",
      some "60"⟩,
    ⟨"dataset", "NCSERVE_DATASET", .text,
      "Path to the dataset. Files ending in `.json` are loaded into memory, anything else is " ++
        "opened as netCDF",
      some "data/concentration.timeseries.nc"⟩,
    ⟨"field-variable", "NCSERVE_FIELD_VARIABLE", .text,
      "Name of the 4-D (time, z, y, x) variable served by slice requests",
      some "concentration"⟩,
    ⟨"x-variable", "NCSERVE_X_VARIABLE", .text, "Name of the x coordinate variable", some "x"⟩,
    ⟨"y-variable", "NCSERVE_Y_VARIABLE", .text, "Name of the y coordinate variable", some "y"⟩,
    ⟨"time-dimension", "NCSERVE_TIME_DIMENSION", .text,
      "Name of the dimension indexed by the `time` query parameter", some "time"⟩,
    ⟨"z-dimension", "NCSERVE_Z_DIMENSION", .text,
      "Name of the dimension indexed by the `z` query parameter", some "z"⟩,
    ⟨"artifact-dir", "NCSERVE_ARTIFACT_DIR", .text,
      "Directory in which rendered images are written before being returned", some "assets"⟩,
    ⟨"artifact-prefix", "NCSERVE_ARTIFACT_PREFIX", .text, "File name prefix of rendered images",
      some "output_"⟩,
    ⟨"render-poll-interval-ms", "NCSERVE_RENDER_POLL_INTERVAL_MS", .positive,
      "Interval in milliseconds between checks for a rendered image", some "100"⟩,
    ⟨"render-timeout-ms", "NCSERVE_RENDER_TIMEOUT_MS", .count,
      "Maximum time in milliseconds to wait for a rendered image", some "2000"⟩,
    ⟨"render-limit", "NCSERVE_RENDER_LIMIT", .positive,
      "Maximum number of concurrent renders. Defaults to the number of CPUs", none⟩,
    ⟨"use-rayon", "NCSERVE_USE_RAYON", .flag,
      "Whether to use Rayon for execution of CPU-bound tasks", none⟩,
    ⟨"sweep-artifacts", "NCSERVE_SWEEP_ARTIFACTS", .choice,
      "Whether to remove images left behind by a previous run at startup", some "true"⟩,
    ⟨"help", "", .help, "Print help", none⟩]

inductive ArgValue where
  | text (s : String)
  | number (n : Nat)
  | truth (b : Bool)
  deriving Repr, DecidableEq

inductive CommandLineError where
  | invalidNumber (arg value reason : String)
  | missingValue (arg : String) (choices : List String)
  | invalidChoice (arg value : String) (choices : List String)
  | unknownArgument (arg : String) (similar : Option String) (used : List String)
  | repeated (arg : String)
  | unexpectedValue (arg value : String) (used : List String)
  | help
  deriving Repr, DecidableEq

namespace CommandLineError

def kindName : CommandLineError → String
  | .invalidNumber .. => "ValueValidation"
  | .missingValue .. => "InvalidValue"
  | .invalidChoice .. => "InvalidValue"
  | .unknownArgument .. => "UnknownArgument"
  | .repeated _ => "ArgumentConflict"
  | .unexpectedValue .. => "TooManyValues"
  | .help => "DisplayHelp"

def usage (used : List String) : String :=
  "\n\nUsage: ncserve" ++ (if used.isEmpty then " [OPTIONS]" else String.join (used.map (" " ++ ·)))

def choicesLine (choices : List String) : String :=
  if choices.isEmpty then "" else "\n  [possible values: " ++ ", ".intercalate choices ++ "]"

def tip (kind : String) (similar : Option String) : String :=
  match similar with
  | some s => "\n\n  tip: a similar " ++ kind ++ " exists: '" ++ s ++ "'"
  | none => ""

def moreInformation : String := "\n\nFor more information, try '--help'.\n"

def noValue (arg : String) (choices : List String) : String :=
  "error: a value is required for '" ++ arg ++ "' but none was supplied" ++ choicesLine choices ++
    moreInformation

/-- The text written to standard error. An empty value that is not one of the choices reads as
no value at all. -/
def render : CommandLineError → String
  | .invalidNumber arg value reason =>
    "error: invalid value '" ++ value ++ "' for '" ++ arg ++ "': " ++ reason ++ moreInformation
  | .missingValue arg choices => noValue arg choices
  | .invalidChoice arg value choices =>
    if value.isEmpty then noValue arg choices
    else
      "error: invalid value '" ++ value ++ "' for '" ++ arg ++ "'" ++ choicesLine choices ++
        tip "value" (Similarity.suggest value choices) ++ moreInformation
  | .unknownArgument arg similar used =>
    "error: unexpected argument '" ++ arg ++ "' found" ++ tip "argument" similar ++ usage used ++
      moreInformation
  | .repeated arg =>
    "error: the argument '" ++ arg ++ "' cannot be used multiple times" ++ usage [] ++
      moreInformation
  | .unexpectedValue arg value used =>
    "error: unexpected value '" ++ value ++ "' for '" ++ arg ++ "' found; no more were expected" ++
      usage used ++ moreInformation
  | .help => ""

end CommandLineError

namespace CommandLine

def readValue (o : OptionSpec) (raw : String) : Except CommandLineError ArgValue :=
  match o.rule with
  | .text => .ok (.text raw)
  | .listenNumber =>
    match Index.parseSigned raw with
    | .error e => .error (.invalidNumber o.display raw e.message)
    | .ok v =>
      if v < 0 ∨ v > 65535 then .error (.invalidNumber o.display raw (toString v ++ " is not in 0..=65535"))
      else .ok (.number v.toNat)
  | .count =>
    match Index.parse raw with
    | .error e => .error (.invalidNumber o.display raw e.message)
    | .ok n => .ok (.number n)
  | .positive =>
    match Index.parse raw with
    | .error e => .error (.invalidNumber o.display raw e.message)
    | .ok n =>
      if n = 0 then .error (.invalidNumber o.display raw ("0 is not in 1.." ++ toString Index.max))
      else .ok (.number n)
  | .choice | .flag =>
    if raw = "true" then .ok (.truth true)
    else if raw = "false" then .ok (.truth false)
    else .error (.invalidChoice o.display raw ["true", "false"])
  | .help => .error .help

/-- Parsing state: the settled options in order, and an option still waiting to be settled
with the values it has collected. -/
structure State where
  settled : List (String × ArgValue) := []
  pending : Option (OptionSpec × List String) := none

def State.has (st : State) (long : String) : Bool := st.settled.any (·.1 == long)

def settle (st : State) (o : OptionSpec) (values : List String) : Except CommandLineError State :=
  match o.rule, values with
  | .help, _ => .error .help
  | .flag, _ =>
    if st.has o.long then .error (.repeated o.display)
    else .ok { st with settled := st.settled ++ [(o.long, .truth true)] }
  | _, [] => .error (.missingValue o.display (if o.rule = .choice then ["true", "false"] else []))
  | _, v :: _ =>
    if st.has o.long then .error (.repeated o.display)
    else match readValue o v with
      | .error e => .error e
      | .ok value => .ok { st with settled := st.settled ++ [(o.long, value)] }

def resolvePending (st : State) : Except CommandLineError State :=
  match st.pending with
  | none => .ok st
  | some (o, values) => settle { st with pending := none } o values

/-- The options in use once the waiting option is settled for its effect alone, its failure
ignored: a value that cannot be read still puts the option in use, a second use of an option
takes it out of use, and a missing value changes nothing. -/
def inUseAfterSettling (st : State) : List String :=
  let names := st.settled.map (·.1)
  match st.pending with
  | none => names
  | some (_, []) => names
  | some (o, _ :: _) => if st.has o.long then names.erase o.long else names ++ [o.long]

def usedDisplays (inUse : List String) (extra : List OptionSpec) : List String :=
  let present := (inUse.filterMap fun l => optionSpecs.find? (·.long == l)) ++ extra
  (present.map OptionSpec.display).eraseDups

def findLong (name : String) : Option OptionSpec := optionSpecs.find? (·.long == name)

def settingsGroup : String :=
  "<" ++ "|".intercalate ((optionSpecs.filter (·.rule != .help)).map OptionSpec.display) ++ ">"

/-- The usage line's items when option `o` is given a value it does not take. Once any option
is in use, the options in use stand as the group of all settings, which `o` joins unless it is
help; before that `o` stands alone. -/
def unexpectedValueUsage (st : State) (o : OptionSpec) : List String :=
  if st.settled.isEmpty then [o.display]
  else (if o.rule = .help then [o.display] else []) ++ [settingsGroup]

def unknownLong (st : State) (name : String) : CommandLineError :=
  let inUse := inUseAfterSettling st
  let similar := Similarity.suggest name (optionSpecs.map (·.long))
  let extra := match similar.bind findLong with
    | some o => [o]
    | none => []
  .unknownArgument ("--" ++ name) (similar.map ("--" ++ ·)) (usedDisplays inUse extra)

def splitLong (body : String) : String × Option String :=
  match body.toList.idxOf? '=' with
  | some i => (String.ofList (body.toList.take i), some (String.ofList (body.toList.drop (i + 1))))
  | none => (body, none)

def scan (st : State) (trailing : Bool) : List String → Except CommandLineError State
  | [] => resolvePending st
  | arg :: rest =>
    let cs := arg.toList
    if trailing then .error (.unknownArgument arg none [])
    else if arg = "--" then
      match resolvePending st with
      | .error e => .error e
      | .ok st => scan st true rest
    else if cs.take 2 = ['-', '-'] then
      let (name, attached) := splitLong (String.ofList (cs.drop 2))
      match findLong name with
      | none => .error (unknownLong st name)
      | some o =>
        if o.takesValue then
          match attached with
          | some v =>
            match resolvePending st with
            | .error e => .error e
            | .ok st =>
              match settle st o [v] with
              | .error e => .error e
              | .ok st => scan st false rest
          | none =>
            match resolvePending st with
            | .error e => .error e
            | .ok st => scan { st with pending := some (o, []) } false rest
        else
          match attached with
          | some v => .error (.unexpectedValue o.display v (unexpectedValueUsage st o))
          | none =>
            match resolvePending st with
            | .error e => .error e
            | .ok st =>
              match settle st o [] with
              | .error e => .error e
              | .ok st => scan st false rest
    else if cs.head? = some '-' && cs.length > 1 then
      match cs.drop 1 with
      | 'h' :: _ =>
        match resolvePending st with
        | .error e => .error e
        | .ok _ => .error .help
      | c :: _ => .error (.unknownArgument (String.ofList ['-', c]) none [])
      | [] => .error (.unknownArgument arg none [])
    else
      match st.pending with
      | some (o, []) => scan { st with pending := some (o, [arg]) } false rest
      | _ => .error (.unknownArgument arg none [])

/-- Fill absent options from the environment, in declaration order. -/
def fromEnvironment (env : List (String × String)) (st : State) : Except CommandLineError State :=
  optionSpecs.foldlM (fun st o =>
    if st.has o.long || o.rule = .help then .ok st
    else match env.lookup o.env with
      | none => .ok st
      | some raw =>
        match readValue o raw with
        | .error e => .error e
        | .ok value => .ok { st with settled := st.settled ++ [(o.long, value)] }) st

def text (st : State) (long default : String) : String :=
  match st.settled.lookup long with
  | some (.text s) => s
  | _ => default

def number (st : State) (long : String) (default : Nat) : Nat :=
  match st.settled.lookup long with
  | some (.number n) => n
  | _ => default

def truth (st : State) (long : String) (default : Bool) : Bool :=
  match st.settled.lookup long with
  | some (.truth b) => b
  | _ => default

def toOptions (st : State) : Options :=
  let d : Options := {}
  { host := text st "host" d.host
    listenOn := number st "port" d.listenOn
    https := truth st "https" d.https
    certFile := text st "cert-file" d.certFile
    keyFile := text st "key-file" d.keyFile
    gracefulShutdownTimeout := number st "graceful-shutdown-timeout" d.gracefulShutdownTimeout
    dataset := text st "dataset" d.dataset
    fieldVariable := text st "field-variable" d.fieldVariable
    xVariable := text st "x-variable" d.xVariable
    yVariable := text st "y-variable" d.yVariable
    timeDimension := text st "time-dimension" d.timeDimension
    zDimension := text st "z-dimension" d.zDimension
    artifactDir := text st "artifact-dir" d.artifactDir
    artifactPrefix := text st "artifact-prefix" d.artifactPrefix
    renderPollIntervalMs := number st "render-poll-interval-ms" d.renderPollIntervalMs
    renderTimeoutMs := number st "render-timeout-ms" d.renderTimeoutMs
    renderLimit := match st.settled.lookup "render-limit" with
      | some (.number n) => some n
      | _ => none
    computePool := truth st "use-rayon" d.computePool
    sweepArtifacts := truth st "sweep-artifacts" d.sweepArtifacts }

end CommandLine

namespace Options

def parse (args : List String) (env : List (String × String)) : Except CommandLineError Options :=
  match CommandLine.scan {} false args with
  | .error e => .error e
  | .ok st =>
    match CommandLine.fromEnvironment env st with
    | .error e => .error e
    | .ok st => .ok (CommandLine.toOptions st)

end Options

/-!
The help text. It names the program, shows the usage line, then lists every option: its
spelling on one line, and below it, indented, what it sets followed by its environment
variable with that variable's current value, its default and its possible values, each in
brackets.
-/

namespace OptionSpec

/-- The bracketed notes after an option's description: the environment variable with its
current value, then the default and the possible values of an option that takes a value. -/
def notes (o : OptionSpec) (env : List (String × String)) : List String :=
  if o.rule = .help then []
  else
    let envNote := "[env: " ++ o.env ++ "=" ++ (env.lookup o.env).getD "" ++ "]"
    let defaultNote := match o.shownDefault with
      | some d => if o.takesValue then ["[default: " ++ d ++ "]"] else []
      | none => []
    let choicesNote := if o.rule = .choice then ["[possible values: true, false]"] else []
    envNote :: defaultNote ++ choicesNote

/-- The option as the list of options spells it: help has its short form too, and the others
are indented to line up with the long form. -/
def helpSpelling (o : OptionSpec) : String :=
  if o.rule = .help then "  -h, " ++ o.display else "      " ++ o.display

def helpEntry (o : OptionSpec) (env : List (String × String)) : String :=
  o.helpSpelling ++ "\n          " ++ " ".intercalate (o.about :: o.notes env) ++ "\n"

end OptionSpec

namespace Options

def helpText (env : List (String × String)) : String :=
  "ncserve command line interface\n\nUsage: ncserve [OPTIONS]\n\nOptions:\n" ++
    String.join (optionSpecs.map fun o => o.helpEntry env)

end Options

end GridServe

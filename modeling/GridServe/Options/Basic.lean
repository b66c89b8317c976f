import GridServe.Text.Debug

namespace GridServe

structure Options where
  host : String := "0.0.0.0"
  listenOn : Nat := 18080
  https : Bool := false
  certFile : String := "~/.config/ncserve/certs/cert.pem"
  keyFile : String := "~/.config/ncserve/certs/key.pem"
  gracefulShutdownTimeout : Nat := 60
  dataset : String := "data/concentration.timeseries.nc"
  fieldVariable : String := "concentration"
  xVariable : String := "x"
  yVariable : String := "y"
  timeDimension : String := "time"
  zDimension : String := "z"
  artifactDir : String := "assets"
  artifactPrefix : String := "output_"
  renderPollIntervalMs : Nat := 100
  renderTimeoutMs : Nat := 2000
  renderLimit : Option Nat := none
  /-- Whether CPU-bound work runs on a shared compute pool rather than on blocking threads;
  answers are the same either way. -/
  computePool : Bool := false
  sweepArtifacts : Bool := true
  deriving Repr, DecidableEq, Inhabited

/-!
The settings as the start-up log shows them: the record's name and each field with its value,
texts quoted.
-/

namespace Options

def boolText (b : Bool) : String := if b then "true" else "false"

def debugText (o : Options) : String :=
  let q := DebugText.quote
  let fields : List (String × String) :=
    [("host", q o.host), ("port", toString o.listenOn), ("https", boolText o.https),
      ("cert_file", q o.certFile), ("key_file", q o.keyFile),
      ("graceful_shutdown_timeout", toString o.gracefulShutdownTimeout),
      ("dataset", q o.dataset), ("field_variable", q o.fieldVariable),
      ("x_variable", q o.xVariable), ("y_variable", q o.yVariable),
      ("time_dimension", q o.timeDimension), ("z_dimension", q o.zDimension),
      ("artifact_dir", q o.artifactDir), ("artifact_prefix", q o.artifactPrefix),
      ("render_poll_interval_ms", toString o.renderPollIntervalMs),
      ("render_timeout_ms", toString o.renderTimeoutMs),
      ("render_limit", match o.renderLimit with
        | some n => "Some(" ++ toString n ++ ")"
        | none => "None"),
      ("use_rayon", boolText o.computePool), ("sweep_artifacts", boolText o.sweepArtifacts)]
  "CommandLineArgs \x7b " ++ ", ".intercalate (fields.map fun (k, v) => k ++ ": " ++ v) ++ " \x7d"

end Options

end GridServe

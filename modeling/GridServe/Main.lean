import GridServe.Startup.Run

namespace GridServe

namespace Launch

def settingNames : List String :=
  ((optionSpecs.map (·.env)).filter (· != "")) ++ ["RUST_LOG", "HOME"]

def wantedPaths (o : Options) (home : String) : List String :=
  let tls := if o.https then
    [o.certFile, o.keyFile].filterMap fun p => (Tls.expandHome home p).toOption
  else []
  o.dataset :: o.artifactDir :: tls

def readPath (t : FileTree) (path : String) : IO FileTree := do
  try
    let text ← IO.FS.readFile path
    pure (t.writeFile path text)
  catch e =>
    match e with
    | .inappropriateType .. => pure (t.makeDirectory path)
    | _ => pure t

def current (args : List String) : IO Launch := do
  let mut env : List (String × String) := []
  for name in settingNames do
    if let some value ← IO.getEnv name then
      env := env ++ [(name, value)]
  let files ← match Options.parse args env with
    | .ok o => (wantedPaths o (Startup.home env)).foldlM readPath {}
    | .error _ => pure {}
  pure ⟨args, env, files⟩

end Launch

end GridServe

open GridServe in
def main (args : List String) : IO UInt32 := do
  let launch ← Launch.current args
  let result := Startup.run launch
  for line in result.log do
    IO.println line.render
  IO.print result.stdout
  IO.eprint result.stderr
  pure result.exitCode.toUInt32

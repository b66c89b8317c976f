import GridServe.Text.Alphanumeric
import GridServe.Text.Debug

/-!
Log lines and the filter that selects them.

A filter text is a comma-separated list of directives, and a directive is read one character
at a time. A directive is a level alone, which sets the level of every target, or a target, then
optionally a part in brackets, then optionally `=` and a level; a target alone allows every
level. A target starts with an alphanumeric character of any script, `-`, `:` or `_`, and runs up to
the first `=` or `[`. The part in brackets names a span, `[span]`, and may list fields in
braces, `[span{a,b=1}]` or `[{a}]`: such a directive then applies only inside that span, or to
lines that carry those fields. A level is a name in any case (`off`, `error`, `warn`, `info`,
`debug`, `trace`) or a decimal number from 0 to 5 with an optional plus sign and any leading
zeros; an empty level allows every level.

The lines shown here are written outside any span and carry one field, `message`. A directive
that names a span or asks for a field value never selects them, and one that names fields
selects them only when every name is `message`. Of the directives whose target starts the line's
target and that select the line, the one with the longest target decides (one without a target
is the least specific), then the one naming more fields; a later directive replaces an earlier
equal one. A line that no directive selects is hidden. A filter text with a malformed directive
is replaced by the default.

A directive is read from its characters with the white space at both ends trimmed, but each
part is cut from the untrimmed text at the byte offsets it has in the trimmed one. So a
directive of white space alone is malformed, white space in front stays in a lone target and
shifts every later part left by its length (` a=info` has the target ` a` and the level
`=info`, which is malformed), and white space at the end stays in the last part. A cut that
falls inside a character stops the program. White space is the Unicode property `White_Space`.
-/

namespace GridServe

namespace Unicode

def whitespaceRanges : Array (Nat × Nat) := #[
  (0x9, 0xD), (0x20, 0x20), (0x85, 0x85), (0xA0, 0xA0), (0x1680, 0x1680), (0x2000, 0x200A),
  (0x2028, 0x2029), (0x202F, 0x202F), (0x205F, 0x205F), (0x3000, 0x3000)]

def isWhitespace (c : Char) : Bool :=
  whitespaceRanges.any fun (lo, hi) => lo ≤ c.toNat && c.toNat ≤ hi

end Unicode

inductive Level where
  | error
  | warn
  | info
  | debug
  | trace
  deriving Repr, DecidableEq

namespace Level

def rank : Level → Nat
  | .error => 1
  | .warn => 2
  | .info => 3
  | .debug => 4
  | .trace => 5

def name : Level → String
  | .error => "ERROR"
  | .warn => "WARN"
  | .info => "INFO"
  | .debug => "DEBUG"
  | .trace => "TRACE"

end Level

structure LogLine where
  level : Level
  target : String
  message : String
  deriving Repr, DecidableEq

structure FieldMatch where
  name : String
  hasValue : Bool
  deriving Repr, DecidableEq

/-- A directive: the lines it selects are shown up to `maxRank` (zero shows none). It selects
lines of targets starting with `target` (all targets when there is none), inside the span
`span` when one is named, carrying the fields `fields`. -/
structure LogDirective where
  target : Option String := none
  span : Option String := none
  fields : List FieldMatch := []
  maxRank : Nat := 5
  deriving Repr, DecidableEq

def LogLine.render (l : LogLine) : String :=
  let level := l.level.name
  String.ofList (List.replicate (5 - level.length) ' ') ++ level ++ " " ++ l.target ++ ": " ++
    l.message

namespace LogFilter

/-- The rank a level stands for: a decimal number from 0 to 5 with an optional plus sign and
any leading zeros, or a level name in any case; the empty text stands for `error`. -/
def levelRank (s : String) : Option Nat :=
  let digits := match s.toList with
    | '+' :: rest => rest
    | cs => cs
  if !digits.isEmpty && digits.all Char.isDigit then
    let n := digits.foldl (fun n c => n * 10 + (c.toNat - '0'.toNat)) 0
    if n ≤ 5 then some n else none
  else
    match s.toLower with
    | "" => some 1
    | "off" => some 0
    | "error" => some 1
    | "warn" => some 2
    | "info" => some 3
    | "debug" => some 4
    | "trace" => some 5
    | _ => none

def levelPart (cs : List Char) : Option Nat :=
  if cs.isEmpty then some 5 else levelRank (String.ofList cs)

def fieldMatch (cs : List Char) : FieldMatch :=
  ⟨String.ofList (cs.takeWhile (· != '=')), cs.contains '='⟩

def startChar (c : Char) : Bool :=
  c = '-' || c = ':' || c = '_' || Unicode.isAlphanumeric c

inductive DirectiveError where
  | malformed
  /-- A cut of the directive's text `text` fell inside a character at byte `index`, which
  stops the program. -/
  | inside (text : String) (index : Nat)
  deriving Repr, DecidableEq

def offsets : List Char → Nat → List (Nat × Char)
  | [], _ => []
  | c :: rest, pos => (pos, c) :: offsets rest (pos + c.utf8Size)

def isBoundary (s : String) (b : Nat) : Bool :=
  b == s.utf8ByteSize || (offsets s.toList 0).any (·.1 == b)

def cut (s : String) (lo hi : Nat) : Except DirectiveError String :=
  if !isBoundary s lo then .error (.inside s lo)
  else if !isBoundary s hi then .error (.inside s hi)
  else .ok (String.ofList (((offsets s.toList 0).filter fun (o, _) => lo ≤ o && o < hi).map (·.2)))

def cutFrom (s : String) (lo : Nat) : Except DirectiveError String := cut s lo s.utf8ByteSize

def trim (cs : List Char) : List Char :=
  ((cs.dropWhile Unicode.isWhitespace).reverse.dropWhile Unicode.isWhitespace).reverse

/-- Where the reading of a directive is. Each part read so far is remembered by the byte offset
it starts at. -/
inductive Reading where
  | start
  | levelOrTarget (begin : Nat)
  | span (begin : Nat)
  | field (begin : Nat)
  | fieldsDone
  | afterSpan
  | level (begin : Nat)
  deriving Repr, DecidableEq

/-- One character of a directive whose text is `s`, at byte offset `i` of the trimmed text.
The parts are cut from `s` itself at these offsets. -/
def step (s : String) (d : LogDirective) : Reading → Nat → Char →
    Except DirectiveError (LogDirective × Reading)
  | .start, i, c =>
    if c = '[' then .ok (d, .span (i + 1))
    else if startChar c then .ok (d, .levelOrTarget i)
    else .error .malformed
  | .levelOrTarget b, i, c =>
    if c = '=' then (cut s b i).map fun t => ({ d with target := some t }, .level (i + 1))
    else if c = '[' then (cut s b i).map fun t => ({ d with target := some t }, .span (i + 1))
    else .ok (d, .levelOrTarget b)
  | .span b, i, c =>
    if c = ']' then (cut s b i).map fun n => ({ d with span := some n }, .afterSpan)
    else if c = '{' then
      (cut s b i).map fun n => ({ d with span := if n.isEmpty then none else some n }, .field (i + 1))
    else .ok (d, .span b)
  | .field b, i, c =>
    if c = '}' || c = ',' then
      match cut s b i with
      | .error e => .error e
      | .ok f =>
        if f.isEmpty then .error .malformed
        else
          let d := { d with fields := d.fields ++ [fieldMatch f.toList] }
          .ok (d, if c = '}' then .fieldsDone else .field (i + 1))
    else .ok (d, .field b)
  | .fieldsDone, _, c => if c = ']' then .ok (d, .afterSpan) else .error .malformed
  | .afterSpan, i, c => if c = '=' then .ok (d, .level (i + 1)) else .error .malformed
  | .level b, _, _ => .ok (d, .level b)

/-- The end of a directive whose text is `s`: a level or target alone, cut to the end of `s`,
is a level when it reads as one and a target otherwise. -/
def finish (s : String) (d : LogDirective) : Reading → Except DirectiveError LogDirective
  | .afterSpan => .ok d
  | .levelOrTarget b =>
    (cutFrom s b).map fun t =>
      if t.isEmpty then { d with target := none, maxRank := 5 }
      else match levelRank t with
        | some r => { d with target := none, maxRank := r }
        | none => { d with target := some t, maxRank := 5 }
  | .level b =>
    match cutFrom s b with
    | .error e => .error e
    | .ok l =>
      match levelPart l.toList with
      | some r => .ok { d with maxRank := r }
      | none => .error .malformed
  | _ => .error .malformed

def readFrom (s : String) (d : LogDirective) (r : Reading) (i : Nat) :
    List Char → Except DirectiveError LogDirective
  | [] => finish s d r
  | c :: rest =>
    match step s d r i c with
    | .ok (d, r) => readFrom s d r (i + c.utf8Size) rest
    | .error e => .error e

/-- Read one directive. The characters read are those of the trimmed text, but the parts are
cut from the text as given at the offsets they have in the trimmed one: white space in front
shifts every part left by its length, and trailing white space stays at the end of the last
part. -/
def directive (s : String) : Except DirectiveError LogDirective :=
  readFrom s {} .start 0 (trim s.toList)

def parse (s : String) : Except DirectiveError (List LogDirective) :=
  ((s.splitOn ",").filter (· != "")).mapM directive

def defaultText : String := "ncserve=debug,tower_http=debug"

def defaults : List LogDirective :=
  match parse defaultText with
  | .ok ds => ds
  | .error _ => []

structure Fault where
  text : String
  index : Nat
  deriving Repr, DecidableEq

/-- The message of a fault: the offset, the character it falls in with that character's
bytes, and the directive's text, shown up to its first 256 bytes. -/
def Fault.message (f : Fault) : String :=
  let chars := offsets f.text.toList 0
  let (o, c) := (chars.filter fun (o, _) => o ≤ f.index).getLast?.getD (0, ' ')
  let shown := String.ofList ((chars.filter fun (o, c) => o + c.utf8Size ≤ 256).map (·.2))
  let more := if f.text.utf8ByteSize > 256 then "[...]" else ""
  "byte index " ++ toString f.index ++ " is not a char boundary; it is inside '" ++
    DebugText.escapeChar c ++ "' (bytes " ++ toString o ++ ".." ++ toString (o + c.utf8Size) ++
    ") of `" ++ shown ++ "`" ++ more

def Fault.report (f : Fault) : String :=
  "thread 'main' panicked:\n" ++ f.message ++
    "\nnote: run with `RUST_BACKTRACE=1` environment variable to display a backtrace\n"

def ofSetting (setting : Option String) : Except Fault (List LogDirective) :=
  match setting with
  | none => .ok defaults
  | some s =>
    match parse s with
    | .ok ds => .ok ds
    | .error .malformed => .ok defaults
    | .error (.inside text index) => .error ⟨text, index⟩

def selects (d : LogDirective) (line : LogLine) : Bool :=
  d.span.isNone && d.fields.all (fun f => !f.hasValue && f.name == "message") &&
    match d.target with
    | some t => line.target.startsWith t
    | none => true

/-- How specific a directive is: the length of its target, a directive without one below
every other, then the number of fields it names. -/
def specificity (d : LogDirective) : Nat × Nat :=
  ((d.target.map fun t => t.utf8ByteSize + 1).getD 0, d.fields.length)

/-- Whether a line passes: of the directives that select it the most specific decides, a
later one winning over an earlier equal one. -/
def allows (ds : List LogDirective) (line : LogLine) : Bool :=
  let best := (ds.filter fun d => selects d line).foldl (fun best d =>
    match best with
    | some b =>
      let (dt, df) := specificity d
      let (bt, bf) := specificity b
      if dt > bt || (dt = bt && df ≥ bf) then some d else best
    | none => some d) none
  match best with
  | some d => line.level.rank ≤ d.maxRank
  | none => false

end LogFilter

end GridServe

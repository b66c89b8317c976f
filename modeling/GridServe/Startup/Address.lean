import GridServe.Error.Io

/-!
Socket addresses written as `host:number`: either four decimal octets, or an IPv6 address in
brackets, optionally with `%` and a numeric scope, then a colon and a number below 65536. Octets have at most
three digits and no leading zero; IPv6 groups have at most four hex digits, one `::` may stand
for one or more zero groups, and the last two groups may be written as an IPv4 address. The
whole text must be used. Addresses are shown with IPv6 zero runs compressed as usual.
-/

namespace GridServe

inductive SocketAddress where
  | v4 (octets : List Nat) (service : Nat)
  | v6 (groups : List Nat) (scope : Nat) (service : Nat)
  deriving Repr, DecidableEq

namespace SocketAddress

abbrev Reader (α : Type) := List Char → Option (α × List Char)

def digitValue (radix : Nat) (c : Char) : Option Nat :=
  let n := c.toNat
  if 0x30 ≤ n ∧ n ≤ 0x39 ∧ n - 0x30 < radix then some (n - 0x30)
  else if radix = 16 ∧ 0x61 ≤ n ∧ n ≤ 0x66 then some (n - 0x61 + 10)
  else if radix = 16 ∧ 0x41 ≤ n ∧ n ≤ 0x46 then some (n - 0x41 + 10)
  else none

def digitRun (radix : Nat) : List Char → List Nat × List Char
  | [] => ([], [])
  | c :: rest =>
    match digitValue radix c with
    | some d => let (ds, r) := digitRun radix rest; (d :: ds, r)
    | none => ([], c :: rest)

/-- A number of at most `maxDigits` digits (any number when `none`) below `bound`, with a
leading zero allowed only when `zeroPrefix`. -/
def number (radix : Nat) (maxDigits : Option Nat) (zeroPrefix : Bool) (bound : Nat) : Reader Nat :=
  fun cs =>
    let (ds, rest) := digitRun radix cs
    let value := ds.foldl (fun acc d => acc * radix + d) 0
    let tooLong : Bool := match maxDigits with
      | some m => decide (ds.length > m)
      | none => false
    if ds.isEmpty then none
    else if tooLong then none
    else if !zeroPrefix && ds.head? = some 0 && ds.length > 1 then none
    else if value ≥ bound then none
    else some (value, rest)

def char (c : Char) : Reader Unit
  | d :: rest => if c = d then some ((), rest) else none
  | [] => none

def ipv4 : Reader (List Nat) := fun cs => do
  let (a, cs) ← number 10 (some 3) false 256 cs
  let ((), cs) ← char '.' cs
  let (b, cs) ← number 10 (some 3) false 256 cs
  let ((), cs) ← char '.' cs
  let (c, cs) ← number 10 (some 3) false 256 cs
  let ((), cs) ← char '.' cs
  let (d, cs) ← number 10 (some 3) false 256 cs
  pure ([a, b, c, d], cs)

/-- Up to `limit` colon-separated groups; the last two may be an IPv4 address. Returns the
groups and whether they ended with an IPv4 address. -/
def groups : Nat → Nat → Reader (List Nat × Bool)
  | 0, _ => fun cs => some (([], false), cs)
  | fuel + 1, i => fun cs =>
    let sep : Reader Unit := fun cs => if i = 0 then some ((), cs) else char ':' cs
    let v4 : Option ((List Nat × Bool) × List Char) :=
      if fuel ≥ 1 then
        match sep cs with
        | some ((), cs') =>
          match ipv4 cs' with
          | some ([a, b, c, d], rest) => some (([a * 256 + b, c * 256 + d], true), rest)
          | _ => none
        | none => none
      else none
    match v4 with
    | some r => some r
    | none =>
      match sep cs with
      | none => some (([], false), cs)
      | some ((), cs') =>
        match number 16 (some 4) true 65536 cs' with
        | none => some (([], false), cs)
        | some (g, rest) =>
          match groups fuel (i + 1) rest with
          | some ((gs, tail4), rest) => some ((g :: gs, tail4), rest)
          | none => none

def ipv6 : Reader (List Nat) := fun cs => do
  let ((head, head4), cs) ← groups 8 0 cs
  if head.length = 8 then pure (head, cs)
  else if head4 then none
  else
    let ((), cs) ← char ':' cs
    let ((), cs) ← char ':' cs
    let ((tail, _), cs) ← groups (7 - head.length) 0 cs
    pure (head ++ List.replicate (8 - head.length - tail.length) 0 ++ tail, cs)

def service : Reader Nat := fun cs => do
  let ((), cs) ← char ':' cs
  number 10 none true 65536 cs

def parse (text : String) : Option SocketAddress :=
  let cs := text.toList
  let asV4 : Option SocketAddress := do
    let (octets, cs) ← ipv4 cs
    let (p, cs) ← service cs
    if cs.isEmpty then pure (.v4 octets p) else none
  let asV6 : Option SocketAddress := do
    let ((), cs) ← char '[' cs
    let (gs, cs) ← ipv6 cs
    let (scope, cs) ← match char '%' cs with
      | some ((), cs) => number 10 none true (Nat.pow 2 32) cs
      | none => some (0, cs)
    let ((), cs) ← char ']' cs
    let (p, cs) ← service cs
    if cs.isEmpty then pure (.v6 gs scope p) else none
  match asV4 with
  | some a => some a
  | none => asV6

def hex (n : Nat) : String := String.ofList (Nat.toDigits 16 n)

def longestZeros (gs : List Nat) : Option (Nat × Nat) :=
  let (best, _, _) := gs.foldl (fun (best, start, len) g =>
    if g = 0 then
      let len := len + 1
      let best := match best with
        | some (_, l) => if len > l then some (start, len) else best
        | none => some (start, len)
      (best, start, len)
    else (best, start + len + 1, 0)) (none, 0, 0)
  match best with
  | some (s, l) => if l > 1 then some (s, l) else none
  | none => none

def v4Text (octets : List Nat) : String := ".".intercalate (octets.map toString)

def v6Text (gs : List Nat) : String :=
  match gs with
  | [0, 0, 0, 0, 0, 0xFFFF, hi, lo] => "::ffff:" ++ v4Text [hi / 256, hi % 256, lo / 256, lo % 256]
  | _ =>
    match longestZeros gs with
    | some (s, l) =>
      ":".intercalate ((gs.take s).map hex) ++ "::" ++ ":".intercalate ((gs.drop (s + l)).map hex)
    | none => ":".intercalate (gs.map hex)

def text : SocketAddress → String
  | .v4 octets p => v4Text octets ++ ":" ++ toString p
  | .v6 gs scope p =>
    "[" ++ v6Text gs ++ (if scope = 0 then "" else "%" ++ toString scope) ++ "]:" ++ toString p

/-- The IPv6 groups name a link-local unicast address (`fe80::/10`) or a multicast address
whose scope is the interface or the link: these need a scope to be bound. -/
def needsScope (first : Nat) : Bool :=
  first / 64 == 0xFE80 / 64 || (first / 256 == 0xFF && (first % 16 == 1 || first % 16 == 2))

/-- Why the server cannot listen on an address, if it cannot. The host accepts any IPv4
address, also written IPv4-mapped in IPv6, and the unspecified IPv6 address, and has no IPv6
address of its own; its only interface is the loopback, number 1. An address that needs a scope
and has none is invalid; a scope with no interface names no device; multicast addresses are not
checked against the host's own. -/
def bindError : SocketAddress → Option IoError
  | .v4 .. => none
  | .v6 [0, 0, 0, 0, 0, 0, 0, 0] _ _ => none
  | .v6 [0, 0, 0, 0, 0, 0xFFFF, _, _] _ _ => none
  | .v6 groups scope _ =>
    let first := groups.headD 0
    let multicast := first / 256 == 0xFF
    if needsScope first then
      if scope = 0 then some (.os 22)
      else if scope ≠ 1 then some (.os 19)
      else if multicast then none
      else some (.os 99)
    else if multicast then none
    else some (.os 99)

end SocketAddress

end GridServe

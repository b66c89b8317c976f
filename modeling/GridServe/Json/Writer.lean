import GridServe.Json.Value
import GridServe.Decimal.Text

namespace GridServe

namespace JsonWriter

def hexDigit (n : Nat) : Char :=
  if n < 10 then Char.ofNat ('0'.toNat + n) else Char.ofNat ('a'.toNat + n - 10)

def escapeChar (c : Char) : List Char :=
  if c == '"' then ['\\', '"']
  else if c == '\\' then ['\\', '\\']
  else if c == '\n' then ['\\', 'n']
  else if c == '\r' then ['\\', 'r']
  else if c == '\t' then ['\\', 't']
  else if c == '\x08' then ['\\', 'b']
  else if c == '\x0c' then ['\\', 'f']
  else if c.toNat < 0x20 then ['\\', 'u', '0', '0', hexDigit (c.toNat / 16), hexDigit (c.toNat % 16)]
  else [c]

def quote (s : String) : String :=
  String.ofList ('"' :: (s.toList.flatMap escapeChar ++ ['"']))

def number : JsonNumber → String
  | .natural n => toString n
  | .negative n => toString n
  | .double x => (Float.jsonText? x).getD "null"

end JsonWriter

mutual

/-- Compact JSON text of a value. An unreadable value has no text of its own and is written as
`null`. -/
def Json.write : Json → String
  | .null => "null"
  | .bool b => if b then "true" else "false"
  | .number n => JsonWriter.number n
  | .string s => JsonWriter.quote s
  | .array items => "[" ++ Json.writeItems items ++ "]"
  | .object fields => "\x7b" ++ Json.writeFields fields ++ "\x7d"
  | .unreadable => "null"

def Json.writeItems : List Json → String
  | [] => ""
  | [item] => item.write
  | item :: rest => item.write ++ "," ++ Json.writeItems rest

def Json.writeFields : List (String × Json) → String
  | [] => ""
  | [(key, item)] => JsonWriter.quote key ++ ":" ++ item.write
  | (key, item) :: rest => JsonWriter.quote key ++ ":" ++ item.write ++ "," ++ Json.writeFields rest

end

/-- A double as a JSON value: `null` when it is NaN or infinite. -/
def Json.ofFloat (x : Float) : Json := .number (.double x)

def Json.ofNat (n : Nat) : Json := .number (.natural n)

end GridServe

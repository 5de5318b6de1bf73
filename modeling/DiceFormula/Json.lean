import DiceFormula.Text.Numeral
import DiceFormula.Text.Quoted

/-!
# JSON values

The values of the JSON format, and how they are written without any spacing. Of numbers, those
written as integers are kept apart from the others: a fraction or an exponent makes a number
something else than an integer even if its value is whole.

## Main definitions

* `Json` — JSON values
* `ValueKind`, `ValueKind.text` — the kinds of values that messages tell apart
* `Json.compact` — a value as text
-/

namespace DiceFormula

/-- A JSON value. -/
inductive Json
  /-- The value `null`. -/
  | null
  /-- A truth value. -/
  | boolean (b : Bool)
  /-- A number written as an integer. -/
  | integer (n : Int)
  /-- Any other number, as it is written. -/
  | decimal (literal : String)
  /-- A text. -/
  | text (s : String)
  /-- A sequence of values. -/
  | array (items : List Json)
  /-- Values under different names. -/
  | object (entries : List (String × Json))

/-- The kinds of JSON values that are neither null nor a text. -/
inductive ValueKind
  /-- A truth value. -/
  | boolean
  /-- A number. -/
  | number
  /-- A sequence of values. -/
  | array
  /-- Values under names. -/
  | object
deriving DecidableEq

/-- How messages refer to a kind of values. -/
def ValueKind.text : ValueKind → String
  | .boolean => "boolean"
  | .number => "number"
  | .array => "array"
  | .object => "object"

namespace Json

/-- One character of a text in JSON. -/
def escapeChar (c : Char) : String :=
  if c = '"' then "\\\""
  else if c = '\\' then "\\\\"
  else if c = '\x08' then "\\b"
  else if c = '\x0c' then "\\f"
  else if c = '\n' then "\\n"
  else if c = '\r' then "\\r"
  else if c = '\t' then "\\t"
  else if c.toNat < 0x10 then "\\u000" ++ String.ofList (Text.hexDigits c.toNat)
  else if c.toNat < 0x20 then "\\u00" ++ String.ofList (Text.hexDigits c.toNat)
  else c.toString

/-- Writes a text between quotes, behind what is already written. -/
def writeText (out s : String) : String :=
  (s.toList.foldl (fun out c => out ++ escapeChar c) (out.push '"')).push '"'

mutual

/-- Writes a value behind what is already written. -/
def write (out : String) : Json → String
  | .null => out ++ "null"
  | .boolean true => out ++ "true"
  | .boolean false => out ++ "false"
  | .integer n => out ++ Numeral.intText n
  | .decimal literal => out ++ literal
  | .text s => writeText out s
  | .array [] => out ++ "[]"
  | .array (item :: rest) => (writeItems (item.write (out.push '[')) rest).push ']'
  | .object [] => out.push '{' |>.push '}'
  | .object ((name, value) :: rest) =>
    (writeEntries (value.write ((writeText (out.push '{') name).push ':')) rest).push '}'

/-- Writes the items of a sequence that follow the first one. -/
def writeItems (out : String) : List Json → String
  | [] => out
  | item :: rest => writeItems (item.write (out.push ',')) rest

/-- Writes the named values that follow the first one. -/
def writeEntries (out : String) : List (String × Json) → String
  | [] => out
  | (name, value) :: rest =>
    writeEntries (value.write ((writeText (out.push ',') name).push ':')) rest

end

/-- A value as text, without spacing. -/
def compact (j : Json) : String := j.write ""

end Json

end DiceFormula

/-
Writing JSON without blanks.
-/
import FreeNames.Json.Value

namespace FreeNames.Json

/-- A hexadecimal digit. -/
def hexChar (n : Nat) : Char := if n < 10 then Char.ofNat (48 + n) else Char.ofNat (87 + n)

/-- A character inside a string. -/
def escape (c : Char) : List Char :=
  match c with
  | '"' => ['\\', '"']
  | '\\' => ['\\', '\\']
  | '\n' => ['\\', 'n']
  | '\r' => ['\\', 'r']
  | '\t' => ['\\', 't']
  | '\x08' => ['\\', 'b']
  | '\x0c' => ['\\', 'f']
  | c =>
    if c.toNat < 0x20 then ['\\', 'u', '0', '0', hexChar (c.toNat / 16), hexChar (c.toNat % 16)]
    else [c]

/-- A string in quotes. -/
def quote (s : String) : String := "\"" ++ String.ofList (s.toList.flatMap escape) ++ "\""

mutual

/-- The text of a value, given how numbers are written. -/
def render (number : Decimal → String) : Json → String
  | .null => "null"
  | .bool b => if b then "true" else "false"
  | .number n => number n
  | .string s => quote s
  | .array items => "[" ++ ",".intercalate (renderItems number items) ++ "]"
  | .object members => "\x7b" ++ ",".intercalate (renderMembers number members) ++ "\x7d"

def renderItems (number : Decimal → String) : List Json → List String
  | [] => []
  | x :: rest => render number x :: renderItems number rest

def renderMembers (number : Decimal → String) : List (String × Json) → List String
  | [] => []
  | (key, x) :: rest => (quote key ++ ":" ++ render number x) :: renderMembers number rest

end

end FreeNames.Json

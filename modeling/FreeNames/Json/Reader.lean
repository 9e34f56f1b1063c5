/-
Reading JSON.

The reader takes the format as it is defined and nothing more: no byte order
mark, no comments, no comma before a closing bracket, no raw control character
in a string, no half of a surrogate pair.  Values may be nested 127 deep.
-/
import FreeNames.Json.Value

namespace FreeNames

namespace JsonReader

/-- A reader takes characters and gives a result and what is left. -/
abbrev Reader (α : Type) := List Char → Option (α × List Char)

def isSpace (c : Char) : Bool := c == ' ' || c == '\t' || c == '\n' || c == '\r'

def skipSpace (cs : List Char) : List Char := cs.dropWhile isSpace

/-! ### Strings -/

def hexDigit (c : Char) : Option Nat :=
  if '0' ≤ c && c ≤ '9' then some (c.toNat - 48)
  else if 'a' ≤ c && c ≤ 'f' then some (c.toNat - 87)
  else if 'A' ≤ c && c ≤ 'F' then some (c.toNat - 55)
  else none

/-- The unit that four hexadecimal digits spell. -/
def hexUnit : Reader Nat
  | a :: b :: c :: d :: rest => do
    let n := (← hexDigit a) * 4096 + (← hexDigit b) * 256 + (← hexDigit c) * 16 + (← hexDigit d)
    return (n, rest)
  | _ => none

/-- The character of an escape, after `\u`.  A high surrogate needs its low one. -/
def unicodeEscape (cs : List Char) : Option (Char × List Char) := do
  let (high, rest) ← hexUnit cs
  if 0xDC00 ≤ high && high < 0xE000 then none
  else if 0xD800 ≤ high && high < 0xDC00 then
    match rest with
    | '\\' :: 'u' :: rest => do
      let (low, rest) ← hexUnit rest
      if 0xDC00 ≤ low && low < 0xE000 then
        return (Char.ofNat (0x10000 + (high - 0xD800) * 0x400 + (low - 0xDC00)), rest)
      else none
    | _ => none
  else return (Char.ofNat high, rest)

/-- The character after a backslash that does not start a unicode escape. -/
def simpleEscape : Char → Option Char
  | '"' => some '"'
  | '\\' => some '\\'
  | '/' => some '/'
  | 'b' => some '\x08'
  | 'f' => some '\x0c'
  | 'n' => some '\n'
  | 'r' => some '\r'
  | 't' => some '\t'
  | _ => none

/-- A string from after its opening quote on.  Fuel is the length of the text. -/
def stringTail : Nat → List Char → Reader String
  | 0, _, _ => none
  | fuel + 1, acc, cs =>
    match cs with
    | '"' :: rest => some (String.ofList acc.reverse, rest)
    | '\\' :: 'u' :: rest => do
      let (c, rest) ← unicodeEscape rest
      stringTail fuel (c :: acc) rest
    | '\\' :: c :: rest => do stringTail fuel ((← simpleEscape c) :: acc) rest
    | c :: rest => if c.toNat < 0x20 || c == '\\' then none else stringTail fuel (c :: acc) rest
    | [] => none

/-! ### Numbers -/

/-- The number that digits spell. -/
def digitsValue (ds : List Char) : Nat := ds.foldl (fun n c => n * 10 + (c.toNat - 48)) 0

/-- One or more digits. -/
def digits (cs : List Char) : Option (List Char × List Char) :=
  let ds := cs.takeWhile Char.isDigit
  if ds.isEmpty then none else some (ds, cs.dropWhile Char.isDigit)

/-- The whole part: no zero in front of another digit. -/
def wholePart : Reader (List Char)
  | '0' :: rest => if rest.head?.any Char.isDigit then none else some (['0'], rest)
  | cs => digits cs

/-- The fraction, if there is one. -/
def fraction : Reader (Option (List Char))
  | '.' :: rest => (digits rest).map fun (ds, rest) => (some ds, rest)
  | cs => some (none, cs)

/-- The exponent, if there is one. -/
def exponent : Reader (Option Int)
  | c :: rest =>
    if c == 'e' || c == 'E' then
      match rest with
      | '+' :: rest => (digits rest).map fun (ds, rest) => (some (digitsValue ds : Int), rest)
      | '-' :: rest => (digits rest).map fun (ds, rest) => (some (-(digitsValue ds : Int)), rest)
      | _ => (digits rest).map fun (ds, rest) => (some (digitsValue ds : Int), rest)
    else some (none, c :: rest)
  | [] => some (none, [])

def number (cs : List Char) : Option (Decimal × List Char) := do
  let (negative, cs) := match cs with
    | '-' :: rest => (true, rest)
    | _ => (false, cs)
  let (whole, cs) ← wholePart cs
  let (frac, cs) ← fraction cs
  let (power, cs) ← exponent cs
  let fracDigits := frac.getD []
  return ({ negative
            mantissa := digitsValue (whole ++ fracDigits)
            exponent := power.getD 0 - fracDigits.length
            integral := frac.isNone && power.isNone }, cs)

/-! ### Values -/

/-- A word that stands for a value. -/
def word (text : String) (value : Json) (cs : List Char) : Option (Json × List Char) :=
  if text.toList.isPrefixOf cs then some (value, cs.drop text.length) else none

/-- Items from after the first bracket on, at least one of them. -/
def items {α : Type} (close : Char) (item : Reader α) : Nat → Reader (List α)
  | 0, _ => none
  | fuel + 1, cs => do
    let (a, cs) ← item (skipSpace cs)
    match skipSpace cs with
    | ',' :: rest => do
      let (as, rest) ← items close item fuel rest
      return (a :: as, rest)
    | c :: rest => if c == close then some ([a], rest) else none
    | [] => none

/-- Items between brackets, perhaps none. -/
def bracketed {α : Type} (close : Char) (item : Reader α) (cs : List Char) :
    Option (List α × List Char) :=
  match skipSpace cs with
  | c :: rest => if c == close then some ([], rest) else items close item cs.length cs
  | [] => none

/-- A key and its value. -/
def member (value : Reader Json) : Reader (String × Json)
  | '"' :: rest => do
    let (key, rest) ← stringTail (rest.length + 1) [] rest
    match skipSpace rest with
    | ':' :: rest => do
      let (v, rest) ← value (skipSpace rest)
      return ((key, v), rest)
    | _ => none
  | _ => none

/-- A value that is nested less than `depth` deep. -/
def value : Nat → Reader Json
  | depth, cs =>
    match cs with
    | '"' :: rest =>
      (stringTail (rest.length + 1) [] rest).map fun (s, rest) => (.string s, rest)
    | 'n' :: _ => word "null" .null cs
    | 't' :: _ => word "true" (.bool true) cs
    | 'f' :: _ => word "false" (.bool false) cs
    | '[' :: rest =>
      match depth with
      | 0 => none
      | depth + 1 =>
        (bracketed ']' (value depth) rest).map fun (xs, rest) => (.array xs, rest)
    | '\x7b' :: rest =>
      match depth with
      | 0 => none
      | depth + 1 =>
        (bracketed '\x7d' (member (value depth)) rest).map fun (ms, rest) => (.object ms, rest)
    | _ => (number cs).map fun (n, rest) => (.number n, rest)

end JsonReader

/-- Reads a text that is one value; numbers may have any size. -/
def Json.parse? (text : String) : Option Json := do
  let (v, rest) ← JsonReader.value 127 (JsonReader.skipSpace text.toList)
  if (JsonReader.skipSpace rest).isEmpty then return v else none

end FreeNames

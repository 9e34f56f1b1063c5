/-
What can be wrong with options, and how it is said.
-/
import FreeNames.Json.Number
import FreeNames.Json.Printer
import FreeNames.Text.Quoted

namespace FreeNames.Options

inductive Problem
  /-- The text is not JSON at all. -/
  | notJson
  | unknownField (key : String)
  | repeatedField (key : String)
  /-- A value of another type than the one expected. -/
  | unexpected (value : Json) (expected : String)
  | environments
  /-- A list of globals with something in it that is not a name. -/
  | globalsEntry (value : Json)
  | globalsShape (value : Json)
  | unknownChoice (text : String) (choices : List String)
  /-- A choice given as an object that has not exactly one member. -/
  | notSingle
  /-- Nothing that a choice could start with. -/
  | noValue
  | tooManyItems (count : Nat)
  /-- Something between the last item that counts and the closing bracket. -/
  | trailing
  | emptyReceiver
  | malformedReceiver (name : String)
  | reservedReceiver (name : String)
  deriving Repr, Inhabited

namespace Problem

/-- What a value is called. -/
def describe : Json → String
  | .null => "null"
  | .bool b => "boolean `" ++ (if b then "true" else "false") ++ "`"
  | .number n =>
    match n.number? with
    | some (.integer _) => "integer `" ++ n.text ++ "`"
    | _ => "floating point `" ++ n.text ++ "`"
  | .string s => "string " ++ Quoted.encode s
  | .array _ => "sequence"
  | .object _ => "map"

/-- The text of a value, members of objects in rising order of their keys. -/
def display (value : Json) : String := value.sorted.render Decimal.text

/-- Each name between grave accents. -/
def listed (names : List String) : List String := names.map fun name => "`" ++ name ++ "`"

/-- The keys of options, in their order. -/
def keys : List String :=
  ["env", "globals", "strict", "receiver", "assignmentTargets", "sourceType", "cwd"]

def message : Problem → String
  | .notJson => "not valid JSON"
  | .unknownField key =>
    "unknown field `" ++ key ++ "`, expected one of " ++ ", ".intercalate (listed keys)
  | .repeatedField key => "duplicate field `" ++ key ++ "`"
  | .unexpected value expected =>
    "invalid type: " ++ describe value ++ ", expected " ++ expected
  | .environments => "data did not match any variant of untagged enum OneOrMany"
  | .globalsEntry value => "globals list entries must be strings, got " ++ display value
  | .globalsShape value =>
    "globals must be a list, an object or a file path, got " ++ display value
  | .unknownChoice text choices =>
    "unknown variant `" ++ text ++ "`, expected " ++ " or ".intercalate (listed choices)
  | .notSingle => "invalid value: map, expected map with a single key"
  | .noValue => "expected value"
  | .tooManyItems count =>
    "invalid length " ++ toString count ++ ", expected fewer elements in array"
  | .trailing => "trailing characters"
  | .emptyReceiver => "receiver must not be empty"
  | .malformedReceiver name => "receiver '" ++ name ++ "' is not a valid identifier"
  | .reservedReceiver name => "receiver '" ++ name ++ "' is a reserved word"

end Problem

end FreeNames.Options

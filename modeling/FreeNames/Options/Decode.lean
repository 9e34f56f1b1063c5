/-
Options from JSON.

Options are an object, or a list of values in the order of the keys; what is left
out keeps its default.  The members of an object are looked at one by one, and
the first that does not fit is the one reported.  A value comes with its members
sorted and each key once.  A text is looked at as it is written, so a key may
occur twice there, and a choice that cannot be read is told apart less well.
-/
import FreeNames.Json.Reader
import FreeNames.Options.Basic

namespace FreeNames

/-- The flag that stands for a name that may be written to. -/
def Globals.flagOf : Json → Bool
  | .bool b => b
  | .string s => s == "writable" || s == "writeable" || s == "true"
  | _ => false

/-- The names of an object with their flags; of a repeated name the last flag counts. -/
def Globals.ofMembers (members : List (String × Json)) : Globals :=
  ofList (members.map fun (name, flag) => (name, flagOf flag))

namespace Options

/-- How options are given. -/
inductive Origin
  | value
  | text
  deriving DecidableEq, Repr

/-- A part of the options. -/
inductive Field
  | environments
  | globals
  | strict
  | receiver
  | policy
  | sourceKind
  | directory
  deriving DecidableEq, Repr

/-- The fields in the order of a list of values. -/
def Field.all : List Field :=
  [.environments, .globals, .strict, .receiver, .policy, .sourceKind, .directory]

/-- The field of a key. -/
def Field.ofKey? (key : String) : Option Field := (Problem.keys.zip Field.all).lookup key

/-! ### Values of fields -/

/-- A string. -/
def string? : Json → Option String
  | .string s => some s
  | _ => none

/-- One name, a list of names, or nothing. -/
def decodeEnvironments : Json → Except Problem (List String)
  | .null => .ok []
  | .string s => .ok [s]
  | .array items =>
    match items.mapM string? with
    | some names => .ok names
    | none => .error .environments
  | _ => .error .environments

/-- The names of a list; the first item that is none is reported. -/
def decodeNames : List Json → Except Problem (List String)
  | [] => .ok []
  | .string s :: rest => (decodeNames rest).map (s :: ·)
  | value :: _ => .error (.globalsEntry value)

/-- The user's globals: a path, a list of names, or an object of names and flags. -/
def decodeGlobals : Json → Except Problem UserGlobals
  | .string path => .ok (.file path)
  | .array items => (decodeNames items).map .names
  | .object members => .ok (.table (.ofMembers members))
  | value => .error (.globalsShape value)

def decodeFlag : Json → Except Problem Bool
  | .bool b => .ok b
  | value => .error (.unexpected value "a boolean")

def decodeString : Json → Except Problem String
  | .string s => .ok s
  | value => .error (.unexpected value "a string")

/-- A path, or nothing. -/
def decodePath : Json → Except Problem (Option String)
  | .null => .ok none
  | .string s => .ok (some s)
  | value => .error (.unexpected value "path string")

section
variable {α : Type}

/-- One of several words. -/
def choose (choices : List (String × α)) (word : String) : Except Problem α :=
  match choices.lookup word with
  | some a => .ok a
  | none => .error (.unknownChoice word (choices.map (·.1)))

/-- One of several words as the only key of an object; its value must be null. -/
def chooseKey (choices : List (String × α)) (key : String) (value : Json) : Except Problem α := do
  let a ← choose choices key
  match value with
  | .null => return a
  | _ => .error (.unexpected value "unit")

/-- One of several words, by itself or as the only key of an object. -/
def decodeChoice (origin : Origin) (choices : List (String × α)) : Json → Except Problem α
  | .string word => choose choices word
  | .object members =>
    match origin, members with
    | _, [(key, value)] => chooseKey choices key value
    | .value, _ => .error .notSingle
    | .text, [] => .error .noValue
    | .text, (key, value) :: _ => do
      let _ ← chooseKey choices key value
      .error .noValue
  | value =>
    match origin with
    | .value => .error (.unexpected value "string or map")
    | .text => .error .noValue

end

def policies : List (String × TargetPolicy) := [("rewrite", .qualify), ("preserve", .preserve)]

def sourceKinds : List (String × SourceKind) := [("module", .module), ("script", .script)]

/-! ### Whole options -/

/-- The options with one field set. -/
def set (origin : Origin) (o : Options) (field : Field) (value : Json) :
    Except Problem Options :=
  match field with
  | .environments => do return { o with environments := ← decodeEnvironments value }
  | .globals =>
    match value with
    | .null => .ok { o with globals := none }
    | _ => do return { o with globals := some (← decodeGlobals value) }
  | .strict => do return { o with strict := ← decodeFlag value }
  | .receiver => do return { o with receiver := ← decodeString value }
  | .policy => do return { o with policy := ← decodeChoice origin policies value }
  | .sourceKind => do return { o with sourceKind := ← decodeChoice origin sourceKinds value }
  | .directory => do return { o with directory := ← decodePath value }

/-- Sets the fields of members one by one; `seen` holds the fields that are set. -/
def setMembers (origin : Origin) (o : Options) (seen : List Field) :
    List (String × Json) → Except Problem Options
  | [] => .ok o
  | (key, value) :: rest =>
    match Field.ofKey? key with
    | none => .error (.unknownField key)
    | some field =>
      if seen.contains field then .error (.repeatedField key)
      else do setMembers origin (← o.set origin field value) (field :: seen) rest

/-- Sets fields in order from a list of values; `count` is the length of the whole list. -/
def setItems (origin : Origin) (count : Nat) (o : Options) :
    List Field → List Json → Except Problem Options
  | _, [] => .ok o
  | [], _ :: _ =>
    match origin with
    | .value => .error (.tooManyItems count)
    | .text => .error .trailing
  | field :: fields, value :: rest => do
    setItems origin count (← o.set origin field value) fields rest

def decode (origin : Origin) : Json → Except Problem Options
  | .object members => setMembers origin {} [] members
  | .array items => setItems origin items.length {} Field.all items
  | value => .error (.unexpected value "struct RewriteOptions")

/-- Options from a value. -/
def ofJson (value : Json) : Except Problem Options := decode .value value.sorted

/-- The value a text stands for, if all its numbers are in range. -/
def readJson? (text : String) : Option Json := (Json.parse? text).filter Json.inRange

/-- Options from a text. -/
def ofText (text : String) : Except Problem Options :=
  match readJson? text with
  | some value => decode .text value
  | none => .error .notJson

end Options

end FreeNames

/-
Directive comments: `global a, b`, `env node`, `eslint-env browser`.

A comment is a directive if, trimmed, it starts with a tag and one space.  What
follows is a list of names with commas between them.
-/
import FreeNames.Text.Blank

namespace FreeNames

/-- The pieces of a text between separators. -/
def piecesAt (sep : Char) : List Char → List (List Char)
  | [] => [[]]
  | c :: cs =>
    if c == sep then [] :: piecesAt sep cs
    else
      match piecesAt sep cs with
      | [] => [[c]]
      | piece :: rest => (c :: piece) :: rest

namespace Directive

inductive Tag
  | global
  | environment
  | lintEnvironment
  deriving DecidableEq, Repr

/-- How a tag is written. -/
def Tag.text : Tag → String
  | .global => "global"
  | .environment => "env"
  | .lintEnvironment => "eslint-env"

/-- What follows the tag and the space after it, if the comment carries the tag. -/
def Tag.strip? (tag : Tag) (comment : List Char) : Option (List Char) :=
  let opening := tag.text.toList ++ [' ']
  let text := trimBlanks comment
  if opening.isPrefixOf text then some (text.drop opening.length) else none

/-- The names of a list, trimmed, without empty ones. -/
def listedNames (list : List Char) : List String :=
  (((piecesAt ',' list).map trimBlanks).filter (!·.isEmpty)).map String.ofList

/-- The names one comment lists under a tag. -/
def namesIn (tag : Tag) (comment : String) : List String :=
  match tag.strip? comment.toList with
  | some list => listedNames list
  | none => []

/-- The names that comments list under a tag, in order and with repetitions. -/
def extract (tag : Tag) (comments : List String) : List String := comments.flatMap (namesIn tag)

end Directive

/-- The directives of a unit. -/
structure Directives where
  globals : List String
  lintEnvironments : List String
  plainEnvironments : List String
  deriving DecidableEq, Repr, Inhabited

namespace Directives

def none : Directives := ⟨[], [], []⟩

def ofComments (comments : List String) : Directives :=
  { globals := Directive.extract .global comments
    lintEnvironments := Directive.extract .lintEnvironment comments
    plainEnvironments := Directive.extract .environment comments }

/-- The environments asked for, those of `eslint-env` first. -/
def environments (d : Directives) : List String := d.lintEnvironments ++ d.plainEnvironments

def isEmpty (d : Directives) : Bool :=
  d.globals.isEmpty && d.lintEnvironments.isEmpty && d.plainEnvironments.isEmpty

end Directives

end FreeNames

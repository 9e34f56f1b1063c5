/-
Paths.

A path is a text with slashes in it.  Two spellings are the same path if they
have the same components: repeated and trailing slashes do not count, and
neither does a dot that is not at the start.  Two dots do count.
-/
import FreeNames.Directive

namespace FreeNames.Path

/-- A part of a path. -/
inductive Component
  | root
  | current
  | parent
  | name (s : String)
  deriving DecidableEq, Repr

/-- Whether a path starts at the root. -/
def isAbsolute (path : String) : Bool := path.toList.head? == some '/'

/-- The texts between the slashes of a path, without empty ones. -/
def pieces (path : String) : List String :=
  ((piecesAt '/' path.toList).filter (!·.isEmpty)).map String.ofList

/-- The component a text between slashes stands for; a dot stands for none. -/
def component? (piece : String) : Option Component :=
  if piece == "." then none
  else if piece == ".." then some .parent
  else some (.name piece)

/-- The components of a path.  A dot counts at the start of a path that is not absolute. -/
def components (path : String) : List Component :=
  let rest := (pieces path).filterMap component?
  if isAbsolute path then .root :: rest
  else if (pieces path).head? == some "." then .current :: rest
  else rest

/-- Where a component stands in the order of components. -/
def Component.rank : Component → Nat
  | .root => 0
  | .current => 1
  | .parent => 2
  | .name _ => 3

/-- The order of components: by kind, and names by their code points. -/
def Component.before (a b : Component) : Bool :=
  match a, b with
  | .name s, .name t => s < t
  | _, _ => a.rank < b.rank

/-- The order of paths, component by component. -/
def before : List Component → List Component → Bool
  | [], [] => false
  | [], _ :: _ => true
  | _ :: _, [] => false
  | a :: as, b :: bs => a.before b || (a == b && before as bs)

/-- The last component, if it is a name. -/
def fileName? (path : String) : Option String :=
  match (components path).getLast? with
  | some (.name s) => some s
  | _ => none

/-- What follows the last dot of a name, if something comes before that dot. -/
def nameExtension? (name : String) : Option String :=
  let backwards := name.toList.reverse
  let extension := backwards.takeWhile (· != '.')
  match backwards.dropWhile (· != '.') with
  | '.' :: _ :: _ => some (String.ofList extension.reverse)
  | _ => none

/-- The extension of a path. -/
def extension? (path : String) : Option String := (fileName? path).bind nameExtension?

/-- A path seen from a directory.  An absolute path stays as it is. -/
def join (directory path : String) : String :=
  if isAbsolute path || directory.isEmpty then path
  else if directory.toList.getLast? == some '/' then directory ++ path
  else directory ++ "/" ++ path

/-- The path of a globals file: `.json` is added if it is missing, and a relative path is taken
from the directory. -/
def ofGlobalsFile (path directory : String) : String :=
  join directory (if extension? path == some "json" then path else path ++ ".json")

end FreeNames.Path

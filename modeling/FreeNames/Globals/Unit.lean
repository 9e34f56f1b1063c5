/-
The global names of one unit, from the options and the directives in its comments.

The user's file is loaded first, so a file that cannot be used stops the unit
before anything else is decided, and so does a directory that cannot be told
from which its path is seen.  With `strict` the directives do not count.
-/
import FreeNames.Directive
import FreeNames.Globals.Cache
import FreeNames.Globals.Selection

namespace FreeNames

/-- The global names of a unit and the environments they come from. -/
structure UnitGlobals where
  globals : Globals
  environments : List String
  warnings : List String
  deriving Inhabited

namespace Options

/-- The directory that a globals file is seen from. -/
def globalsDirectory (o : Options) (fs : FileSystem) : Except ReadError String :=
  match o.directory with
  | some directory => .ok directory
  | none => fs.currentDirectory

/-- The path of a globals file as the options see it.  The directory is asked for even if the path
starts at the root. -/
def globalsPath (o : Options) (fs : FileSystem) (path : String) : Except ReadError String :=
  (o.globalsDirectory fs).map (Path.ofGlobalsFile path)

/-- The user's global names.  A file goes through the cache, once its path is known. -/
def userGlobals (o : Options) (fs : FileSystem) (cache : GlobalsCache) :
    Except Failure (Option Globals) × GlobalsCache :=
  match o.globals with
  | none => (.ok none, cache)
  | some (.names names) => (.ok (some (.ofNames names true)), cache)
  | some (.table globals) => (.ok (some globals), cache)
  | some (.file path) =>
    match o.globalsPath fs path with
    | .error reason => (.error (.globalsUnreadable path reason), cache)
    | .ok path =>
      match cache.load fs path with
      | (.ok globals, cache) => (.ok (some globals), cache)
      | (.error failure, cache) => (.error failure, cache)

/-- The directives that count. -/
def heeded (o : Options) (directives : Directives) : Directives :=
  if o.strict then .none else directives

/-- The environments a unit gets. -/
def selection (o : Options) (directives : Directives) : Selection :=
  .ofRequests (o.environments ++ (o.heeded directives).environments)

/-- The global names of a unit, once the user's are known. -/
def layers (o : Options) (directives : Directives) (user : Option Globals) : UnitGlobals :=
  let selection := o.selection directives
  { globals := selection.globals Environment.builtins user (o.heeded directives).globals
    environments := selection.names
    warnings := selection.warnings }

/-- The global names of a unit. -/
def unitGlobals (o : Options) (directives : Directives) (fs : FileSystem) (cache : GlobalsCache) :
    Except Failure UnitGlobals × GlobalsCache :=
  match o.userGlobals fs cache with
  | (.ok user, cache) => (.ok (o.layers directives user), cache)
  | (.error failure, cache) => (.error failure, cache)

end Options

end FreeNames

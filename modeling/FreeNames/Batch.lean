/-
Many units at once.

The units share nothing but the cache of globals files, and a unit that fails does
not stop the others.
-/
import FreeNames.Outcome

namespace FreeNames

/-- A path with the result for the file there. -/
structure FileOutcome where
  path : String
  result : Except Failure Outcome

namespace Options

/-- Qualifies the free names of the file at a path. -/
def qualifyFile (o : Options) (path : String) (fs : FileSystem) (cache : GlobalsCache) :
    Except Failure Outcome × GlobalsCache :=
  match fs.read path with
  | .error reason => (.error (.sourceUnreadable path reason), cache)
  | .ok source => o.qualify source path fs cache

/-- Qualifies the free names of files in order. -/
def qualifyFiles (o : Options) (fs : FileSystem) (cache : GlobalsCache) :
    List String → List FileOutcome × GlobalsCache
  | [] => ([], cache)
  | path :: rest =>
    let (result, cache) := o.qualifyFile path fs cache
    let (results, cache) := qualifyFiles o fs cache rest
    ({ path, result } :: results, cache)

end Options

end FreeNames

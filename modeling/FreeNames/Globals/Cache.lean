/-
Globals files and the cache of those that were read.

A path is read once: after that its names come from the cache, whatever happens
to the file.  Two spellings with the same components share an entry.  A file that
cannot be used leaves no entry, so it is read again the next time.
-/
import FreeNames.Failure
import FreeNames.Options.Decode

namespace FreeNames

/-- The names and flags in the text of a globals file. -/
def Globals.ofText (path text : String) : Except Failure Globals :=
  match Options.readJson? text with
  | none => .error (.globalsNotJson path)
  | some (.object members) => .ok (.ofMembers members)
  | some _ => .error (.globalsNotObject path)

/-- The names and flags in a globals file. -/
def FileSystem.readGlobals (fs : FileSystem) (path : String) : Except Failure Globals :=
  match fs.read path with
  | .error reason => .error (.globalsUnreadable path reason)
  | .ok text => Globals.ofText path text

/-- The globals files read so far, and how often a file was gone to. -/
structure GlobalsCache where
  entries : List (List Path.Component × Globals) := []
  reads : Nat := 0
  deriving Inhabited

namespace GlobalsCache

def empty : GlobalsCache := {}

/-- What is kept for a path. -/
def get? (cache : GlobalsCache) (path : String) : Option Globals :=
  cache.entries.lookup (Path.components path)

def contains (cache : GlobalsCache) (path : String) : Bool := (cache.get? path).isSome

/-- Reads a file whether or not there is an entry for it, and leaves the entries alone. -/
def loadUncached (cache : GlobalsCache) (fs : FileSystem) (path : String) :
    Except Failure Globals × GlobalsCache :=
  (fs.readGlobals path, { cache with reads := cache.reads + 1 })

/-- The names of a file, from the entry for it if there is one. -/
def load (cache : GlobalsCache) (fs : FileSystem) (path : String) :
    Except Failure Globals × GlobalsCache :=
  match cache.get? path with
  | some globals => (.ok globals, cache)
  | none =>
    match cache.loadUncached fs path with
    | (.ok globals, cache) =>
      (.ok globals, { cache with entries := (Path.components path, globals) :: cache.entries })
    | (.error failure, cache) => (.error failure, cache)

end GlobalsCache

end FreeNames

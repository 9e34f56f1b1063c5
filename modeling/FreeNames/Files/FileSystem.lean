/-
Files and directories.

A file is known by the text it reads as, if it is text at all.  Reading follows a
path piece by piece: everything before the last piece must be a directory, two
dots go back up, and a trailing slash asks for a directory.  A path that is spelled
too long is not followed at all.

A process may be unable to tell its working directory, for instance after that
was removed.  Relative paths start there all the same.
-/
import FreeNames.Files.Path

namespace FreeNames

/-- Why a file cannot be read, or the working directory cannot be told. -/
inductive ReadError
  | missing
  | noDevice
  | denied
  | notDirectory
  | isDirectory
  | nameTooLong
  | notText
  deriving DecidableEq, Repr

def ReadError.message : ReadError → String
  | .missing => "No such file or directory (os error 2)"
  | .noDevice => "No such device or address (os error 6)"
  | .denied => "Permission denied (os error 13)"
  | .notDirectory => "Not a directory (os error 20)"
  | .isDirectory => "Is a directory (os error 21)"
  | .nameTooLong => "File name too long (os error 36)"
  | .notText => "stream did not contain valid UTF-8"

/-- A file, a directory with its entries, or what is neither. -/
inductive FileTree
  /-- `none` if the content is not text. -/
  | file (text : Option String)
  | directory (entries : List (String × FileTree))
  /-- A device, a pipe or a socket, with what comes of reading it. -/
  | special (reading : Except ReadError String)
  deriving Repr, Inhabited

namespace FileTree

/-- What comes of reading what a path leads to. -/
def text : FileTree → Except ReadError String
  | .file none => .error .notText
  | .file (some text) => .ok text
  | .directory _ => .error .isDirectory
  | .special reading => reading

/-- Goes down or up along pieces of a path.  `above` holds the directories around the current
one, nearest first. -/
def walk (current : FileTree) (above : List FileTree) : List String → Except ReadError FileTree
  | [] => .ok current
  | piece :: rest =>
    match current with
    | .file _ | .special _ => .error .notDirectory
    | .directory entries =>
      if piece == "." then walk current above rest
      else if piece == ".." then
        match above with
        | [] => walk current [] rest
        | parent :: above => walk parent above rest
      else
        match entries.lookup piece with
        | none => .error .missing
        | some next => walk next (current :: above) rest

/-- Puts an entry of a directory in the place of one of the same name, or adds it. -/
def setEntry (name : String) (t : FileTree) :
    List (String × FileTree) → List (String × FileTree)
  | [] => [(name, t)]
  | (n, u) :: rest => if n == name then (name, t) :: rest else (n, u) :: setEntry name t rest

/-- Puts a tree at the end of a way of names, making the directories on the way.  Nothing
happens if what is no directory is in the way. -/
def insert (new : FileTree) : List String → FileTree → FileTree
  | [], _ => new
  | name :: rest, .directory entries =>
    let below := (entries.lookup name).getD (.directory [])
    .directory (setEntry name (insert new rest below) entries)
  | _ :: _, t => t

/-- Takes what is at the end of a way of names out of the tree, unless it is a directory. -/
def erase : List String → FileTree → FileTree
  | [], t => t
  | [name], .directory entries =>
    match entries.lookup name with
    | some (.file _) | some (.special _) => .directory (entries.filter (·.1 != name))
    | _ => .directory entries
  | name :: rest, .directory entries =>
    match entries.lookup name with
    | some t => .directory (setEntry name (erase rest t) entries)
    | none => .directory entries
  | _, t => t

mutual

/-- The ways of names to all there is in a tree, a directory before its entries. -/
def ways : FileTree → List (List String)
  | .file _ | .special _ => [[]]
  | .directory entries => [] :: waysOf entries

def waysOf : List (String × FileTree) → List (List String)
  | [] => []
  | (name, t) :: rest => (ways t).map (name :: ·) ++ waysOf rest

end

end FileTree

/-- The files, and the directory that relative paths start from. -/
structure FileSystem where
  root : FileTree
  workingDirectory : String
  /-- Why the process cannot tell which directory that is, if it cannot. -/
  untold : Option ReadError := none
  deriving Inhabited

/-- The number of bytes that a path may have. -/
def longestPath : Nat := 4095

namespace FileSystem

/-- The working directory, as far as the process can tell. -/
def currentDirectory (fs : FileSystem) : Except ReadError String :=
  match fs.untold with
  | none => .ok fs.workingDirectory
  | some reason => .error reason

/-- The pieces that lead from the root to a path; a trailing slash is a last dot. -/
def way (fs : FileSystem) (path : String) : List String :=
  let last := if path.toList.getLast? == some '/' then ["."] else []
  if Path.isAbsolute path then Path.pieces path ++ last
  else Path.pieces fs.workingDirectory ++ Path.pieces path ++ last

/-- What a path leads to. -/
def find (fs : FileSystem) (path : String) : Except ReadError FileTree :=
  if path.isEmpty then .error .missing
  else if longestPath < path.utf8ByteSize then .error .nameTooLong
  else fs.root.walk [] (fs.way path)

/-- The text of the file at a path. -/
def read (fs : FileSystem) (path : String) : Except ReadError String :=
  match fs.find path with
  | .error e => .error e
  | .ok t => t.text

/-- Whether a path leads to a file. -/
def isFile (fs : FileSystem) (path : String) : Bool :=
  match fs.find path with
  | .ok (.file _) => true
  | _ => false

/-- The files with an entry at an absolute path. -/
def write (fs : FileSystem) (path : String) (t : FileTree) : FileSystem :=
  { fs with root := FileTree.insert t (Path.pieces path) fs.root }

/-- The files with a directory at an absolute path; one that is there is kept with its entries. -/
def makeDirectory (fs : FileSystem) (path : String) : FileSystem :=
  match fs.find path with
  | .ok (.directory _) => fs
  | _ => fs.write path (.directory [])

/-- The files without the one at an absolute path. -/
def delete (fs : FileSystem) (path : String) : FileSystem :=
  { fs with root := FileTree.erase (Path.pieces path) fs.root }

end FileSystem

/-- The extensions of scripts. -/
def scriptExtensions : List String := ["js", "mjs", "cjs"]

/-- The scripts at or below a path, in rising order of their paths. -/
def FileSystem.discover (fs : FileSystem) (start : String) : List String :=
  match fs.find start with
  | .error _ => []
  | .ok t =>
    let paths := t.ways.map fun names => names.foldl Path.join start
    let scripts := paths.filter fun path =>
      fs.isFile path && (Path.extension? path).any scriptExtensions.contains
    scripts.mergeSort fun a b => !Path.before (Path.components b) (Path.components a)

end FreeNames

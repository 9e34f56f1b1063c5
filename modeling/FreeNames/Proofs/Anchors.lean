/-
A cache and a working directory that changes.

The names of a globals file are kept under the components of its path, and nothing says from
which directory that path was seen.  A path that starts at the root leads to the same file from
everywhere, so what is kept for it is right wherever a unit asks for it.  What is kept for any
other path is the file of the directory in which it was read first.

The path of a globals file starts at the root if its spelling does, or if the directory does
from which it is seen (`Path.isAbsolute_ofGlobalsFile`).  The working directory starts there.  A
directory from the options is taken as it is given, so two relative ones, of the file and of the
options, make a relative key (`Options.isAnchored_eq_false_iff`), and units in two directories
then share what is not theirs (`Turn.answer_of_relative_directory`).
-/
import FreeNames.Proofs.Checks
import FreeNames.Proofs.Paths

namespace FreeNames

/-! ### Paths that start at the root -/

namespace FileSystem

variable {fs fs' : FileSystem} {path : String}

/-- A path that starts at the root does not depend on the working directory. -/
theorem readGlobals_of_isAbsolute (hpath : Path.isAbsolute path = true) (hroot : fs.root = fs'.root) :
    fs.readGlobals path = fs'.readGlobals path := by
  have hway : fs.way path = fs'.way path := by
    unfold way
    rw [if_pos hpath, if_pos hpath]
  unfold readGlobals read find
  rw [hway, hroot]

end FileSystem

namespace Options

variable {o : Options} {fs : FileSystem} {path : String}

/-- Whether the globals file of a unit, if it has one and can be told where it is, is at a path that
starts at the root. -/
def isAnchored (o : Options) (fs : FileSystem) : Bool :=
  match o.globals, o.globalsDirectory fs with
  | some (.file path), .ok directory => Path.isAbsolute path || Path.isAbsolute directory
  | _, _ => true

theorem isAbsolute_of_globalsFile? (h : o.globalsFile? fs = some path) :
    Path.isAbsolute path = o.isAnchored fs := by
  obtain ⟨spelled, directory, hspelled, hdirectory, rfl⟩ := exists_directory_of_globalsFile? h
  rw [isAnchored, hspelled, hdirectory]
  exact Path.isAbsolute_ofGlobalsFile _ _

/-- Where the working directory starts at the root, it takes two relative options for a relative
path. -/
theorem isAnchored_eq_false_iff (hworking : Path.isAbsolute fs.workingDirectory = true) :
    o.isAnchored fs = false ↔ ∃ spelled directory, o.globals = some (.file spelled)
      ∧ o.directory = some directory
      ∧ Path.isAbsolute spelled = false ∧ Path.isAbsolute directory = false := by
  constructor
  · intro h
    unfold isAnchored at h
    split at h
    · rename_i spelled directory hspelled htold
      rw [Bool.or_eq_false_iff] at h
      unfold globalsDirectory FileSystem.currentDirectory at htold
      split at htold
      · rename_i given hdirectory
        cases htold
        exact ⟨spelled, directory, hspelled, hdirectory, h.1, h.2⟩
      · split at htold
        · cases htold
          rw [hworking] at h
          cases h.2
        · cases htold
    · cases h
  · rintro ⟨spelled, directory, hspelled, hdirectory, hfirst, hsecond⟩
    simp only [isAnchored, globalsDirectory, hspelled, hdirectory, hfirst, hsecond, Bool.or_false]

end Options

/-! ### Units in changing directories -/

/-- A unit, and the files that it finds when its turn comes. -/
structure Turn where
  request : Request
  files : FileSystem

namespace Turn

variable {t : Turn} {turns : List Turn} {cache : GlobalsCache}
  {entry : List Path.Component × Globals}

/-- The cache behind some turns. -/
def cacheAfter (cache : GlobalsCache) (turns : List Turn) : GlobalsCache :=
  turns.foldl (fun cache t => (t.request.answer t.files cache).2) cache

/-- An entry holds what the globals file of a turn reads as, under the components of its path. -/
def Makes (t : Turn) (entry : List Path.Component × Globals) : Prop :=
  ∃ path, t.request.options.globalsFile? t.files = some path
    ∧ entry.1 = Path.components path
    ∧ t.files.readGlobals path = .ok entry.2

/-- One turn: the entries are those from before and those that it makes. -/
theorem mem_entries_answer (h : entry ∈ (t.request.answer t.files cache).2.entries) :
    entry ∈ cache.entries ∨ t.Makes entry := by
  have hending := t.request.options.ending_qualify t.request.source t.request.file t.files cache
  change entry ∈ (t.request.options.qualify _ _ _ _).2.entries at h
  generalize t.request.options.qualify t.request.source t.request.file t.files cache = ended
    at hending h
  cases hending with
  | receiver | source | untold | globalsFile | known => exact .inl h
  | @loaded path globals outcome _ _ hfile _ hglobals =>
      rcases List.mem_cons.1 h with rfl | hold
      · exact .inr ⟨path, hfile, rfl, hglobals⟩
      · exact .inl hold

/-- Some turns: every entry is from before, or one of them has made it. -/
theorem mem_entries_cacheAfter (h : entry ∈ (cacheAfter cache turns).entries) :
    entry ∈ cache.entries ∨ ∃ t ∈ turns, t.Makes entry := by
  induction turns generalizing cache with
  | nil => exact .inl h
  | cons first rest ih =>
      rcases ih h with hbefore | ⟨t, ht, hmakes⟩
      · rcases mem_entries_answer hbefore with hold | hmakes
        · exact .inl hold
        · exact .inr ⟨first, List.mem_cons_self, hmakes⟩
      · exact .inr ⟨t, List.mem_cons_of_mem _ ht, hmakes⟩

/-- An entry is under a path that starts at the root just if the turn that makes it is anchored. -/
theorem Makes.root_mem_iff (h : t.Makes entry) :
    .root ∈ entry.1 ↔ t.request.options.isAnchored t.files = true := by
  obtain ⟨path, hfile, hkey, -⟩ := h
  rw [hkey, ← Path.isAbsolute_iff, Options.isAbsolute_of_globalsFile? hfile]

/-- What is kept for a path that starts at the root is what its file reads as from any directory,
as long as the files stay as they are. -/
theorem readGlobals_of_get? {fs : FileSystem} (hroot : ∀ t ∈ turns, t.files.root = fs.root)
    {path : String} {kept : Globals} (hpath : Path.isAbsolute path = true)
    (hkept : (cacheAfter .empty turns).get? path = some kept) :
    ∃ other, Path.components other = Path.components path ∧ fs.readGlobals other = .ok kept := by
  have hentry : (Path.components path, kept) ∈ (cacheAfter .empty turns).entries := by
    obtain ⟨before, behind, hentries, -⟩ := List.lookup_eq_some_iff.1 hkept
    rw [hentries]
    exact List.mem_append_right _ List.mem_cons_self
  rcases mem_entries_cacheAfter hentry with hnone | ⟨t, ht, other, -, hsame, hread⟩
  · cases hnone
  · have hother : Path.isAbsolute other = true := by
      rw [Path.isAbsolute_iff, ← hsame, ← Path.isAbsolute_iff, hpath]
    refine ⟨other, hsame.symm, ?_⟩
    rw [← hread]
    exact FileSystem.readGlobals_of_isAbsolute hother (hroot t ht).symm

/-- What holds of a cache behind turns that change the working directory but not the files. -/
structure Anchored (root : FileTree) (turns : List Turn) : Prop where
  /-- Each key is the path of the globals file of some turn, and starts at the root just if that
  turn is anchored. -/
  keys : ∀ entry ∈ (cacheAfter .empty turns).entries, ∃ t ∈ turns,
    t.Makes entry ∧ (.root ∈ entry.1 ↔ t.request.options.isAnchored t.files = true)
  /-- A unit that is anchored, and whose globals file can be read, comes to what it comes to alone,
  in whatever directory. -/
  answers : ∀ (r : Request) (fs : FileSystem), fs.root = root →
    r.options.isAnchored fs = true →
    (∀ path, r.options.globalsFile? fs = some path →
      ∃ globals, fs.readGlobals path = .ok globals) →
    (r.answer fs (cacheAfter .empty turns)).1 = r.alone fs

/--
**A globals file that is anchored at the root is never taken for another.**  Units come one after
the other through one cache, each in a working directory of its own.  The keys of the cache are
the paths of their globals files, and those of the anchored ones start at the root.  Whatever the
other units are, an anchored one whose globals file can be read comes to what it comes to alone.
-/
theorem anchored_cacheAfter {root : FileTree} (hroot : ∀ t ∈ turns, t.files.root = root) :
    Anchored root turns where
  keys entry hentry := by
    rcases mem_entries_cacheAfter hentry with hnone | ⟨t, ht, hmakes⟩
    · cases hnone
    · exact ⟨t, ht, hmakes, hmakes.root_mem_iff⟩
  answers r fs hfiles hanchored hreads := by
    have hunspoilt : r.options.Unspoilt fs (cacheAfter .empty turns) := by
      intro path hfile kept hkept
      have hpath : Path.isAbsolute path = true := by
        rw [Options.isAbsolute_of_globalsFile? hfile, hanchored]
      obtain ⟨globals, hread⟩ := hreads path hfile
      obtain ⟨other, hsame, hother⟩ :=
        readGlobals_of_get? (fun t ht => (hroot t ht).trans hfiles.symm) hpath hkept
      rw [hread, FileSystem.readGlobals_unique hsame hother hread]
    exact (hunspoilt.qualify r.source r.file).1

/-- Two directories, each with a globals file at the same path below it. -/
def twoDirectories (workingDirectory : String) : FileSystem :=
  { root := .directory
      [("a", .directory [("sub", .directory [("g.json", .file (some "\x7b\"x\": true\x7d"))])]),
        ("b", .directory [("sub", .directory [("g.json", .file (some "\x7b\x7d"))])])]
    workingDirectory }

/-- A unit whose globals file and whose directory are both relative. -/
def below : Request :=
  { options := { globals := some (.file "g"), directory := some "sub" }
    source := "x;"
    file := "x.js" }

/-- So not every path that is loaded starts at the root, nor does every key, wherever the working
directory is, and a unit in one directory is served what was read for another. -/
theorem answer_of_relative_directory :
    Path.isAbsolute "/a" = true ∧ Path.isAbsolute "/b" = true
      ∧ below.options.globalsFile? (twoDirectories "/a") = some "sub/g.json"
      ∧ Path.isAbsolute "sub/g.json" = false
      ∧ (cacheAfter .empty [⟨below, twoDirectories "/a"⟩]).entries.map (·.1)
          = [[.name "sub", .name "g.json"]]
      ∧ (below.answer (twoDirectories "/b")
          (cacheAfter .empty [⟨below, twoDirectories "/a"⟩])).1.toOption.map (·.code) = some "x;"
      ∧ (below.alone (twoDirectories "/b")).toOption.map (·.code) = some "this.x;" := by
  decide +kernel

end Turn

end FreeNames

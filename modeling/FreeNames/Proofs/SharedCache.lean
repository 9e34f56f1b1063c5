/-
Units that share a cache.

A unit goes to the cache at most once, for the file of the user's global names; all else
that it comes to hangs on its source and its options (`Options.fst_qualify`).  So what a
unit has from the units before it is what the cache says of that one path.

  * In a batch all units have one path, in one spelling, and an entry for it is what the
    file reads as.  So each unit comes to what it would come to alone
    (`Options.qualifyFiles_alone`).
  * Units with options of their own may spell one path in several ways.  The cache takes
    them for the same, while a spelling that ends in a slash or a dot asks for a directory
    and cannot be read where a file is, and one that is too long cannot be read at all.
    Such a unit fails alone, and borrows the names of the file if a unit before it has read
    them (`Request.answers_borrowed`).  No other unit notices that it shares the cache.

A unit whose globals file is seen from a directory that cannot be told does not get as far
as the cache.
-/
import FreeNames.Batch
import FreeNames.Proofs.Coherence
import FreeNames.Proofs.Paths

namespace FreeNames

/-! ### What a unit asks of the cache -/

namespace Options

variable {o : Options} {source file path : String} {fs : FileSystem}
  {cache : GlobalsCache}

/-- The path of the user's globals file, if the options name one and its path can be told. -/
def globalsFile? (o : Options) (fs : FileSystem) : Option String :=
  match o.globals with
  | some (.file spelled) => (o.globalsPath fs spelled).toOption
  | _ => none

theorem globalsFile?_eq_some_iff : o.globalsFile? fs = some path ↔
    ∃ spelled, o.globals = some (.file spelled) ∧ o.globalsPath fs spelled = .ok path := by
  unfold globalsFile?
  split
  · rename_i spelled hglobals
    cases hpath : o.globalsPath fs spelled <;> simp [hglobals, hpath, Except.toOption]
  · rename_i hinline
    constructor
    · intro h
      cases h
    · rintro ⟨spelled, hglobals, -⟩
      exact (hinline spelled hglobals).elim

theorem exists_directory_of_globalsFile? (h : o.globalsFile? fs = some path) :
    ∃ spelled directory, o.globals = some (.file spelled)
      ∧ o.globalsDirectory fs = .ok directory ∧ path = Path.ofGlobalsFile spelled directory := by
  obtain ⟨spelled, hglobals, hpath⟩ := globalsFile?_eq_some_iff.1 h
  unfold globalsPath at hpath
  cases hdirectory : o.globalsDirectory fs with
  | error reason =>
      rw [hdirectory] at hpath
      cases hpath
  | ok directory =>
      rw [hdirectory] at hpath
      cases hpath
      exact ⟨spelled, directory, hglobals, rfl, rfl⟩

theorem globalsFile?_of_directory {spelled directory : String}
    (hglobals : o.globals = some (.file spelled)) (hdirectory : o.globalsDirectory fs = .ok directory) :
    o.globalsFile? fs = some (Path.ofGlobalsFile spelled directory) := by
  refine globalsFile?_eq_some_iff.2 ⟨spelled, hglobals, ?_⟩
  rw [globalsPath, hdirectory]
  rfl

theorem userGlobals_of_file (h : o.globalsFile? fs = some path) (cache : GlobalsCache) :
    o.userGlobals fs cache = ((cache.load fs path).1.map some, (cache.load fs path).2) := by
  obtain ⟨spelled, hglobals, hpath⟩ := globalsFile?_eq_some_iff.1 h
  simp only [userGlobals, hglobals, hpath]
  cases cache.load fs path with
  | mk result later => cases result <;> rfl

/-- The ways in which a unit comes by the user's global names, and what it asks of the cache for
them. -/
inductive Gathering (o : Options) (fs : FileSystem) : Prop
  /-- From the options.  The cache is neither asked nor changed. -/
  | inline (user : Option Globals) (hglobals : ∀ spelled, o.globals ≠ some (.file spelled))
      (huser : ∀ cache, o.userGlobals fs cache = (.ok user, cache))
  /-- From a file, but it cannot be told where that is.  Here, too, the cache is left alone. -/
  | untold (spelled : String) (reason : ReadError) (hglobals : o.globals = some (.file spelled))
      (hpath : o.globalsPath fs spelled = .error reason)
      (huser : ∀ cache, o.userGlobals fs cache = (.error (.globalsUnreadable spelled reason), cache))
  /-- From a file, by one load. -/
  | file (path : String) (hfile : o.globalsFile? fs = some path)
      (huser : ∀ cache,
        o.userGlobals fs cache = ((cache.load fs path).1.map some, (cache.load fs path).2))

theorem gathering (o : Options) (fs : FileSystem) : o.Gathering fs := by
  cases hglobals : o.globals with
  | none => exact .inline none (by simp [hglobals]) fun cache => by rw [userGlobals, hglobals]
  | some user =>
      cases user with
      | names names =>
          exact .inline _ (by simp [hglobals]) fun cache => by rw [userGlobals, hglobals]
      | table globals =>
          exact .inline _ (by simp [hglobals]) fun cache => by rw [userGlobals, hglobals]
      | file spelled =>
          cases hpath : o.globalsPath fs spelled with
          | error reason =>
              exact .untold spelled reason hglobals hpath fun cache => by
                simp only [userGlobals, hglobals, hpath]
          | ok path =>
              have hfile : o.globalsFile? fs = some path :=
                globalsFile?_eq_some_iff.2 ⟨spelled, hglobals, hpath⟩
              exact .file path hfile (userGlobals_of_file hfile)

/-- Where the directory cannot be told, not even a path that starts at the root is asked for. -/
example (root : FileTree) (cache : GlobalsCache) :
    let o : Options := { globals := some (.file "/g.json") }
    let fs : FileSystem := { root, workingDirectory := "/", untold := some .denied }
    o.userGlobals fs cache = (.error (.globalsUnreadable "/g.json" .denied), cache) :=
  rfl

/-- Without the path of a globals file the cache is neither asked nor changed. -/
theorem userGlobals_of_no_file (h : o.globalsFile? fs = none) :
    ∃ user, ∀ cache, o.userGlobals fs cache = (user, cache) := by
  cases o.gathering fs with
  | inline user _ huser => exact ⟨.ok user, huser⟩
  | untold spelled reason _ _ huser => exact ⟨_, huser⟩
  | file path hfile =>
      rw [h] at hfile
      cases hfile

/-- Whether a unit gets as far as its global names. -/
def isSound (o : Options) (source : String) : Bool :=
  o.problem?.isNone && (Program.parse? o.sourceKind source).isSome

/-- What a unit comes to, by what is known of the user's global names. -/
def result (o : Options) (source file : String) (user : Except Failure (Option Globals)) :
    Except Failure Outcome :=
  match o.problem? with
  | some problem => .error (.options problem)
  | none =>
    match Program.parse? o.sourceKind source with
    | none => .error (.malformed file)
    | some program =>
      user.map fun user =>
        o.outcome source program (o.layers (.ofComments program.comments) user)

/-- What a unit comes to hangs on the cache through the user's global names only. -/
theorem fst_qualify (o : Options) (source file : String) (fs : FileSystem)
    (cache : GlobalsCache) :
    (o.qualify source file fs cache).1 = o.result source file (o.userGlobals fs cache).1 := by
  unfold qualify result
  cases o.problem? with
  | some problem => rfl
  | none =>
      dsimp only
      cases Program.parse? o.sourceKind source with
      | none => rfl
      | some program =>
          dsimp only
          unfold unitGlobals
          cases o.userGlobals fs cache with
          | mk result later => cases result <;> rfl

/-- A unit changes the cache where it gathers the user's global names, if it gets there. -/
theorem snd_qualify (o : Options) (source file : String) (fs : FileSystem)
    (cache : GlobalsCache) :
    (o.qualify source file fs cache).2
      = if o.isSound source then (o.userGlobals fs cache).2 else cache := by
  unfold qualify isSound
  cases o.problem? with
  | some problem => rfl
  | none =>
      dsimp only
      cases Program.parse? o.sourceKind source with
      | none => rfl
      | some program =>
          dsimp only
          unfold unitGlobals
          cases o.userGlobals fs cache with
          | mk result later => cases result <;> rfl

/-- A unit that does not get as far as its global names fails whatever they are. -/
theorem result_of_not_sound (h : o.isSound source = false) (file : String) :
    ∃ failure, (∀ user, o.result source file user = .error failure)
      ∧ ∀ path reason, failure ≠ .globalsUnreadable path reason := by
  unfold isSound at h
  unfold result
  cases hproblem : o.problem? with
  | some problem => exact ⟨.options problem, fun _ => rfl, nofun⟩
  | none =>
      cases hread : Program.parse? o.sourceKind source with
      | none => exact ⟨.malformed file, fun _ => rfl, nofun⟩
      | some program =>
          rw [hproblem, hread] at h
          cases h

/-- A unit that gets as far as its global names fails if they cannot be known, and only then. -/
theorem result_of_sound (h : o.isSound source = true) (file : String) :
    (∀ failure, o.result source file (.error failure) = .error failure)
      ∧ ∀ user, ∃ outcome, o.result source file (.ok user) = .ok outcome := by
  unfold isSound at h
  unfold result
  cases hproblem : o.problem? with
  | some problem =>
      rw [hproblem] at h
      cases h
  | none =>
      cases hread : Program.parse? o.sourceKind source with
      | none =>
          rw [hproblem, hread] at h
          cases h
      | some program => exact ⟨fun _ => rfl, fun _ => ⟨_, rfl⟩⟩

end Options

/-! ### Units of a batch -/

namespace GlobalsCache

variable {cache : GlobalsCache} {fs : FileSystem} {path : String}

/-- If there is an entry for a path, it is what the file reads as in just this spelling. -/
def Echoes (cache : GlobalsCache) (fs : FileSystem) (path : String) : Prop :=
  ∀ globals, cache.get? path = some globals → fs.readGlobals path = .ok globals

theorem echoes_of_get?_eq_none (h : cache.get? path = none) : cache.Echoes fs path := by
  intro globals hentry
  rw [h] at hentry
  cases hentry

theorem echoes_empty (fs : FileSystem) (path : String) : Echoes .empty fs path :=
  echoes_of_get?_eq_none rfl

/-- A load through such a cache says what reading the file says, good or bad. -/
theorem Echoes.fst_load (h : cache.Echoes fs path) :
    (cache.load fs path).1 = fs.readGlobals path := by
  rw [GlobalsCache.fst_load]
  cases hentry : cache.get? path with
  | none => rfl
  | some globals => exact (h globals hentry).symm

theorem Echoes.after_load (h : cache.Echoes fs path) : (cache.load fs path).2.Echoes fs path := by
  intro globals hentry
  have hstep := (Session.get?_act ⟨cache, fs⟩ (.load path) path).symm.trans hentry
  dsimp only at hstep
  cases hold : cache.get? path with
  | some kept =>
      rw [hold, Option.some_or] at hstep
      cases hstep
      exact h _ hold
  | none =>
      rw [hold, Option.none_or] at hstep
      obtain ⟨other, hload, -, hread⟩ := Session.added_eq_some_iff.1 hstep
      cases hload
      exact hread

end GlobalsCache

namespace Options

variable {o : Options} {fs : FileSystem} {cache : GlobalsCache}

/-- A cache that knows nothing of the user's globals file but what the file says. -/
def Unspoilt (o : Options) (fs : FileSystem) (cache : GlobalsCache) : Prop :=
  ∀ path, o.globalsFile? fs = some path → cache.Echoes fs path

theorem unspoilt_empty (o : Options) (fs : FileSystem) : o.Unspoilt fs .empty :=
  fun path _ => GlobalsCache.echoes_empty fs path

namespace Unspoilt

/-- Such a cache is as good as none. -/
theorem userGlobals (h : o.Unspoilt fs cache) :
    (o.userGlobals fs cache).1 = (o.userGlobals fs .empty).1 := by
  cases hfile : o.globalsFile? fs with
  | none =>
      obtain ⟨user, hall⟩ := userGlobals_of_no_file hfile
      rw [hall, hall]
  | some path =>
      rw [userGlobals_of_file hfile, userGlobals_of_file hfile, (h path hfile).fst_load,
        (GlobalsCache.echoes_empty fs path).fst_load]

theorem after_userGlobals (h : o.Unspoilt fs cache) :
    o.Unspoilt fs (o.userGlobals fs cache).2 := by
  intro path hfile
  rw [userGlobals_of_file hfile]
  exact (h path hfile).after_load

theorem qualify (h : o.Unspoilt fs cache) (source file : String) :
    (o.qualify source file fs cache).1 = (o.qualify source file fs .empty).1
      ∧ o.Unspoilt fs (o.qualify source file fs cache).2 := by
  constructor
  · rw [fst_qualify, fst_qualify, h.userGlobals]
  · rw [snd_qualify]
    split
    · exact h.after_userGlobals
    · exact h

theorem qualifyFile (h : o.Unspoilt fs cache) (path : String) :
    (o.qualifyFile path fs cache).1 = (o.qualifyFile path fs .empty).1
      ∧ o.Unspoilt fs (o.qualifyFile path fs cache).2 := by
  unfold Options.qualifyFile
  cases fs.read path with
  | error reason => exact ⟨rfl, h⟩
  | ok source => exact h.qualify source path

/-- Every unit of a batch comes to what it comes to alone. -/
theorem qualifyFiles (h : o.Unspoilt fs cache) (paths : List String) :
    (o.qualifyFiles fs cache paths).1
      = paths.map fun path => ⟨path, (o.qualifyFile path fs .empty).1⟩ := by
  induction paths generalizing cache with
  | nil => rfl
  | cons path rest ih =>
      obtain ⟨hresult, hlater⟩ := h.qualifyFile path
      have hrest := ih hlater
      rw [List.map_cons, ← hrest, ← hresult]
      rfl

end Unspoilt

/--
**Units of a batch do not know of each other.**  There is one result for each path, in the order
of the paths, and it is that of the file there alone, with a cache of its own.  Hence if any places
of the list are done, in any order, the results are those of the places in that order.
-/
theorem qualifyFiles_alone (o : Options) (fs : FileSystem) (paths : List String) :
    (o.qualifyFiles fs .empty paths).1
        = paths.map (fun path => ⟨path, (o.qualifyFile path fs .empty).1⟩)
      ∧ ∀ places : List Nat,
          (o.qualifyFiles fs .empty (places.filterMap (paths[·]?))).1
            = places.filterMap ((o.qualifyFiles fs .empty paths).1[·]?) := by
  have halone (paths : List String) := (o.unspoilt_empty fs).qualifyFiles paths
  refine ⟨halone paths, fun places => ?_⟩
  rw [halone, halone, List.map_filterMap]
  simp only [List.getElem?_map]

end Options

/-! ### Units with options of their own -/

theorem Options.globalsFile?_ne_empty {o : Options} {fs : FileSystem} {path : String}
    (h : o.globalsFile? fs = some path) : path ≠ "" := by
  obtain ⟨spelled, directory, -, -, rfl⟩ := exists_directory_of_globalsFile? h
  exact Path.ofGlobalsFile_ne_empty spelled directory

/-- A unit that is to be qualified. -/
structure Request where
  options : Options
  source : String
  file : String

namespace Request

/-- What becomes of a unit, and of the cache. -/
def answer (r : Request) (fs : FileSystem) (cache : GlobalsCache) :
    Except Failure Outcome × GlobalsCache :=
  r.options.qualify r.source r.file fs cache

/-- What becomes of a unit with a cache of its own. -/
def alone (r : Request) (fs : FileSystem) : Except Failure Outcome := (r.answer fs .empty).1

/-- What becomes of units one after the other that share a cache. -/
def answers (fs : FileSystem) : GlobalsCache → List Request → List (Except Failure Outcome)
  | _, [] => []
  | cache, r :: rest => (r.answer fs cache).1 :: answers fs (r.answer fs cache).2 rest

/-- The cache behind some units. -/
def cacheAfter (fs : FileSystem) (cache : GlobalsCache) (requests : List Request) : GlobalsCache :=
  requests.foldl (fun cache r => (r.answer fs cache).2) cache

/-- The unit with the globals file of another one, spelled as it is there. -/
def respelled (r other : Request) : Request :=
  { r with
    options :=
      { r.options with globals := other.options.globals, directory := other.options.directory } }

/-- What a unit puts into the cache for a path that has no entry. -/
def leaves? (r : Request) (fs : FileSystem) (path : String) : Option Globals :=
  match r.options.globalsFile? fs with
  | some other =>
    if r.options.isSound r.source ∧ Path.components other = Path.components path then
      (fs.readGlobals other).toOption
    else none
  | none => none

variable {r : Request} {fs : FileSystem} {path : String} {globals : Globals}

theorem leaves?_eq_some_iff : r.leaves? fs path = some globals ↔
    r.options.isSound r.source = true ∧ ∃ other, r.options.globalsFile? fs = some other
      ∧ Path.components other = Path.components path ∧ fs.readGlobals other = .ok globals := by
  have hread (other : String) : (fs.readGlobals other).toOption = some globals
      ↔ fs.readGlobals other = .ok globals := by
    cases fs.readGlobals other <;> simp [Except.toOption]
  unfold leaves?
  cases r.options.globalsFile? fs with
  | none => simp
  | some other => simp [hread, and_assoc]

/-- One unit: entries stay, and one is made for its own path only. -/
theorem get?_answer (r : Request) (fs : FileSystem) (cache : GlobalsCache) (path : String) :
    (r.answer fs cache).2.get? path = (cache.get? path).or (r.leaves? fs path) := by
  unfold answer leaves?
  rw [Options.snd_qualify]
  cases hsound : r.options.isSound r.source with
  | false =>
      rw [if_neg Bool.false_ne_true]
      cases r.options.globalsFile? fs <;> simp
  | true =>
      rw [if_pos rfl]
      cases hfile : r.options.globalsFile? fs with
      | none =>
          obtain ⟨user, hall⟩ := Options.userGlobals_of_no_file hfile
          rw [hall, Option.or_none]
      | some other =>
          rw [Options.userGlobals_of_file hfile]
          simp only [true_and]
          exact Session.get?_act ⟨cache, fs⟩ (.load other) path

/-- Some units: the first of them that can use the file makes the entry. -/
theorem get?_cacheAfter (fs : FileSystem) (cache : GlobalsCache) (requests : List Request)
    (path : String) :
    (cacheAfter fs cache requests).get? path
      = (cache.get? path).or (requests.findSome? (·.leaves? fs path)) := by
  induction requests generalizing cache with
  | nil => exact Option.or_none.symm
  | cons r rest ih =>
      show (cacheAfter fs (r.answer fs cache).2 rest).get? path = _
      rw [ih, get?_answer, Option.or_assoc, List.findSome?_cons]
      cases r.leaves? fs path <;> rfl

theorem getElem?_answers (fs : FileSystem) (cache : GlobalsCache) (before : List Request)
    (r : Request) (behind : List Request) :
    (answers fs cache (before ++ r :: behind))[before.length]?
      = some (r.answer fs (cacheAfter fs cache before)).1 := by
  induction before generalizing cache with
  | nil => rfl
  | cons first rest ih => exact ih (first.answer fs cache).2

/-- Another unit has read the globals file of this one, which this one spells in a way that cannot
be read. -/
structure Lends (lender r : Request) (fs : FileSystem) : Prop where
  succeeds : ∃ outcome, lender.alone fs = .ok outcome
  /-- Two spellings of one path, of which the second asks for a directory or is too long. -/
  spellings : ∃ other path reason, lender.options.globalsFile? fs = some other
    ∧ r.options.globalsFile? fs = some path
    ∧ Path.components other = Path.components path
    ∧ Path.Misspelled path reason
    ∧ r.alone fs = .error (.globalsUnreadable path reason)

variable {lender : Request} {cache : GlobalsCache} {other : String}

theorem alone_eq_of_file (h : r.options.globalsFile? fs = some path) :
    r.alone fs = r.options.result r.source r.file ((fs.readGlobals path).map some) := by
  unfold alone answer
  rw [Options.fst_qualify, Options.userGlobals_of_file h,
    (GlobalsCache.echoes_empty fs path).fst_load]

theorem isSound_of_alone (h : ∃ outcome, r.alone fs = .ok outcome) :
    r.options.isSound r.source = true := by
  rw [← Bool.not_eq_false]
  intro hsound
  obtain ⟨outcome, halone⟩ := h
  obtain ⟨failure, hall, -⟩ := Options.result_of_not_sound hsound r.file
  rw [alone, answer, Options.fst_qualify, hall] at halone
  cases halone

/-- A unit that comes to a result has left the names of its file in the cache. -/
theorem exists_leaves? (h : ∃ outcome, lender.alone fs = .ok outcome)
    (hfile : lender.options.globalsFile? fs = some other)
    (hsame : Path.components other = Path.components path) :
    ∃ globals, lender.leaves? fs path = some globals ∧ fs.readGlobals other = .ok globals := by
  have hsound := isSound_of_alone h
  obtain ⟨outcome, halone⟩ := h
  rw [alone_eq_of_file hfile] at halone
  cases hread : fs.readGlobals other with
  | ok globals => exact ⟨globals, leaves?_eq_some_iff.2 ⟨hsound, other, hfile, hsame, hread⟩, rfl⟩
  | error failure =>
      rw [hread] at halone
      have hfails := (Options.result_of_sound hsound lender.file).1 failure
      rw [show (Except.error failure : Except Failure Globals).map some = .error failure from rfl,
        hfails] at halone
      cases halone

/-- An entry that is not what the file reads as in the spelling of a unit comes from a unit that
lends it. -/
theorem echoes_or_lends {before : List Request} (hsound : r.options.isSound r.source = true)
    (hfile : r.options.globalsFile? fs = some path) :
    (cacheAfter fs .empty before).Echoes fs path ∨ ∃ lender ∈ before, lender.Lends r fs := by
  cases hentry : (cacheAfter fs .empty before).get? path with
  | none => exact .inl (GlobalsCache.echoes_of_get?_eq_none hentry)
  | some globals =>
      have hleft := hentry
      rw [get?_cacheAfter] at hleft
      obtain ⟨lender, hlender, hleaves⟩ := List.exists_of_findSome?_eq_some hleft
      obtain ⟨hreached, other, hlent, hsame, hother⟩ := leaves?_eq_some_iff.1 hleaves
      cases hread : fs.readGlobals path with
      | ok globals' =>
          refine .inl fun kept hkept => ?_
          rw [hentry] at hkept
          cases hkept
          rw [hread, FileSystem.readGlobals_unique hsame hother hread]
      | error failure =>
          obtain ⟨reason, hspelling, rfl⟩ := FileSystem.readGlobals_eq_error_of_components hsame
            hother (Options.globalsFile?_ne_empty hfile) hread
          refine .inr ⟨lender, hlender, ?_, other, path, reason, hlent, hfile, hsame, hspelling, ?_⟩
          · rw [alone_eq_of_file hlent, hother]
            exact (Options.result_of_sound hreached lender.file).2 (some globals)
          · rw [alone_eq_of_file hfile, hread]
            exact (Options.result_of_sound hsound r.file).1 _

/-- A unit to which no other lends comes to what it comes to alone. -/
theorem answer_of_not_lends {before : List Request} (h : ∀ lender ∈ before, ¬lender.Lends r fs) :
    (r.answer fs (cacheAfter fs .empty before)).1 = r.alone fs := by
  unfold alone answer
  rw [Options.fst_qualify, Options.fst_qualify]
  cases hsound : r.options.isSound r.source with
  | false =>
      obtain ⟨failure, hall, -⟩ := Options.result_of_not_sound hsound r.file
      rw [hall, hall]
  | true =>
      have hunspoilt : r.options.Unspoilt fs (cacheAfter fs .empty before) := by
        intro path hfile
        rcases echoes_or_lends hsound hfile with hechoes | ⟨lender, hlender, hlends⟩
        · exact hechoes
        · exact absurd hlends (h lender hlender)
      rw [hunspoilt.userGlobals]

/-- A unit to which another lends comes to what it would come to with the spelling there. -/
theorem answer_of_lends {before : List Request} (hlender : lender ∈ before)
    (h : lender.Lends r fs) :
    (r.answer fs (cacheAfter fs .empty before)).1 = (r.respelled lender).alone fs := by
  obtain ⟨hsucceeds, other, path, -, hlent, hfile, hsame, -, -⟩ := h
  obtain ⟨globals, hleaves, hother⟩ := exists_leaves? hsucceeds hlent hsame
  have hentry : (cacheAfter fs .empty before).get? path = some globals := by
    rw [get?_cacheAfter]
    show before.findSome? (·.leaves? fs path) = some globals
    cases hfirst : before.findSome? (·.leaves? fs path) with
    | none =>
        rw [List.findSome?_eq_none_iff.1 hfirst lender hlender] at hleaves
        cases hleaves
    | some kept =>
        obtain ⟨first, -, hkept⟩ := List.exists_of_findSome?_eq_some hfirst
        obtain ⟨-, spelled, -, hspelled, hread⟩ := leaves?_eq_some_iff.1 hkept
        rw [FileSystem.readGlobals_unique (hspelled.trans hsame.symm) hread hother]
  have hrespelled : (r.respelled lender).options.globalsFile? fs = some other := hlent
  rw [alone_eq_of_file hrespelled, hother]
  unfold answer
  rw [Options.fst_qualify, Options.userGlobals_of_file hfile,
    GlobalsCache.load_of_get?_eq_some hentry]
  rfl

/--
**What units have from each other that share a cache**: the names of a globals file.  Whatever the
units are, each comes to what it comes to with a cache of its own, but for one whose globals file
cannot be read only because its spelling asks for a directory or is too long: if some unit before it
has read that file in another spelling, it comes to what it would come to with that spelling.
-/
theorem answers_borrowed (fs : FileSystem) (before : List Request) (r : Request)
    (behind : List Request) :
    ∃ answer, (answers fs .empty (before ++ r :: behind))[before.length]? = some answer
      ∧ ((∀ lender ∈ before, ¬lender.Lends r fs) → answer = r.alone fs)
      ∧ ∀ lender ∈ before, lender.Lends r fs → answer = (r.respelled lender).alone fs :=
  ⟨_, getElem?_answers fs .empty before r behind, answer_of_not_lends,
    fun _ hlender hlends => answer_of_lends hlender hlends⟩

/-- The unit with slashes put at the front of the path of its globals file. -/
def padded (r : Request) (spelled : String) (n : Nat) : Request :=
  { r with options := { r.options with globals := some (.file (Path.padded spelled n)) } }

/-- A unit that comes to a result can tell where its globals file is. -/
theorem exists_globalsDirectory {spelled : String} (h : ∃ outcome, r.alone fs = .ok outcome)
    (hglobals : r.options.globals = some (.file spelled)) :
    ∃ directory, r.options.globalsDirectory fs = .ok directory := by
  have hfails := (Options.result_of_sound (isSound_of_alone h) r.file).1
  cases r.options.gathering fs with
  | inline _ hinline => exact absurd hglobals (hinline spelled)
  | untold _ _ _ _ huser =>
      obtain ⟨outcome, halone⟩ := h
      rw [alone, answer, Options.fst_qualify, huser, hfails] at halone
      cases halone
  | file path hfile =>
      obtain ⟨-, directory, -, hdirectory, -⟩ := Options.exists_directory_of_globalsFile? hfile
      exact ⟨directory, hdirectory⟩

/-- **A path that starts at the root can be spelled too long**: with that many slashes more, a unit
that comes to a result lends its globals file to itself. -/
theorem lends_padded {spelled : String} (h : ∃ outcome, r.alone fs = .ok outcome)
    (hglobals : r.options.globals = some (.file spelled))
    (hroot : Path.isAbsolute spelled = true) : r.Lends (r.padded spelled longestPath) fs where
  succeeds := h
  spellings := by
    obtain ⟨directory, hdirectory⟩ := exists_globalsDirectory h hglobals
    have hfile := Options.globalsFile?_of_directory hglobals hdirectory
    have hlonger : (r.padded spelled longestPath).options.globalsFile? fs
        = some (Path.padded (Path.ofGlobalsFile spelled directory) longestPath) := by
      rw [← Path.ofGlobalsFile_padded hroot]
      exact Options.globalsFile?_of_directory rfl hdirectory
    have hpath : Path.isAbsolute (Path.ofGlobalsFile spelled directory) = true := by
      rw [Path.isAbsolute_ofGlobalsFile, hroot, Bool.true_or]
    have hsize := mt String.utf8ByteSize_eq_zero_iff.1 (Path.ofGlobalsFile_ne_empty spelled directory)
    generalize Path.ofGlobalsFile spelled directory = path at hfile hlonger hpath hsize
    have hlong : longestPath < (Path.padded path longestPath).utf8ByteSize := by
      rw [Path.utf8ByteSize_padded]
      omega
    refine ⟨path, _, .nameTooLong, hfile, hlonger, (Path.components_padded hpath _).symm,
      .length hlong, ?_⟩
    rw [alone_eq_of_file hlonger, FileSystem.readGlobals, FileSystem.read,
      fs.find_eq_nameTooLong hlong]
    exact (Options.result_of_sound (isSound_of_alone h) r.file).1 _

/-- A globals file in the root directory. -/
def fileAtRoot : FileSystem :=
  { root := .directory [("g.json", .file (some "\x7b\"x\": true\x7d"))]
    workingDirectory := "/" }

/-- A unit that has this file for its global names, spelled in some way. -/
def spelling (path : String) : Request :=
  { options := { globals := some (.file path) }, source := "x;", file := "x.js" }

theorem spelling_lends : (spelling "g").Lends (spelling "g.json/") fileAtRoot where
  succeeds := by
    have hok : ((spelling "g").alone fileAtRoot).isOk = true := by decide +kernel
    cases halone : (spelling "g").alone fileAtRoot with
    | ok outcome => exact ⟨outcome, rfl⟩
    | error failure =>
        rw [halone] at hok
        cases hok
  spellings := by
    have hread : fileAtRoot.read "/g.json/" = .error .notDirectory := by decide +kernel
    have hfile : (spelling "g.json/").options.globalsFile? fileAtRoot = some "/g.json/" := by
      decide +kernel
    have hsound : (spelling "g.json/").options.isSound (spelling "g.json/").source = true := by
      decide +kernel
    refine ⟨"/g.json", "/g.json/", .notDirectory, by decide +kernel, hfile, by decide +kernel,
      .directory (by decide +kernel), ?_⟩
    rw [alone_eq_of_file hfile, FileSystem.readGlobals, hread]
    exact (Options.result_of_sound hsound _).1 _

/-- A slash at the end of the path: the unit fails alone, and not behind one that has read the
file. -/
theorem answers_borrowed_slash :
    (spelling "g").Lends (spelling "g.json/") fileAtRoot
      ∧ ∃ answer, (answers fileAtRoot .empty [spelling "g", spelling "g.json/"])[1]? = some answer
        ∧ answer = ((spelling "g.json/").respelled (spelling "g")).alone fileAtRoot := by
  refine ⟨spelling_lends, ?_⟩
  obtain ⟨answer, hanswer, -, hlent⟩ :=
    answers_borrowed fileAtRoot [spelling "g"] (spelling "g.json/") []
  exact ⟨answer, hanswer, hlent _ List.mem_cons_self spelling_lends⟩

/-- So units that share a cache do not always come to what each comes to alone. -/
theorem answers_ne_alone :
    answers fileAtRoot .empty [spelling "g", spelling "g.json/"]
      ≠ [spelling "g", spelling "g.json/"].map (·.alone fileAtRoot) := by
  intro hsame
  have hshared : (answers fileAtRoot .empty [spelling "g", spelling "g.json/"]).map (·.isOk)
      = [true, true] := by
    decide +kernel
  have halone : ([spelling "g", spelling "g.json/"].map (·.alone fileAtRoot)).map (·.isOk)
      = [true, false] := by
    decide +kernel
  rw [hsame, halone] at hshared
  cases hshared

end Request

end FreeNames

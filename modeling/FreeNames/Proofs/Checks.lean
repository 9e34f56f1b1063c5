/-
What a unit leaves behind.

A unit is checked three times before its tree is touched: its receiver, its source and the
file of the user's global names.  The first check that finds something decides what the
failure is, whatever the later ones would find (`Options.firstFinding?`), and only the last
one goes to the cache, if it can tell where the file is.

All that can become of a unit is listed once (`Options.Ending`), with the cache that it
leaves; the promises of `Options.Orderly` are read off that list.
-/
import FreeNames.Proofs.SharedCache

namespace FreeNames

/-- Whether a globals file is at fault. -/
def Failure.isOfGlobalsFile : Failure → Bool
  | .globalsUnreadable .. | .globalsNotJson _ | .globalsNotObject _ => true
  | .options _ | .malformed _ | .sourceUnreadable .. => false

theorem FileSystem.isOfGlobalsFile_of_readGlobals {fs : FileSystem} {path : String}
    {failure : Failure} (h : fs.readGlobals path = .error failure) :
    failure.isOfGlobalsFile = true := by
  unfold readGlobals at h
  split at h
  · cases h
    rfl
  · unfold Globals.ofText at h
    split at h
    · cases h
      rfl
    · cases h
    · cases h
      rfl

namespace GlobalsCache

/-- The cache with an entry that was read for a path. -/
def withEntry (cache : GlobalsCache) (path : String) (globals : Globals) : GlobalsCache :=
  { entries := (Path.components path, globals) :: cache.entries, reads := cache.reads + 1 }

/-- The cache after a read that was in vain. -/
def withRead (cache : GlobalsCache) : GlobalsCache := { cache with reads := cache.reads + 1 }

end GlobalsCache

namespace Options

/-! ### The checks -/

/-- What a unit is checked for. -/
inductive Check
  | receiver
  | source
  | globalsFile
  deriving DecidableEq, Repr

/-- The checks in the order in which they are made. -/
def Check.inOrder : List Check := [.receiver, .source, .globalsFile]

/-- What is wrong with the globals file of a unit, if the options name one.  It is not read if there
is an entry for it. -/
def globalsFinding? (o : Options) (fs : FileSystem) (cache : GlobalsCache) : Option Failure :=
  match o.globals with
  | some (.file spelled) =>
    match o.globalsPath fs spelled with
    | .error reason => some (.globalsUnreadable spelled reason)
    | .ok path =>
      if cache.contains path then none
      else
        match fs.readGlobals path with
        | .ok _ => none
        | .error failure => some failure
  | _ => none

/-- What a check finds wrong with a unit, whether or not the other checks find anything. -/
def finding? (o : Options) (source file : String) (fs : FileSystem) (cache : GlobalsCache) :
    Check → Option Failure
  | .receiver => o.problem?.map .options
  | .source => if (Program.parse? o.sourceKind source).isSome then none else some (.malformed file)
  | .globalsFile => o.globalsFinding? fs cache

/-- What the first check finds that finds anything. -/
def firstFinding? (o : Options) (source file : String) (fs : FileSystem) (cache : GlobalsCache) :
    Option Failure :=
  Check.inOrder.findSome? (o.finding? source file fs cache)

/-! ### All that can become of a unit -/

variable {o : Options} {source file : String} {fs : FileSystem} {cache : GlobalsCache}

/-- The ways in which a unit ends, each with the cache that it leaves. -/
inductive Ending (o : Options) (source file : String) (fs : FileSystem) (cache : GlobalsCache) :
    Except Failure Outcome × GlobalsCache → Prop
  /-- The receiver is not sound. -/
  | receiver {problem : Problem} (hproblem : o.problem? = some problem) :
      Ending o source file fs cache (.error (.options problem), cache)
  /-- The source cannot be read. -/
  | source (hsound : o.problem? = none) (hread : Program.parse? o.sourceKind source = none) :
      Ending o source file fs cache (.error (.malformed file), cache)
  /-- It cannot be told where the globals file is. -/
  | untold {spelled : String} {reason : ReadError} (hsound : o.problem? = none)
      (hread : (Program.parse? o.sourceKind source).isSome = true)
      (hglobals : o.globals = some (.file spelled)) (hpath : o.globalsPath fs spelled = .error reason) :
      Ending o source file fs cache (.error (.globalsUnreadable spelled reason), cache)
  /-- The globals file cannot be used. -/
  | globalsFile {path : String} {failure : Failure} (hsound : o.problem? = none)
      (hread : (Program.parse? o.sourceKind source).isSome = true)
      (hfile : o.globalsFile? fs = some path) (hentry : cache.get? path = none)
      (hglobals : fs.readGlobals path = .error failure) :
      Ending o source file fs cache (.error failure, cache.withRead)
  /-- The user's global names are known without reading a file. -/
  | known {outcome : Outcome} (hsound : o.problem? = none)
      (hread : (Program.parse? o.sourceKind source).isSome = true)
      (hfile : ∀ spelled, o.globals = some (.file spelled) →
        ∃ path, o.globalsPath fs spelled = .ok path ∧ cache.contains path = true) :
      Ending o source file fs cache (.ok outcome, cache)
  /-- The globals file is read. -/
  | loaded {path : String} {globals : Globals} {outcome : Outcome} (hsound : o.problem? = none)
      (hread : (Program.parse? o.sourceKind source).isSome = true)
      (hfile : o.globalsFile? fs = some path) (hentry : cache.get? path = none)
      (hglobals : fs.readGlobals path = .ok globals) :
      Ending o source file fs cache (.ok outcome, cache.withEntry path globals)

theorem ending_qualify (o : Options) (source file : String) (fs : FileSystem)
    (cache : GlobalsCache) : Ending o source file fs cache (o.qualify source file fs cache) := by
  unfold qualify
  cases hproblem : o.problem? with
  | some problem => exact .receiver hproblem
  | none =>
      dsimp only
      cases hread : Program.parse? o.sourceKind source with
      | none => exact .source hproblem hread
      | some program =>
          have hsome : (Program.parse? o.sourceKind source).isSome = true := by rw [hread]; rfl
          dsimp only
          unfold unitGlobals
          cases o.gathering fs with
          | inline user hglobals huser =>
              rw [huser]
              exact .known hproblem hsome fun spelled hspelled => absurd hspelled (hglobals spelled)
          | untold spelled reason hglobals hpath huser =>
              rw [huser]
              exact .untold hproblem hsome hglobals hpath
          | file path hfile huser =>
              rw [huser]
              cases hentry : cache.get? path with
              | some globals =>
                  rw [GlobalsCache.load_of_get?_eq_some hentry]
                  refine .known hproblem hsome fun other hother => ?_
                  obtain ⟨spelled, hglobals, hpath⟩ := globalsFile?_eq_some_iff.1 hfile
                  rw [hother] at hglobals
                  cases hglobals
                  exact ⟨path, hpath, by rw [GlobalsCache.contains, hentry]; rfl⟩
              | none =>
                  cases hglobals : fs.readGlobals path with
                  | ok globals =>
                      rw [GlobalsCache.load_of_readGlobals_eq_ok hentry hglobals]
                      exact .loaded hproblem hsome hfile hentry hglobals
                  | error failure =>
                      rw [GlobalsCache.load_of_readGlobals_eq_error hentry hglobals]
                      exact .globalsFile hproblem hsome hfile hentry hglobals

/-- A unit that has come to something ends in one of these ways. -/
theorem ending_of_fst_eq {result : Except Failure Outcome}
    (h : (o.qualify source file fs cache).1 = result) :
    Ending o source file fs cache (result, (o.qualify source file fs cache).2) := by
  rw [← h]
  exact o.ending_qualify source file fs cache

theorem globalsFinding?_of_file {path : String} (h : o.globalsFile? fs = some path) :
    o.globalsFinding? fs cache
      = if cache.contains path then none
        else
          match fs.readGlobals path with
          | .ok _ => none
          | .error failure => some failure := by
  obtain ⟨spelled, hglobals, hpath⟩ := globalsFile?_eq_some_iff.1 h
  simp only [globalsFinding?, hglobals, hpath]

namespace Ending

variable {result : Except Failure Outcome} {later : GlobalsCache} {failure : Failure}
  {outcome : Outcome}

/-- The first check that finds something decides about a unit. -/
theorem eq_error_iff (h : Ending o source file fs cache (result, later)) (failure : Failure) :
    result = .error failure ↔ o.firstFinding? source file fs cache = some failure := by
  unfold firstFinding? Check.inOrder
  cases h with
  | receiver hproblem => simp [finding?, hproblem]
  | source hsound hread => simp [finding?, hsound, hread]
  | untold hsound hread hglobals hpath =>
      simp [finding?, hsound, hread, globalsFinding?, hglobals, hpath]
  | globalsFile hsound hread hfile hentry hglobals =>
      simp [finding?, hsound, hread, globalsFinding?_of_file hfile, GlobalsCache.contains, hentry,
        hglobals]
  | known hsound hread hfile =>
      have hnothing : o.globalsFinding? fs cache = none := by
        unfold globalsFinding?
        split
        · rename_i spelled hglobals
          obtain ⟨path, hpath, hkept⟩ := hfile spelled hglobals
          simp only [hpath, if_pos hkept]
        · rfl
      simp [finding?, hsound, hread, hnothing]
  | loaded hsound hread hfile hentry hglobals =>
      simp [finding?, hsound, hread, globalsFinding?_of_file hfile, GlobalsCache.contains, hentry,
        hglobals]

theorem entries_eq (h : Ending o source file fs cache (.error failure, later)) :
    later.entries = cache.entries := by
  cases h with
  | receiver | source | untold | globalsFile => rfl

/-- A check before the last one does not look at the files or the cache. -/
theorem qualify_eq (h : Ending o source file fs cache (.error failure, later))
    (hearly : failure.isOfGlobalsFile = false) :
    ((∃ problem, failure = .options problem) ∨ failure = .malformed file)
      ∧ ∀ fs' cache', o.qualify source file fs' cache' = (.error failure, cache') := by
  cases h with
  | receiver hproblem =>
      refine ⟨.inl ⟨_, rfl⟩, fun fs' cache' => ?_⟩
      rw [qualify, hproblem]
  | source hsound hread =>
      refine ⟨.inr rfl, fun fs' cache' => ?_⟩
      simp only [qualify, hsound, hread]
  | untold => cases hearly
  | globalsFile hsound hread hfile hentry hglobals =>
      rw [FileSystem.isOfGlobalsFile_of_readGlobals hglobals] at hearly
      cases hearly

theorem reads_eq (h : Ending o source file fs cache (.error failure, later))
    (hfailure : failure.isOfGlobalsFile = true) :
    later.reads = cache.reads + if (o.globalsFile? fs).isSome then 1 else 0 := by
  cases h with
  | receiver | source => cases hfailure
  | untold _ _ hglobals hpath =>
      rw [globalsFile?, hglobals]
      simp [hpath, Except.toOption]
  | globalsFile _ _ hfile =>
      rw [hfile]
      rfl

theorem eq_or_withEntry (h : Ending o source file fs cache (.ok outcome, later)) :
    later = cache ∨ ∃ spelled path globals, o.globals = some (.file spelled)
      ∧ o.globalsPath fs spelled = .ok path
      ∧ cache.contains path = false
      ∧ fs.readGlobals path = .ok globals
      ∧ later = cache.withEntry path globals := by
  cases h with
  | known => exact .inl rfl
  | loaded hsound hread hfile hentry hglobals =>
      obtain ⟨spelled, hspelled, hpath⟩ := globalsFile?_eq_some_iff.1 hfile
      exact .inr ⟨spelled, _, _, hspelled, hpath, GlobalsCache.contains_eq_false_iff.2 hentry,
        hglobals, rfl⟩

end Ending

/-! ### What holds of every unit -/

/-- What is promised of a unit, whatever becomes of it and whatever cache it finds. -/
structure Orderly (o : Options) (source file : String) (fs : FileSystem) (cache : GlobalsCache) :
    Prop where
  /-- A unit fails if a check finds something, and with what the first of them finds. -/
  first : ∀ failure, (o.qualify source file fs cache).1 = .error failure ↔
    o.firstFinding? source file fs cache = some failure
  /-- A unit that fails leaves every entry as it is, and makes none. -/
  entries : ∀ failure, (o.qualify source file fs cache).1 = .error failure →
    (o.qualify source file fs cache).2.entries = cache.entries
  /-- A unit that fails for its receiver or its source asks neither the files nor the cache. -/
  untouched : ∀ failure, (o.qualify source file fs cache).1 = .error failure →
    failure.isOfGlobalsFile = false →
      ((∃ problem, failure = .options problem) ∨ failure = .malformed file)
        ∧ ∀ fs' cache', o.qualify source file fs' cache' = (.error failure, cache')
  /-- A unit that fails for its globals file has gone to it once, or not at all if it cannot be told
  where it is. -/
  read : ∀ failure, (o.qualify source file fs cache).1 = .error failure →
    failure.isOfGlobalsFile = true →
      (o.qualify source file fs cache).2.reads
        = cache.reads + if (o.globalsFile? fs).isSome then 1 else 0
  /-- A unit that comes to a result leaves the cache as it is, or with one entry more: that of its
  globals file, if there was none for it. -/
  added : ∀ outcome, (o.qualify source file fs cache).1 = .ok outcome →
    (o.qualify source file fs cache).2 = cache
      ∨ ∃ spelled path globals, o.globals = some (.file spelled)
        ∧ o.globalsPath fs spelled = .ok path
        ∧ cache.contains path = false
        ∧ fs.readGlobals path = .ok globals
        ∧ (o.qualify source file fs cache).2 = cache.withEntry path globals

/--
**A unit that fails leaves no trace.**  The first check that finds something says what the failure
is.  No failure makes or changes an entry of the cache; a failure of the receiver or of the source
comes before any file is asked for, and one of the globals file costs one read, or none if the
directory from which it is seen cannot be told.  A unit that comes to a result makes one entry at
most, for a globals file that had none.
-/
theorem orderly_qualify (o : Options) (source file : String) (fs : FileSystem)
    (cache : GlobalsCache) : o.Orderly source file fs cache where
  first := (o.ending_qualify source file fs cache).eq_error_iff
  entries _ h := (ending_of_fst_eq h).entries_eq
  untouched _ h := (ending_of_fst_eq h).qualify_eq
  read _ h := (ending_of_fst_eq h).reads_eq
  added _ h := (ending_of_fst_eq h).eq_or_withEntry

end Options

end FreeNames

/-
The life of a globals cache.

What happens to a cache, and to the files behind its back, is a list of actions.  All
that one action does to the entries is said by `Session.get?_act`: an entry stays what
it is, and one is made only by a load of that path that finds none and can use the
file.  The counter of the reads moves where a file is gone to (`Session.reads_act`).

From the two everything else follows for a whole life: an entry is what its file read
as when it was first loaded, however the file has changed since; and a path whose file
could not be used is gone to again.
-/
import FreeNames.Globals.Cache
import Mathlib.Data.List.Induction

namespace FreeNames

namespace GlobalsCache

variable {cache : GlobalsCache} {fs : FileSystem} {path : String} {globals : Globals}
  {failure : Failure}

/-- A path that has an entry is not read. -/
theorem load_of_get?_eq_some (h : cache.get? path = some globals) :
    cache.load fs path = (.ok globals, cache) := by
  rw [load, h]

/-- A path without an entry is read, and gets an entry if the file can be used. -/
theorem load_of_readGlobals_eq_ok (h : cache.get? path = none)
    (hread : fs.readGlobals path = .ok globals) :
    cache.load fs path = (.ok globals,
      { entries := (Path.components path, globals) :: cache.entries, reads := cache.reads + 1 }) := by
  rw [load, h, loadUncached, hread]

theorem load_of_readGlobals_eq_error (h : cache.get? path = none)
    (hread : fs.readGlobals path = .error failure) :
    cache.load fs path = (.error failure, { cache with reads := cache.reads + 1 }) := by
  rw [load, h, loadUncached, hread]

theorem get?_congr (cache : GlobalsCache) {path other : String}
    (h : Path.components other = Path.components path) : cache.get? other = cache.get? path := by
  rw [get?, get?, h]

theorem contains_eq_false_iff : cache.contains path = false ↔ cache.get? path = none := by
  rw [contains, Option.isSome_eq_false_iff, Option.isNone_iff_eq_none]

/-- What a load says, whether or not there is an entry. -/
theorem fst_load (cache : GlobalsCache) (fs : FileSystem) (path : String) :
    (cache.load fs path).1
      = match cache.get? path with
        | some globals => .ok globals
        | none => fs.readGlobals path := by
  cases hentry : cache.get? path with
  | some globals => rw [load_of_get?_eq_some hentry]
  | none =>
      cases hread : fs.readGlobals path with
      | ok globals => rw [load_of_readGlobals_eq_ok hentry hread]
      | error failure => rw [load_of_readGlobals_eq_error hentry hread]

/-- A load that finds no entry reads the file once. -/
theorem load_of_get?_eq_none (h : cache.get? path = none) :
    (cache.load fs path).1 = fs.readGlobals path
      ∧ (cache.load fs path).2.reads = cache.reads + 1 := by
  cases hread : fs.readGlobals path with
  | ok globals =>
      rw [load_of_readGlobals_eq_ok h hread]
      exact ⟨rfl, rfl⟩
  | error failure =>
      rw [load_of_readGlobals_eq_error h hread]
      exact ⟨rfl, rfl⟩

/-- A load that fails found no entry, and leaves none. -/
theorem of_load_eq_error (h : (cache.load fs path).1 = .error failure) :
    cache.get? path = none
      ∧ cache.load fs path = (.error failure, { cache with reads := cache.reads + 1 }) := by
  rw [fst_load] at h
  cases hentry : cache.get? path with
  | some globals =>
      rw [hentry] at h
      cases h
  | none =>
      rw [hentry] at h
      exact ⟨rfl, load_of_readGlobals_eq_error hentry h⟩

end GlobalsCache

/-- What is done to a cache, or to the files behind its back. -/
inductive CacheAction
  | load (path : String)
  | loadUncached (path : String)
  | contains (path : String)
  | change (files : FileSystem)

/-- Whether a file is read whether or not there is an entry for it. -/
def CacheAction.isUncached : CacheAction → Bool
  | .loadUncached _ => true
  | _ => false

/-- A cache and the files at one time. -/
structure Session where
  cache : GlobalsCache
  files : FileSystem

namespace Session

/-- What a load of a path comes to. -/
def load (s : Session) (path : String) : Except Failure Globals × GlobalsCache :=
  s.cache.load s.files path

/-- The next session. -/
def act (s : Session) : CacheAction → Session
  | .load path => { s with cache := (s.load path).2 }
  | .loadUncached path => { s with cache := (s.cache.loadUncached s.files path).2 }
  | .contains _ => s
  | .change files => { s with files }

/-- The session after some actions. -/
def after (s : Session) (actions : List CacheAction) : Session := actions.foldl act s

/-- The action in the middle of a life. -/
theorem after_split (s : Session) (before : List CacheAction) (a : CacheAction)
    (behind : List CacheAction) :
    s.after (before ++ a :: behind) = ((s.after before).act a).after behind := by
  unfold after
  rw [List.foldl_append, List.foldl_cons]

/-- Whether an action is a load that finds no entry. -/
def misses (s : Session) : CacheAction → Bool
  | .load path => !s.cache.contains path
  | _ => false

/-- How many loads find no entry. -/
def missCount (s : Session) : List CacheAction → Nat
  | [] => 0
  | a :: rest => (if s.misses a then 1 else 0) + (s.act a).missCount rest

/-! ### One action -/

/-- What an action adds to the entries, if the path has none. -/
def added (s : Session) (path : String) : CacheAction → Option Globals
  | .load other =>
    if Path.components other = Path.components path then (s.files.readGlobals other).toOption
    else none
  | _ => none

theorem added_eq_some_iff {s : Session} {path : String} {a : CacheAction} {globals : Globals} :
    s.added path a = some globals ↔ ∃ other, a = .load other
      ∧ Path.components other = Path.components path
      ∧ s.files.readGlobals other = .ok globals := by
  cases a with
  | load other =>
      have hread : (s.files.readGlobals other).toOption = some globals
          ↔ s.files.readGlobals other = .ok globals := by
        cases s.files.readGlobals other <;> simp [Except.toOption]
      simp [added, hread]
  | _ => simp [added]

/-- Entries stay, and are made by loads only. -/
theorem get?_act (s : Session) (a : CacheAction) (path : String) :
    (s.act a).cache.get? path = (s.cache.get? path).or (s.added path a) := by
  cases a with
  | load other =>
      show (s.cache.load s.files other).2.get? path = _
      cases hentry : s.cache.get? other with
      | some globals =>
          rw [GlobalsCache.load_of_get?_eq_some hentry, added]
          by_cases hsame : Path.components other = Path.components path
          · rw [← s.cache.get?_congr hsame, hentry, Option.some_or]
          · rw [if_neg hsame, Option.or_none]
      | none =>
          cases hread : s.files.readGlobals other with
          | ok globals =>
              rw [GlobalsCache.load_of_readGlobals_eq_ok hentry hread, added, hread]
              by_cases hsame : Path.components other = Path.components path
              · rw [← s.cache.get?_congr hsame, hentry, if_pos hsame, GlobalsCache.get?, hsame,
                  List.lookup_cons_self]
                rfl
              · rw [if_neg hsame, Option.or_none, GlobalsCache.get?, List.lookup_cons,
                  beq_false_of_ne (Ne.symm hsame)]
                rfl
          | error failure =>
              rw [GlobalsCache.load_of_readGlobals_eq_error hentry hread, added, hread]
              show s.cache.get? path = _
              split
              · rw [show (Except.error failure : Except Failure Globals).toOption = none from rfl,
                  Option.or_none]
              · rw [Option.or_none]
  | loadUncached other => exact (Option.or_none).symm
  | contains other => exact (Option.or_none).symm
  | change files => exact (Option.or_none).symm

/-- A file is gone to by a load that finds no entry, and by every load past the cache. -/
theorem reads_act (s : Session) (a : CacheAction) :
    (s.act a).cache.reads
      = s.cache.reads + (if a.isUncached then 1 else 0) + (if s.misses a then 1 else 0) := by
  cases a with
  | load path =>
      show (s.cache.load s.files path).2.reads
        = s.cache.reads + 0 + if (!s.cache.contains path) = true then 1 else 0
      cases hentry : s.cache.get? path with
      | some globals =>
          rw [GlobalsCache.load_of_get?_eq_some hentry, GlobalsCache.contains, hentry]
          rfl
      | none =>
          rw [GlobalsCache.contains_eq_false_iff.2 hentry]
          cases hread : s.files.readGlobals path with
          | ok globals =>
              rw [GlobalsCache.load_of_readGlobals_eq_ok hentry hread]
              rfl
          | error failure =>
              rw [GlobalsCache.load_of_readGlobals_eq_error hentry hread]
              rfl
  | loadUncached path => rfl
  | contains path => rfl
  | change files => rfl

/-! ### A whole life -/

variable {s : Session} {path : String} {globals : Globals}

/-- An entry that is there stays. -/
theorem get?_after_of_eq_some (h : s.cache.get? path = some globals)
    (actions : List CacheAction) : (s.after actions).cache.get? path = some globals := by
  induction actions generalizing s with
  | nil => exact h
  | cons a rest ih =>
      refine ih (s := s.act a) ?_
      rw [get?_act, h, Option.some_or]

/-- A path that is not loaded gets no entry. -/
theorem get?_after_of_eq_none (h : s.cache.get? path = none) {actions : List CacheAction}
    (hother : ∀ other, .load other ∈ actions → Path.components other ≠ Path.components path) :
    (s.after actions).cache.get? path = none := by
  induction actions generalizing s with
  | nil => exact h
  | cons a rest ih =>
      refine ih (s := s.act a) ?_ fun other ho => hother other (List.mem_cons_of_mem a ho)
      rw [get?_act, h, Option.none_or]
      cases a with
      | load other => exact if_neg (hother other List.mem_cons_self)
      | _ => rfl

/-- A load that succeeds leaves an entry. -/
theorem get?_act_load (h : (s.load path).1 = .ok globals) :
    (s.act (.load path)).cache.get? path = some globals := by
  unfold load at h
  rw [GlobalsCache.fst_load] at h
  rw [get?_act]
  cases hentry : s.cache.get? path with
  | some kept =>
      rw [hentry] at h
      cases h
      rfl
  | none =>
      rw [hentry] at h
      have hread : s.files.readGlobals path = .ok globals := h
      rw [Option.none_or, added, if_pos rfl, hread]
      rfl

/-- A load that fails leaves no entry. -/
theorem get?_act_load_of_eq_error {failure : Failure} (h : (s.load path).1 = .error failure) :
    (s.act (.load path)).cache.get? path = none := by
  obtain ⟨hentry, hload⟩ := GlobalsCache.of_load_eq_error h
  show (s.cache.load s.files path).2.get? path = none
  rw [hload]
  exact hentry

/-- Every read of a file is one of a load that found no entry or of a load past the cache. -/
theorem reads_after (s : Session) (actions : List CacheAction) :
    (s.after actions).cache.reads
      = s.cache.reads + actions.countP CacheAction.isUncached + s.missCount actions := by
  induction actions generalizing s with
  | nil => rfl
  | cons a rest ih =>
      show ((s.act a).after rest).cache.reads = _
      rw [ih, reads_act, missCount, List.countP_cons]
      omega

/-- Where an entry comes from: the first load of the path that succeeded. -/
theorem exists_load_of_get? (h : s.cache.get? path = none) {actions : List CacheAction}
    (hentry : (s.after actions).cache.get? path = some globals) :
    ∃ before other between, actions = before ++ .load other :: between
      ∧ Path.components other = Path.components path
      ∧ (s.after before).cache.get? path = none
      ∧ (s.after before).files.readGlobals other = .ok globals := by
  induction actions using List.reverseRecOn with
  | nil =>
      rw [show (s.after []).cache.get? path = none from h] at hentry
      cases hentry
  | append_singleton before a ih =>
      rw [after_split] at hentry
      have hstep : ((s.after before).act a).cache.get? path = some globals := hentry
      rw [get?_act] at hstep
      cases hold : (s.after before).cache.get? path with
      | some kept =>
          rw [hold, Option.some_or] at hstep
          obtain ⟨earlier, other, between, rfl, hrest⟩ := ih (hold.trans hstep)
          exact ⟨earlier, other, between ++ [a], by simp, hrest⟩
      | none =>
          rw [hold, Option.none_or] at hstep
          obtain ⟨other, rfl, hsame, hread⟩ := added_eq_some_iff.1 hstep
          exact ⟨before, other, [], rfl, hsame, hold, hread⟩

/-- What holds of a cache after some actions. -/
structure LifeCycle (start : Session) (actions : List CacheAction) : Prop where
  /-- What was loaded once is what any later load gives, and it is not read again. -/
  kept : ∀ before path between globals, actions = before ++ .load path :: between →
    ((start.after before).load path).1 = .ok globals →
    ∀ other, Path.components other = Path.components path →
      (start.after actions).load other = (.ok globals, (start.after actions).cache)
  /-- A load past the cache leaves the entries alone. -/
  uncached : ∀ path,
    ((start.after actions).act (.loadUncached path)).cache.entries
      = (start.after actions).cache.entries
  /-- A load that fails leaves the entries alone, and none of the path. -/
  failed : ∀ path failure, ((start.after actions).load path).1 = .error failure →
    ((start.after actions).load path).2.entries = (start.after actions).cache.entries
      ∧ ((start.after actions).load path).2.contains path = false
  /-- The next load of a path that failed reads the file as it is then. -/
  retried : ∀ before path between failure, actions = before ++ .load path :: between →
    ((start.after before).load path).1 = .error failure →
    (∀ other, .load other ∈ between → Path.components other ≠ Path.components path) →
    ∀ other, Path.components other = Path.components path →
      (start.after actions).cache.contains other = false
        ∧ ((start.after actions).load other).1 = (start.after actions).files.readGlobals other
        ∧ ((start.after actions).load other).2.reads = (start.after actions).cache.reads + 1
  /-- An entry is what the file read as at the first load of its path that succeeded. -/
  source : ∀ path globals, (start.after actions).cache.get? path = some globals →
    ∃ before other between, actions = before ++ .load other :: between
      ∧ Path.components other = Path.components path
      ∧ (start.after before).files.readGlobals other = .ok globals
      ∧ ∀ earlier tried later, before = earlier ++ .load tried :: later →
        Path.components tried = Path.components path →
        ∃ failure, ((start.after earlier).load tried).1 = .error failure
  /-- Every read is one of a load past the cache or of a load that found no entry. -/
  reads : (start.after actions).cache.reads
    = actions.countP CacheAction.isUncached + start.missCount actions

/-- **The life of a cache**, from the first action to any number of them, whatever happens to the
files in between. -/
theorem lifeCycle (files : FileSystem) (actions : List CacheAction) :
    LifeCycle ⟨.empty, files⟩ actions where
  kept := by
    rintro before path between globals rfl hloaded other hsame
    rw [after_split]
    have hentry := get?_after_of_eq_some (get?_act_load hloaded) between
    rw [← GlobalsCache.get?_congr _ hsame] at hentry
    exact GlobalsCache.load_of_get?_eq_some hentry
  uncached path := rfl
  failed := by
    intro path failure hfailed
    obtain ⟨hentry, hload⟩ := GlobalsCache.of_load_eq_error hfailed
    rw [load, hload]
    exact ⟨rfl, GlobalsCache.contains_eq_false_iff.2 hentry⟩
  retried := by
    rintro before path between failure rfl hfailed hbetween other hsame
    rw [after_split]
    have hnone := get?_after_of_eq_none (get?_act_load_of_eq_error hfailed) hbetween
    rw [← GlobalsCache.get?_congr _ hsame] at hnone
    exact ⟨GlobalsCache.contains_eq_false_iff.2 hnone, GlobalsCache.load_of_get?_eq_none hnone⟩
  source := by
    intro path globals hentry
    obtain ⟨before, other, between, hsplit, hsame, hnone, hread⟩ := exists_load_of_get? rfl hentry
    refine ⟨before, other, between, hsplit, hsame, hread, ?_⟩
    rintro earlier tried later rfl htried
    cases hresult : ((Session.after ⟨.empty, files⟩ earlier).load tried).1 with
    | error failure => exact ⟨failure, rfl⟩
    | ok globals =>
        rw [after_split, ← GlobalsCache.get?_congr _ htried,
          get?_after_of_eq_some (get?_act_load hresult) later] at hnone
        cases hnone
  reads := by
    rw [reads_after]
    exact congrArg (· + _) (Nat.zero_add _)

end Session

end FreeNames

/-
The layers of the global names of a unit.

A set of global names is built by merging one layer after the other, and a name has
the flag of the last layer that lists it (`Globals.get?_foldl_merge`).  Everything
else is about which layers there are: the environments that were asked for and are
known, or none of them once `none` is among those, and the names of directives,
unless the options are strict.
-/
import FreeNames.Globals.Unit
import FreeNames.Proofs.Lookup

namespace FreeNames

namespace Globals

variable {g late : Globals}

/-- The later set decides. -/
theorem get?_merge (g late : Globals) (name : String) :
    (g.merge late).get? name = (late.get? name).or (g.get? name) := by
  show (late.entries ++ g.entries.filter fun e => !late.contains e.1).lookup name = _
  rw [List.lookup_append]
  cases hlate : late.entries.lookup name with
  | some flag =>
      rw [get?, hlate]
      rfl
  | none =>
      have hkeep : (!late.contains name) = true := by
        rw [contains, get?, hlate]
        rfl
      rw [get?, hlate]
      exact lookup_filter_name (fun name => !late.contains name) hkeep g.entries

theorem get?_insert (g : Globals) (name : String) (flag : Bool) (other : String) :
    (g.insert name flag).get? other = if other = name then some flag else g.get? other := by
  rw [insert, get?_merge]
  by_cases h : other = name
  · subst h
    rw [if_pos rfl, get?, List.lookup_cons_self]
    rfl
  · rw [if_neg h, get?, List.lookup_cons, beq_false_of_ne h]
    rfl

/-- Of layers that are merged one after the other, the last one that lists a name decides. -/
theorem get?_foldl_merge (layers : List Globals) (g : Globals) (name : String) :
    (layers.foldl merge g).get? name
      = (layers.filterMap (·.get? name)).getLast?.or (g.get? name) := by
  induction layers generalizing g with
  | nil => rfl
  | cons layer rest ih =>
      rw [List.foldl_cons, ih, get?_merge, ← Option.or_assoc, List.filterMap_cons]
      cases layer.get? name with
      | none => rw [Option.or_none]
      | some flag =>
          rw [List.getLast?_cons]
          cases (rest.filterMap (·.get? name)).getLast? <;> rfl

theorem get?_ofNames (names : List String) (flag : Bool) (name : String) :
    (ofNames names flag).get? name = if name ∈ names then some flag else none := by
  have hall (g : Globals) :
      ((names.map (·, flag)).foldl (fun g e => g.insert e.1 e.2) g).get? name
        = if name ∈ names then some flag else g.get? name := by
    induction names generalizing g with
    | nil => rfl
    | cons first rest ih =>
        rw [List.map_cons, List.foldl_cons, ih, get?_insert]
        by_cases hrest : name ∈ rest
        · simp [hrest]
        · by_cases hfirst : name = first
          · simp [hfirst]
          · simp [hrest, hfirst]
  exact hall empty

end Globals

/-! ### The layers of a unit -/

/-- The flag of a name in the last of these environments that lists it. -/
def Environment.lastFlag? (environments : List String) (name : String) : Option Bool :=
  (environments.filterMap fun env => (find? env).bind (·.get? name)).getLast?

/-- The environment that decides the flag of a name lists it, and none behind it does. -/
theorem Environment.lastFlag?_eq_some_iff {environments : List String} {name : String}
    {flag : Bool} :
    lastFlag? environments name = some flag ↔
      ∃ before env behind, environments = before ++ env :: behind
        ∧ (∃ g, find? env = some g ∧ g.get? name = some flag)
        ∧ ∀ other ∈ behind, ∀ g, find? other = some g → g.contains name = false := by
  rw [lastFlag?, List.getLast?_filterMap, List.findSome?_eq_some_iff]
  constructor
  · rintro ⟨behind, env, before, hsplit, hflag, hbehind⟩
    refine ⟨before.reverse, env, behind.reverse, ?_, Option.bind_eq_some_iff.1 hflag, ?_⟩
    · rw [← environments.reverse_reverse, hsplit]
      simp
    · intro other hother g hg
      have hnone := hbehind other (List.mem_reverse.1 hother)
      rw [hg, Option.bind_some] at hnone
      rw [Globals.contains, hnone]
      rfl
  · rintro ⟨before, env, behind, hsplit, hflag, hbehind⟩
    refine ⟨behind.reverse, env, before.reverse, ?_, Option.bind_eq_some_iff.2 hflag, ?_⟩
    · rw [hsplit]
      simp
    · intro other hother
      have hnone := hbehind other (List.mem_reverse.1 hother)
      cases hg : find? other with
      | none => rfl
      | some g => exact Option.isNone_iff_eq_none.1 (Option.isSome_eq_false_iff.1 (hnone g hg))

theorem Environment.isSome_lastFlag? {environments : List String} {name : String} :
    (lastFlag? environments name).isSome = true ↔
      ∃ env ∈ environments, ∃ g, find? env = some g ∧ g.contains name = true := by
  rw [lastFlag?, List.getLast?_filterMap, List.findSome?_isSome_iff]
  constructor
  · rintro ⟨env, henv, hflag⟩
    obtain ⟨flag, hflag⟩ := Option.isSome_iff_exists.1 hflag
    obtain ⟨g, hg, hname⟩ := Option.bind_eq_some_iff.1 hflag
    refine ⟨env, List.mem_reverse.1 henv, g, hg, ?_⟩
    rw [Globals.contains, hname]
    rfl
  · rintro ⟨env, henv, g, hg, hname⟩
    refine ⟨env, List.mem_reverse.2 henv, ?_⟩
    rw [hg]
    exact hname

/-- What the global names of a unit are, by the environments that were asked for, the names that
its directives add and the user's names. -/
structure UnitGlobals.Layered (unit : UnitGlobals) (requested named : List String)
    (user : Option Globals) : Prop where
  /-- Environments that are not known are dropped, and `none` is kept. -/
  environments : unit.environments
    = requested.filter fun env => env = "none" ∨ (Environment.find? env).isSome
  /-- There is a warning for each environment that is dropped. -/
  warnings : unit.warnings
    = (requested.filter fun env => ¬(env = "none" ∨ (Environment.find? env).isSome)).map
        fun env => "Unknown env '" ++ env ++ "' specified"
  /-- A name comes from some layer; `none` empties the layer of the environments. -/
  contains : ∀ name, unit.globals.contains name = true ↔
    name ∈ named
      ∨ (Environment.builtin.contains name = true
        ∨ Environment.sharedNodeBrowser.contains name = true)
      ∨ (∃ g, user = some g ∧ g.contains name = true)
      ∨ ("none" ∉ unit.environments
        ∧ ∃ env ∈ unit.environments, ∃ g, Environment.find? env = some g ∧ g.contains name = true)
  /-- The last layer that lists a name decides its flag. -/
  flag : ∀ name, unit.globals.get? name =
    if name ∈ named then some true
    else
      (if "none" ∈ unit.environments then none
        else Environment.lastFlag? unit.environments name).or
      ((user.bind (·.get? name)).or
      ((Environment.sharedNodeBrowser.get? name).or
      (Environment.builtin.get? name)))

namespace Selection

variable (s : Selection) (user : Option Globals) (named : List String) (name : String)

/-- The flag that the environments of a selection give a name. -/
theorem getLast?_environments :
    (s.environments.filterMap (·.get? name)).getLast?
      = if "none" ∈ s.names then none else Environment.lastFlag? s.names name := by
  unfold environments isDisabled
  by_cases hnone : "none" ∈ s.names
  · have hdisabled : s.names.contains noEnvironment = true := List.contains_iff_mem.2 hnone
    rw [if_pos hnone, if_pos hdisabled]
    rfl
  · have hdisabled : ¬s.names.contains noEnvironment = true := fun h =>
      hnone (List.contains_iff_mem.1 h)
    rw [if_neg hnone, if_neg hdisabled, List.filterMap_filterMap]
    rfl

/-- The flag of a name, from the last layer to the first. -/
theorem get?_globals :
    (s.globals Environment.builtins user named).get? name =
      if name ∈ named then some true
      else
        (if "none" ∈ s.names then none else Environment.lastFlag? s.names name).or
        ((user.bind (·.get? name)).or
        ((Environment.sharedNodeBrowser.get? name).or
        (Environment.builtin.get? name))) := by
  have hnamed : ([Globals.ofNames named true].filterMap (·.get? name)).getLast?
      = if name ∈ named then some true else none := by
    rw [List.filterMap_cons, Globals.get?_ofNames]
    by_cases h : name ∈ named
    · rw [if_pos h]
      rfl
    · rw [if_neg h]
      rfl
  have huser : (user.toList.filterMap (·.get? name)).getLast? = user.bind (·.get? name) := by
    cases user with
    | none => rfl
    | some g =>
        show ([g].filterMap (·.get? name)).getLast? = g.get? name
        rw [List.filterMap_cons]
        cases g.get? name <;> rfl
  unfold globals
  rw [Globals.get?_foldl_merge, List.filterMap_append, List.filterMap_append, List.getLast?_append,
    List.getLast?_append, hnamed, huser, s.getLast?_environments, Environment.builtins,
    Globals.get?_merge]
  by_cases h : name ∈ named
  · rw [if_pos h, if_pos h]
    rfl
  · rw [if_neg h, if_neg h, Option.none_or, Option.or_assoc]

/-- A name is in the set if it is in some layer. -/
theorem contains_globals :
    (s.globals Environment.builtins user named).contains name = true ↔
      name ∈ named
        ∨ (Environment.builtin.contains name = true
          ∨ Environment.sharedNodeBrowser.contains name = true)
        ∨ (∃ g, user = some g ∧ g.contains name = true)
        ∨ ("none" ∉ s.names
          ∧ ∃ env ∈ s.names, ∃ g, Environment.find? env = some g ∧ g.contains name = true) := by
  have huser : (user.bind (·.get? name)).isSome = true
      ↔ ∃ g, user = some g ∧ g.contains name = true := by
    cases user with
    | none => simp
    | some g => simp [Globals.contains]
  rw [Globals.contains, get?_globals, ← huser, ← Environment.isSome_lastFlag?]
  unfold Globals.contains
  by_cases hnamed : name ∈ named
  · simp [hnamed]
  · rw [if_neg hnamed, Option.isSome_or, Option.isSome_or, Option.isSome_or]
    by_cases hnone : "none" ∈ s.names
    · simp only [hnamed, hnone, if_true, not_true_eq_false, false_and, false_or, or_false,
        Option.isSome_none, Bool.false_or, Bool.or_eq_true]
      grind
    · simp only [hnamed, hnone, if_false, not_false_eq_true, true_and, false_or, Bool.or_eq_true]
      grind

theorem isKnown_eq (env : String) :
    isKnown env = decide (env = "none" ∨ (Environment.find? env).isSome) := by
  rw [Bool.decide_or, Bool.decide_coe]
  rfl

end Selection

namespace Options

variable (o : Options) (d : Directives)

theorem heeded_globals : (o.heeded d).globals = if o.strict then [] else d.globals := by
  unfold heeded
  split <;> rfl

theorem heeded_environments :
    (o.heeded d).environments
      = if o.strict then [] else d.lintEnvironments ++ d.plainEnvironments := by
  unfold heeded
  split <;> rfl

/-- What is made of the options, the directives and the user's names. -/
theorem layered_layers (user : Option Globals) :
    (o.layers d user).Layered
      (o.environments ++ if o.strict then [] else d.lintEnvironments ++ d.plainEnvironments)
      (if o.strict then [] else d.globals) user := by
  rw [← heeded_globals, ← heeded_environments]
  constructor
  · exact List.filter_congr fun env _ => Selection.isKnown_eq env
  · refine congrArg (List.map Selection.unknownMessage) (List.filter_congr fun env _ => ?_)
    rw [Selection.isKnown_eq, decide_not]
  · exact fun name => Selection.contains_globals _ user _ name
  · exact fun name => Selection.get?_globals _ user _ name

/--
**The global names of a unit, layer by layer.**  Once the user's names are known, a unit has
global names, whatever its directives say; with `strict` they say nothing.
-/
theorem unitGlobals_layered {fs : FileSystem} {cache later : GlobalsCache}
    {user : Option Globals} (huser : o.userGlobals fs cache = (.ok user, later)) :
    ∃ unit, o.unitGlobals d fs cache = (.ok unit, later)
      ∧ unit.Layered
          (o.environments ++ if o.strict then [] else d.lintEnvironments ++ d.plainEnvironments)
          (if o.strict then [] else d.globals) user
      ∧ (o.strict = true → ∀ other, o.unitGlobals other fs cache = (.ok unit, later)) := by
  have hunit (d : Directives) : o.unitGlobals d fs cache = (.ok (o.layers d user), later) := by
    rw [unitGlobals, huser]
  refine ⟨o.layers d user, hunit d, o.layered_layers d user, ?_⟩
  intro hstrict other
  have hsame : o.heeded other = o.heeded d := by
    unfold heeded
    rw [if_pos hstrict, if_pos hstrict]
  rw [hunit other, layers, layers, selection, selection, hsame]

/-- A built-in name of the user's, an environment that is not known, and `none` in a directive. -/
theorem unitGlobals_of_names :
    let o : Options := { environments := ["node", "netscape"], globals := some (.names ["NaN"]) }
    let d : Directives :=
      { globals := ["x"], lintEnvironments := ["none"], plainEnvironments := [] }
    let fs : FileSystem := default
    o.userGlobals fs .empty = (.ok (some (.ofNames ["NaN"] true)), .empty)
      ∧ ∃ unit, o.unitGlobals d fs .empty = (.ok unit, .empty)
        ∧ unit.Layered ["node", "netscape", "none"] ["x"] (some (.ofNames ["NaN"] true)) := by
  intro o d fs
  have huser : o.userGlobals fs .empty = (.ok (some (.ofNames ["NaN"] true)), .empty) := rfl
  obtain ⟨unit, hunit, hlayered, -⟩ := o.unitGlobals_layered d huser
  exact ⟨huser, unit, hunit, hlayered⟩

end Options

end FreeNames

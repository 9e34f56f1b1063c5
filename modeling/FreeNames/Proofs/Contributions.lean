/-
The environments that a unit reports.

A unit reports the environments that were asked for and are known, and is meant to report those
that its global names come from.  The two are the same list as long as nothing turns the
environments off.  `none` does, and is reported with all that was asked for beside it, although
it is no environment and none of the others has added a name (`Options.comesFrom_iff`).
-/
import FreeNames.Proofs.Run

namespace FreeNames

namespace UnitGlobals

/-- The global names of a unit are the built-in ones, and over them the user's, those of some
environments, later ones over earlier ones, and those that its directives name. -/
structure ComesFrom (unit : UnitGlobals) (environments : List String) (user : Option Globals)
    (named : List String) : Prop where
  known : ∀ env ∈ environments, (Environment.find? env).isSome = true
  flag : ∀ name, unit.globals.get? name =
    if name ∈ named then some true
    else
      (Environment.lastFlag? environments name).or
      ((user.bind (·.get? name)).or (Environment.builtins.get? name))

/-- The environments that add their names to a unit. -/
def contributing (unit : UnitGlobals) : List String :=
  if "none" ∈ unit.environments then [] else unit.environments

end UnitGlobals

theorem Environment.find?_none : Environment.find? "none" = none := by decide +kernel

namespace Options

variable (o : Options) (d : Directives) (user : Option Globals)

/-- The environments that are reported, but for `none`, are those of the table. -/
theorem isSome_find?_of_reported {env : String} (henv : env ∈ (o.layers d user).environments)
    (hnone : env ≠ "none") : (Environment.find? env).isSome = true := by
  have hknown : Selection.isKnown env = true := (List.mem_filter.1 henv).2
  rw [Selection.isKnown_eq, decide_eq_true_iff] at hknown
  exact hknown.resolve_left hnone

/-- The sets of names that are merged into a unit, in their order, are those of the environments
that contribute. -/
theorem map_find?_contributing :
    (o.layers d user).contributing.map Environment.find? = (o.selection d).environments.map some := by
  have hnames : (o.layers d user).environments = (o.selection d).names := rfl
  by_cases hnone : "none" ∈ (o.selection d).names
  · have hdisabled : (o.selection d).isDisabled = true := List.contains_iff_mem.2 hnone
    rw [UnitGlobals.contributing, hnames, if_pos hnone, Selection.environments, if_pos hdisabled]
    rfl
  · have hdisabled : ¬(o.selection d).isDisabled = true := fun h =>
      hnone (List.contains_iff_mem.1 h)
    rw [UnitGlobals.contributing, hnames, if_neg hnone, Selection.environments, if_neg hdisabled,
      List.map_filterMap]
    have hfound : ∀ env ∈ (o.selection d).names,
        (Environment.find? env).map some = some (Environment.find? env) := by
      intro env henv
      have hsome := o.isSome_find?_of_reported d user henv fun h => hnone (h ▸ henv)
      obtain ⟨g, hg⟩ := Option.isSome_iff_exists.1 hsome
      rw [hg]
      rfl
    rw [List.filterMap_congr hfound, ← List.filterMap_eq_map]
    rfl

/-- What a unit's global names come from. -/
theorem comesFrom_contributing :
    (o.layers d user).ComesFrom (o.layers d user).contributing user (o.heeded d).globals where
  known env henv := by
    unfold UnitGlobals.contributing at henv
    split at henv
    · cases henv
    · rename_i hnone
      exact o.isSome_find?_of_reported d user henv fun h => hnone (h ▸ henv)
  flag name := by
    have hflag := Selection.get?_globals (o.selection d) user (o.heeded d).globals name
    have hlisted : (if "none" ∈ (o.selection d).names then none
          else Environment.lastFlag? (o.selection d).names name)
        = Environment.lastFlag? (o.layers d user).contributing name := by
      show _ = Environment.lastFlag? (if "none" ∈ (o.selection d).names then [] else _) name
      split <;> rfl
    rw [hlisted] at hflag
    rw [Environment.builtins, Globals.get?_merge]
    exact hflag

/-- A unit's global names come from the environments that it reports unless `none` is among
them, and only then. -/
theorem comesFrom_iff :
    (o.layers d user).ComesFrom (o.layers d user).environments user (o.heeded d).globals
      ↔ "none" ∉ (o.layers d user).environments := by
  constructor
  · intro h hnone
    have hknown := h.known "none" hnone
    rw [Environment.find?_none] at hknown
    cases hknown
  · intro hnone
    have hcomes := o.comesFrom_contributing d user
    rwa [UnitGlobals.contributing, if_neg hnone] at hcomes

/-- A unit that comes to a result has had a run. -/
theorem exists_run_of_qualify {o : Options} {source file : String} {fs : FileSystem}
    {cache later : GlobalsCache} {outcome : Outcome}
    (h : o.qualify source file fs cache = (.ok outcome, later)) :
    ∃ run : o.Run source fs cache, run.outcome = outcome ∧ run.later = later := by
  unfold qualify at h
  cases hsound : o.problem? with
  | some problem =>
      rw [hsound] at h
      cases h
  | none =>
      cases hread : Program.parse? o.sourceKind source with
      | none =>
          simp only [hsound, hread] at h
          cases h
      | some program =>
          simp only [hsound, hread, unitGlobals] at h
          cases hloaded : o.userGlobals fs cache with
          | mk result after =>
              rw [hloaded] at h
              cases result with
              | error failure => cases h
              | ok user =>
                  cases h
                  exact ⟨⟨program, user, _, hsound, hread, hloaded⟩, rfl, rfl⟩

/--
**The environments that a unit reports are those that its global names come from, unless `none` is
reported.**  Of every unit that comes to a result the names are those of the built-in layer, of
the user, of the environments that contribute, whose sets are the ones that are merged, and of
its directives.  Without `none` these environments are the ones that are reported, in their order;
with `none` there are none, and what is reported is not where the names come from.
-/
theorem qualify_comesFrom {o : Options} {source file : String} {fs : FileSystem}
    {cache later : GlobalsCache} {outcome : Outcome}
    (h : o.qualify source file fs cache = (.ok outcome, later)) :
    ∃ run : o.Run source fs cache, run.outcome = outcome
      ∧ let d := Directives.ofComments run.program.comments
        let named := if o.strict then [] else d.globals
        run.unit.ComesFrom run.unit.contributing run.user named
        ∧ run.unit.contributing.map Environment.find? = (o.selection d).environments.map some
        ∧ (run.unit.contributing = outcome.environments ↔ "none" ∉ outcome.environments)
        ∧ (run.unit.ComesFrom outcome.environments run.user named
            ↔ "none" ∉ outcome.environments) := by
  obtain ⟨run, rfl, -⟩ := exists_run_of_qualify h
  refine ⟨run, rfl, ?_⟩
  intro d named
  have hnamed : named = (o.heeded d).globals := (o.heeded_globals d).symm
  rw [hnamed]
  refine ⟨o.comesFrom_contributing d run.user, o.map_find?_contributing d run.user, ?_,
    o.comesFrom_iff d run.user⟩
  show (if "none" ∈ run.unit.environments then [] else _) = run.unit.environments ↔
    "none" ∉ run.unit.environments
  split
  · rename_i hnone
    refine ⟨fun hempty => ?_, fun h => absurd hnone h⟩
    rw [← hempty] at hnone
    cases hnone
  · rename_i hnone
    exact ⟨fun _ => hnone, fun _ => rfl⟩

/-- An environment that is asked for beside `none`: it is reported and its names are not global. -/
theorem environments_beside_none :
    ∃ run : Run {} "/* env none, jquery */ $;" default .empty,
      run.outcome.environments = ["none", "jquery"]
        ∧ run.outcome.code = "/* env none, jquery */ this.$;"
        ∧ Environment.jquery.contains "$" = true
        ∧ ∀ named, ¬run.unit.ComesFrom run.outcome.environments run.user named := by
  have hsome : (Program.parse? .module "/* env none, jquery */ $;").isSome = true := by
    decide +kernel
  obtain ⟨program, hread⟩ := Option.isSome_iff_exists.1 hsome
  have hprogram : program = (Program.parse? .module "/* env none, jquery */ $;").getD default := by
    rw [hread]
    rfl
  have hsound : Options.problem? {} = none := by decide +kernel
  let run : Run {} "/* env none, jquery */ $;" default .empty :=
    ⟨program, none, .empty, hsound, hread, rfl⟩
  have hreported : run.outcome.environments = ["none", "jquery"] := by
    show (Options.layers {} (.ofComments program.comments) none).environments = _
    rw [hprogram]
    decide +kernel
  refine ⟨run, hreported, ?_, by decide +kernel, fun named hcomes => ?_⟩
  · show (Options.outcome {} _ program (Options.layers {} (.ofComments program.comments) none)).code
      = _
    rw [hprogram]
    decide +kernel
  · have hknown := hcomes.known "none" (by rw [hreported]; exact List.mem_cons_self)
    rw [Environment.find?_none] at hknown
    cases hknown

end Options

end FreeNames

/-
The runs of a unit.

A unit comes to a result when its options are sound, its source is read and the user's
global names are known.  `Options.Run` is all of that at once, and everything about the
result is read off it.  What can fail before is the same for two units with the same
receiver and the same source (`Options.qualify_alike`), so two runs are compared by what
their options say about the global names.
-/
import FreeNames.Proofs.Layers
import FreeNames.Proofs.Unit

namespace FreeNames

namespace Options

/-- A run of a unit that comes to a result. -/
structure Run (o : Options) (source : String) (fs : FileSystem) (cache : GlobalsCache) where
  program : Program
  /-- The user's global names. -/
  user : Option Globals
  later : GlobalsCache
  sound : o.problem? = none
  read : Program.parse? o.sourceKind source = some program
  loaded : o.userGlobals fs cache = (.ok user, later)

namespace Run

variable {o : Options} {source : String} {fs : FileSystem} {cache : GlobalsCache}
  (run : o.Run source fs cache)

/-- The global names of the unit. -/
def unit : UnitGlobals := o.layers (.ofComments run.program.comments) run.user

/-- The pass over the unit. -/
def report : Report := o.report run.program run.unit.globals

def outcome : Outcome := o.outcome source run.program run.unit

/-- The program with its scopes. -/
def withScopes : Scoped := run.program.tree.withScopes (o.sourceKind != .script)

/-- The references that are qualified, in the order of the edits. -/
def taken : List Reference := run.withScopes.taken (o.instructions run.unit.globals)

theorem edits_eq_taken : run.report.edits = run.taken.map (·.edit o.receiver) :=
  run.withScopes.edits_eq_taken _

theorem qualify_eq (file : String) :
    o.qualify source file fs cache = (.ok run.outcome, run.later) := by
  refine qualify_eq_outcome file run.sound run.read ?_
  rw [unitGlobals, run.loaded]
  rfl

end Run

variable {o o' : Options} {fs fs' : FileSystem} {cache cache' later later' : GlobalsCache}
  {user user' : Option Globals}

/-- **Two units of one source** and with one receiver fail alike, or neither fails, if the user's
names of both are known. -/
theorem qualify_alike (hreceiver : o'.receiver = o.receiver)
    (hkind : o'.sourceKind = o.sourceKind)
    (hloaded : o.userGlobals fs cache = (.ok user, later))
    (hloaded' : o'.userGlobals fs' cache' = (.ok user', later')) (source file : String) :
    (∃ failure, o.qualify source file fs cache = (.error failure, cache)
        ∧ o'.qualify source file fs' cache' = (.error failure, cache'))
      ∨ ∃ (run : o.Run source fs cache) (run' : o'.Run source fs' cache'),
          run'.program = run.program
            ∧ (run.user = user ∧ run.later = later)
            ∧ (run'.user = user' ∧ run'.later = later') := by
  have hproblem : o'.problem? = o.problem? := by
    unfold problem?
    rw [hreceiver]
  cases hsound : o.problem? with
  | some problem =>
      refine .inl ⟨.options problem, ?_, ?_⟩
      · rw [qualify, hsound]
      · rw [qualify, hproblem, hsound]
  | none =>
      cases hread : Program.parse? o.sourceKind source with
      | none =>
          refine .inl ⟨.malformed file, ?_, ?_⟩
          · simp only [qualify, hsound, hread]
          · simp only [qualify, hproblem, hsound, hkind, hread]
      | some program =>
          refine .inr ⟨⟨program, user, later, hsound, hread, hloaded⟩,
            ⟨program, user', later', hproblem.trans hsound, ?_, hloaded'⟩, rfl, ⟨rfl, rfl⟩, rfl, rfl⟩
          rw [hkind]
          exact hread

end Options

end FreeNames

/-
Qualifying a whole unit: from its source and the options to its new text.

The receiver is looked at first, then the source is read, then the global names
are gathered, and only then is the tree touched.  So a unit that fails is left as
it was, and the failure is that of the first step that does not succeed.
-/
import FreeNames.Globals.Unit
import FreeNames.Grammar.Program
import FreeNames.Qualify.Report

namespace FreeNames

/-- The result for a unit. -/
structure Outcome where
  code : String
  environments : List String
  warnings : List String
  stats : Stats
  deriving Inhabited

namespace Options

/-- What a pass is told, given the global names. -/
def instructions (o : Options) (globals : Globals) : Instructions :=
  { globals, receiver := o.receiver, policy := o.policy }

/-- The pass over a unit that has been read. -/
def report (o : Options) (program : Program) (globals : Globals) : Report :=
  program.tree.pass (o.sourceKind != .script) (o.instructions globals)

/-- The result for a unit that has been read and whose global names are known.  The edits are
those of references in the source, so they can always be made. -/
def outcome (o : Options) (source : String) (program : Program) (unit : UnitGlobals) : Outcome :=
  let report := o.report program unit.globals
  { code := (Edit.spliceAll? report.edits source).getD source
    environments := unit.environments
    warnings := unit.warnings ++ report.warnings
    stats := report.stats }

/-- Qualifies the free names of a unit. -/
def qualify (o : Options) (source file : String) (fs : FileSystem) (cache : GlobalsCache) :
    Except Failure Outcome × GlobalsCache :=
  match o.problem? with
  | some problem => (.error (.options problem), cache)
  | none =>
    match Program.parse? o.sourceKind source with
    | none => (.error (.malformed file), cache)
    | some program =>
      match o.unitGlobals (.ofComments program.comments) fs cache with
      | (.ok unit, cache) => (.ok (o.outcome source program unit), cache)
      | (.error failure, cache) => (.error failure, cache)

end Options

end FreeNames

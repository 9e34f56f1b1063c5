/-
One pass over a program, and what is reported of it.
-/
import FreeNames.Qualify.Pass
import FreeNames.Scope.Build

namespace FreeNames

/-- How many identifiers of each class were met. -/
structure Stats where
  bound : Nat := 0
  global : Nat := 0
  receiver : Nat := 0
  exempt : Nat := 0
  synthetic : Nat := 0
  free : Nat := 0
  deriving DecidableEq, Repr, Inhabited

namespace Event

/-- What an event counts an identifier as. -/
def classification? : Event → Option Classification
  | .note _ c | .tally c => some c
  | .edit _ => none

/-- The edit of an event. -/
def edit? : Event → Option Edit
  | .edit e => some e
  | _ => none

/-- What an event shows in the trace. -/
def traced? : Event → Option (String × Classification)
  | .note name c => some (name, c)
  | _ => none

end Event

namespace Stats

/-- The counts of the identifiers met. -/
def ofEvents (events : List Event) : Stats :=
  let classes := events.filterMap Event.classification?
  { bound := classes.count .bound
    global := classes.count .global
    receiver := classes.count .receiver
    exempt := classes.countP fun
      | .exempt _ => true
      | _ => false
    synthetic := classes.count .synthetic
    free := classes.count .free }

/-- How many references were qualified. -/
def qualified (s : Stats) : Nat := s.free

end Stats

/-- The result of a pass. -/
structure Report where
  tree : Node
  events : List Event
  /-- The names that were declared once too often. -/
  clashes : List String

namespace Report

/-- The edits of the source, in the order they were made. -/
def edits (r : Report) : List Edit := r.events.filterMap Event.edit?

def stats (r : Report) : Stats := Stats.ofEvents r.events

/-- The identifiers that were met one by one, with what they were taken for. -/
def trace (r : Report) : List (String × Classification) := r.events.filterMap Event.traced?

def warnings (r : Report) : List String := r.clashes.map redeclaredMessage

end Report

/-- What a pass is told. -/
structure Instructions where
  globals : Globals
  receiver : String
  policy : TargetPolicy

/-- The context at the root of a program. -/
def Context.ofScopes (scopes : Scopes) (i : Instructions) : Context :=
  { scopes, globals := i.globals, receiver := i.receiver, policy := i.policy, scope := none,
    ownSymbol := none }

/-- Runs one pass over a program whose scopes are built. -/
def Scoped.pass (p : Scoped) (i : Instructions) : Report :=
  let c := Context.ofScopes p.scopes i
  { tree := p.tree.qualify c .value
    events := p.tree.events c .value
    clashes := p.clashes }

/-- Runs one pass over a program.  The scopes are built anew from the tree. -/
def Node.pass (tree : Node) (strict : Bool) (i : Instructions) : Report :=
  (tree.withScopes strict).pass i

/-- The program with statements at its end that consist of a name without a place. -/
def Node.inject (tree : Node) (names : List String) : Node :=
  match tree with
  | .region .program s scope parts =>
    .region .program s scope
      (parts ++ names.map fun name =>
        .form .expressionStatement .nowhere [.name .reference ⟨name, .nowhere⟩])
  | n => n

/-- Passes one after the other over the same tree. -/
def Node.passes (tree : Node) (strict : Bool) : List Instructions → List Report
  | [] => []
  | i :: rest =>
    let report := tree.pass strict i
    report :: report.tree.passes strict rest

end FreeNames

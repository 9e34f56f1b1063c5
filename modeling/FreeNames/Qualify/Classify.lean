/-
What a name is where it stands.

A name without a place in the source was put there by an earlier pass and is left
alone.  A name spelled like the receiver stands for the receiver.  Any other name
is bound if a scope binds it, global if the unit counts it as global, and free
otherwise.  In `var x = x` the declarator does not bind its own value: there the
symbol that the declarator itself declares is looked through.
-/
import FreeNames.Globals.Basic
import FreeNames.Scope.Frame
import FreeNames.Tree.Chain

namespace FreeNames

/-- The positions where an identifier names a slot and does not stand for a value. -/
inductive Slot
  | declaration
  | key
  | label
  | member
  /-- Only where targets are preserved. -/
  | target
  deriving DecidableEq, Repr

inductive Classification
  | bound
  | global
  | receiver
  | exempt (slot : Slot)
  | synthetic
  | free
  deriving DecidableEq, Repr

/-- How names that are written to are treated. -/
inductive TargetPolicy
  /-- Like any other reference. -/
  | qualify
  /-- Left as they are. -/
  | preserve
  deriving DecidableEq, Repr, Inhabited

/-- What is known at a node of the tree. -/
structure Context where
  scopes : Scopes
  globals : Globals
  receiver : String
  policy : TargetPolicy
  /-- The innermost scope, if there is one. -/
  scope : Option ScopeId
  /-- The symbol of the declarator whose value is being looked at. -/
  ownSymbol : Option SymbolId

/-- The receiver that is a keyword of the language. -/
def defaultReceiver : String := "this"

namespace Context

/-- Whether a scope binds the name; the symbol of the declarator around it does not count. -/
def binds (c : Context) (name : String) : Bool :=
  match c.scope with
  | none => false
  | some s =>
    match c.scopes.resolve name s with
    | none => false
    | some .implicit => true
    | some (.symbol id) => c.ownSymbol != some id

/-- What a reference is. -/
def classify (c : Context) (x : Ident) : Classification :=
  if x.span.isNowhere then .synthetic
  else if x.name == c.receiver then .receiver
  else if c.binds x.name then .bound
  else if c.globals.contains x.name then .global
  else .free

/-- Whether a reference is free. -/
def isFree (c : Context) (x : Ident) : Bool := c.classify x == .free

/-- The context inside a node that opens a scope. -/
def enter (c : Context) (scope : Option ScopeId) : Context :=
  { c with scope := scope.or c.scope }

/-- The context of the value of a declarator: the declarator's symbol is looked through if the
value is just the declared name. -/
def declaring (c : Context) (symbol : Option SymbolId) (pattern value : Node) : Context :=
  { c with
    ownSymbol :=
      match pattern, value with
      | .name .binding x, .name .reference y => if x.name == y.name then symbol else none
      | _, _ => none }

end Context

end FreeNames

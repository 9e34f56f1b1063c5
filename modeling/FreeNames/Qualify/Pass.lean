/-
Qualifying the free names of a tree.

A pass reads the tree once and says two things about it: what the tree becomes
(`Node.qualify`), and what was met on the way (`Node.events`), from which the
edits of the source, the counts and the trace are all read off.

Of a chain only the start is classified, once, when the chain is entered from
outside; the verdict is then carried along the links.  Indexes and arguments are
values of their own.
-/
import FreeNames.Edit
import FreeNames.Qualify.Classify

namespace FreeNames

/-- How a node is come upon. -/
inductive Position
  | value
  /-- It is written to. -/
  | written
  /-- It goes on with a chain whose start is known to be free, or not to be. -/
  | along (free : Bool)
  deriving DecidableEq, Repr

/-- What a pass meets. -/
inductive Event
  /-- An identifier that is counted and shows in the trace. -/
  | note (name : String) (classification : Classification)
  /-- An identifier that is only counted. -/
  | tally (classification : Classification)
  /-- A name that is qualified. -/
  | edit (e : Edit)
  deriving DecidableEq, Repr

namespace Context

/-- The receiver as a node. -/
def receiverNode (c : Context) : Node :=
  if c.receiver == defaultReceiver then .thisRef .nowhere
  else .name .reference ⟨c.receiver, .nowhere⟩

/-- The member that takes the place of a free name. -/
def qualified (c : Context) (x : Ident) : Node :=
  .member x.span false c.receiverNode ⟨x.name, .nowhere⟩

/-- The text that takes the place of a free name. -/
def qualifiedText (c : Context) (name : String) : String := c.receiver ++ "." ++ name

/-- The text that takes the place of a free shorthand. -/
def expandedText (c : Context) (name : String) : String := name ++ ": " ++ c.qualifiedText name

/-- Whether the chain starts with a free name. -/
def startsFree (c : Context) (n : Node) : Bool :=
  match n.root c.receiver with
  | .identifier x => c.isFree x
  | _ => false

/-- What is met when a chain is entered. -/
def startEvents (c : Context) (n : Node) : List Event :=
  match n.root c.receiver with
  | .identifier x => [.note x.name (c.classify x)]
  | .receiver => [.note c.receiver .receiver]
  | .other => []

/-- What is met at a link before the rest of its chain. -/
def linkEvents (c : Context) (pos : Position) (n : Node) : List Event :=
  match pos with
  | .value => c.startEvents n
  | _ => []

/-- How the rest of a chain is come upon. -/
def inward (c : Context) (pos : Position) (n : Node) : Position :=
  match pos with
  | .value => .along (c.startsFree n)
  | .written => .value
  | .along free => .along free

/-- Whether a name that is written to is left as it is. -/
def preserves (c : Context) : Bool := c.policy == .preserve

/-- Whether a name is qualified where it is written to. -/
def isFreeTarget (c : Context) (x : Ident) : Bool := !c.preserves && c.isFree x

/-- What a written name is counted as. -/
def classifyTarget (c : Context) (x : Ident) : Classification :=
  if c.preserves then .exempt .target else c.classify x

/-- Whether a reference is qualified at a position. -/
def qualifies (c : Context) (pos : Position) (x : Ident) : Bool :=
  match pos with
  | .value => c.isFree x
  | .written => c.isFreeTarget x
  | .along free => free

/-- The edit of a name, if it is qualified. -/
def edits (span : Span) (text : String) (qualifies : Bool) : List Event :=
  if qualifies then [.edit ⟨span, text⟩] else []

/-- What is met at an identifier token. -/
def nameEvents (c : Context) (pos : Position) (role : Role) (x : Ident) : List Event :=
  match role with
  | .reference =>
    let noted : List Event :=
      match pos with
      | .value => [.note x.name (c.classify x)]
      | .written => [.note x.name (c.classifyTarget x)]
      | .along _ => []
    noted ++ edits x.span (c.qualifiedText x.name) (c.qualifies pos x)
  | .binding => [.note x.name (.exempt .declaration)]
  | .label => [.note x.name (.exempt .label)]
  | .key => [.note x.name (.exempt .key)]
  | .word | .exported => []

/-- What becomes of an identifier token. -/
def qualifyName (c : Context) (pos : Position) (role : Role) (x : Ident) : Node :=
  if role == .reference && c.qualifies pos x then c.qualified x else .name role x

/-- What becomes of `{x}` or `{x = value}` in a target. -/
def qualifyShorthandTarget (c : Context) (span : Span) (x : Ident) (value : Node) : Node :=
  if c.isFreeTarget x then
    let target := Node.write (c.qualified x)
    .form (.targetProperty false) span
      [.name .key x,
       if value.isAbsent then target else .form .targetDefault span [target, value]]
  else .shorthandTarget span x value

/-- What becomes of `{x}` in an object literal. -/
def qualifyShorthand (c : Context) (x : Ident) : Node :=
  if c.isFree x then .form (.property false) x.span [.name .key x, c.qualified x]
  else .shorthand x

end Context

namespace Node

mutual

/-- What a tree becomes. -/
def qualify (c : Context) (pos : Position) : Node → Node
  | .name role x => c.qualifyName pos role x
  | .thisRef s => .thisRef s
  | n@(.member s o object x) => .member s o (qualify c (c.inward pos n) object) x
  | n@(.index s o object key) =>
    .index s o (qualify c (c.inward pos n) object) (qualify c .value key)
  | n@(.field s o object f) => .field s o (qualify c (c.inward pos n) object) f
  | n@(.call s o callee args) =>
    .call s o (qualify c (c.inward pos n) callee) (qualifyAll c args)
  | n@(.chain s element) => .chain s (qualify c (c.inward pos n) element)
  | n@(.nonNull s value) => .nonNull s (qualify c (c.inward pos n) value)
  | .write target => .write (qualify c .written target)
  | .shorthandTarget s x value => c.qualifyShorthandTarget s x (qualify c .value value)
  | .shorthand x => c.qualifyShorthand x
  | .declarator s symbol pattern value =>
    let inner := c.declaring symbol pattern value
    .declarator s symbol (qualify inner .value pattern) (qualify inner .value value)
  | .form kind s parts => .form kind s (qualifyAll c parts)
  | .region kind s scope parts => .region kind s scope (qualifyAll (c.enter scope) parts)

/-- What trees become that stand side by side as values. -/
def qualifyAll (c : Context) : List Node → List Node
  | [] => []
  | n :: rest => qualify c .value n :: qualifyAll c rest

end

mutual

/-- What is met in a tree. -/
def events (c : Context) (pos : Position) : Node → List Event
  | .name role x => c.nameEvents pos role x
  | .thisRef _ => []
  | n@(.member _ _ object _) =>
    c.linkEvents pos n ++ events c (c.inward pos n) object ++ [.tally (.exempt .member)]
  | n@(.index _ _ object key) =>
    c.linkEvents pos n ++ events c (c.inward pos n) object ++ events c .value key
  | n@(.field _ _ object _) => c.linkEvents pos n ++ events c (c.inward pos n) object
  | n@(.call _ _ callee args) =>
    c.linkEvents pos n ++ events c (c.inward pos n) callee ++ eventsOf c args
  | n@(.chain _ element) => c.linkEvents pos n ++ events c (c.inward pos n) element
  | n@(.nonNull _ value) => c.linkEvents pos n ++ events c (c.inward pos n) value
  | .write target => events c .written target
  | .shorthandTarget _ x value =>
    .note x.name (c.classifyTarget x) ::
      (events c .value value ++ Context.edits x.span (c.expandedText x.name) (c.isFreeTarget x))
  | .shorthand x =>
    .tally (.exempt .key) :: .note x.name (c.classify x) ::
      Context.edits x.span (c.expandedText x.name) (c.isFree x)
  | .declarator _ symbol pattern value =>
    let inner := c.declaring symbol pattern value
    events inner .value pattern ++ events inner .value value
  | .form _ _ parts => eventsOf c parts
  | .region _ _ scope parts => eventsOf (c.enter scope) parts

/-- What is met in trees that stand side by side as values. -/
def eventsOf (c : Context) : List Node → List Event
  | [] => []
  | n :: rest => events c .value n ++ eventsOf c rest

end

end Node

end FreeNames

/-
Programs as trees of names.

The constructs that decide what becomes of a name have a constructor of their
own: the names themselves, the links of a member or call chain, what an
assignment writes to, the two shorthands, a declarator and whatever opens a
scope.  Every other construct of the language treats the names below it alike,
so all of them share one constructor, `form`, which keeps the kind of the
construct and its parts in source order.

Nothing in a tree says in which scope a name is looked up.  A node that opens a
scope carries the number of its frame, which the scope builder fills in.
-/
import FreeNames.Text.Span

namespace FreeNames

/-- The number of a scope frame. -/
abbrev ScopeId := Nat

/-- The number of a declared symbol. -/
abbrev SymbolId := Nat

/-- What an identifier token does where it stands. -/
inductive Role
  /-- Stands for a value; written to instead when it is the target of a `write`. -/
  | reference
  /-- Is declared here. -/
  | binding
  | label
  /-- A property key that is not computed. -/
  | key
  /-- Names nothing in any scope: an imported or exported name, half of `import.meta`. -/
  | word
  /-- The local half of an export, which is looked up but never touched. -/
  | exported
  deriving DecidableEq, Repr, Inhabited

/-- What a declaration introduces. -/
inductive Declares
  /-- `var` -/
  | hoisted
  /-- `let` -/
  | lexical
  /-- `const` -/
  | constant
  /-- `using` -/
  | resource
  /-- `await using` -/
  | asyncResource
  deriving DecidableEq, Repr, Inhabited

/-- The forms a method can have. -/
inductive MethodKind
  | plain
  | getter
  | setter
  | constructor
  deriving DecidableEq, Repr, Inhabited

/-- What a function is for, which decides where its name is bound. -/
inductive FunctionRole
  | declaration
  | expression
  | method
  deriving DecidableEq, Repr, Inhabited

inductive LoopKind
  /-- `for (;;)` -/
  | counted
  /-- `for (… in …)` -/
  | keys
  /-- `for (… of …)` -/
  | values
  /-- `for await (… of …)` -/
  | asyncValues
  deriving DecidableEq, Repr, Inhabited

/-- The constructs that open a scope for their parts. -/
inductive ScopeKind
  | program
  /-- Parts: name or nothing, parameters, body. -/
  | function (role : FunctionRole) (async generator : Bool)
  /-- Parts: parameters, body; the body of a concise arrow is an expression. -/
  | arrow (async concise : Bool)
  | block
  | loop (kind : LoopKind)
  /-- The cases of a `switch`. -/
  | cases
  /-- Parts: parameter or nothing, block. -/
  | handler
  /-- Parts: heritage or nothing, then the elements of the class. -/
  | classBody
  | staticBlock
  | withBody
  deriving DecidableEq, Repr, Inhabited

/-- The constructs that leave the names of their parts to themselves. -/
inductive Form
  /-- An optional part that is left out. -/
  | absent
  /-- A hole in an array. -/
  | elision
  /-- A literal, by its source text. -/
  | literal (text : String)
  /-- Template pieces by their source text; the parts are the substitutions. -/
  | template (pieces : List String)
  | tagged
  /-- `comma` tells whether the last element is followed by a comma. -/
  | array (comma : Bool)
  | object (comma : Bool)
  | spread
  | property (computed : Bool)
  | method (kind : MethodKind) (computed : Bool)
  | unary (operator : String)
  | update (operator : String) (before : Bool)
  | binary (operator : String)
  | assignment (operator : String)
  | conditional
  | sequence
  | paren
  | yield (delegate : Bool)
  | await
  | construct
  /-- `import(…)`, or with a phase word `import.phase(…)`. -/
  | dynamicImport (phase : String)
  /-- `import.meta`, `new.target` -/
  | metaProperty
  | superRef
  | privateName (name : String)
  /- What an assignment takes apart. -/
  | arrayTarget
  | objectTarget
  | targetDefault
  | targetRest
  | targetProperty (computed : Bool)
  /- What a declaration takes apart. -/
  | arrayPattern
  | objectPattern
  | patternDefault
  | patternRest
  | patternProperty (computed shorthand : Bool)
  /- Functions and classes. -/
  | parameters
  | body
  | decorator
  /-- Parts: decorators, name or nothing, the region of the class. -/
  | classLike (declaration : Bool)
  /-- Parts: decorators, key, function. -/
  | classMethod (kind : MethodKind) (isStatic computed : Bool)
  /-- Parts: decorators, key, value or nothing. -/
  | classField (isStatic accessor computed : Bool)
  /- Statements. -/
  | expressionStatement
  | directive (text : String)
  | empty
  | debugger
  | declaration (kind : Declares)
  | branch
  | whileLoop
  | doLoop
  | continueTo
  | breakTo
  | returnValue
  | throwValue
  | switchOn
  | switchCase
  | defaultCase
  | tryBlock
  | labelled
  | withObject
  /- Module items. -/
  | importDeclaration (phase source : String)
  | importDefault
  | importNamespace
  | importNamed
  | importAttribute
  | moduleName (text : String)
  | exportNamed (source : String)
  | exportSpecifier
  | exportAll (source : String)
  | exportDefault
  | exportDeclaration
  deriving DecidableEq, Repr, Inhabited

/-- A piece of a program. -/
inductive Node
  | name (role : Role) (ident : Ident)
  | thisRef (span : Span)
  /-- `object.property` -/
  | member (span : Span) (optional : Bool) (object : Node) (property : Ident)
  /-- `object[key]` -/
  | index (span : Span) (optional : Bool) (object key : Node)
  /-- `object.#field` -/
  | field (span : Span) (optional : Bool) (object : Node) (field : String)
  | call (span : Span) (optional : Bool) (callee : Node) (arguments : List Node)
  /-- A chain with an optional link in it; the element is its outermost link. -/
  | chain (span : Span) (element : Node)
  /-- `value!` -/
  | nonNull (span : Span) (value : Node)
  /-- A name, member or `value!` that is written to. -/
  | write (target : Node)
  /-- `{x}` or `{x = value}` where an assignment takes an object apart. -/
  | shorthandTarget (span : Span) (ident : Ident) (value : Node)
  /-- `{x}` in an object literal. -/
  | shorthand (ident : Ident)
  /-- `pattern = value` in a declaration, with the symbol of a pattern that is one name. -/
  | declarator (span : Span) (symbol : Option SymbolId) (pattern value : Node)
  | form (kind : Form) (span : Span) (parts : List Node)
  | region (kind : ScopeKind) (span : Span) (scope : Option ScopeId) (parts : List Node)
  deriving Repr, Inhabited

namespace Node

/-- The part that is left out. -/
def absent : Node := .form .absent .nowhere []

/-- Whether an optional part is left out. -/
def isAbsent : Node → Bool
  | .form .absent ⟨0, 0⟩ [] => true
  | _ => false

/-- Where a node stands in the source. -/
def span : Node → Span
  | name _ x => x.span
  | thisRef s | member s .. | index s .. | field s .. | call s .. | chain s _ | nonNull s _
  | shorthandTarget s .. | declarator s .. | form _ s _ | region _ s .. => s
  | write target => target.span
  | shorthand x => x.span

end Node

end FreeNames

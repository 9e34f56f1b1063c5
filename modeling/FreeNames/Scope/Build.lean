/-
The scopes of a program.

One walk over the tree makes a frame for every node that opens a scope, declares
the names, and writes the numbers of the frames, and of the symbols of plain
declarators, back into the tree.  References are not looked at: the frames
depend on the declarations and on the nesting only.

Most declarations bind in the frame they stand in.  A `var` binds in the nearest
function, static block or program; on the way out it takes over the symbol of a
name it meets, and it leaves its own behind in the frames it passed, so that a
later declaration there is known to clash with it.
-/
import FreeNames.Scope.Frame
import FreeNames.Tree.Binding

namespace FreeNames

/-- What a symbol was declared as.  A symbol that is declared again collects the kinds. -/
structure SymbolKinds where
  hoisted : Bool := false
  lexical : Bool := false
  function : Bool := false
  classLike : Bool := false
  imported : Bool := false
  /-- The name of a function expression, which any other declaration replaces. -/
  ownName : Bool := false
  deriving DecidableEq, Repr, Inhabited

namespace SymbolKinds

def union (a b : SymbolKinds) : SymbolKinds :=
  { hoisted := a.hoisted || b.hoisted
    lexical := a.lexical || b.lexical
    function := a.function || b.function
    classLike := a.classLike || b.classLike
    imported := a.imported || b.imported
    ownName := a.ownName || b.ownName }

def meets (a b : SymbolKinds) : Bool :=
  (a.hoisted && b.hoisted) || (a.lexical && b.lexical) || (a.function && b.function)
    || (a.classLike && b.classLike) || (a.imported && b.imported)

/-- Everything that holds a value of the program itself. -/
def values : SymbolKinds :=
  { hoisted := true, lexical := true, function := true, classLike := true }

/-- What a `var`, a parameter or a function may not be declared beside. -/
def blockBound : SymbolKinds := { lexical := true, classLike := true }

end SymbolKinds

/-- A way to declare names: what they become, and what they clash with. -/
structure Declaring where
  kinds : SymbolKinds
  clashes : SymbolKinds

namespace Declaring

def hoisted : Declaring := ⟨{ hoisted := true }, .blockBound⟩

def lexical : Declaring := ⟨{ lexical := true }, .values⟩

/-- A function declaration; directly under an `if` it clashes with nothing. -/
def function (underIf : Bool) : Declaring :=
  ⟨{ function := true }, if underIf then {} else .blockBound⟩

def classLike : Declaring := ⟨{ classLike := true }, .values⟩

def imported : Declaring := ⟨{ imported := true }, { imported := true }⟩

/-- A parameter; where no name may be repeated it clashes with other parameters too. -/
def parameter (unique : Bool) : Declaring :=
  ⟨{ hoisted := true }, { SymbolKinds.blockBound with hoisted := unique }⟩

end Declaring

/-- What the builder has made so far. -/
structure Builder where
  frames : Array Frame := #[]
  kinds : Array SymbolKinds := #[]
  /-- For each frame the names of `var` declarations that passed through it. -/
  passed : List (ScopeId × String × SymbolId) := []
  /-- The names that were declared once too often, last one first. -/
  clashes : List String := []
  deriving Inhabited

namespace Builder

abbrev Build := StateM Builder

/-- The names a frame binds, and those that passed through it; the name of a function
expression counts as free. -/
def declared? (b : Builder) (s : ScopeId) (name : String) : Option SymbolId :=
  let own := (b.frames[s]?.bind (·.binding? name)).or
    ((b.passed.find? fun (t, n, _) => t == s && n == name).map (·.2.2))
  own.filter fun id => !((b.kinds[id]?.map (·.ownName)).getD false)

/-- Notes a clash if the symbol is of a kind the declaration clashes with. -/
def check (name : String) (id : SymbolId) (d : Declaring) : Build Unit :=
  modify fun b =>
    if ((b.kinds[id]?).getD {}).meets d.clashes then { b with clashes := name :: b.clashes } else b

/-- A new symbol bound in a frame. -/
def bindNew (s : ScopeId) (name : String) (kinds : SymbolKinds) : Build SymbolId :=
  modifyGet fun b =>
    (b.kinds.size, { b with
      kinds := b.kinds.push kinds
      frames := b.frames.modify s (·.bind name b.kinds.size) })

/-- Declares a name in a frame; a name that is already there keeps its symbol. -/
def declareIn (s : ScopeId) (name : String) (d : Declaring) : Build SymbolId := do
  match (← get).declared? s name with
  | some id =>
    check name id d
    modify fun b => { b with kinds := b.kinds.modify id (·.union d.kinds) }
    return id
  | none => bindNew s name d.kinds

/-- Whether a frame holds the `var` declarations inside it. -/
def holdsHoisted (f : Frame) : Bool :=
  f.flags.contains .top || f.flags.contains .function || f.flags.contains .staticBlock

/-- The frames a `var` passes on its way out, nearest first, and the one it ends in.  Fuel is
the number of frames. -/
def wayOut (b : Builder) : Nat → ScopeId → List ScopeId × ScopeId
  | 0, s => ([], s)
  | fuel + 1, s =>
    match b.frames[s]? with
    | none => ([], s)
    | some f =>
      if holdsHoisted f then ([], s)
      else
        match f.parent with
        | none => ([], s)
        | some p =>
          let (passed, target) := wayOut b fuel p
          (s :: passed, target)

/-- Moves the binding of a name to another frame, unless that frame binds the name already. -/
def moveBinding (b : Builder) (name : String) (id : SymbolId) (source target : ScopeId) :
    Builder :=
  if ((b.frames[target]?.bind (·.binding? name)).isSome) then b
  else
    { b with
      frames := (b.frames.modify source (·.unbind name)).modify target (·.bind name id) }

/-- The first of the frames that knows the name, and the symbol it knows. -/
def firstDeclared? (b : Builder) (name : String) (scopes : List ScopeId) :
    Option (ScopeId × SymbolId) :=
  scopes.findSome? fun s => (b.declared? s name).map (s, ·)

/-- Declares a `var` from a frame on. -/
def declareHoisted (s : ScopeId) (name : String) : Build SymbolId := do
  let b ← get
  let (passed, target) := b.wayOut b.frames.size s
  let id ← match b.firstDeclared? name passed with
    | some (met, id) =>
      check name id .hoisted
      modify (·.moveBinding name id met target)
      pure id
    | none => declareIn target name .hoisted
  modify fun b => { b with passed := passed.map (·, name, id) ++ b.passed }
  return id

/-- Declares the names of a declaration in the frame it stands in. -/
def declareNames (kind : Declares) (s : ScopeId) (names : List Ident) :
    Build (List SymbolId) :=
  names.mapM fun x =>
    if kind == .hoisted then declareHoisted s x.name else declareIn s x.name .lexical

/-- A new frame inside another one. -/
def openFrame (parent : Option ScopeId) (flags : List ScopeFlag) : Build ScopeId :=
  modifyGet fun b => (b.frames.size, { b with frames := b.frames.push ⟨parent, flags, []⟩ })

/-- Moves all names of the frame of a handler to the frame of its block, so that a clash of the
two is seen. -/
def adoptBindings (source target : ScopeId) : Build Unit :=
  modify fun b =>
    let moved := (b.frames[source]?.map (·.bindings)).getD []
    { b with
      frames := (b.frames.modify source ({ · with bindings := [] })).modify target
        ({ · with bindings := moved }) }

/-- Where the walk is. -/
structure Place where
  scope : Option ScopeId
  strict : Bool
  /-- The kind of declaration the declarators here belong to. -/
  declares : Declares := .hoisted
  /-- Whether the node stands directly under an `if`. -/
  underIf : Bool := false
  /-- Whether the node is the block of a handler. -/
  inHandler : Bool := false
  /-- The name of the class expression whose body the node is. -/
  className : Option String := none
  /-- Whether no parameter may be repeated. -/
  unique : Bool := false

/-- The same place for the parts of a node that says nothing about them. -/
def Place.plain (p : Place) : Place := { scope := p.scope, strict := p.strict }

/-- Whether the parts of a function or program ask for strict mode. -/
def asksForStrict : List Node → Bool
  | [] => false
  | .form .body _ parts :: rest =>
    parts.any isStrictDirective || asksForStrict rest
  | n :: rest => isStrictDirective n || asksForStrict rest
where
  isStrictDirective : Node → Bool
    | .form (.directive text) _ _ => text == "\"use strict\"" || text == "\x27use strict\x27"
    | _ => false

/-- Whether the parameters are all plain names. -/
def isSimpleList : List Node → Bool
  | .form .parameters _ ps :: _ => ps.all fun
    | .name .binding _ => true
    | _ => false
  | _ :: rest => isSimpleList rest
  | [] => true

/-- The flags of the frame a node opens. -/
def flagsOf : ScopeKind → List ScopeFlag
  | .program => [.top]
  | .function .. => [.function]
  | .arrow .. => [.function, .arrow]
  | .handler => [.handler]
  | .staticBlock => [.staticBlock]
  | .withBody => [.withBody]
  | .block | .loop _ | .cases | .classBody => []

/-- Whether the inside of a node is in strict mode. -/
def isStrictInside (p : Place) (kind : ScopeKind) (parts : List Node) : Bool :=
  p.strict || match kind with
    | .classBody => true
    | .function .. | .arrow .. | .program => asksForStrict parts
    | _ => false

/-- Whether the parameters of a function must differ. -/
def needsUnique (strict : Bool) (kind : ScopeKind) (parts : List Node) : Bool :=
  match kind with
  | .arrow .. | .function .method .. => true
  | .function .. => strict || !isSimpleList parts
  | _ => false

/-- The name among the parts of a function or class. -/
def nameOf : List Node → Option String
  | [] => none
  | .name .binding x :: _ => some x.name
  | _ :: rest => nameOf rest

/-- Declares what the parameter of a handler binds; a plain name clashes with nothing. -/
def declareCaught (s : ScopeId) (parts : List Node) : Build Unit := do
  match parts with
  | .name .binding x :: _ =>
    let _ ← bindNew s x.name { hoisted := true }
  | param :: _ =>
    let _ ← declareNames .lexical s param.boundNames
  | [] => pure ()

/-- Opens the frame of a node and declares what belongs to it from the start: gives the number
of the frame and the place of the parts. -/
def enter (p : Place) (kind : ScopeKind) (parts : List Node) : Build (ScopeId × Place) := do
  let name := nameOf (parts.take 1)
  if let .function .declaration .. := kind then
    if let (some s, some n) := (p.scope, name) then
      let _ ← declareIn s n (.function p.underIf)
  let strict := isStrictInside p kind parts
  let id ← openFrame p.scope (if strict then .strict :: flagsOf kind else flagsOf kind)
  match kind with
  | .function .expression .. =>
    if let some n := name then
      let _ ← bindNew id n { function := true, ownName := true }
  | .classBody =>
    if let some n := p.className then
      let _ ← declareIn id n .classLike
  | .block =>
    if p.inHandler then
      if let some s := p.scope then adoptBindings s id
  | .handler => declareCaught id parts
  | _ => pure ()
  return (id, { scope := some id
                strict
                inHandler := kind == .handler
                unique := needsUnique strict kind parts })

/-- Declares what a node binds in the frame it stands in, and gives the place of its parts. -/
def visit (p : Place) (kind : Form) (parts : List Node) : Build Place := do
  match kind with
  | .declaration declares => return { p.plain with declares }
  | .branch => return { p.plain with underIf := true }
  | .classLike declaration =>
    if declaration then
      if let (some s, some n) := (p.scope, nameOf parts) then
        let _ ← declareIn s n .classLike
      return p.plain
    else return { p.plain with className := nameOf parts }
  | .importDefault | .importNamespace | .importNamed =>
    if let some s := p.scope then
      for x in Node.boundNamesOf parts do
        let _ ← declareIn s x.name .imported
    return p.plain
  | .parameters => return { p.plain with unique := p.unique }
  | _ => return p.plain

/-- Declares the names of the pattern of a declarator. -/
def declareBound (p : Place) (names : List Ident) : Build (List SymbolId) :=
  match p.scope with
  | some s => declareNames p.declares s names
  | none => return []

/-- The symbol of a pattern that is one name. -/
def symbolOf (pattern : Node) (ids : List SymbolId) : Option SymbolId :=
  match pattern with
  | .name .. => ids.head?
  | _ => none

/-- Declares the names of a parameter. -/
def declareParameter (p : Place) (names : List Ident) : Build Unit := do
  if let some s := p.scope then
    for x in names do
      let _ ← declareIn s x.name (.parameter p.unique)

mutual

/-- Declares the names below a node and writes the numbers of frames and symbols into it. -/
def annotate (p : Place) : Node → Build Node
  | n@(.name ..) | n@(.thisRef _) | n@(.shorthand _) => return n
  | .member s o object x => return .member s o (← annotate p.plain object) x
  | .index s o object key => return .index s o (← annotate p.plain object) (← annotate p.plain key)
  | .field s o object f => return .field s o (← annotate p.plain object) f
  | .call s o callee args =>
    return .call s o (← annotate p.plain callee) (← annotateAll p.plain args)
  | .chain s element => return .chain s (← annotate p.plain element)
  | .nonNull s value => return .nonNull s (← annotate p.plain value)
  | .write target => return .write (← annotate p.plain target)
  | .shorthandTarget s x value => return .shorthandTarget s x (← annotate p.plain value)
  | .declarator s _ pattern value => do
    let ids ← declareBound p pattern.boundNames
    return .declarator s (symbolOf pattern ids) (← annotate p.plain pattern)
      (← annotate p.plain value)
  | .form .parameters s parts => return .form .parameters s (← annotateParameters p parts)
  | .form kind s parts => do
    let inner ← visit p kind parts
    return .form kind s (← annotateAll inner parts)
  | .region kind s _ parts => do
    let (id, inner) ← enter p kind parts
    return .region kind s (some id) (← annotateAll inner parts)

/-- Annotates nodes one after the other. -/
def annotateAll (p : Place) : List Node → Build (List Node)
  | [] => return []
  | n :: rest => return (← annotate p n) :: (← annotateAll p rest)

/-- Annotates parameters; each is declared before its inside is walked. -/
def annotateParameters (p : Place) : List Node → Build (List Node)
  | [] => return []
  | n :: rest => do
    declareParameter p n.boundNames
    return (← annotate p.plain n) :: (← annotateParameters p rest)

end

end Builder

/-- What is said of a name that is declared once too often. -/
def redeclaredMessage (name : String) : String :=
  "Identifier `" ++ name ++ "` has already been declared"

/-- A tree with its scopes. -/
structure Scoped where
  tree : Node
  scopes : Scopes
  /-- The names that were declared once too often, in the order they were met. -/
  clashes : List String
  deriving Inhabited

/-- Builds the scopes of a program; a module is in strict mode from its start. -/
def Node.withScopes (tree : Node) (strict : Bool) : Scoped :=
  let (tree, b) := (Builder.annotate { scope := none, strict } tree).run {}
  { tree, scopes := ⟨b.frames⟩, clashes := b.clashes.reverse }

end FreeNames

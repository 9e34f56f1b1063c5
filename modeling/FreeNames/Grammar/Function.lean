/-
Functions: their parameters, their bodies, and the heads of arrows.
-/
import FreeNames.Grammar.Pattern

namespace FreeNames.Grammar

/-! ### Bodies -/

/-- Turns the string statements at the head of a body into directives. -/
def markDirectives : List Node → List Node
  | .form .expressionStatement s [.form (.literal text) t []] :: rest =>
    if text.startsWith "\"" || text.startsWith "\x27" then
      .form (.directive text) s [] :: markDirectives rest
    else .form .expressionStatement s [.form (.literal text) t []] :: rest
  | nodes => nodes

/-- Statements up to the closing brace, which is read. -/
def statements : Parse (List Node) := do
  let parts ← many do
    if ← atPunct "\x7d" then return none
    else return some (← solve (.statement .list))
  expectPunct "\x7d"
  return parts

/-- The body of a function in braces. -/
def functionBody : Parse Node := do
  let start ← here
  expectPunct "\x7b"
  let parts ← statements
  formFrom .body start (markDirectives parts)

/-- What a function allows in its parameters and body. -/
def Mode.inFunction (async generator : Bool) : Mode :=
  { inOperator := true, yields := generator, awaits := async, returns := true, decorates := false }

/-- The parameters and body of a function that starts at `start`. -/
def functionRest (role : FunctionRole) (async generator : Bool) (start : Nat) (name : Node) :
    Parse Node :=
  within (fun _ => .inFunction async generator) do
    let ps ← parameters
    let body ← functionBody
    regionFrom (.function role async generator) start [name, ps, body]

/-- Whether a function has the parameters its kind of method takes: a getter has none, and a
setter has one without dots. -/
def fitsKind (kind : MethodKind) : Node → Bool
  | .region (.function ..) _ _ [_, .form .parameters _ ps, _] =>
    match kind, ps with
    | .getter, _ => ps.isEmpty
    | .setter, [.form .patternRest _ _] => false
    | .setter, _ => ps.length == 1
    | _, _ => true
  | _ => false

/-- A method from its parameters on. -/
def methodRest (kind : MethodKind) (async generator : Bool) : Parse Node := do
  let node ← functionRest .method async generator (← here) .absent
  ensure (fitsKind kind node)
  return node

/-- A function from the word `function` on, after `async` if it is there.  The name of a
declaration is read in the surrounding mode, that of an expression in its own. -/
def functionFrom (role : FunctionRole) (async : Bool) (start : Nat) (named : Bool) :
    Parse Node := do
  expectWord "function"
  let generator ← eatPunct "*"
  let own : Mode → Mode := fun m =>
    if role == .expression then { m with yields := generator, awaits := async } else m
  let name ←
    if ← atPunct "(" then
      ensure (!named)
      pure .absent
    else within own bindingName
  functionRest role async generator start name

/-- Whether `async function` starts here, on one line. -/
def atAsyncFunction : Parse Bool := do
  if ← atWord "async" then
    let (next, newline) ← peekNext
    return next == .word "function" false && !newline
  else return false

/-! ### Arrows -/

/-- The head of an arrow with one bare parameter. -/
def bareHead : Parse Node := do
  let start ← here
  let name ← bindingName
  formFrom .parameters start [name]

/-- The head of an arrow up to and including `=>`: whether it is `async`, and its parameters. -/
def arrowHead : Parse (Bool × Node) := do
  let close : Parse Unit := do
    ensure (!(← afterNewline))
    expectPunct "=>"
  let plain : Parse (Bool × Node) := do
    let ps ← if ← atPunct "(" then
        within (fun m => { m with inOperator := true, decorates := false }) parameters
      else bareHead
    close
    return (false, ps)
  if ← atWord "async" then
    let asyncHead : Parse (Bool × Node) := do
      advance
      ensure (!(← afterNewline))
      let ps ← within (fun m => { m with awaits := true, inOperator := true, decorates := false })
        (do if ← atPunct "(" then parameters else bareHead)
      close
      return (true, ps)
    match ← attempt asyncHead with
    | some head => return head
    | none => plain
  else plain

/-- An arrow, if one starts here. -/
def arrow? : Parse (Option Node) := do
  let start ← here
  let possible ← match ← peek with
    | .punct "(" => pure true
    | .word .. => atIdentifier
    | _ => pure false
  if !possible then return none
  match ← attempt arrowHead with
  | none => return none
  | some (async, ps) =>
    if ← atPunct "\x7b" then
      let body ← within (fun _ => .inFunction async false) functionBody
      some <$> regionFrom (.arrow async false) start [ps, body]
    else
      let body ← within (fun m => { m with yields := false, awaits := async, decorates := false })
        (solve .assignment)
      some <$> regionFrom (.arrow async true) start [ps, body]

end FreeNames.Grammar

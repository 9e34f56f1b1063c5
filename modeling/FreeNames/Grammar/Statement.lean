/-
Statements and declarations.
-/
import FreeNames.Grammar.Expression

namespace FreeNames.Grammar

/-! ### Declarations -/

/-- Whether a declarator lacks a value it needs: every pattern that is not one name does, and
every name of a declaration that is not `var` or `let`. -/
def lacksValue (kind : Declares) : Node → Bool
  | .declarator _ _ (.name ..) value => value.isAbsent && !(kind == .hoisted || kind == .lexical)
  | .declarator _ _ _ value => value.isAbsent
  | _ => false

def declarator : Parse Node := do
  let start ← here
  let target ← solve .pattern
  let value ← if ← eatPunct "=" then solve .assignment else pure .absent
  return .declarator (← spanFrom start) none target value

/-- The declarators after the word that opens a declaration. -/
def declarators (kind : Declares) (start : Nat) : Parse Node := do
  let first ← declarator
  let rest ← many do
    if ← eatPunct "," then return some (← declarator) else return none
  formFrom (.declaration kind) start (first :: rest)

/-- Fails if a declarator lacks a value it needs. -/
def ensureValues : Node → Parse Unit
  | .form (.declaration kind) _ parts => ensure (!parts.any (lacksValue kind))
  | _ => pure ()

/-- A declaration as a statement of its own. -/
def declarationStatement (kind : Declares) (start : Nat) : Parse Node := do
  let node ← within (fun m => { m with inOperator := true }) (declarators kind start)
  ensureValues node
  semicolon
  match node with
  | .form form _ parts => formFrom form start parts
  | _ => return node

/-- Whether a token after `let` makes it a declaration. -/
def followsLet : Token → Bool
  | .word w escaped => escaped || !(w == "in" || w == "instanceof")
  | .punct "[" | .punct "\x7b" => true
  | _ => false

/-- Whether `using` at the current token declares a resource. -/
def atUsing : Parse Bool := do
  if ← atWord "using" then
    match ← peekNext with
    | (.word w _, newline) =>
      return !newline && !reservedWords.contains w && w != "of"
    | _ => return false
  else return false

/-- The kind of declaration that starts here, if any; its words are read. -/
def declarationHead : Parse (Option Declares) := do
  match ← peek with
  | .word "var" false => advance; return some .hoisted
  | .word "const" false => advance; return some .constant
  | .word "let" false =>
    let (next, _) ← peekNext
    if followsLet next then advance; return some .lexical
    else return none
  | .word "using" false =>
    if ← atUsing then advance; return some .resource
    else return none
  | .word "await" false =>
    if (← mode).awaits then
      let found ← attempt do
        advance
        ensure (!(← afterNewline))
        ensure (← atUsing)
        advance
      return found.map fun _ => .asyncResource
    else return none
  | _ => return none

/-! ### Compound statements -/

/-- The statement a construct governs. -/
def governed : Parse Node := solve (.statement .single)

def block : Parse Node := do
  let start ← here
  expectPunct "\x7b"
  let parts ← statements
  regionFrom .block start parts

/-- A value in parentheses. -/
def condition : Parse Node := do
  expectPunct "("
  let value ← enclosed .expression
  expectPunct ")"
  return value

def branch : Parse Node := do
  let start ← here
  advance
  let test ← condition
  let yes ← governed
  if ← eatWord "else" then
    let no ← governed
    formFrom .branch start [test, yes, no]
  else formFrom .branch start [test, yes]

/-- A value, unless the punctuator comes at once. -/
def valueBefore (close : String) : Parse Node := do
  let value ← if ← atPunct close then pure .absent else enclosed .expression
  expectPunct close
  return value

/-- A `for` loop from the semicolon after its first part on. -/
def countedLoop (start : Nat) (first : Node) : Parse Node := do
  ensureValues first
  expectPunct ";"
  let test ← valueBefore ";"
  let next ← valueBefore ")"
  let body ← governed
  regionFrom (.loop .counted) start [first, test, next, body]

/-- A `for` loop from the word `in` or `of` on. -/
def eachLoop (start : Nat) (awaiting : Bool) (target : Node) : Parse Node := do
  let kind ← if ← eatWord "of" then
      pure (if awaiting then LoopKind.asyncValues else .values)
    else
      ensure (!awaiting)
      expectWord "in"
      pure .keys
  let values ← enclosed (if kind == .keys then .expression else .assignment)
  expectPunct ")"
  let body ← governed
  regionFrom (.loop kind) start [target, values, body]

/-- The head of a `for` loop that is no declaration. -/
def loopFrom (start : Nat) (awaiting : Bool) : Parse Node := do
  let first ← peek
  let value ← within (fun m => { m with inOperator := false }) (solve .expression)
  let of_ ← atWord "of"
  if of_ || (← atWord "in") then
    ensure (!(of_ && first == .word "let" false))
    match value with
    | .name .reference x =>
      ensure (!(of_ && !awaiting && x.name == "async" && first == .word "async" false))
    | _ => pure ()
    match value.toTarget? with
    | some target => eachLoop start awaiting target
    | none => failure
  else
    ensure (!awaiting)
    countedLoop start value

def forLoop : Parse Node := do
  let start ← here
  advance
  let awaiting ← eatWord "await"
  ensure (!awaiting || (← mode).awaits)
  expectPunct "("
  if ← atPunct ";" then
    ensure (!awaiting)
    return ← countedLoop start .absent
  let inner ← here
  match ← declarationHead with
  | some kind =>
    let node ← within (fun m => { m with inOperator := false }) (declarators kind inner)
    if (← atWord "of") || (← atWord "in") then eachLoop start awaiting node
    else
      ensure (!awaiting)
      countedLoop start node
  | none => loopFrom start awaiting

def whileLoop : Parse Node := do
  let start ← here
  advance
  let test ← condition
  let body ← governed
  formFrom .whileLoop start [test, body]

def doLoop : Parse Node := do
  let start ← here
  advance
  let body ← governed
  expectWord "while"
  let test ← condition
  let _ ← eatPunct ";"
  formFrom .doLoop start [body, test]

/-- `break` and `continue`, with a label on the same line. -/
def jump (kind : Form) : Parse Node := do
  let start ← here
  advance
  let label ← if !(← afterNewline) && (← atIdentifier) then
      pure [Node.name .label (← identifier)]
    else pure []
  semicolon
  formFrom kind start label

def returnStatement : Parse Node := do
  let start ← here
  ensure (← mode).returns
  advance
  let ends := (← afterNewline) || (← atPunct ";") || (← atPunct "\x7d") || (← peek) == .eof
  let value ← if ends then pure [] else pure [← enclosed .expression]
  semicolon
  formFrom .returnValue start value

def throwStatement : Parse Node := do
  let start ← here
  advance
  ensure (!(← afterNewline))
  let value ← enclosed .expression
  semicolon
  formFrom .throwValue start [value]

def withStatement : Parse Node := do
  let start ← here
  advance
  let object ← condition
  let inner ← here
  let body ← governed
  let region ← regionFrom .withBody inner [body]
  formFrom .withObject start [object, region]

/-- The statements of a case, up to the next case or the end. -/
def caseBody : Parse (List Node) := many do
  if (← atPunct "\x7d") || (← atWord "case") || (← atWord "default") then return none
  else return some (← solve (.statement .list))

def switchCase : Parse Node := do
  let start ← here
  if ← eatWord "default" then
    expectPunct ":"
    formFrom .defaultCase start (← caseBody)
  else
    expectWord "case"
    let test ← enclosed .expression
    expectPunct ":"
    formFrom .switchCase start (test :: (← caseBody))

def switchStatement : Parse Node := do
  let start ← here
  advance
  let value ← condition
  let inner ← here
  expectPunct "\x7b"
  let parts ← many do
    if ← atPunct "\x7d" then return none else return some (← switchCase)
  expectPunct "\x7d"
  let region ← regionFrom .cases inner parts
  formFrom .switchOn start [value, region]

def handler : Parse Node := do
  let start ← here
  expectWord "catch"
  let param ← if ← eatPunct "(" then
      let target ← solve .pattern
      expectPunct ")"
      pure target
    else pure .absent
  let body ← block
  regionFrom .handler start [param, body]

def tryStatement : Parse Node := do
  let start ← here
  advance
  let body ← block
  let caught ← if ← atWord "catch" then handler else pure .absent
  let finally_ ← if ← eatWord "finally" then block else pure .absent
  ensure (!(caught.isAbsent && finally_.isAbsent))
  formFrom .tryBlock start [body, caught, finally_]

/-- A function as a statement; alone under a construct it must be an ordinary one. -/
def functionStatement (place : Place) : Parse Node := do
  let start ← here
  let async ← eatWord "async"
  let node ← functionFrom .declaration async start true
  match node with
  | .region (.function _ async generator) .. =>
    ensure (place != .single || !(async || generator))
  | _ => pure ()
  return node

/-- A class as a statement, with its decorators. -/
def classStatement (place : Place) : Parse Node := do
  ensure (place != .single)
  let start ← here
  let decs ← decorators
  classFrom true true start decs

/-- An expression, or a statement with a label in front. -/
def expressionStatement : Parse Node := do
  let start ← here
  let value ← within (fun m => { m with inOperator := true }) (solve .expression)
  match value with
  | .name .reference x =>
    if ← eatPunct ":" then
      let body ← governed
      return ← formFrom .labelled start [.name .label x, body]
  | _ => pure ()
  semicolon
  formFrom .expressionStatement start [value]

/-- Operators after which `let` is a name: all that assign, and the binary ones that are not
logical. -/
def operatorsAfterLet : List String :=
  ["=", "+=", "-=", "*=", "/=", "%=", "**=", "<<=", ">>=", ">>>=", "&=", "|=", "^=", "&&=",
   "||=", "??=", "==", "!=", "===", "!==", "<", "<=", ">", ">=", "<<", ">>", ">>>", "+", "-", "*",
   "/", "%", "|", "^", "&", "**"]

/-- A statement that starts with `let`.  The next token decides whether `let` is a name in it:
it is one in front of an operator, a dot, a parenthesis or a semicolon, and under a construct. -/
def letStatement (place : Place) : Parse Node := do
  let start ← here
  let expressionOf (p : Parse Node) : Parse Node := do
    let value ← within (fun m => { m with inOperator := true }) p
    semicolon
    formFrom .expressionStatement start [value]
  match (← peekNext).1 with
  | .word "in" false | .word "instanceof" false => expressionOf (solve .assignment)
  | .punct text =>
    if operatorsAfterLet.contains text then expressionOf (solve .assignment)
    else if text == "." || text == "(" then expressionOf (solve .expression)
    else if text == ";" || (place == .single && text != "[") then
      expressionOf (return .name .reference (← identifier))
    else lexical start
  | _ =>
    if place == .single then expressionOf (return .name .reference (← identifier))
    else lexical start
where
  lexical (start : Nat) : Parse Node := do
    ensure (place != .single)
    advance
    declarationStatement .lexical start

/-- A statement that is no import and no export. -/
def plainStatement (place : Place) : Parse Node := do
  let start ← here
  match ← peek with
  | .punct "\x7b" => block
  | .punct ";" =>
    advance
    formFrom .empty start []
  | .punct "@" => classStatement place
  | .word w false =>
    match w with
    | "if" => branch
    | "for" => forLoop
    | "while" => whileLoop
    | "do" => doLoop
    | "continue" => jump .continueTo
    | "break" => jump .breakTo
    | "return" => returnStatement
    | "throw" => throwStatement
    | "with" => withStatement
    | "switch" => switchStatement
    | "try" => tryStatement
    | "debugger" =>
      advance
      semicolon
      formFrom .debugger start []
    | "function" => functionStatement place
    | "class" => classStatement place
    | "async" => if ← atAsyncFunction then functionStatement place else expressionStatement
    | "let" => letStatement place
    | _ => declarationOr expressionStatement
  | _ => expressionStatement
where
  /-- A declaration if one starts here; it may not stand alone under a construct unless it is
  `var`. -/
  declarationOr (other : Parse Node) : Parse Node := do
    let start ← here
    match ← declarationHead with
    | some kind =>
      ensure (place != .single || kind == .hoisted)
      declarationStatement kind start
    | none => other

end FreeNames.Grammar

/-
Expressions, from names and literals up to assignments and sequences.
-/
import FreeNames.Grammar.Cover
import FreeNames.Grammar.Literal

namespace FreeNames.Grammar

/-! ### Primary expressions -/

/-- A class expression with its decorators. -/
def classExpression : Parse Node := do
  let start ← here
  let decs ← decorators
  classFrom false false start decs

/-- An expression in parentheses, which are kept. -/
def parenthesised : Parse Node := do
  let start ← here
  expectPunct "("
  let inner ← enclosed .expression
  expectPunct ")"
  formFrom .paren start [inner]

/-- A name, a literal or a bracketed expression. -/
def primary : Parse Node := do
  let start ← here
  match ← peek with
  | .numeral _ | .quoted _ => literal
  | .piece .. => template false
  | .punct "/" | .punct "/=" =>
    reread (·.head) Lexer.regex
    literal
  | .punct "[" => arrayLiteral
  | .punct "\x7b" => objectLiteral
  | .punct "(" => parenthesised
  | .punct "@" => classExpression
  | .word "this" false =>
    advance
    return .thisRef (← spanFrom start)
  | .word "null" false | .word "true" false | .word "false" false => literal
  | .word "function" false => functionFrom .expression false start false
  | .word "class" false => classExpression
  | .word "async" false =>
    if ← atAsyncFunction then
      advance
      functionFrom .expression true start false
    else return .name .reference (← identifier)
  | .word .. => return .name .reference (← identifier)
  | _ => failure

/-! ### Members, calls and chains -/

/-- A chain under construction and whether an optional link occurs in it. -/
structure Chain where
  node : Node
  isOptional : Bool

/-- The property after a dot: a name or a private name. -/
def property (start : Nat) (isOptional : Bool) (object : Node) : Parse Node := do
  let s ← get
  match s.token with
  | .privateWord name =>
    advance
    return .field (← spanFrom start) isOptional object name
  | _ =>
    let x ← anyName
    return .member (← spanFrom start) isOptional object x

/-- The index in brackets. -/
def indexed (start : Nat) (isOptional : Bool) (object : Node) : Parse Node := do
  expectPunct "["
  let key ← enclosed .expression
  expectPunct "]"
  return .index (← spanFrom start) isOptional object key

/-- One more link without a call: a property, an index, a template or `!`. -/
def memberLink (start : Nat) (c : Chain) : Parse (Option Chain) := do
  match ← peek with
  | .punct "." =>
    advance
    return some { c with node := ← property start false c.node }
  | .punct "[" =>
    if (← mode).decorates then return none
    else return some { c with node := ← indexed start false c.node }
  | .piece .. =>
    ensure (!c.isOptional)
    let quasi ← template true
    return some { c with node := ← formFrom .tagged start [c.node, quasi] }
  | .punct "!" =>
    if (← read).kind == .typed && !(← afterNewline) then
      advance
      return some { c with node := .nonNull (← spanFrom start) c.node }
    else return none
  | _ => return none

/-- One more link of any kind. -/
def link (start : Nat) (c : Chain) : Parse (Option Chain) := do
  match ← peek with
  | .punct "(" =>
    let args ← arguments
    return some { c with node := .call (← spanFrom start) false c.node args }
  | .punct "?." =>
    advance
    match ← peek with
    | .punct "(" =>
      let args ← arguments
      return some ⟨.call (← spanFrom start) true c.node args, true⟩
    | .punct "[" => return some ⟨← indexed start true c.node, true⟩
    | .piece .. => failure
    | _ => return some ⟨← property start true c.node, true⟩
  | _ => memberLink start c

/-- The words of `import.meta` or `new.target`, after the dot. -/
def metaProperty (start : Nat) (first : Ident) (second : String) : Parse Node := do
  ensure (← atWord second)
  let x ← anyName
  formFrom .metaProperty start [.name .word first, .name .word x]

/-- `import(…)` after the word and its phase. -/
def dynamicImport (start : Nat) (phase : String) : Parse Node := do
  expectPunct "("
  let source ← enclosed .assignment
  let options ← if (← eatPunct ",") && !(← atPunct ")") then
      let value ← enclosed .assignment
      let _ ← eatPunct ","
      pure [value]
    else pure []
  expectPunct ")"
  formFrom (.dynamicImport phase) start (source :: options)

/-- What starts with the word `import`. -/
def importExpression : Parse Node := do
  let start ← here
  let first ← anyName
  if ← eatPunct "." then
    match ← peek with
    | .word "source" false => advance; dynamicImport start "source"
    | .word "defer" false => advance; dynamicImport start "defer"
    | .word "meta" false => metaProperty start first "meta"
    | _ => failure
  else dynamicImport start ""

/-- `super`, which must be called or have a property. -/
def superReference : Parse Node := do
  let start ← here
  advance
  ensure ((← atPunct "(") || (← atPunct ".") || (← atPunct "["))
  formFrom .superRef start []

/-- `new` and its arguments, or `new.target`. -/
def construct : Parse Node := do
  let start ← here
  let first ← anyName
  if ← eatPunct "." then
    metaProperty start first "target"
  else
    let callee ← solve .constructed
    ensure (!(← atPunct "?."))
    let args ← if ← atPunct "(" then arguments else pure []
    formFrom .construct start (callee :: args)

/-- Where a chain starts. -/
def chainRoot : Parse Node := do
  match ← peek with
  | .word "new" false => construct
  | .word "super" false => superReference
  | .word "import" false => importExpression
  | _ => primary

/-- What may follow `new`: a chain without calls. -/
def constructed : Parse Node := do
  let start ← here
  if ← atWord "import" then
    let (next, _) ← peekNext
    ensure (next == .punct ".")
  let root ← chainRoot
  match root with
  | .form (.dynamicImport _) .. => failure
  | _ =>
    let c ← extend (memberLink start) ⟨root, false⟩
    return c.node

/-- A chain with all its links; one node is put around it if a link is optional. -/
def leftHand : Parse Node := do
  let start ← here
  let root ← chainRoot
  let c ← extend (link start) ⟨root, false⟩
  if c.isOptional then return .chain (← spanFrom start) c.node
  else return c.node

/-! ### Operators -/

/-- A target that holds a single value. -/
def simpleTarget (n : Node) : Parse Node :=
  match n.toSimpleTarget? with
  | some target => pure target
  | none => failure

/-- `++` and `--` after a value on the same line. -/
def updated : Parse Node := do
  let start ← here
  let value ← leftHand
  match ← peek with
  | .punct op =>
    if (op == "++" || op == "--") && !(← afterNewline) then
      advance
      let target ← simpleTarget value
      formFrom (.update op false) start [target]
    else return value
  | _ => return value

/-- Operators in front of one operand. -/
def unary : Parse Node := do
  let start ← here
  let operand (kind : Form) : Parse Node := do
    advance
    let value ← solve .unary
    ensure (!(← atPunct "**"))
    formFrom kind start [value]
  match ← peek with
  | .punct op =>
    if op == "++" || op == "--" then
      advance
      let value ← solve .unary
      let target ← simpleTarget value
      formFrom (.update op true) start [target]
    else if op == "+" || op == "-" || op == "~" || op == "!" then operand (.unary op)
    else updated
  | .word w false =>
    if w == "delete" || w == "void" || w == "typeof" then operand (.unary w)
    else if w == "await" && (← mode).awaits then operand .await
    else updated
  | _ => updated

/-- How tightly a binary operator binds. -/
def precedence (op : String) : Option Nat :=
  match op with
  | "??" => some 1
  | "||" => some 2
  | "&&" => some 3
  | "|" => some 4
  | "^" => some 5
  | "&" => some 6
  | "==" | "!=" | "===" | "!==" => some 7
  | "<" | ">" | "<=" | ">=" | "instanceof" | "in" => some 8
  | "<<" | ">>" | ">>>" => some 9
  | "+" | "-" => some 10
  | "*" | "/" | "%" => some 11
  | "**" => some 12
  | _ => none

/-- The binary operator at the current token and its level. -/
def binaryOperator : Parse (Option (String × Nat)) := do
  let found (op : String) : Option (String × Nat) := (precedence op).map (op, ·)
  match ← peek with
  | .punct op => return found op
  | .word "in" false => return if (← mode).inOperator then found "in" else none
  | .word "instanceof" false => return found "instanceof"
  | _ => return none

/-- Whether a node is a bare use of one of the operators. -/
def isBare (ops : List String) : Node → Bool
  | .form (.binary op) .. => ops.contains op
  | _ => false

/-- `??` may not stand beside `&&` or `||` without parentheses. -/
def mixes (op : String) (left right : Node) : Bool :=
  if op == "??" then isBare ["&&", "||"] left || isBare ["&&", "||"] right
  else if op == "&&" || op == "||" then isBare ["??"] left || isBare ["??"] right
  else false

/-- The first operand: `#name in value`, or a unary expression. -/
def firstOperand (level : Nat) : Parse Node := do
  let s ← get
  match s.token with
  | .privateWord name =>
    ensure (level < 8 && (← mode).inOperator)
    advance
    expectWord "in"
    let value ← solve (.binary 8)
    formFrom (.binary "in") s.span.start [.form (.privateName name) s.span [], value]
  | _ => unary

/-- Operators that bind tighter than `level`. -/
def binary (level : Nat) : Parse Node := do
  let start ← here
  let first ← firstOperand level
  extend (fun left => do
    match ← binaryOperator with
    | none => return none
    | some (op, tightness) =>
      if tightness ≤ level then return none
      advance
      let right ← solve (.binary (if op == "**" then tightness - 1 else tightness))
      ensure (!mixes op left right)
      some <$> formFrom (.binary op) start [left, right]) first

/-- `test ? yes : no` -/
def conditional : Parse Node := do
  let start ← here
  let test ← binary 0
  if ← eatPunct "?" then
    let yes ← enclosed .assignment
    expectPunct ":"
    let no ← solve .assignment
    formFrom .conditional start [test, yes, no]
  else return test

/-- Assignment operators other than `=`. -/
def compoundOperators : List String :=
  ["+=", "-=", "*=", "/=", "%=", "**=", "<<=", ">>=", ">>>=", "&=", "|=", "^=", "&&=", "||=",
   "??="]

/-- `yield`, where it is an operator. -/
def yielded : Parse Node := do
  let start ← here
  advance
  if ← afterNewline then return ← formFrom (.yield false) start []
  let delegate ← eatPunct "*"
  let ends ← match ← peek with
    | .eof => pure true
    | .punct p => pure ([";", "\x7d", ")", "]", ":", ","].contains p)
    | .word "in" false => pure true
    | _ => pure false
  if ends && !delegate then formFrom (.yield false) start []
  else
    let value ← solve .assignment
    formFrom (.yield delegate) start [value]

/-- An arrow, a `yield`, an assignment, or anything tighter. -/
def assignment : Parse Node := do
  let start ← here
  if (← mode).yields && (← atWord "yield") then return ← yielded
  match ← arrow? with
  | some node => return node
  | none =>
    let left ← conditional
    match ← peek with
    | .punct "=" =>
      match left.toTarget? with
      | none => failure
      | some target =>
        advance
        let right ← solve .assignment
        formFrom (.assignment "=") start [target, right]
    | .punct op =>
      if compoundOperators.contains op then
        let target ← simpleTarget left
        advance
        let right ← solve .assignment
        formFrom (.assignment op) start [target, right]
      else return left
    | _ => return left

/-- Assignments with commas between them. -/
def expression : Parse Node := do
  let start ← here
  let first ← solve .assignment
  let rest ← many do
    if ← eatPunct "," then return some (← solve .assignment) else return none
  if rest.isEmpty then return first else formFrom .sequence start (first :: rest)

end FreeNames.Grammar

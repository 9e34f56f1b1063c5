/-
Array and object literals, templates and argument lists.
-/
import FreeNames.Grammar.Class

namespace FreeNames.Grammar

/-- An expression inside brackets, where `in` is an operator again. -/
def enclosed (goal : Goal) : Parse Node :=
  within (fun m => { m with inOperator := true, decorates := false }) (solve goal)

/-- `...value` -/
def spread : Parse Node := do
  let start ← here
  expectPunct "..."
  let value ← enclosed .assignment
  formFrom .spread start [value]

/-- The arguments of a call, in parentheses. -/
def arguments : Parse (List Node) := do
  expectPunct "("
  let (parts, _) ← commaList ")" do
    if ← atPunct "..." then spread else enclosed .assignment
  return parts

def arrayLiteral : Parse Node := do
  let start ← here
  expectPunct "["
  let (parts, comma) ← commaList "]" do
    if ← atPunct "," then
      let at_ ← here
      return .form .elision ⟨at_, at_⟩ []
    if ← atPunct "..." then spread else enclosed .assignment
  formFrom (.array comma) start parts

/-- Whether the word is a modifier of an object member: the next token must start a key. -/
def memberModifier (name : String) (star : Bool) : Parse Bool :=
  modifier name fun t newline =>
    (startsKey t || (star && t == .punct "*")) && !(star && newline)

/-- A member of an object literal.  A shorthand with a default is read here and must turn out
to be part of a target. -/
def objectMember : Parse Node := do
  let start ← here
  if ← atPunct "..." then return ← spread
  let async ← memberModifier "async" true
  let generator ← eatPunct "*"
  let plain := !async && !generator
  let getter ← if plain then memberModifier "get" false else pure false
  let setter ← if plain && !getter then memberModifier "set" false else pure false
  let shorthandPossible := plain && !getter && !setter && (← atIdentifier)
  let (key, computed) ← propertyKey
  if ← atPunct "(" then
    let kind := if getter then MethodKind.getter else if setter then .setter else .plain
    let method ← methodRest kind async generator
    return ← formFrom (.method kind computed) start [key, method]
  ensure (plain && !getter && !setter)
  if ← eatPunct ":" then
    let value ← enclosed .assignment
    return ← formFrom (.property computed) start [key, value]
  ensure shorthandPossible
  match key with
  | .name _ x =>
    if ← eatPunct "=" then
      let value ← enclosed .assignment
      return .shorthandTarget (← spanFrom start) x value
    else return .shorthand x
  | _ => failure

def objectLiteral : Parse Node := do
  let start ← here
  expectPunct "\x7b"
  let (parts, comma) ← commaList "\x7d" objectMember
  formFrom (.object comma) start parts

/-- One piece of a template with the substitution after it, if it is not the last. -/
structure Piece where
  text : String
  value : Option Node

/-- The piece at the current token; its escapes must be sound unless the template is tagged. -/
def templatePiece (tagged : Bool) : Parse Piece := do
  match ← peek with
  | .piece text sound last =>
    ensure (sound || tagged)
    if last then
      advance
      return ⟨text, none⟩
    advance
    let value ← enclosed .expression
    ensure (← atPunct "\x7d")
    reread (·.tail) Lexer.nextPiece
    return ⟨text, some value⟩
  | _ => failure

/-- A template from its first piece to its last. -/
def template (tagged : Bool) : Parse Node := do
  let start ← here
  let first ← templatePiece tagged
  let pieces ← extend (fun (pieces : List Piece) => do
      match pieces with
      | ⟨_, some _⟩ :: _ => return some ((← templatePiece tagged) :: pieces)
      | _ => return none) [first]
  let pieces := pieces.reverse
  formFrom (.template (pieces.map (·.text))) start (pieces.filterMap (·.value))

end FreeNames.Grammar

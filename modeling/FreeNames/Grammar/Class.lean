/-
Classes, their elements, and decorators.
-/
import FreeNames.Grammar.Function

namespace FreeNames.Grammar

/-- The decorators in front of a class or one of its elements. -/
def decorators : Parse (List Node) := many do
  let start ← here
  if ← eatPunct "@" then
    let value ← within (fun m => { m with decorates := true }) (solve .leftHand)
    some <$> formFrom .decorator start [value]
  else return none

/-- Whether a token can start the name of a class element. -/
def startsElementName : Token → Bool
  | .privateWord _ => true
  | t => startsKey t

/-- Goes past a modifier, if it is one here: `follows` tells whether the next token and the
line end in front of it let it be one. -/
def modifier (name : String) (follows : Token → Bool → Bool) : Parse Bool := do
  if ← atWord name then
    let (next, newline) ← peekNext
    if follows next newline then advance; return true
    else return false
  else return false

/-- The name of a class element and whether it is computed. -/
def elementName : Parse (Node × Bool) := do
  let s ← get
  match s.token with
  | .privateWord name =>
    advance
    ensure (name != "constructor")
    return (.form (.privateName name) s.span [], false)
  | _ => propertyKey

/-- The text of a key that is not computed, if it names a property. -/
def keyText : Node → Option String
  | .name .key x => some x.name
  | .form (.literal text) _ _ =>
    if text.startsWith "\"" || text.startsWith "\x27" then
      some (String.ofList ((text.toList.drop 1).dropLast))
    else none
  | _ => none

/-- The body of a static block. -/
def staticBlock (start : Nat) : Parse Node :=
  within (fun _ =>
      { inOperator := true, yields := false, awaits := true, returns := false, decorates := false })
    do
      expectPunct "\x7b"
      let parts ← statements
      regionFrom .staticBlock start parts

/-- An element of a class. -/
def classElement : Parse Node := do
  let start ← here
  let decs ← decorators
  let starts (t : Token) (_ : Bool) : Bool := startsElementName t || t == .punct "*"
  let startsBlock (t : Token) (_ : Bool) : Bool := t == .punct "\x7b"
  if decs.isEmpty && (← modifier "static" startsBlock) then
    return ← staticBlock start
  let isStatic ← modifier "static" starts
  let accessor ← modifier "accessor" fun t newline => startsElementName t && !newline
  let async ← if accessor then pure false
    else modifier "async" fun t newline => starts t newline && !newline
  let generator ← if accessor then pure false else eatPunct "*"
  let plain := !accessor && !async && !generator
  let getter ← if plain then modifier "get" fun t _ => startsElementName t else pure false
  let setter ← if plain && !getter then modifier "set" fun t _ => startsElementName t
    else pure false
  let (key, computed) ← elementName
  let named (name : String) : Bool := !computed && keyText key == some name
  if !accessor && (← atPunct "(") then
    let constructs := named "constructor" && !isStatic
    ensure (!(constructs && (async || generator || getter || setter)))
    ensure (!(isStatic && named "prototype"))
    let kind := if getter then MethodKind.getter else if setter then .setter
      else if constructs then .constructor else .plain
    let method ← methodRest kind async generator
    formFrom (.classMethod kind isStatic computed) start (decs ++ [key, method])
  else
    ensure (plain || accessor)
    ensure (!getter && !setter)
    ensure (!named "constructor")
    ensure (!(isStatic && named "prototype"))
    let value ← if ← eatPunct "=" then
        within (fun _ => { Mode.inFunction false false with returns := false }) (solve .assignment)
      else pure .absent
    semicolon
    formFrom (.classField isStatic accessor computed) start (decs ++ [key, value])

/-- A class from the word `class` on, after its decorators. -/
def classFrom (declaration named : Bool) (start : Nat) (decs : List Node) : Parse Node := do
  expectWord "class"
  let name ← if (← atIdentifier) && !(← atWord "implements") then bindingName
    else
      ensure (!named)
      pure .absent
  let inner ← here
  let heritage ← if ← eatWord "extends" then
      within (fun m => { m with decorates := false }) (solve .leftHand)
    else pure .absent
  expectPunct "\x7b"
  let elements ← within (fun m => { m with decorates := false }) <| many do
    while_ do eatPunct ";"
    if ← atPunct "\x7d" then return none
    else return some (← classElement)
  expectPunct "\x7d"
  let body ← regionFrom .classBody inner (heritage :: elements)
  formFrom (.classLike declaration) start (decs ++ [name, body])
where
  /-- Repeats a parser while it reads something. -/
  while_ (p : Parse Bool) : Parse Unit := do
    let _ ← many do
      if ← p then return some () else return none
    return ()

end FreeNames.Grammar

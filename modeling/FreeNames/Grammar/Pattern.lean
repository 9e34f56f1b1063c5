/-
Property keys, and the patterns that declarations and parameters take apart.
-/
import FreeNames.Grammar.Parse

namespace FreeNames.Grammar

/-! ### Keys -/

/-- A property key and whether it is computed. -/
def propertyKey : Parse (Node × Bool) := do
  match ← peek with
  | .word .. => return (.name .key (← anyName), false)
  | .numeral _ | .quoted _ => return (← literal, false)
  | .punct "[" =>
    advance
    let key ← within (fun m => { m with inOperator := true }) (solve .assignment)
    expectPunct "]"
    return (key, true)
  | _ => failure

/-- Whether a token can start a property key. -/
def startsKey : Token → Bool
  | .word .. | .numeral _ | .quoted _ | .punct "[" => true
  | _ => false

/-! ### Patterns -/

/-- A pattern with an optional default. -/
def defaultedPattern : Parse Node := do
  let start ← here
  let target ← solve .pattern
  if ← eatPunct "=" then
    let value ← within (fun m => { m with inOperator := true }) (solve .assignment)
    formFrom .patternDefault start [target, value]
  else return target

/-- What collects the rest; nothing may follow it. -/
def restPattern (target : Parse Node) (close : String) : Parse Node := do
  let start ← here
  expectPunct "..."
  let inner ← target
  ensure (← atPunct close)
  formFrom .patternRest start [inner]

/-- An element of an array pattern. -/
def elementPattern : Parse Node := do
  if ← atPunct "," then
    let start ← here
    return .form .elision ⟨start, start⟩ []
  if ← atPunct "..." then restPattern (solve .pattern) "]"
  else defaultedPattern

/-- A member of an object pattern. -/
def memberPattern : Parse Node := do
  let start ← here
  if ← atPunct "..." then
    return ← restPattern bindingName "\x7d"
  let plain ← atIdentifier
  let (key, computed) ← propertyKey
  if ← eatPunct ":" then
    let target ← defaultedPattern
    return ← formFrom (.patternProperty computed false) start [key, target]
  ensure plain
  match key with
  | .name _ x =>
    let target := Node.name .binding x
    if ← eatPunct "=" then
      let value ← within (fun m => { m with inOperator := true }) (solve .assignment)
      let target ← formFrom .patternDefault start [target, value]
      formFrom (.patternProperty false true) start [key, target]
    else formFrom (.patternProperty false true) start [key, target]
  | _ => failure

/-- A name, or an array or object pattern. -/
def pattern : Parse Node := do
  let start ← here
  match ← peek with
  | .punct "[" =>
    advance
    let (parts, _) ← commaList "]" elementPattern
    formFrom .arrayPattern start parts
  | .punct "\x7b" =>
    advance
    let (parts, _) ← commaList "\x7d" memberPattern
    formFrom .objectPattern start parts
  | _ => bindingName

/-- A parameter; one with three dots must be the last. -/
def parameter : Parse Node := do
  if ← atPunct "..." then restPattern (solve .pattern) ")"
  else defaultedPattern

/-- Parameters in parentheses. -/
def parameters : Parse Node := do
  let start ← here
  expectPunct "("
  let (parts, _) ← commaList ")" parameter
  formFrom .parameters start parts

end FreeNames.Grammar

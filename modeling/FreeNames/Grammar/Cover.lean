/-
Expressions read again as what an assignment writes to.

Only when the operator comes into sight is it known that the expression before
it was a target.  The functions here turn the one into the other, or refuse.
-/
import FreeNames.Tree.Node

namespace FreeNames.Node

/-- The member, name or `value!` that a single value can be written to.  Parentheses around it
are dropped. -/
def toSimpleTarget? : Node → Option Node
  | .name .reference x => some (.write (.name .reference x))
  | n@(.member ..) | n@(.index ..) | n@(.field ..) | n@(.nonNull ..) => some (.write n)
  | .form .paren _ [inner] => toSimpleTarget? inner
  | _ => none

/-- A target with a default, which was read as an assignment. -/
def toDefaulted? : Node → Option Node
  | .form (.assignment "=") s [target, value] => some (.form .targetDefault s [target, value])
  | _ => none

mutual

/-- What an assignment writes to, taken apart if the expression is a literal. -/
def toTarget? : Node → Option Node
  | .form (.array comma) s parts => return .form .arrayTarget s (← toElementTargets? comma parts)
  | .form (.object comma) s parts => return .form .objectTarget s (← toMemberTargets? comma parts)
  | n => toSimpleTarget? n
  termination_by structural n => n

/-- The elements of an array taken apart; only the last one may collect the rest. -/
def toElementTargets? (comma : Bool) : List Node → Option (List Node)
  | [] => some []
  | .form .spread s [inner] :: rest =>
    if rest.isEmpty && !comma then do
      let target ← toTarget? inner
      return [.form .targetRest s [target]]
    else none
  | .form .elision s parts :: rest =>
    return .form .elision s parts :: (← toElementTargets? comma rest)
  | n :: rest => do
    let target ← (toDefaulted? n).or (toTarget? n)
    return target :: (← toElementTargets? comma rest)
  termination_by structural parts => parts

/-- The members of an object taken apart; only the last one may collect the rest. -/
def toMemberTargets? (comma : Bool) : List Node → Option (List Node)
  | [] => some []
  | .form .spread s [inner] :: rest =>
    if rest.isEmpty && !comma then do
      let target ← toSimpleTarget? inner
      return [.form .targetRest s [target]]
    else none
  | .form (.property computed) s [key, value] :: rest => do
    let target ← (toDefaulted? value).or (toTarget? value)
    return .form (.targetProperty computed) s [key, target] :: (← toMemberTargets? comma rest)
  | .shorthand x :: rest =>
    return .shorthandTarget x.span x absent :: (← toMemberTargets? comma rest)
  | .shorthandTarget s x value :: rest =>
    return .shorthandTarget s x value :: (← toMemberTargets? comma rest)
  | _ :: _ => none
  termination_by structural parts => parts

end

/-- Whether a member of an object literal has a default, which only a target may have. -/
def hasDefault : Node → Bool
  | .shorthandTarget .. => true
  | _ => false

mutual

/-- Whether no object literal in the tree has a member with a default. -/
def isSettled : Node → Bool
  | .name .. | .thisRef _ | .shorthand _ => true
  | .member _ _ object _ => object.isSettled
  | .index _ _ object key => object.isSettled && key.isSettled
  | .field _ _ object _ => object.isSettled
  | .call _ _ callee arguments => callee.isSettled && areSettled arguments
  | .chain _ element => element.isSettled
  | .nonNull _ value => value.isSettled
  | .write target => target.isSettled
  | .shorthandTarget _ _ value => value.isSettled
  | .declarator _ _ pattern value => pattern.isSettled && value.isSettled
  | .form (.object _) _ parts => !parts.any hasDefault && areSettled parts
  | .form _ _ parts => areSettled parts
  | .region _ _ _ parts => areSettled parts

def areSettled : List Node → Bool
  | [] => true
  | n :: rest => n.isSettled && areSettled rest

end

end FreeNames.Node

/-
The names a pattern declares.
-/
import FreeNames.Tree.Node

namespace FreeNames.Node

mutual

/-- The names a pattern, declarator or import declares, in source order. -/
def boundNames : Node → List Ident
  | .name .binding x => [x]
  | .form .arrayPattern _ parts | .form .objectPattern _ parts | .form .patternRest _ parts
  | .form .importDefault _ parts | .form .importNamespace _ parts | .form .importNamed _ parts =>
    boundNamesOf parts
  | .form .patternDefault _ (target :: _) => boundNames target
  | .form (.patternProperty ..) _ [_, target] => boundNames target
  | .declarator _ _ target _ => boundNames target
  | _ => []

/-- The names that some patterns declare. -/
def boundNamesOf : List Node → List Ident
  | [] => []
  | n :: rest => boundNames n ++ boundNamesOf rest

end

end FreeNames.Node

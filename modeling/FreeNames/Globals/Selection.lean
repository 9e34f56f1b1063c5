/-
Which environments a unit gets, and the layers of its global names.

Names of environments that are not known are dropped with a warning.  The name
`none` is no environment, but where it is asked for no environment contributes.
The layers are, later ones winning: the built-in names, the user's names, the
environments in the order they were asked for, and the names of directives.
-/
import FreeNames.Globals.Environment

namespace FreeNames

/-- The name that turns all environments off. -/
def noEnvironment : String := "none"

/-- The environments asked for that count, and a warning for each that does not. -/
structure Selection where
  names : List String
  warnings : List String
  deriving DecidableEq, Repr, Inhabited

namespace Selection

/-- Whether a name may be asked for. -/
def isKnown (name : String) : Bool := name == noEnvironment || (Environment.find? name).isSome

def unknownMessage (name : String) : String := "Unknown env '" ++ name ++ "' specified"

/-- The selection for names in the order they are asked for; repetitions stay. -/
def ofRequests (requested : List String) : Selection :=
  { names := requested.filter isKnown
    warnings := (requested.filter (!isKnown ·)).map unknownMessage }

/-- Whether all environments are turned off. -/
def isDisabled (s : Selection) : Bool := s.names.contains noEnvironment

/-- The environments that contribute names, in order. -/
def environments (s : Selection) : List Globals :=
  if s.isDisabled then [] else s.names.filterMap Environment.find?

/-- The global names of a unit, layer by layer. -/
def globals (s : Selection) (builtins : Globals) (user : Option Globals)
    (directives : List String) : Globals :=
  (user.toList ++ s.environments ++ [Globals.ofNames directives true]).foldl Globals.merge builtins

end Selection

end FreeNames

/-
What the user asks for, and which receivers are sound.

A receiver is written in front of a dot, so it must be a name that is not
reserved in any mode of the language, or the keyword `this`.
-/
import FreeNames.Globals.Basic
import FreeNames.Grammar.Parse
import FreeNames.Options.Problem
import FreeNames.Qualify.Classify
import FreeNames.Text.Blank

namespace FreeNames

/-- Where the user's global names come from. -/
inductive UserGlobals
  /-- Names that may be written to. -/
  | names (names : List String)
  /-- Names with their flags. -/
  | table (globals : Globals)
  /-- A file with names and flags. -/
  | file (path : String)

structure Options where
  environments : List String := []
  globals : Option UserGlobals := none
  /-- Whether directive comments are ignored. -/
  strict : Bool := false
  receiver : String := defaultReceiver
  policy : TargetPolicy := .qualify
  sourceKind : SourceKind := .module
  /-- Where relative paths start; the working directory if there is none. -/
  directory : Option String := none
  deriving Inhabited

namespace Options

/-- The words that are reserved in some mode of the language. -/
def reserved : List String :=
  ["let", "static", "implements", "interface", "package", "private", "protected", "public",
   "await", "yield"] ++ reservedWords

/-- What is wrong with a receiver, if anything is. -/
def receiverProblem? (name : String) : Option Problem :=
  if (trimBlanks name.toList).isEmpty then some .emptyReceiver
  else if name == defaultReceiver then none
  else if !Letter.isName name then some (.malformedReceiver name)
  else if reserved.contains name then some (.reservedReceiver name)
  else none

/-- What is wrong with the options, if anything is. -/
def problem? (o : Options) : Option Problem := receiverProblem? o.receiver

end Options

end FreeNames

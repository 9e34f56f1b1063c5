/-
Why a unit cannot be done.

Faults of the configuration are told apart from faults of the source.  Each kind
has a stable code.
-/
import FreeNames.Files.FileSystem
import FreeNames.Options.Problem

namespace FreeNames

inductive Failure
  | options (problem : Options.Problem)
  | globalsUnreadable (path : String) (reason : ReadError)
  | globalsNotJson (path : String)
  | globalsNotObject (path : String)
  /-- The source is not a program. -/
  | malformed (file : String)
  | sourceUnreadable (path : String) (reason : ReadError)
  deriving Repr, Inhabited

namespace Failure

def code : Failure → String
  | .options _ => "IT-ERR-CONFIG-001"
  | .globalsUnreadable .. => "IT-ERR-CONFIG-002"
  | .globalsNotJson _ => "IT-ERR-CONFIG-003"
  | .globalsNotObject _ => "IT-ERR-CONFIG-004"
  | .malformed _ => "IT-ERR-PARSE-001"
  | .sourceUnreadable .. => "IT-ERR-IO-001"

/-- Whether the configuration is at fault and not the source. -/
def isConfiguration : Failure → Bool
  | .options _ | .globalsUnreadable .. | .globalsNotJson _ | .globalsNotObject _ => true
  | .malformed _ | .sourceUnreadable .. => false

def message : Failure → String
  | .options problem => "Invalid options: " ++ problem.message
  | .globalsUnreadable path reason =>
    "Cannot read globals file " ++ path ++ ": " ++ reason.message
  | .globalsNotJson path => "Globals file " ++ path ++ " is not valid JSON"
  | .globalsNotObject path =>
    "Globals file " ++ path ++ " must contain an object of name/flag pairs"
  | .malformed file => "Failed to parse " ++ file
  | .sourceUnreadable path reason => "Cannot read source " ++ path ++ ": " ++ reason.message

end Failure

end FreeNames

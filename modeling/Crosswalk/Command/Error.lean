import Crosswalk.Files.Path
import Crosswalk.Mapping.Error
import Crosswalk.Source.Error

/-!
# How a command fails

A command fails over a file, over what a file says, or over what the program in
it asks for.
-/

namespace Crosswalk

/-- What was to be done with a file or folder. -/
inductive FileTask where
  | reading
  | writing
  | creating
deriving DecidableEq, Repr

/-- The word for it. -/
def FileTask.word : FileTask → String
  | .reading => "reading"
  | .writing => "writing"
  | .creating => "creating"

/-- **Why a command fails.** -/
inductive CommandError where
  /-- Something could not be done with a file. -/
  | file (task : FileTask) (path : Path)
  /-- The file holds no program. -/
  | program (path : Path)
  /-- The file holds no settings. -/
  | settings (path : Path)
  /-- Fields are left unfed where none may be. -/
  | unmatched (count : Nat)
  /-- The program asks for what cannot be planned. -/
  | mapping (e : MappingError)
  /-- The program asks for what cannot be written. -/
  | emission (e : EmitError)
deriving DecidableEq, Repr

namespace CommandError

/-- The text of the error. -/
def message : CommandError → String
  | .file task path => "Failed while " ++ task.word ++ ": " ++ path.text
  | .program path => "Failed to parse program dump " ++ path.text
  | .settings path => "Failed to parse configuration " ++ path.text
  | .unmatched count => toString count ++ " destination field(s) have no source"
  | .mapping e => e.message
  | .emission e => e.message

/-- The code under which the error is documented. -/
def code : CommandError → String
  | .file .. => "typemapper::cli::io_error"
  | .program _ => "typemapper::cli::program_error"
  | .settings _ => "typemapper::cli::config_error"
  | .unmatched _ => "typemapper::cli::unmatched_fields"
  | .mapping e => e.code
  | .emission e => e.code

/-- Advice, where there is any. -/
def help : CommandError → Option String
  | .program _ => some "the dump must be the JSON form of a typemapper program"
  | .unmatched _ => some "map them with MapField, or list them in IgnoreFields"
  | .mapping e => e.help
  | .emission e => e.help
  | .file .. | .settings _ => none

end CommandError

end Crosswalk

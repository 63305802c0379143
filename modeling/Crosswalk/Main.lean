import Crosswalk.Command.Run

/-!
# The program

Runs a command on the machine's own files. Errors go to the standard error
stream; the exit code says how it went: zero for success, one for a failure, two
for arguments that are no usage of the program.
-/

namespace Crosswalk

/-- How the program is used. -/
def usageText : String :=
  "Usage: typemapper [-c FILE] [-v | -q] check PROGRAM [--deny-unmatched]\n"
    ++ "       typemapper [-c FILE] [-v | -q] generate PROGRAM [-o DIR] [--package-name NAME]"
    ++ " [--dry-run]\n"

/-- An action's result, or nothing if it fails. -/
def attempt? {α : Type} (action : IO α) : IO (Option α) := do
  try return some (← action) catch _ => return none

/-- What sort of thing there is at a path. -/
def fileTypeAt (p : Path) : IO (Option IO.FS.FileType) :=
  attempt? (do
    let entry : IO.FS.DirEntry := ⟨p.text, ""⟩
    return (← entry.root.metadata).type)

/-- Makes a folder. -/
def makeFolderAt (p : Path) : IO Making := do
  try
    IO.FS.createDir p.text
    return .made
  catch
    | .noFileOrDirectory .. => return .noParent
    | _ => return .refused

instance : Host IO where
  isFile p := do return (← fileTypeAt p) == some .file
  isFolder p := do return (← fileTypeAt p) == some .dir
  read p := attempt? (IO.FS.readFile p.text)
  makeFolder := makeFolderAt
  write p text := do return (← attempt? (IO.FS.writeFile p.text text)).isSome
  print := IO.print

/-- Shows an error with its code and whatever advice there is. -/
def CommandError.describe (e : CommandError) : String :=
  e.code ++ ": " ++ e.message ++ "\n"
    ++ (match e.help with
      | some advice => "  help: " ++ advice ++ "\n"
      | none => "")

/-- The exit code of a run, after showing why it failed if it did. -/
def report (outcome : Except (Stop CommandError) Unit) : IO UInt32 := do
  match outcome with
  | .ok () => return 0
  | .error (.cause e) =>
    IO.eprint e.describe
    return 1
  | .error (.fault _) =>
    IO.eprint "the program refers to something it does not contain\n"
    return 101

end Crosswalk

/-- **The program**, applied to its arguments. -/
def main (args : List String) : IO UInt32 := do
  match Crosswalk.Invocation.ofArgs args with
  | .ok invocation => Crosswalk.report (← invocation.run.run)
  | .error .help =>
    IO.print Crosswalk.usageText
    return 0
  | .error .usage =>
    IO.eprint Crosswalk.usageText
    return 2

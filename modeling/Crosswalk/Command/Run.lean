import Crosswalk.Command.Error
import Crosswalk.Command.Line
import Crosswalk.Files.Host
import Crosswalk.Plan.Analysis
import Crosswalk.Plan.Report
import Crosswalk.Program.Json
import Crosswalk.Settings.Document
import Crosswalk.Source.Emission
import Crosswalk.Toml.Reader

/-!
# Carrying out commands

A command reads the settings, then the program, and analyses it. One command
prints what it finds; the other writes files. All the files are known before the
first is written, so a program that cannot be generated in full leaves everything
as it was.

## Where settings come from

A file that the arguments name is taken, whatever it is called. Otherwise the
folder of the program is searched for `typemapper.toml`, and then the folders
above it as far as the path of the program leads. Without such a file all choices
stand at their defaults.
-/

namespace Crosswalk

variable {m : Type → Type} [Monad m] [Host m]

/-- **The run of a command**: it asks its host, and may fail. -/
abbrev Session (m : Type → Type) := ExceptT (Stop CommandError) m

namespace Session

variable {α : Type}

/-- Stops with a cause. -/
def fail (e : CommandError) : Session m α := throw (.cause e)

/-- Asks the host. -/
def ask (x : m α) : Session m α := ExceptT.lift x

/-- A checked computation as a step of the run. -/
def ofChecked (x : Checked CommandError α) : Session m α := ExceptT.mk (pure x)

/-- The text of a file. -/
def readFile (p : Path) : Session m String := do
  match ← ask (Host.read p) with
  | some text => return text
  | none => fail (.file .reading p)

end Session

/-! ## Settings -/

/-- The name of files with settings. -/
def settingsName : String := "typemapper.toml"

/-- The settings that a text describes. -/
def Settings.parse? (text : String) : Option Settings :=
  (Toml.parse? text).bind Settings.ofDocument?

/-- The first file with settings in some folders. -/
def findSettings : List Path → m (Option Path)
  | [] => return none
  | folder :: folders => do
    let file := folder.join settingsName
    if ← Host.isFile file then return some file else findSettings folders

/-- The folders that are searched for settings, in order. -/
def searchedFolders (program : Path) : m (List Path) := do
  if ← Host.isFolder program then return program.upwards
  else return (program.parent?.getD program).upwards

/-- The file with the settings for a program, if there is one. -/
def settingsFile (named : Option Path) (program : Path) : m (Option Path) := do
  match named with
  | some file => return some file
  | none => findSettings (← searchedFolders program)

/-- **The settings for a program.** -/
def loadSettings (named : Option Path) (program : Path) : Session m Settings := do
  match ← Session.ask (settingsFile named program) with
  | none => return {}
  | some file =>
    match Settings.parse? (← Session.readFile file) with
    | some settings => return settings
    | none => Session.fail (.settings file)

/-! ## Programs -/

/-- The program in a file. -/
def loadProgram (file : Path) : Session m Program := do
  match Program.parse? (← Session.readFile file) with
  | some program => return program
  | none => Session.fail (.program file)

/-- What both commands begin with. -/
def loadAndAnalyze (named : Option Path) (file : Path) :
    Session m (Program × Settings × Analysis) := do
  let settings ← loadSettings named file
  let program ← loadProgram file
  let analysis ← Session.ofChecked ((program.analyze settings).mapCause .mapping)
  return (program, settings, analysis)

/-! ## Checking -/

/-- Prints the report of every plan. -/
def printReports (t : TypeTable) : List Plan → Session m Unit
  | [] => return
  | plan :: plans => do
    let report ← Session.ofChecked (.ofLookup (plan.report t))
    Session.ask (Host.print report)
    printReports t plans

/-- The number of fields that nothing feeds. -/
def unmatchedCount (plans : List Plan) : Nat :=
  plans.foldr (fun plan n => plan.unmatchedNames.length + n) 0

/-- **Prints the plans of a program**, and fails if fields are left unfed where
none may be. -/
def check (named : Option Path) (file : Path) (denyUnmatched : Bool) : Session m Unit := do
  let (program, _, analysis) ← loadAndAnalyze named file
  printReports program.types analysis.plans
  let count := unmatchedCount analysis.plans
  if denyUnmatched && 0 < count then Session.fail (.unmatched count)
  Session.ask (Host.print
    (toString analysis.plans.length ++ " mapping function(s) checked.\n"))

/-! ## Generating -/

/-- The folder the files go to: the one that is named, or that of the program. -/
def outputFolder (output : Option Path) (file : Path) : Path :=
  output.getD (file.parent?.getD (.ofString ""))

/-- A file as it is shown instead of being written. -/
def shown (path : Path) (contents : String) : String :=
  "// " ++ path.text ++ "\n" ++ contents

/-- Writes files into a folder, one after another. -/
def writeFiles (folder : Path) : List GeneratedFile → Session m Unit
  | [] => return
  | file :: files => do
    let path := folder.join file.name
    if ← Session.ask (Host.write path file.contents) then writeFiles folder files
    else Session.fail (.file .writing path)

/-- Prints files instead of writing them. -/
def printFiles (folder : Path) : List GeneratedFile → Session m Unit
  | [] => return
  | file :: files => do
    Session.ask (Host.print (shown (folder.join file.name) file.contents))
    printFiles folder files

/-- Makes the folder the files go to. -/
def makeOutputFolder (folder : Path) : Session m Unit := do
  if !folder.isEmpty then
    if !(← Session.ask (Host.ensureFolders folder)) then Session.fail (.file .creating folder)

/-- The files of a program. -/
def generatedFiles (named : Option Path) (file : Path) (packageName : Option String) :
    Session m (List GeneratedFile) := do
  let (program, settings, analysis) ← loadAndAnalyze named file
  let emitter := program.emitter settings.output packageName
  Session.ofChecked ((emitter.emit analysis.plans).mapCause .emission)

/-- **Writes the files of a program**, or prints them on a dry run. -/
def generate (named : Option Path) (file : Path) (output : Option Path)
    (packageName : Option String) (dryRun : Bool) : Session m Unit := do
  let files ← generatedFiles named file packageName
  let folder := outputFolder output file
  if dryRun then printFiles folder files
  else
    makeOutputFolder folder
    writeFiles folder files
    Session.ask (Host.print ("Generated " ++ toString files.length ++ " file(s).\n"))

/-- **Does what the arguments ask for.** -/
def Invocation.run (i : Invocation) : Session m Unit :=
  match i.command with
  | .check program denyUnmatched => check i.settings program denyUnmatched
  | .generate program output packageName dryRun =>
    generate i.settings program output packageName dryRun

end Crosswalk

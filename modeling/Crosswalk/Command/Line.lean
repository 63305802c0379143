import Crosswalk.Files.Path

/-!
# The command line

The arguments name a command and what it is to be applied to. Options may stand
anywhere; those that concern every command may stand in front of it as well, and
the one behind the command then has the last word.

## How an argument is read

* A word with two dashes is an option by its long name. Its value follows an
  equals sign, or is the next argument.
* A word with one dash is a row of options by their letters. The value of a
  letter is the rest of the row, perhaps after an equals sign, or the next
  argument.
* Two dashes alone end the options. A dash alone is an ordinary word.
* An argument that looks like an option is never the value of one.
-/

namespace Crosswalk

/-- What a command is to do. -/
inductive Command where
  /-- Print the plans of a program; fail if fields are left unfed and none may be. -/
  | check (program : Path) (denyUnmatched : Bool)
  /-- Write the files of a program, or print them. -/
  | generate (program : Path) (output : Option Path) (packageName : Option String) (dryRun : Bool)
deriving DecidableEq, Repr

/-- **What the arguments ask for.** -/
structure Invocation where
  /-- The file with the settings, if one is named. -/
  settings : Option Path
  /-- What to do. -/
  command : Command
deriving DecidableEq, Repr

/-- **Why the arguments ask for nothing that can be done.** -/
inductive Unusable where
  /-- They ask how the program is used. -/
  | help
  /-- They are no usage of the program. -/
  | usage
deriving DecidableEq, Repr

/-- The options of all commands. -/
inductive Flag where
  | help
  | verbose
  | quiet
  | config
  | denyUnmatched
  | output
  | packageName
  | dryRun
deriving DecidableEq, Repr

/-- What an option takes. -/
inductive Flag.Value where
  /-- Nothing, and it is given at most once. -/
  | once
  /-- Nothing, but it may be repeated. -/
  | counted
  /-- A text. -/
  | text
  /-- A path, which is never empty. -/
  | path
deriving DecidableEq, Repr

namespace Flag

/-- The long name of an option. -/
def name : Flag → String
  | .help => "help"
  | .verbose => "verbose"
  | .quiet => "quiet"
  | .config => "config"
  | .denyUnmatched => "deny-unmatched"
  | .output => "output"
  | .packageName => "package-name"
  | .dryRun => "dry-run"

/-- The letter of an option. -/
def letter? : Flag → Option Char
  | .help => some 'h'
  | .verbose => some 'v'
  | .quiet => some 'q'
  | .config => some 'c'
  | .output => some 'o'
  | .denyUnmatched | .packageName | .dryRun => none

/-- What an option takes. -/
def value : Flag → Value
  | .help | .denyUnmatched | .dryRun => .once
  | .verbose | .quiet => .counted
  | .config | .output => .path
  | .packageName => .text

/-- Whether an option takes a value. -/
def takesValue (f : Flag) : Bool := f.value = .text || f.value = .path

/-- The options that concern every command. -/
def general : List Flag := [.help, .verbose, .quiet, .config]

end Flag

/-- **What may stand at one level of the command line**: in front of the command,
or behind it. -/
structure Level where
  /-- The options. -/
  flags : List Flag
  /-- The commands that may follow. -/
  commands : List String
  /-- Whether an operand may stand here, one at most. -/
  takesOperand : Bool

namespace Level

/-- In front of the command. -/
def top : Level := ⟨Flag.general, ["check", "generate"], false⟩

/-- Behind `check`. -/
def check : Level := ⟨Flag.general ++ [.denyUnmatched], [], true⟩

/-- Behind `generate`. -/
def generate : Level := ⟨Flag.general ++ [.output, .packageName, .dryRun], [], true⟩

/-- The option with a long name. -/
def named? (l : Level) (name : String) : Option Flag := l.flags.find? (fun f => f.name = name)

/-- The option with a letter. -/
def lettered? (l : Level) (c : Char) : Option Flag :=
  l.flags.find? (fun f => f.letter? = some c)

end Level

/-- **What has been read at one level.** -/
structure GivenArgs where
  /-- The options given, with their values. -/
  given : List (Flag × String)
  /-- The option whose value must come next. -/
  pending : Option Flag
  /-- The operand. -/
  operand : Option String
  /-- Whether the options have been ended. -/
  ended : Bool

namespace GivenArgs

/-- Nothing has been read. -/
def start : GivenArgs := ⟨[], none, none, false⟩

/-- Whether an option was given. -/
def has (r : GivenArgs) (f : Flag) : Bool := r.given.any (fun g => g.1 = f)

/-- The value given for an option. -/
def get? (r : GivenArgs) (f : Flag) : Option String :=
  (r.given.find? (fun g => g.1 = f)).map Prod.snd

/-- Takes in an option with its value. Asking for help ends all reading. -/
def give (r : GivenArgs) (f : Flag) (value : String) : Except Unusable GivenArgs :=
  if f = .help then .error .help
  else if f.value ≠ .counted && r.has f then .error .usage
  else if f.value = .path && value.isEmpty then .error .usage
  else .ok { r with given := r.given ++ [(f, value)], pending := none }

/-- Takes in an operand. -/
def giveOperand (r : GivenArgs) (l : Level) (word : String) : Except Unusable GivenArgs :=
  if !l.takesOperand || r.operand.isSome || word.isEmpty then .error .usage
  else .ok { r with operand := some word }

/-- Takes in an option by its long name, with the value that is attached to it. -/
def giveNamed (r : GivenArgs) (l : Level) (name : String) (attached : Option String) :
    Except Unusable GivenArgs :=
  match l.named? name with
  | none => .error .usage
  | some f =>
    match f.takesValue, attached with
    | true, some value => r.give f value
    | true, none => .ok { r with pending := some f }
    | false, none => r.give f ""
    | false, some _ => .error .usage

/-- Takes in a row of options by their letters. -/
def giveRow (l : Level) : GivenArgs → List Char → Except Unusable GivenArgs
  | r, [] => .ok r
  | r, c :: cs =>
    match l.lettered? c with
    | none => .error .usage
    | some f =>
      if f.takesValue then
        match cs with
        | [] => .ok { r with pending := some f }
        | '=' :: value => r.give f (String.ofList value)
        | value => r.give f (String.ofList value)
      else do
        let r ← r.give f ""
        giveRow l r cs

/-- Takes in a word that begins with two dashes, given without them. -/
def giveLong (r : GivenArgs) (l : Level) (cs : List Char) : Except Unusable GivenArgs :=
  let name := String.ofList (cs.takeWhile (· ≠ '='))
  match cs.dropWhile (· ≠ '=') with
  | _ :: value => r.giveNamed l name (some (String.ofList value))
  | [] => r.giveNamed l name none

/-- **Takes in an argument** that is no command. -/
def take (r : GivenArgs) (l : Level) (arg : String) : Except Unusable GivenArgs :=
  if r.ended then r.giveOperand l arg
  else
    match r.pending, arg.toList with
    | some f, ['-'] => r.give f "-"
    | some _, '-' :: _ => .error .usage
    | some f, _ => r.give f arg
    | none, ['-', '-'] => .ok { r with ended := true }
    | none, '-' :: '-' :: cs => r.giveLong l cs
    | none, '-' :: c :: cs => giveRow l r (c :: cs)
    | none, _ => r.giveOperand l arg

/-- Whether an argument would be taken for a command. -/
def expectsCommand (r : GivenArgs) : Bool := !r.ended && r.pending.isNone

/-- **Reads the arguments of one level**, up to a command with what follows it. -/
def ofArgs (l : Level) : GivenArgs → List String → Except Unusable (GivenArgs × List String)
  | r, [] => .ok (r, [])
  | r, arg :: args =>
    if r.expectsCommand && arg ∈ l.commands then .ok (r, arg :: args)
    else do
      let r ← r.take l arg
      ofArgs l r args

/-- What must hold at the end of a level: no value is missing, and nobody asks to
be told both more and less. -/
def finish (r : GivenArgs) : Except Unusable Unit :=
  if r.pending.isSome || (r.has .verbose && r.has .quiet) then .error .usage else .ok ()

/-- The arguments behind a command, and the operand it is applied to. -/
def ofCommand (l : Level) (args : List String) : Except Unusable (GivenArgs × Path) := do
  let (r, _) ← ofArgs l .start args
  r.finish
  match r.operand with
  | some operand => return (r, .ofString operand)
  | none => .error .usage

/-- The file with the settings that a level names. -/
def settings? (r : GivenArgs) : Option Path := (r.get? .config).map Path.ofString

end GivenArgs

/-- What the arguments from the command on ask for. -/
def Invocation.ofCommand : List String → Except Unusable Invocation
  | "check" :: args => do
    let (r, program) ← GivenArgs.ofCommand .check args
    return ⟨r.settings?, .check program (r.has .denyUnmatched)⟩
  | "generate" :: args => do
    let (r, program) ← GivenArgs.ofCommand .generate args
    return ⟨r.settings?, .generate program ((r.get? .output).map Path.ofString)
      (r.get? .packageName) (r.has .dryRun)⟩
  | _ => .error .usage

/-- Whether the arguments after `help` name a command to be helped with. -/
def Invocation.asksForHelp (args : List String) : Bool :=
  args ∈ [[], ["check"], ["generate"], ["help"]]

/-- **What the arguments ask for.** -/
def Invocation.ofArgs (args : List String) : Except Unusable Invocation := do
  let level := { Level.top with commands := "help" :: Level.top.commands }
  let (r, rest) ← GivenArgs.ofArgs level .start args
  match rest with
  | "help" :: topics => .error (if asksForHelp topics then .help else .usage)
  | _ =>
    let found ← ofCommand rest
    r.finish
    return { found with settings := found.settings <|> r.settings? }

end Crosswalk

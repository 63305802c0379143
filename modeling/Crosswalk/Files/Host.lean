import Crosswalk.Files.Tree

/-!
# What a command needs of its surroundings

A command looks for files, reads and writes them, makes folders, and prints. It
asks its host for each of these and for nothing else, so it runs on a file tree
as it does on a machine.
-/

namespace Crosswalk

/-- **How an attempt to make a folder ends.** -/
inductive Making where
  /-- There is a new folder. -/
  | made
  /-- The folder it should be in does not exist. -/
  | noParent
  /-- It cannot be made, perhaps because there is something of that name. -/
  | refused
deriving DecidableEq, Repr

/-- **The surroundings of a command.** -/
class Host (m : Type → Type) where
  /-- Whether there is a file at a path. -/
  isFile : Path → m Bool
  /-- Whether there is a folder at a path. -/
  isFolder : Path → m Bool
  /-- The text of the file at a path, if it can be read. -/
  read : Path → m (Option String)
  /-- Makes a folder. -/
  makeFolder : Path → m Making
  /-- Gives the file at a path its text, and says whether that was possible. -/
  write : Path → String → m Bool
  /-- Prints a text. -/
  print : String → m Unit

/-! ## Folders within folders -/

section

variable {m : Type → Type} [Monad m] [Host m]

/-- Makes the folder at a path when the folder it should be in is there. -/
def Host.ensureFolder (p : Path) : m Bool := do
  match ← Host.makeFolder p with
  | .made => return true
  | _ => Host.isFolder p

/-- The work of `ensureFolders` for a path and the paths above it. -/
def Host.ensureUpwards : List Path → m Bool
  | [] => return false
  | p :: above => do
    if p.isEmpty then return true
    match ← Host.makeFolder p with
    | .made => return true
    | .refused => Host.isFolder p
    | .noParent => do
      if ← Host.ensureUpwards above then Host.ensureFolder p else return false

/-- **Makes the folder at a path, and the folders above it that do not exist.**
Whatever is made stays, even if something further down cannot be made. -/
def Host.ensureFolders (p : Path) : m Bool := Host.ensureUpwards p.upwards

end

/-! ## A file tree as a host -/

/-- **A file tree with somebody in it.** -/
structure World where
  /-- The files. -/
  tree : FileTree
  /-- The current folder. -/
  current : Location
  /-- What has been printed. -/
  printed : String
deriving DecidableEq, Repr

namespace World

/-- What there is at a path. -/
def lookUp? (w : World) (p : Path) : Option Entry := w.tree.lookUp? w.current p

/-- The text of the file at a path. -/
def read? (w : World) (p : Path) : Option String :=
  match w.lookUp? p with
  | some (.file text) => some text
  | _ => none

/-- Makes a folder. Slashes at the end of its path say nothing. -/
def makeFolder (w : World) (p : Path) : Making × World :=
  let segments := (p.segments.reverse.dropWhile (· = "")).reverse
  match w.tree.locateNew w.current p segments with
  | .error .missing => (.noParent, w)
  | .error _ => (.refused, w)
  | .ok none => (if p.isEmpty then .noParent else .refused, w)
  | .ok (some location) =>
    if (w.tree.entry? location).isSome then (.refused, w)
    else (.made, { w with tree := w.tree.put location .folder })

/-- **Gives a file its text.** The file may be new, but not its folder. -/
def write (w : World) (p : Path) (text : String) : Bool × World :=
  match w.tree.locateNew w.current p p.segments with
  | .ok (some location) =>
    if w.tree.hasFolder location || location.getLast? = some "" then (false, w)
    else (true, { w with tree := w.tree.put location (.file text) })
  | _ => (false, w)

instance : Host (StateM World) where
  isFile p := do return ((← get).read? p).isSome
  isFolder p := do return (← get).lookUp? p = some .folder
  read p := do return (← get).read? p
  makeFolder p := modifyGet (fun w => w.makeFolder p)
  write p text := modifyGet (fun w => w.write p text)
  print text := modify (fun w => { w with printed := w.printed ++ text })

end World

end Crosswalk

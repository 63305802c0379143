import Crosswalk.Files.Path
import Crosswalk.Ordered

/-!
# File trees

A file tree says what there is at every location: nothing, a folder, or a file
with its text. A location is a sequence of names from the root, and a path leads
to a location from the current folder, one segment at a time.

A path that cannot be followed to its end fails in one of three ways. The
difference matters to whoever wants to create what is missing: a missing name
can be created, but nothing can be created inside a file, or under a name that
is too long.
-/

namespace Crosswalk

/-- A sequence of names from the root. -/
abbrev Location := List String

/-- **What there may be at a location.** -/
inductive Entry where
  | folder
  | file (text : String)
deriving DecidableEq, Repr

/-- **What there is at which location.** The root is a folder and is not listed. -/
structure FileTree where
  /-- What there is at all other locations. -/
  entries : OrderedMap Location Entry
deriving DecidableEq, Repr

/-- Why a path does not lead to its location. -/
inductive LostWay where
  /-- There is nothing of that name. -/
  | missing
  /-- Something on the way is not a folder. -/
  | blocked
  /-- The path, or a name on the way, is more than a system can be asked for. -/
  | impossible
deriving DecidableEq, Repr

namespace FileTree

/-- The tree that is nothing but its root. -/
def empty : FileTree := ⟨.empty⟩

/-- What there is at a location. -/
def entry? (t : FileTree) (location : Location) : Option Entry :=
  if location.isEmpty then some .folder else t.entries.get? location

/-- Whether there is a folder at a location. -/
def hasFolder (t : FileTree) (location : Location) : Bool := t.entry? location = some .folder

/-- The tree with something put at a location. -/
def put (t : FileTree) (location : Location) (entry : Entry) : FileTree :=
  ⟨t.entries.insert location entry⟩

/-- The tree with folders put at a location and wherever the way there lacks one. -/
def putFolders (t : FileTree) (location : Location) : FileTree :=
  (List.range (location.length + 1)).foldl (fun t n =>
    if (t.entry? (location.take n)).isSome then t else t.put (location.take n) .folder) t

/-- The tree with a file put at a location, and the folders it takes. -/
def putFile (t : FileTree) (location : Location) (text : String) : FileTree :=
  (t.putFolders location.dropLast).put location (.file text)

/-! ## Following paths -/

/-- **Where segments lead** from a location. Only a folder can be passed through;
two dots lead out of it, except out of the root. -/
def follow (t : FileTree) : Location → List String → Except LostWay Location
  | here, [] => .ok here
  | here, segment :: segments =>
    if !t.hasFolder here then .error .blocked
    else if segment = "" || segment = "." then t.follow here segments
    else if segment = ".." then t.follow here.dropLast segments
    else if !Path.isPossibleName segment then .error .impossible
    else if (t.entry? (here ++ [segment])).isSome then t.follow (here ++ [segment]) segments
    else .error .missing

/-- Where a path begins. -/
def origin (current : Location) (p : Path) : Location :=
  if p.lead = .root then [] else current

/-- **Where a path leads** from the current folder. The empty path leads nowhere. -/
def locate (t : FileTree) (current : Location) (p : Path) : Except LostWay Location :=
  if p.isEmpty then .error .missing
  else if !p.isPossible then .error .impossible
  else t.follow (origin current p) p.segments

/-- What there is where a path leads. -/
def lookUp? (t : FileTree) (current : Location) (p : Path) : Option Entry :=
  match t.locate current p with
  | .ok location => t.entry? location
  | .error _ => none

/-- **The location that a path names for something new**: the folder it leads to
up to its last segment, with that segment for a name. Two dots, or nothing, name
nothing new, and neither does a dot. -/
def locateNew (t : FileTree) (current : Location) (p : Path) (segments : List String) :
    Except LostWay (Option Location) := do
  if !p.isPossible then .error .impossible
  match segments.getLast? with
  | none => return none
  | some name =>
    let folder ← t.follow (origin current p) segments.dropLast
    if !t.hasFolder folder then .error .blocked
    else if name = "." || name = ".." then return none
    else if !Path.isPossibleName name then .error .impossible
    else return some (folder ++ [name])

end FileTree

end Crosswalk

import Crosswalk.Source.Error
import Crosswalk.Text.Affix
import Crosswalk.Text.Alphanumeric

/-!
# Imports

A file imports every package whose types it names, and refers to each by an
identifier made of the last segment of its path. Two packages of one file must
not be referred to by the same identifier.
-/

namespace Crosswalk

/-- Whether a character may stay in the identifier of a package. -/
def isNameChar (c : Char) : Bool := Text.isAlphanumeric c || c = '_'

/-- An identifier that begins with something other than a digit. -/
def guardFirst : List Char → List Char
  | [] => ['_']
  | c :: cs => if c.isDigit then '_' :: c :: cs else c :: cs

/-- **The identifier a package is referred to by**: the last segment of its
path, with an underscore for every character that has no place in an
identifier, and one in front if nothing or a digit would come first. -/
def packageAlias (path : String) : String :=
  String.ofList (guardFirst
    ((Text.lastSegment path).toList.map (fun c => if isNameChar c then c else '_')))

/-- **The packages a file imports**, by path and in the order of their paths. -/
structure Imports where
  /-- The import paths. -/
  paths : List String
deriving DecidableEq, Repr, Inhabited

namespace Imports

/-- No imports. -/
def empty : Imports := ⟨[]⟩

/-- Whether nothing is imported. -/
def isEmpty (imports : Imports) : Bool := imports.paths.isEmpty

/-- A path put before the first that comes after it. -/
def insertPath (path : String) : List String → List String
  | [] => [path]
  | p :: ps => if path < p then path :: p :: ps else p :: insertPath path ps

/-- **Imports a package**, unless another one goes by the same identifier. -/
def add (imports : Imports) (path : String) : Except EmitError Imports :=
  if path ∈ imports.paths then .ok imports
  else
    match imports.paths.find? (fun p => packageAlias p = packageAlias path) with
    | some first => .error (.importConflict (packageAlias path) first path)
    | none => .ok ⟨insertPath path imports.paths⟩

/-- A package as an import declaration spells it. The identifier is left out
when it is the last segment of the path anyway. -/
def spec (path : String) : String :=
  let quoted := "\"" ++ path ++ "\""
  if Text.lastSegment path = packageAlias path then quoted
  else packageAlias path ++ " " ++ quoted

/-- What an import declaration lists. -/
def specs (imports : Imports) : List String := imports.paths.map spec

end Imports

end Crosswalk

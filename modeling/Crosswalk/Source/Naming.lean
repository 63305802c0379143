import Crosswalk.Fault
import Crosswalk.Source.Imports
import Crosswalk.Types.Spelling

/-!
# Spelling types in a file

Inside the package that is generated a type goes by its bare name; any other
named type is preceded by the identifier of its package, which the file must
then import. Spelling a type therefore changes what the file imports, and it
does so even if, further on, the type turns out to have no spelling.
-/

namespace Crosswalk

/-- **The names a file uses up** while it is written. -/
structure Names where
  /-- The packages it imports. -/
  imports : Imports
  /-- The number of the next temporary variable. -/
  nextTemp : Nat
deriving DecidableEq, Repr, Inhabited

/-- No names used up. -/
def Names.empty : Names := ⟨.empty, 0⟩

/-- **Writing**: a computation that uses up names, and keeps those it has used
when it stops short. -/
abbrev Writing := EStateM (Stop EmitError) Names

namespace Writing

/-- A lookup, seen as writing that uses no names. -/
def ofLookup {α : Type} (x : Lookup α) : Writing α := fun names =>
  match x with
  | .ok a => .ok a names
  | .error f => .error (.fault f) names

/-- Stops with a cause. -/
def fail {α : Type} (e : EmitError) : Writing α := throw (.cause e)

/-- Imports a package and answers the identifier it goes by. -/
def importPackage (path : String) : Writing String := fun names =>
  match names.imports.add path with
  | .ok imports => .ok (packageAlias path) { names with imports }
  | .error e => .error (.cause e) names

/-- The number of a temporary variable that has not been used. -/
def freshTemp : Writing Nat := fun names =>
  .ok names.nextTemp { names with nextTemp := names.nextTemp + 1 }

/-- Begins a new function: its temporary variables are numbered from zero. -/
def newFunction : Writing Unit := fun names => .ok () { names with nextTemp := 0 }

end Writing

instance : MonadLift Lookup Writing where
  monadLift := Writing.ofLookup

namespace TypeTable

/-- The type at `id` has no spelling. -/
def unsupported (t : TypeTable) {α : Type} (id : TypeId) : Writing α := do
  Writing.fail (.unsupportedType (← t.display id))

/-- The descent of `spell`, to at most the given depth. -/
def spellTo (t : TypeTable) (home : String) : Nat → TypeId → Writing String
  | 0, _ => throw (.fault .endless)
  | n + 1, id =>
    match t.kind? id with
    | none => t.unsupported id
    | some (.basic .untypedNil) => t.unsupported id
    | some (.basic b) => return b.spelling
    | some (.named name none _) => return name
    | some (.named name (some package) _) => do
      if package = home then return name
      return (← Writing.importPackage package) ++ "." ++ name
    | some (.pointer elem) => return "*" ++ (← t.spellTo home n elem)
    | some (.slice elem) => return "[]" ++ (← t.spellTo home n elem)
    | some (.array elem length) =>
      return "[" ++ toString length ++ "]" ++ (← t.spellTo home n elem)
    | some (.map key value) => do
      let key ← t.spellTo home n key
      return "map[" ++ key ++ "]" ++ (← t.spellTo home n value)
    | some (.struct fields) => do
      let spelled ← fields.mapM (fun f => do
        let type ← t.spellTo home n f.type
        return if f.embedded then type else f.name ++ " " ++ type)
      return "struct\x7b " ++ String.intercalate "; " spelled ++ " \x7d"
    | some (.interface methods) =>
      if methods.isEmpty then return "interface\x7b\x7d" else t.unsupported id
    | some (.signature params results variadic) => do
      let ps ← spellParams (t.spellTo home n) (fun p => liftM (t.restElem p)) variadic params
      return functionSpelling ps (← results.mapM (t.spellTo home n))
    | some (.tuple _) => t.unsupported id

/-- **The spelling of a type in a file of the package `home`.** -/
def spell (t : TypeTable) (home : String) (id : TypeId) : Writing String :=
  t.spellTo home (t.size + 1) id

end TypeTable

end Crosswalk

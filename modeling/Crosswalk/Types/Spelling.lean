import Crosswalk.Text.Affix
import Crosswalk.Types.Layers

/-!
# How a type is shown

Reports and error texts show a type the way a source file would spell it, with
two liberties: a named type is preceded by the last segment of its package's
path only, whoever reads it, and a position outside the table is shown as
invalid instead of being refused. A text can therefore be made of almost every
table; only the element type of a variadic parameter has to be looked up, and
may fault.
-/

namespace Crosswalk

/-- The spelling of a predeclared type. -/
def BasicType.spelling : BasicType → String
  | .bool => "bool"
  | .int => "int"
  | .int8 => "int8"
  | .int16 => "int16"
  | .int32 => "int32"
  | .int64 => "int64"
  | .uint => "uint"
  | .uint8 => "uint8"
  | .uint16 => "uint16"
  | .uint32 => "uint32"
  | .uint64 => "uint64"
  | .uintptr => "uintptr"
  | .float32 => "float32"
  | .float64 => "float64"
  | .string => "string"
  | .untypedNil => "untyped nil"

/-- A position as messages name it. -/
def TypeId.label (id : TypeId) : String := "t" ++ toString id.index

/-- **The parameters of a function type**, each spelled by `spell`. The last
parameter of a variadic function is spelled by its element type `rest`, after
three dots. -/
def spellParams {m : Type → Type} [Monad m] (spell : TypeId → m String)
    (rest : TypeId → m TypeId) (variadic : Bool) : List TypeId → m (List String)
  | [] => return []
  | [p] =>
    if variadic then return ["..." ++ (← spell (← rest p))]
    else return [← spell p]
  | p :: q :: ps => return (← spell p) :: (← spellParams spell rest variadic (q :: ps))

/-- A function type from its spelled parameters and results. One result stands
alone, several stand in parentheses. -/
def functionSpelling (params results : List String) : String :=
  let head := "func(" ++ String.intercalate ", " params ++ ")"
  match results with
  | [] => head
  | [r] => head ++ " " ++ r
  | rs => head ++ " (" ++ String.intercalate ", " rs ++ ")"

namespace TypeTable

/-- The type a variadic parameter takes any number of: the element type of the
slice it is declared as. -/
def restElem (t : TypeTable) (id : TypeId) : Lookup TypeId := do
  return (← t.elem id).getD id

/-- The descent of `display`, to at most the given depth. -/
def displayTo (t : TypeTable) : Nat → TypeId → Lookup String
  | 0, _ => .error .endless
  | n + 1, id =>
    match t.kind? id with
    | none => return "<invalid " ++ id.label ++ ">"
    | some (.basic b) => return b.spelling
    | some (.named name none _) => return name
    | some (.named name (some package) _) => return Text.lastSegment package ++ "." ++ name
    | some (.pointer elem) => return "*" ++ (← t.displayTo n elem)
    | some (.slice elem) => return "[]" ++ (← t.displayTo n elem)
    | some (.array elem length) =>
      return "[" ++ toString length ++ "]" ++ (← t.displayTo n elem)
    | some (.map key value) =>
      return "map[" ++ (← t.displayTo n key) ++ "]" ++ (← t.displayTo n value)
    | some (.struct fields) => do
      let shown ← fields.mapM (fun f => return f.name ++ " " ++ (← t.displayTo n f.type))
      return "struct\x7b" ++ String.intercalate "; " shown ++ "\x7d"
    | some (.interface methods) =>
      return "interface\x7b" ++ String.intercalate "; " methods ++ "\x7d"
    | some (.signature params results variadic) => do
      let ps ← spellParams (t.displayTo n) t.restElem variadic params
      return functionSpelling ps (← results.mapM (t.displayTo n))
    | some (.tuple elems) => do
      return "(" ++ String.intercalate ", " (← elems.mapM (t.displayTo n)) ++ ")"

/-- **The type at `id` as reports and messages show it.** -/
def display (t : TypeTable) (id : TypeId) : Lookup String := t.displayTo (t.size + 1) id

end TypeTable

end Crosswalk

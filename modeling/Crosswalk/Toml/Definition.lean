import Crosswalk.Toml.Value
import Crosswalk.Toml.Text

/-!
# Defining tables

A document says what its tables hold piece by piece, and nothing may be said
twice. A header opens a table, which must not have been opened before; the
tables on the way to it come into being if they have to. A dotted key opens
tables of its own on its way, and may pass only through those and through tables
that nobody has opened yet. What stands in braces is closed for good.
-/

namespace Crosswalk.Toml

/-- The entries of a table. -/
abbrev Entries := List (String × Toml)

namespace Entries

/-- The value of a key. -/
def get? (es : Entries) (key : String) : Option Toml :=
  (es.find? (fun e => e.1 = key)).map Prod.snd

/-- Gives a key a value. A new key goes to the end. -/
def set (es : Entries) (key : String) (value : Toml) : Entries :=
  if es.any (fun e => e.1 = key) then
    es.map (fun e => if e.1 = key then (e.1, value) else e)
  else es ++ [(key, value)]

/-- **Changes the table that a header leads to.** Of a list of tables, the way
leads through the latest. -/
def within (change : Entries → Option Entries) : List String → Entries → Option Entries
  | [], es => change es
  | name :: path, es =>
    match es.get? name with
    | none => do return es.set name (.table .passage (← within change path []))
    | some (.table .braces _) => none
    | some (.table form inner) => do return es.set name (.table form (← within change path inner))
    | some (.tables earlier latest) => do
      return es.set name (.tables earlier (← within change path latest))
    | some _ => none

/-- **Defines a key**, in the table that a dotted path leads to. The last table on
the way must be one that dotted keys have made. -/
def define (last : String) (value : Toml) : List String → Entries → Option Entries
  | [], es => if (es.get? last).isSome then none else some (es.set last value)
  | name :: path, es =>
    match es.get? name with
    | none => do return es.set name (.table .dotted (← define last value path []))
    | some (.table .dotted inner) => do
      return es.set name (.table .dotted (← define last value path inner))
    | some (.table .passage inner) =>
      if path.isEmpty then none
      else do return es.set name (.table .passage (← define last value path inner))
    | some (.tables earlier latest) =>
      if path.isEmpty then none
      else do return es.set name (.tables earlier (← define last value path latest))
    | some _ => none

/-- Opens the table `name`, unless it is open already. -/
def openTable (name : String) (es : Entries) : Option Entries :=
  match es.get? name with
  | none => some (es.set name (.table .header []))
  | some (.table .passage inner) => some (es.set name (.table .header inner))
  | some _ => none

/-- Opens one more table in the list `name`. -/
def openNext (name : String) (es : Entries) : Option Entries :=
  match es.get? name with
  | none => some (es.set name (.tables [] []))
  | some (.tables earlier latest) =>
    some (es.set name (.tables (earlier ++ [.table .header latest]) []))
  | some _ => none

end Entries

/-- **What one line of a document says.** -/
inductive Statement where
  /-- What follows belongs to this table. -/
  | table (key : Key)
  /-- What follows belongs to one more table of this list. -/
  | tables (key : Key)
  /-- A key and its value. -/
  | entry (key : Key) (value : Toml)

/-- **A document part way through its lines.** -/
structure Draft where
  /-- What has been defined. -/
  root : Entries
  /-- The way to the table that is open. -/
  opened : List String

/-- Nothing has been defined, and the root is open. -/
def Draft.start : Draft := ⟨[], []⟩

/-- Takes in what one more line says. -/
def Draft.say (d : Draft) : Statement → Option Draft
  | .table key => do
    return ⟨← Entries.within (Entries.openTable key.last) key.path d.root,
      key.path ++ [key.last]⟩
  | .tables key => do
    return ⟨← Entries.within (Entries.openNext key.last) key.path d.root,
      key.path ++ [key.last]⟩
  | .entry key value => do
    return { d with
      root := ← Entries.within (Entries.define key.last value key.path) d.opened d.root }

/-- The table in braces that defines these keys, if none is defined twice. -/
def inBraces? (pairs : List (Key × Toml)) : Option Toml := do
  let entries ← pairs.foldlM (fun es p => Entries.define p.1.last p.2 p.1.path es) []
  return .table .braces entries

end Crosswalk.Toml

import Crosswalk.Document

/-!
# TOML values

A document is one table. A table is written in several places: under its own
header, in braces, by the names in front of a dotted key, or only by a header
that leads through it. How it came about decides who may add to it, so it is
kept with the table.
-/

namespace Crosswalk

/-- **How a table came about.** -/
inductive Toml.Form where
  /-- Written in braces, and complete. -/
  | braces
  /-- Named on the way to the table of some header. -/
  | passage
  /-- Named by a header of its own. -/
  | header
  /-- Named on the way to a dotted key. -/
  | dotted
deriving DecidableEq, Repr

/-- **A TOML value.** -/
inductive Toml where
  | string (s : String)
  | integer (i : Int)
  /-- A floating-point number, as it was written. -/
  | float (lexeme : String)
  | bool (b : Bool)
  /-- A date, a time, or both, as it was written. -/
  | moment (lexeme : String)
  | array (items : List Toml)
  /-- The tables that repeated headers list; the latest is the one that may still
  be added to. -/
  | tables (earlier : List Toml) (latest : List (String × Toml))
  /-- A table; no key occurs twice. -/
  | table (form : Toml.Form) (entries : List (String × Toml))

namespace Toml

/-- The text that the value is. -/
def text? : Toml → Option String
  | .string s => some s
  | _ => none

/-- The items of the array that the value is. -/
def items? : Toml → Option (List Toml)
  | .array items => some items
  | .tables earlier latest => some (earlier ++ [.table .header latest])
  | _ => none

/-- **The fields of a record.** A list may be longer than the declaration; what
goes beyond is passed over. A date or time counts as a table without fields. -/
def fields? (names : List String) : Toml → Option (Fields Toml)
  | .table _ entries => some ⟨entries.filter (fun e => e.1 ∈ names), false⟩
  | .moment _ => some ⟨[], false⟩
  | v => v.items?.map (fun items => ⟨names.zip items, true⟩)

instance : Document Toml := ⟨text?, items?, fields?⟩

end Toml

end Crosswalk

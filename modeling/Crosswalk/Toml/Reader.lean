import Crosswalk.Toml.Number
import Crosswalk.Toml.Moment
import Crosswalk.Toml.Definition

/-!
# Reading TOML

A document is a sequence of lines, each of which opens a table, defines a key or
says nothing. Values may go on over several lines; how deeply they nest is
limited, and the limit is also what the recursion over nested values counts.
-/

namespace Crosswalk.Toml

namespace Scan

/-- A key with its value. -/
def pair (value : Scan Toml) : Scan (Key × Toml) := do
  let found ← key
  char '='
  blanks
  return (found, ← value)

/-- An item of an array, with the gaps around it. -/
def item (value : Scan Toml) : Scan Toml := do
  gaps
  let found ← value
  gaps
  return found

/-- The rest of an array, after its bracket. Its last item may be followed by a
comma. -/
def arrayRest (value : Scan Toml) : Scan Toml := do
  let items ←
    (do
      let first ← item value
      let rest ← many (do char ','; item value)
      let _ ← optional (char ',')
      return first :: rest) <|> pure []
  gaps
  char ']'
  return .array items

/-- A key with its value, and the blanks after it. -/
def spacedPair (value : Scan Toml) : Scan (Key × Toml) := do
  let found ← pair value
  blanks
  return found

/-- The rest of a table in braces, after the opening one. It stands on one line,
and no comma goes without a key after it. -/
def tableRest (value : Scan Toml) : Scan Toml := do
  let pairs ←
    (do
      let first ← spacedPair value
      let rest ← many (do char ','; spacedPair value)
      return first :: rest) <|> pure []
  blanks
  char '\x7d'
  match inBraces? pairs with
  | some complete => return complete
  | none => refuse

/-- A value without brackets of its own. -/
def plainValue : Scan Toml := do
  match ← peek with
  | some '"' | some '\'' => return .string (← string)
  | some 't' => chars "true".toList; return .bool true
  | some 'f' => chars "false".toList; return .bool false
  | some 'i' => chars "inf".toList; return .float "inf"
  | some 'n' => chars "nan".toList; return .float "nan"
  | _ => (.moment <$> moment) <|> (.float <$> float) <|> (.integer <$> integer)

/-- **A value in which at most `depth` brackets are open at a time.** -/
def value (depth : Nat) : Scan Toml := do
  match ← peek, depth with
  | some '[', 0 | some '\x7b', 0 => refuse
  | some '[', depth + 1 => char '['; arrayRest (value depth)
  | some '\x7b', depth + 1 => char '\x7b'; tableRest (value depth)
  | _, _ => plainValue

/-- **What a line says**, if it says anything. -/
def statement : Scan (Option Statement) := fun cs =>
  match cs with
  | '#' :: _ | '\n' :: _ | '\r' :: _ => (do trailing; return none : Scan (Option Statement)) cs
  | '[' :: '[' :: _ =>
    (do
      chars ['[', '[']
      let found ← key
      chars [']', ']']
      trailing
      return some (Statement.tables found) : Scan (Option Statement)) cs
  | '[' :: _ =>
    (do
      char '['
      let found ← key
      char ']'
      trailing
      return some (Statement.table found) : Scan (Option Statement)) cs
  | _ =>
    (do
      let (found, v) ← pair (value (nestingLimit - 1))
      trailing
      return some (Statement.entry found v) : Scan (Option Statement)) cs

/-- A line, with the blanks in front of it. -/
def line : Scan (Option Statement) := do
  blanks
  statement

/-- The lines of a document. A byte order mark in front of them says nothing. -/
def document : Scan (List Statement) := do
  let _ ← optional (char '\uFEFF')
  let lines ← many line
  blanks
  finish
  return lines.filterMap id

end Scan

/-- **The table that a text describes.** -/
def parse? (text : String) : Option Toml := do
  let (statements, _) ← Scan.document text.toList
  let draft ← statements.foldlM Draft.say Draft.start
  return .table .header draft.root

end Crosswalk.Toml

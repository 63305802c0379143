import Crosswalk.Document
import Crosswalk.Width

/-!
# JSON values

A value as a text spells it. The members of an object keep their order and may
repeat a name, since it is for the reader of the object to say whether that is
an error. Integers are told from all other numbers by the way they are written:
`1.0` is no integer, and neither is `-0`.

## Broken texts

An escape may spell half of a character outside the basic plane. A string with
such a half in it is no text, and an object that has one for a name is no
record. Where nobody looks, both are harmless; where somebody does, neither has
any reading. So one value, `broken`, stands for both.
-/

namespace Crosswalk

/-- **A JSON value.** -/
inductive Json where
  | null
  | bool (b : Bool)
  /-- A number written as an integer. -/
  | integer (i : Int)
  /-- Any other number, as it was written. -/
  | decimal (lexeme : String)
  | string (s : String)
  /-- A string, or an object with a name, in which a character is cut in half. -/
  | broken
  | array (items : List Json)
  /-- The members in order, with whatever names they repeat. -/
  | object (members : List (String × Json))
deriving Inhabited

namespace Json

/-- The number `n`. -/
def ofNat (n : Nat) : Json := .integer n

/-- The value of what may be missing. -/
def ofOption {α : Type} (write : α → Json) : Option α → Json
  | some a => write a
  | none => .null

/-- The array of the values of a list. -/
def ofList {α : Type} (write : α → Json) (as : List α) : Json := .array (as.map write)

/-! ## Readings -/

/-- The text that the value is. -/
def text? : Json → Option String
  | .string s => some s
  | _ => none

/-- The truth value that the value is. -/
def bool? : Json → Option Bool
  | .bool b => some b
  | _ => none

/-- The integer that the value is. -/
def int? : Json → Option Int
  | .integer i => some i
  | _ => none

/-- The natural number that the value is, if it is below a limit. -/
def nat? (limit : Nat) (j : Json) : Option Nat :=
  match j.int? with
  | some (.ofNat n) => if n < limit then some n else none
  | _ => none

/-- The integer that the value is, if it fits into 64 bits with a sign. -/
def int64? (j : Json) : Option Int := j.int?.filter Width.isInt64

/-- The items of the array that the value is. -/
def items? : Json → Option (List Json)
  | .array items => some items
  | _ => none

/-- A reading that also takes `null`, for nothing. -/
def nullable {α : Type} (read : Json → Option α) : Json → Option (Option α)
  | .null => some none
  | j => (read j).map some

/-- **The fields of a record.** A known name may be given only once, and a list
may not be longer than the declaration. -/
def fields? (names : List String) : Json → Option (Fields Json)
  | .object members =>
    let known := members.filter (fun m => m.1 ∈ names)
    if (known.map Prod.fst).Nodup then some ⟨known, false⟩ else none
  | .array items =>
    if items.length ≤ names.length then some ⟨names.zip items, true⟩ else none
  | _ => none

instance : Document Json := ⟨text?, items?, fields?⟩

/-- **The case of a choice.** A case is named by the one member of an object,
whose value is its content; a case without content may also be the bare name. -/
def case? : Json → Option (String × Option Json)
  | .string tag => some (tag, none)
  | .object [(tag, content)] => some (tag, some content)
  | _ => none

/-- The case of a choice none of whose cases has content. -/
def bareCase? (j : Json) : Option String :=
  match j.case? with
  | some (tag, none) | some (tag, some .null) => some tag
  | _ => none

/-- The object that names a case and gives its content. -/
def ofCase (tag : String) (content : Json) : Json := .object [(tag, content)]

end Json

end Crosswalk

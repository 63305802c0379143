import Crosswalk.Json.Token

/-!
# Reading JSON

The grammar of JSON is strict: one value, with blanks around it and nothing
else; no comma without an item on either side; no comment. Whether a sequence of
tokens is one value is found out from left to right, with the brackets that are
still open on a stack, so nesting may be as deep as it likes.
-/

namespace Crosswalk.Json

/-- A bracket that is open, and what it waits for. -/
inductive Opened where
  /-- An array with these items so far, the last first, waits for its next. -/
  | array (items : List Json)
  /-- An object with these members so far, the last first, waits for the value of
  the name `key`. -/
  | object (members : List (Option String × Json)) (key : Option String)

/-- **What may come next.** -/
inductive Due where
  /-- A value. -/
  | value
  /-- A value, or the end of the array that was just opened. -/
  | firstItem
  /-- A name, or, when `first`, the end of the object. -/
  | key (members : List (Option String × Json)) (first : Bool)
  /-- The colon after the name `key`. -/
  | colon (members : List (Option String × Json)) (key : Option String)
  /-- A comma, or the end of the array. -/
  | moreItems (items : List Json)
  /-- A comma, or the end of the object. -/
  | moreMembers (members : List (Option String × Json))
  /-- Nothing: the document is this value. -/
  | nothing (document : Json)

/-- The value that a string token is. -/
def ofText : Option String → Json
  | some s => .string s
  | none => .broken

/-- The object with these members, the last first. -/
def ofMembers (members : List (Option String × Json)) : Json :=
  match members.reverse.mapM (fun m => m.1.map (fun key => (key, m.2))) with
  | some members => .object members
  | none => .broken

/-- **A reader part way through its tokens.** -/
structure Reader where
  /-- The open brackets, the innermost first. -/
  opened : List Opened
  /-- What may come next. -/
  due : Due

namespace Reader

/-- The reader before the first token. -/
def start : Reader := ⟨[], .value⟩

/-- A value is complete and goes to the innermost open bracket. -/
def complete (opened : List Opened) (j : Json) : Reader :=
  match opened with
  | [] => ⟨[], .nothing j⟩
  | .array items :: outer => ⟨outer, .moreItems (j :: items)⟩
  | .object members key :: outer => ⟨outer, .moreMembers ((key, j) :: members)⟩

/-- Reads a token where a value must begin. -/
def begin (opened : List Opened) : Token → Option Reader
  | .scalar j => some (complete opened j)
  | .string s => some (complete opened (ofText s))
  | .openArray => some ⟨opened, .firstItem⟩
  | .openObject => some ⟨opened, .key [] true⟩
  | _ => none

/-- **Reads a token.** -/
def read (r : Reader) (t : Token) : Option Reader :=
  match r.due, t with
  | .value, t => begin r.opened t
  | .firstItem, .closeArray => some (complete r.opened (.array []))
  | .firstItem, t => begin (.array [] :: r.opened) t
  | .key members _, .string s => some ⟨r.opened, .colon members s⟩
  | .key _ true, .closeObject => some (complete r.opened (.object []))
  | .colon members key, .colon => some ⟨.object members key :: r.opened, .value⟩
  | .moreItems items, .comma => some ⟨.array items :: r.opened, .value⟩
  | .moreItems items, .closeArray => some (complete r.opened (.array items.reverse))
  | .moreMembers members, .comma => some ⟨r.opened, .key members false⟩
  | .moreMembers members, .closeObject => some (complete r.opened (ofMembers members))
  | _, _ => none

/-- The document, if it ends here. -/
def finish (r : Reader) : Option Json :=
  match r.due with
  | .nothing j => some j
  | _ => none

end Reader

/-- The one value that a sequence of tokens is. -/
def ofTokens? (ts : List Token) : Option Json :=
  (ts.foldlM Reader.read Reader.start).bind Reader.finish

/-- **The value that a text spells.** -/
def parse? (text : String) : Option Json :=
  (Token.ofChars? text.toList).bind ofTokens?

end Crosswalk.Json

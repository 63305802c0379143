import Crosswalk.Json.Basic

/-!
# Writing JSON

A value is written without blanks. In a string only what must be escaped is: the
quote, the backslash, and control characters.
-/

namespace Crosswalk.Json

/-- A hexadecimal digit. -/
def hexDigit (n : Nat) : Char := if n < 10 then Char.ofNat (48 + n) else Char.ofNat (87 + n)

/-- How a character is written within a string. -/
def encodeChar (c : Char) : List Char :=
  if c = '"' || c = '\\' then ['\\', c]
  else if c.toNat < 0x20 then
    ['\\', 'u', '0', '0', hexDigit (c.toNat / 16), hexDigit (c.toNat % 16)]
  else [c]

/-- A string in its quotes. -/
def quote (s : String) : String :=
  String.ofList ('"' :: s.toList.flatMap encodeChar ++ ['"'])

mutual

/-- **A value as text.** -/
def render : Json → String
  | .null => "null"
  | .bool b => if b then "true" else "false"
  | .integer i => toString i
  | .decimal lexeme => lexeme
  | .string s => quote s
  | .broken => "\"\\ud800\""
  | .array items => "[" ++ String.intercalate "," (renderItems items) ++ "]"
  | .object members => "\x7b" ++ String.intercalate "," (renderMembers members) ++ "\x7d"

/-- The items of an array, each as text. -/
def renderItems : List Json → List String
  | [] => []
  | item :: items => item.render :: renderItems items

/-- The members of an object, each as text. -/
def renderMembers : List (String × Json) → List String
  | [] => []
  | (key, value) :: members => (quote key ++ ":" ++ value.render) :: renderMembers members

end

end Crosswalk.Json

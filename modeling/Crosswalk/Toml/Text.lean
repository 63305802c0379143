import Crosswalk.Toml.Scan

/-!
# Strings and keys

A string is written in one of four ways: on one line or on several, with escapes
or without. A key is a chain of names with dots between them, and a name is
bare or a string on one line.
-/

namespace Crosswalk.Toml

/-- Whether a character stands for itself on one line between double quotes. -/
def isBasicChar (c : Char) : Bool := isCommentChar c && c ≠ '"' && c ≠ '\\'

/-- Whether a character stands for itself on one line between single quotes. -/
def isLiteralChar (c : Char) : Bool := isCommentChar c && c ≠ '\''

/-- Whether a character may stand in a bare name. -/
def isBareChar (c : Char) : Bool := c.isAlphanum || c = '_' || c = '-'

/-- The value of a digit in some base up to sixteen. -/
def digit? (base : Nat) (c : Char) : Option Nat :=
  let value :=
    if c.isDigit then some (c.toNat - '0'.toNat)
    else if 'a' ≤ c && c ≤ 'f' then some (c.toNat - 'a'.toNat + 10)
    else if 'A' ≤ c && c ≤ 'F' then some (c.toNat - 'A'.toNat + 10)
    else none
  value.filter (· < base)

/-- The number that digits spell. -/
def ofDigits? (base : Nat) (cs : List Char) : Option Nat :=
  cs.foldlM (fun n c => (digit? base c).map (base * n + ·)) 0

/-- The character at a code point, if it is one. -/
def charAt? (n : Nat) : Option Char := if n.isValidChar then some (Char.ofNat n) else none

namespace Scan

/-- A character by its code point, in `n` digits. -/
def codePoint (n : Nat) : Scan (List Char) := fun cs =>
  if cs.length < n then none
  else ((ofDigits? 16 (cs.take n)).bind charAt?).map (fun c => ([c], cs.drop n))

/-- An escaped character. -/
def escape : Scan (List Char) := do
  char '\\'
  match ← one (fun _ => true) with
  | 'b' => return ['\x08']
  | 't' => return ['\t']
  | 'n' => return ['\n']
  | 'f' => return ['\x0c']
  | 'r' => return ['\r']
  | '"' => return ['"']
  | '\\' => return ['\\']
  | 'u' => codePoint 4
  | 'U' => codePoint 8
  | _ => refuse

/-- A string between double quotes, on one line. -/
def basicString : Scan String := do
  char '"'
  let parts ← many (someRun isBasicChar <|> escape)
  char '"'
  return String.ofList parts.flatten

/-- A string between single quotes, on one line. -/
def literalString : Scan String := do
  char '\''
  let body ← run isLiteralChar
  char '\''
  return String.ofList body

/-- **One or two quotes within a string on several lines.** They are part of its
text unless a third follows. -/
def innerQuotes (quote : Char) : Scan (List Char) := do
  let quotes ← someRun (· = quote)
  if quotes.length ≤ 2 then return quotes else refuse

/-- **The end of a string on several lines**: three quotes, and up to two more in
front of them that are part of the text. -/
def closingQuotes (quote : Char) : Scan (List Char) := do
  let quotes ← someRun (· = quote)
  if 3 ≤ quotes.length && quotes.length ≤ 5 then return quotes.drop 3 else refuse

/-- The end of a line in a string; however it is written, the text has a line
feed there. -/
def innerNewline : Scan (List Char) := do
  newline
  return ['\n']

/-- A backslash at the end of a line: the text goes on at the next character that
is not blank. -/
def joinedLines : Scan (List Char) := do
  char '\\'
  blanks
  newline
  let _ ← many ((do let _ ← one isBlank) <|> newline)
  return []

/-- A string on several lines, whose text consists of such parts. The end of the
line of the opening quotes is no part of it. -/
def longString (quote : Char) (part : Scan (List Char)) : Scan String := do
  chars [quote, quote, quote]
  let _ ← optional newline
  let parts ← many (part <|> innerQuotes quote)
  let last ← closingQuotes quote
  return String.ofList (parts.flatten ++ last)

/-- A string on several lines, with escapes. -/
def longBasicString : Scan String :=
  longString '"' (someRun isBasicChar <|> joinedLines <|> escape <|> innerNewline)

/-- A string on several lines, without escapes. -/
def longLiteralString : Scan String :=
  longString '\'' (someRun isLiteralChar <|> innerNewline)

/-- **A string.** Three quotes always open a string on several lines. -/
def string : Scan String := fun cs =>
  match cs with
  | '"' :: '"' :: '"' :: _ => longBasicString cs
  | '\'' :: '\'' :: '\'' :: _ => longLiteralString cs
  | '"' :: _ => basicString cs
  | _ => literalString cs

/-- One name of a key. -/
def name : Scan String :=
  basicString <|> literalString <|> (String.ofList <$> someRun isBareChar)

/-- One name of a key, and the blanks around it. -/
def spacedName : Scan String := do
  blanks
  let found ← name
  blanks
  return found

end Scan

/-- **A key**: the names on the way, and the last one. -/
structure Key where
  /-- The names before the last, in order. -/
  path : List String
  /-- The last name. -/
  last : String

/-- The key that these names are, of which `first` is the first. -/
def Key.ofNames (first : String) (rest : List String) : Key :=
  match rest with
  | [] => ⟨[], first⟩
  | next :: rest =>
    let key := Key.ofNames next rest
    ⟨first :: key.path, key.last⟩

/-- How many names a key may have, and how many brackets may be open in a value:
less than this. -/
def nestingLimit : Nat := 80

/-- A key. -/
def Scan.key : Scan Key := do
  let first ← spacedName
  let rest ← many (do char '.'; spacedName)
  if rest.length + 1 < nestingLimit then return Key.ofNames first rest else refuse

end Crosswalk.Toml

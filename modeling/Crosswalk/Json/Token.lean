import Crosswalk.Json.Basic

/-!
# The tokens of a JSON text

A JSON text falls into brackets, commas, colons, strings and words: numbers and
the three constants. The text is read one character at a time, and all that has
to be remembered between two characters is which sort of token one is in.
-/

namespace Crosswalk.Json

/-- **A token of a JSON text.** -/
inductive Token where
  | openArray
  | closeArray
  | openObject
  | closeObject
  | comma
  | colon
  /-- A number or a constant. -/
  | scalar (j : Json)
  /-- A string, or nothing if a character in it is cut in half. -/
  | string (s : Option String)

/-! ## Words -/

/-- Whether a character may be part of a number or a constant. -/
def isWordChar (c : Char) : Bool :=
  c.isAlphanum || c = '+' || c = '-' || c = '.'

/-- Whether a text is digits and nothing else, and at least one. -/
def isDigits (cs : List Char) : Bool := !cs.isEmpty && cs.all Char.isDigit

/-- Whether a text can be the exponent of a number: nothing, or `e`, perhaps a
sign, and digits. -/
def isExponent : List Char → Bool
  | [] => true
  | e :: cs =>
    (e = 'e' || e = 'E') &&
      match cs with
      | '+' :: digits | '-' :: digits => isDigits digits
      | digits => isDigits digits

/-- Whether a text can follow the integral digits of a number: perhaps a point
with digits, perhaps an exponent. -/
def isFraction : List Char → Bool
  | '.' :: cs => isDigits (cs.takeWhile Char.isDigit) && isExponent (cs.dropWhile Char.isDigit)
  | cs => isExponent cs

/-- **The number that a word spells.** Its integral digits have no zero in
front, unless zero is all they are. -/
def number? (word : List Char) : Option Json :=
  let (negative, unsigned) :=
    match word with
    | '-' :: cs => (true, cs)
    | cs => (false, cs)
  let digits := unsigned.takeWhile Char.isDigit
  let rest := unsigned.dropWhile Char.isDigit
  if digits.isEmpty || (digits.head? = some '0' && 1 < digits.length) then none
  else if rest.isEmpty then
    match Nat.ofDigitChars 10 digits 0, negative with
    | n, false => some (.integer n)
    | 0, true => some (.decimal (String.ofList word))
    | n, true => some (.integer (-n))
  else if isFraction rest then some (.decimal (String.ofList word))
  else none

/-- What a word stands for. -/
def scalar? (word : List Char) : Option Json :=
  match String.ofList word with
  | "null" => some .null
  | "true" => some (.bool true)
  | "false" => some (.bool false)
  | _ => number? word

/-! ## Strings -/

/-- **A string of which some part has been read.** -/
structure Spelled where
  /-- The characters, the last first. -/
  chars : List Char
  /-- The first half of a character whose second half must follow at once. -/
  half : Option Nat
  /-- Whether no character was cut in half so far. -/
  whole : Bool

namespace Spelled

/-- The string of which nothing has been read. -/
def empty : Spelled := ⟨[], none, true⟩

/-- Adds a character. A half that was waiting is lost. -/
def push (s : Spelled) (c : Char) : Spelled :=
  ⟨c :: s.chars, none, s.whole && s.half.isNone⟩

/-- **Adds a 16-bit unit.** Units from `D800` to `DBFF` are first halves, and those
from there to `DFFF` second halves. -/
def pushUnit (s : Spelled) (u : Nat) : Spelled :=
  if 0xD800 ≤ u ∧ u < 0xDC00 then ⟨s.chars, some u, s.whole && s.half.isNone⟩
  else if 0xDC00 ≤ u ∧ u < 0xE000 then
    match s.half with
    | some h =>
      ⟨Char.ofNat (0x10000 + (h - 0xD800) * 0x400 + (u - 0xDC00)) :: s.chars, none, s.whole⟩
    | none => { s with whole := false }
  else s.push (Char.ofNat u)

/-- The text that the string is, if it is one. -/
def text? (s : Spelled) : Option String :=
  if s.whole && s.half.isNone then some (String.ofList s.chars.reverse) else none

end Spelled

/-- The character that a backslash and `c` stand for. -/
def escaped? (c : Char) : Option Char :=
  match c with
  | '"' | '\\' | '/' => some c
  | 'b' => some '\x08'
  | 'f' => some '\x0c'
  | 'n' => some '\n'
  | 'r' => some '\r'
  | 't' => some '\t'
  | _ => none

/-- The value of a hexadecimal digit. -/
def hexDigit? (c : Char) : Option Nat :=
  if c.isDigit then some (c.toNat - '0'.toNat)
  else if 'a' ≤ c && c ≤ 'f' then some (c.toNat - 'a'.toNat + 10)
  else if 'A' ≤ c && c ≤ 'F' then some (c.toNat - 'A'.toNat + 10)
  else none

/-! ## The scanner -/

/-- **Where in a token the scanner is.** -/
inductive Mode where
  /-- In no token. -/
  | between
  /-- In a word, of which these characters have been read, the last first. -/
  | word (chars : List Char)
  /-- In a string. -/
  | text (s : Spelled)
  /-- In a string, after a backslash. -/
  | escape (s : Spelled)
  /-- In a string, in a unit that `missing` more digits complete. -/
  | unit (s : Spelled) (missing value : Nat)

/-- Whether a character separates tokens and means nothing else. -/
def isBlank (c : Char) : Bool := c = ' ' || c = '\t' || c = '\n' || c = '\r'

/-- The token that a single character is. -/
def punctuation? (c : Char) : Option Token :=
  match c with
  | '[' => some .openArray
  | ']' => some .closeArray
  | '\x7b' => some .openObject
  | '\x7d' => some .closeObject
  | ',' => some .comma
  | ':' => some .colon
  | _ => none

/-- **A scanner part way through a text.** -/
structure Scanner where
  /-- The tokens completed, the last first. -/
  tokens : List Token
  /-- Where the scanner is. -/
  mode : Mode

namespace Scanner

/-- The scanner before the text. -/
def start : Scanner := ⟨[], .between⟩

/-- Reads a character that is part of no token yet. -/
def begin (tokens : List Token) (c : Char) : Option Scanner :=
  if isBlank c then some ⟨tokens, .between⟩
  else if c = '"' then some ⟨tokens, .text .empty⟩
  else if isWordChar c then some ⟨tokens, .word [c]⟩
  else (punctuation? c).map (fun t => ⟨t :: tokens, .between⟩)

/-- **Reads a character.** -/
def read (s : Scanner) (c : Char) : Option Scanner :=
  match s.mode with
  | .between => begin s.tokens c
  | .word chars =>
    if isWordChar c then some ⟨s.tokens, .word (c :: chars)⟩
    else (scalar? chars.reverse).bind (fun j => begin (.scalar j :: s.tokens) c)
  | .text t =>
    if c = '"' then some ⟨.string t.text? :: s.tokens, .between⟩
    else if c = '\\' then some ⟨s.tokens, .escape t⟩
    else if c.toNat < 0x20 then none
    else some ⟨s.tokens, .text (t.push c)⟩
  | .escape t =>
    if c = 'u' then some ⟨s.tokens, .unit t 4 0⟩
    else (escaped? c).map (fun e => ⟨s.tokens, .text (t.push e)⟩)
  | .unit t missing value =>
    (hexDigit? c).map (fun d =>
      let value := 16 * value + d
      ⟨s.tokens, if missing ≤ 1 then .text (t.pushUnit value) else .unit t (missing - 1) value⟩)

/-- The tokens of the text, if it ends here. -/
def finish (s : Scanner) : Option (List Token) :=
  match s.mode with
  | .between => some s.tokens.reverse
  | .word chars => (scalar? chars.reverse).map (fun j => (.scalar j :: s.tokens).reverse)
  | _ => none

end Scanner

/-- **The tokens of a text**, if it falls into tokens at all. -/
def Token.ofChars? (cs : List Char) : Option (List Token) :=
  (cs.foldlM Scanner.read Scanner.start).bind Scanner.finish

end Crosswalk.Json

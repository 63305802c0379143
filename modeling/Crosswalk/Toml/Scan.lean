/-!
# Scanning

A scan takes a part off the front of a text, or fails. Two scans in a row are
one; of two scans, the second is tried where the first fails. A scan may be
repeated as long as it takes something off, which it cannot do for ever.
-/

namespace Crosswalk.Toml

/-- **A scan**: what it found and what it left, or a failure. -/
abbrev Scan := StateT (List Char) Option

namespace Scan

variable {α : Type}

/-- The scan that always fails. -/
def refuse : Scan α := fun _ => none

/-- The next character, left in place. -/
def peek : Scan (Option Char) := fun cs => some (cs.head?, cs)

/-- A character of a class. -/
def one (accepts : Char → Bool) : Scan Char
  | c :: cs => if accepts c then some (c, cs) else none
  | [] => none

/-- The character `c`. -/
def char (c : Char) : Scan Unit := do
  let _ ← one (· = c)

/-- These characters in order. -/
def chars : List Char → Scan Unit
  | [] => pure ()
  | c :: cs => do char c; chars cs

/-- All characters of a class up to the first that is not, perhaps none. -/
def run (accepts : Char → Bool) : Scan (List Char) := fun cs =>
  some (cs.takeWhile accepts, cs.dropWhile accepts)

/-- All characters of a class up to the first that is not, at least one. -/
def someRun (accepts : Char → Bool) : Scan (List Char) := do
  let cs ← run accepts
  if cs.isEmpty then refuse else return cs

/-- The scan if it succeeds; nothing, with nothing taken off, if it fails. -/
def optional (scan : Scan α) : Scan (Option α) := (some <$> scan) <|> pure none

/-- Succeeds at the end of the text. -/
def finish : Scan Unit
  | [] => some ((), [])
  | _ :: _ => none

/-- What the scan takes off, as text. -/
def lexeme (scan : Scan Unit) : Scan String := fun cs =>
  (scan cs).map (fun found =>
    (String.ofList (cs.take (cs.length - found.2.length)), found.2))

/-- The finds of a scan that is repeated for as long as it takes something off. -/
def repeated (scan : Scan α) (cs : List Char) : List α × List Char :=
  match scan cs with
  | some (a, rest) =>
    if _shorter : rest.length < cs.length then
      let found := repeated scan rest
      (a :: found.1, found.2)
    else ([], cs)
  | none => ([], cs)
termination_by cs.length

/-- **A scan, over and over again.** -/
def many (scan : Scan α) : Scan (List α) := fun cs => some (repeated scan cs)

end Scan

/-! ## Blanks, lines and comments -/

/-- Whether a character is a blank within a line. -/
def isBlank (c : Char) : Bool := c = ' ' || c = '\t'

/-- Whether a character may stand in a comment. -/
def isCommentChar (c : Char) : Bool := c = '\t' || (0x20 ≤ c.toNat && c.toNat ≠ 0x7F)

namespace Scan

/-- Blanks, perhaps none. -/
def blanks : Scan Unit := do
  let _ ← run isBlank

/-- The end of a line within the text. -/
def newline : Scan Unit := char '\n' <|> chars ['\r', '\n']

/-- The end of a line, or of the text. -/
def lineEnd : Scan Unit := newline <|> finish

/-- A comment, up to the end of its line. -/
def comment : Scan Unit := do
  char '#'
  let _ ← run isCommentChar

/-- What may follow the contents of a line. -/
def trailing : Scan Unit := do
  blanks
  let _ ← optional comment
  lineEnd

/-- A blank, or the end of a line with or without a comment. -/
def gap : Scan Unit :=
  (do let _ ← one isBlank) <|> newline <|> (do comment; newline)

/-- Blanks, comments and the ends of lines, perhaps none. -/
def gaps : Scan Unit := do
  let _ ← many gap

end Scan

end Crosswalk.Toml

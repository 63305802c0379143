/-!
# Lines of source

Generated source is put together line by line. A draft remembers its lines and
how deep the next one is indented; what the lines look like as text, with tabs
and line ends, is said once, at the end.
-/

namespace Crosswalk

/-- One line of source. -/
structure Line where
  /-- How deep it is indented. -/
  depth : Nat
  /-- What it says. -/
  text : String
deriving DecidableEq, Repr, Inhabited

/-- The line as text. An empty line is not indented. -/
def Line.render (l : Line) : String :=
  if l.text = "" then "\n" else String.ofList (List.replicate l.depth '\t') ++ l.text ++ "\n"

/-- Lines as text. -/
def renderLines (ls : List Line) : String := String.join (ls.map Line.render)

/-- **A piece of source that is still being written.** -/
structure Draft where
  /-- The lines so far. -/
  lines : List Line
  /-- How deep the next line is indented. -/
  depth : Nat
deriving DecidableEq, Repr, Inhabited

namespace Draft

/-- The draft without lines. -/
def empty : Draft := ⟨[], 0⟩

/-- Adds a line. -/
def line (d : Draft) (text : String) : Draft := { d with lines := d.lines ++ [⟨d.depth, text⟩] }

/-- Adds an empty line. -/
def blank (d : Draft) : Draft := d.line ""

/-- Opens a brace after `head` and indents what follows. -/
def openBlock (d : Draft) (head : String) : Draft :=
  let d := d.line (head ++ " \x7b")
  { d with depth := d.depth + 1 }

/-- Closes the last open brace. A brace that was never opened is written all the
same, without indentation. -/
def closeBlock (d : Draft) : Draft := { d with depth := d.depth - 1 }.line "\x7d"

/-- The draft as text. -/
def render (d : Draft) : String := renderLines d.lines

end Draft

end Crosswalk

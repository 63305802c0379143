import Crosswalk.Source.Declaration

/-!
# The lines of a function

A draft is only ever added to, so the lines of a function are the lines of its
statements, one statement after another. A statement without statements in it
is exactly one line; what a function assigns and what it comments on can
therefore be read off the statements.
-/

namespace Crosswalk

variable {d : Draft} {s : Statement} {depth : Nat}

/-- The text that a comment holds. -/
def SimpleStatement.comment? : SimpleStatement → Option String
  | .comment text => some text
  | _ => none

/-- The place that an assignment stores to. -/
def SimpleStatement.place? : SimpleStatement → Option String
  | .assign place _ => some place
  | _ => none

namespace Statement

/-- The lines of a statement at a depth. -/
def linesAt (depth : Nat) : Statement → List Line
  | .simple s => [⟨depth, s.text⟩]
  | .whenNil name body =>
    ⟨depth, "if " ++ name ++ " == nil" ++ " \x7b"⟩
      :: (body.map (fun s => (⟨depth + 1, s.text⟩ : Line)) ++ [⟨depth, "\x7d"⟩])
  | .forEach item source body =>
    ⟨depth, "for _, " ++ item ++ " := range " ++ source ++ " \x7b"⟩
      :: (body.map (fun s => (⟨depth + 1, s.text⟩ : Line)) ++ [⟨depth, "\x7d"⟩])

/-- The statements in a statement that have no statements in them. -/
def simples : Statement → List SimpleStatement
  | .simple s => [s]
  | .whenNil _ body => body
  | .forEach _ _ body => body

theorem flatMap_simples_map (ss : List SimpleStatement) :
    (ss.map Statement.simple).flatMap simples = ss := by
  rw [List.flatMap_map]
  exact List.flatMap_singleton' ss

end Statement

namespace Draft

theorem foldl_line (d : Draft) (body : List SimpleStatement) :
    body.foldl (fun d s => d.line s.text) d =
      ⟨d.lines ++ body.map (fun s => (⟨d.depth, s.text⟩ : Line)), d.depth⟩ := by
  induction body generalizing d with
  | nil =>
    rw [List.foldl_nil, List.map_nil, List.append_nil]
  | cons s body ih =>
    rw [List.foldl_cons, ih, List.map_cons]
    show (⟨(d.lines ++ [⟨d.depth, s.text⟩]) ++ _, d.depth⟩ : Draft) = _
    rw [List.append_assoc, List.singleton_append]
    rfl

/-- Statements in braces are one line for the head, one for each of them, and one for the
closing brace. -/
theorem closeBlock_foldl_openBlock (d : Draft) (head : String) (body : List SimpleStatement) :
    (body.foldl (fun d s => d.line s.text) (d.openBlock head)).closeBlock =
      ⟨d.lines ++ (⟨d.depth, head ++ " \x7b"⟩
        :: (body.map (fun s => (⟨d.depth + 1, s.text⟩ : Line)) ++ [⟨d.depth, "\x7d"⟩])), d.depth⟩ := by
  rw [foldl_line]
  show (⟨((d.lines ++ [⟨d.depth, head ++ " \x7b"⟩]) ++ _) ++ [⟨d.depth, "\x7d"⟩], d.depth⟩ : Draft) = _
  rw [List.append_assoc, List.append_assoc, List.singleton_append]
  rfl

end Draft

/-- **A statement adds its lines** to a draft, and leaves the depth as it was. -/
theorem Statement.write_eq (d : Draft) (s : Statement) :
    s.write d = ⟨d.lines ++ s.linesAt d.depth, d.depth⟩ := by
  cases s with
  | simple s => rfl
  | whenNil name body =>
    show (body.foldl _ (d.openBlock ("if " ++ name ++ " == nil"))).closeBlock = _
    exact Draft.closeBlock_foldl_openBlock d _ body
  | forEach item source body =>
    show (body.foldl _ (d.openBlock ("for _, " ++ item ++ " := range " ++ source))).closeBlock = _
    exact Draft.closeBlock_foldl_openBlock d _ body

theorem foldl_write (d : Draft) (body : List Statement) :
    body.foldl Statement.write d =
      ⟨d.lines ++ body.flatMap (Statement.linesAt d.depth), d.depth⟩ := by
  induction body generalizing d with
  | nil => rw [List.foldl_nil, List.flatMap_nil, List.append_nil]
  | cons s body ih =>
    rw [List.foldl_cons, Statement.write_eq, ih, List.flatMap_cons, List.append_assoc]

namespace FunctionDecl

/-- The statements of a function that have no statements in them, in order. -/
def simples (f : FunctionDecl) : List SimpleStatement := f.body.flatMap Statement.simples

/-- The comments in a function, in order. -/
def comments (f : FunctionDecl) : List String := f.simples.filterMap SimpleStatement.comment?

/-- The places that a function assigns to, in order. -/
def places (f : FunctionDecl) : List String := f.simples.filterMap SimpleStatement.place?

/-- **The lines of a function** are its head, the lines of its statements, and the
closing brace. -/
theorem lines_eq (f : FunctionDecl) :
    f.lines = ⟨0, f.head ++ " \x7b"⟩
      :: (f.body.flatMap (Statement.linesAt 1) ++ [⟨0, "\x7d"⟩]) := by
  unfold lines
  rw [foldl_write]
  rfl

end FunctionDecl

end Crosswalk

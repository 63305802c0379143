import Crosswalk.Proofs.Source.Lines
import Crosswalk.Source.Emission

/-!
# What a file says as text

A generated file is kept as its parts until it is written, and only the text is ever read by a
compiler. The text has all of the parts and nothing else, one after another: the preamble, the
package clause, the import declaration, and the functions, each behind an empty line
(`SourceFile.render_eq`).

What an import declaration and a function look like is said here of the text, with its tabs and
line breaks, and not of the lines that it is made of (`ImportBlock`, `FunctionDecl.text`).
-/

namespace Crosswalk

/-! ## Lines as text -/

theorem renderLines_append (ls ls' : List Line) :
    renderLines (ls ++ ls') = renderLines ls ++ renderLines ls' := by
  unfold renderLines
  rw [List.map_append, String.join_append]

theorem renderLines_cons (l : Line) (ls : List Line) :
    renderLines (l :: ls) = l.render ++ renderLines ls := by
  unfold renderLines
  rw [List.map_cons, String.join_cons]

@[simp] theorem renderLines_nil : renderLines [] = "" := rfl

/-- A line that is not indented is its text. -/
theorem Line.render_zero (text : String) : (⟨0, text⟩ : Line).render = text ++ "\n" := by
  unfold Line.render
  split
  · rename_i h
    rw [show text = "" from h]
    rfl
  · simp

/-- A line that is indented once stands behind a tab. -/
theorem Line.render_one {text : String} (h : text ≠ "") :
    (⟨1, text⟩ : Line).render = "\t" ++ text ++ "\n" := by
  unfold Line.render
  rw [if_neg h]
  rfl

/-! ## Functions -/

namespace FunctionDecl

/-- **The text of a function**: its head with an opening brace, the lines of its statements, and
the closing brace on a line of its own. -/
def text (f : FunctionDecl) : String :=
  f.head ++ " \x7b\n" ++ renderLines (f.body.flatMap (Statement.linesAt 1)) ++ "\x7d\n"

/-- The text of functions, with an empty line in front of each. -/
def texts (fs : List FunctionDecl) : String := String.join (fs.map (fun f => "\n" ++ f.text))

/-- **The function stands in a text**, between whole lines. -/
def StandsIn (f : FunctionDecl) (text : String) : Prop :=
  ∃ before after, text = renderLines before ++ f.text ++ renderLines after

theorem renderLines_lines (f : FunctionDecl) : renderLines f.lines = f.text := by
  rw [lines_eq, renderLines_cons, renderLines_append, renderLines_cons, renderLines_nil,
    Line.render_zero, Line.render_zero, String.append_empty]
  unfold text
  simp only [String.append_assoc]
  rfl

theorem renderLines_flatMap (fs : List FunctionDecl) :
    renderLines (fs.flatMap (fun f => ⟨0, ""⟩ :: f.lines)) = texts fs := by
  induction fs with
  | nil => rfl
  | cons f fs ih =>
    rw [List.flatMap_cons, renderLines_append, ih, renderLines_cons, renderLines_lines]
    unfold texts
    rw [List.map_cons, String.join_cons]
    rfl

end FunctionDecl

/-! ## Imports -/

/-- **The text of an import declaration**, with what it says of each package. One package stands
beside the word, several stand in parentheses below it, and without any there is no word. -/
inductive ImportBlock : List String → String → Prop
  | nothing : ImportBlock [] ""
  | alone (spec : String) : ImportBlock [spec] ("\nimport " ++ spec ++ "\n")
  | several {specs : List String} (h : 2 ≤ specs.length) : ImportBlock specs
      ("\nimport (\n" ++ String.join (specs.map (fun spec => "\t" ++ spec ++ "\n")) ++ ")\n")

theorem renderLines_indented {specs : List String} (h : ∀ spec ∈ specs, spec ≠ "") :
    renderLines (specs.map (fun spec => ⟨1, spec⟩))
      = String.join (specs.map (fun spec => "\t" ++ spec ++ "\n")) := by
  unfold renderLines
  rw [List.map_map]
  exact congrArg String.join (List.map_congr_left (fun spec hspec => Line.render_one (h spec hspec)))

namespace SourceFile

theorem renderLines_importLines {specs : List String} (h : ∀ spec ∈ specs, spec ≠ "") :
    ImportBlock specs (renderLines (importLines specs)) := by
  match specs, h with
  | [], _ => exact .nothing
  | [spec], _ =>
    have htext : renderLines (importLines [spec]) = "\nimport " ++ spec ++ "\n" := by
      rw [importLines, renderLines_cons, renderLines_cons, renderLines_nil, Line.render_zero,
        Line.render_zero, String.append_empty, ← String.append_assoc]
      rfl
    exact htext ▸ .alone spec
  | first :: second :: rest, h =>
    have htext : renderLines (importLines (first :: second :: rest)) = "\nimport (\n"
        ++ String.join ((first :: second :: rest).map (fun spec => "\t" ++ spec ++ "\n"))
        ++ ")\n" := by
      have hlines : importLines (first :: second :: rest) = [⟨0, ""⟩, ⟨0, "import ("⟩]
          ++ (first :: second :: rest).map (fun spec => ⟨1, spec⟩) ++ [⟨0, ")"⟩] := rfl
      rw [hlines, renderLines_append, renderLines_append, renderLines_indented h]
      rfl
    exact htext ▸ .several (by simp)

variable {f : SourceFile} {decl : FunctionDecl}

/-- **The text of a file** has its parts in order. -/
theorem render_eq (f : SourceFile) :
    f.render = renderLines f.preamble ++ ("package " ++ f.package ++ "\n")
      ++ renderLines (importLines f.imports) ++ FunctionDecl.texts f.decls := by
  unfold render lines
  rw [renderLines_append, renderLines_append, renderLines_append, renderLines_cons,
    renderLines_nil, Line.render_zero, String.append_empty, FunctionDecl.renderLines_flatMap]

/-- **Every function of a file stands in its text.** -/
theorem standsIn_render (h : decl ∈ f.decls) : decl.StandsIn f.render := by
  obtain ⟨before, after, hsplit⟩ := List.append_of_mem h
  refine ⟨f.preamble ++ [⟨0, "package " ++ f.package⟩] ++ importLines f.imports
    ++ before.flatMap (fun d => ⟨0, ""⟩ :: d.lines) ++ [⟨0, ""⟩],
    after.flatMap (fun d => ⟨0, ""⟩ :: d.lines), ?_⟩
  rw [← decl.renderLines_lines, ← renderLines_append, ← renderLines_append]
  unfold render lines
  rw [hsplit, List.flatMap_append, List.flatMap_cons]
  simp only [List.append_assoc, List.cons_append, List.nil_append]

end SourceFile

/-- **The file is laid out** with an import declaration for some packages and with some functions:
these make up its text behind the package clause, in this order. -/
def GeneratedFile.LaidOut (file : GeneratedFile) (specs : List String) (fs : List FunctionDecl) :
    Prop :=
  ∃ block, ImportBlock specs block ∧ file.contents = renderLines file.source.preamble
    ++ ("package " ++ file.source.package ++ "\n") ++ block ++ FunctionDecl.texts fs

/-- A file is laid out with its imports and its functions, if it says something of each import. -/
theorem GeneratedFile.laidOut (file : GeneratedFile) (h : ∀ spec ∈ file.source.imports, spec ≠ "") :
    file.LaidOut file.source.imports file.source.decls :=
  ⟨_, SourceFile.renderLines_importLines h, file.source.render_eq⟩

end Crosswalk

import Crosswalk.Source.Line

/-!
# Functions and files of source

What is generated is a list of functions in a file. Both are kept as what they
are, a head with its parameters and a body of statements, and become lines only
when the file is written.
-/

namespace Crosswalk

/-- A statement without statements in it. -/
inductive SimpleStatement where
  /-- A new variable with a value. -/
  | define (name value : String)
  /-- A new variable with the zero value of a type. -/
  | declare (name type : String)
  /-- A value stored in a place. -/
  | assign (place value : String)
  /-- An expression evaluated for its effect. -/
  | run (expr : String)
  /-- A comment. -/
  | comment (text : String)
  /-- The end of the function. -/
  | ret (values : List String)
deriving DecidableEq, Repr

/-- The statement as text. -/
def SimpleStatement.text : SimpleStatement → String
  | .define name value => name ++ " := " ++ value
  | .declare name type => "var " ++ name ++ " " ++ type
  | .assign place value => place ++ " = " ++ value
  | .run expr => expr
  | .comment text => "// " ++ text
  | .ret [] => "return"
  | .ret values => "return " ++ String.intercalate ", " values

/-- **A statement of a generated body.** -/
inductive Statement where
  /-- A statement by itself. -/
  | simple (s : SimpleStatement)
  /-- Statements that run when a variable is `nil`. -/
  | whenNil (name : String) (body : List SimpleStatement)
  /-- Statements that run once for each element of a slice. -/
  | forEach (item source : String) (body : List SimpleStatement)
deriving DecidableEq, Repr

/-- Adds a statement to a draft. -/
def Statement.write (d : Draft) : Statement → Draft
  | .simple s => d.line s.text
  | .whenNil name body =>
    (body.foldl (fun d s => d.line s.text) (d.openBlock ("if " ++ name ++ " == nil"))).closeBlock
  | .forEach item source body =>
    (body.foldl (fun d s => d.line s.text)
      (d.openBlock ("for _, " ++ item ++ " := range " ++ source))).closeBlock

/-- A parameter or receiver of a generated function. -/
structure Parameter where
  /-- Its name. -/
  name : String
  /-- The spelling of its type. -/
  type : String
deriving DecidableEq, Repr

/-- The parameter as text. -/
def Parameter.text (p : Parameter) : String := p.name ++ " " ++ p.type

/-- **A generated function.** -/
structure FunctionDecl where
  /-- The receiver of a method. -/
  receiver : Option Parameter
  /-- The name. -/
  name : String
  /-- The parameters. -/
  params : List Parameter
  /-- The spellings of the results' types. -/
  results : List String
  /-- What it does. -/
  body : List Statement
deriving DecidableEq, Repr

namespace FunctionDecl

/-- The results as they stand after the parameters: one stands alone, several
stand in parentheses. -/
def resultText : List String → String
  | [] => ""
  | [r] => " " ++ r
  | rs => " (" ++ String.intercalate ", " rs ++ ")"

/-- **The head of the function**, without its opening brace. -/
def head (f : FunctionDecl) : String :=
  "func " ++ (f.receiver.map (fun r => "(" ++ r.text ++ ") ")).getD ""
    ++ f.name ++ "(" ++ String.intercalate ", " (f.params.map Parameter.text) ++ ")"
    ++ resultText f.results

/-- The function as lines. -/
def lines (f : FunctionDecl) : List Line :=
  (f.body.foldl Statement.write (Draft.empty.openBlock f.head)).closeBlock.lines

end FunctionDecl

/-- **A generated file.** -/
structure SourceFile where
  /-- The comment at the top, line by line. -/
  header : List String
  /-- The tag under which the file is left out of a build; none if empty. -/
  excludedTag : String
  /-- The name of the package. -/
  package : String
  /-- What the file imports, as import declarations spell it. -/
  imports : List String
  /-- Its functions. -/
  decls : List FunctionDecl
deriving DecidableEq, Repr

namespace SourceFile

/-- What precedes the package clause: the header and the build constraint, each
followed by an empty line unless it is missing. -/
def preamble (f : SourceFile) : List Line :=
  let header := f.header.map (fun text => (⟨0, "// " ++ text⟩ : Line))
  let constraint : List Line :=
    if f.excludedTag = "" then [] else [⟨0, "//go:build !" ++ f.excludedTag⟩, ⟨0, ""⟩]
  (if f.header.isEmpty then [] else header ++ [⟨0, ""⟩]) ++ constraint

/-- The import declaration. One import stands alone, several stand in
parentheses. -/
def importLines : List String → List Line
  | [] => []
  | [single] => [⟨0, ""⟩, ⟨0, "import " ++ single⟩]
  | many => [⟨0, ""⟩, ⟨0, "import ("⟩] ++ many.map (fun spec => ⟨1, spec⟩) ++ [⟨0, ")"⟩]

/-- **The file as lines.** An empty line precedes each function. -/
def lines (f : SourceFile) : List Line :=
  f.preamble ++ [⟨0, "package " ++ f.package⟩] ++ importLines f.imports
    ++ f.decls.flatMap (fun d => ⟨0, ""⟩ :: d.lines)

/-- The file as text. -/
def render (f : SourceFile) : String := renderLines f.lines

end SourceFile

end Crosswalk

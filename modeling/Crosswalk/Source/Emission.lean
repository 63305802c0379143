import Crosswalk.Plan.Basic
import Crosswalk.Settings
import Crosswalk.Source.Declaration
import Crosswalk.Source.Expr
import Crosswalk.Text.Capital

/-!
# Writing plans as source

Every plan becomes one function and one test. The functions of the mappings
declared in one file go to one generated file, their tests to another beside
it. Generated files are left out of builds that carry the tag of the marker
files, and marker files out of all others, so a build never sees both.

A test fails if the mapping leaves destination fields unfed, and names them.
-/

namespace Crosswalk

/-- **What emission is done with.** -/
structure Emitter where
  /-- The types of the program. -/
  types : TypeTable
  /-- The import path of the package that is generated. -/
  home : String
  /-- How generated files look. -/
  output : OutputSettings
  /-- The name in the package clause. -/
  packageName : String
deriving DecidableEq, Repr

/-- A file with its name. -/
structure GeneratedFile where
  /-- The name, relative to the output directory. -/
  name : String
  /-- What the file consists of. -/
  source : SourceFile
deriving DecidableEq, Repr

/-- The text of the file. -/
def GeneratedFile.contents (f : GeneratedFile) : String := f.source.render

/-- The stem of the files a mapping goes to: the file it is declared in. -/
def MappingSpec.stem (s : MappingSpec) : String :=
  match s.file with
  | some file => (Text.stripEnd? ".go" file).getD file
  | none => "typemapper"

namespace Emitter

/-- The emitter for a package. Unless a name is given, the package is called by
the identifier that others would import it under. -/
def new (types : TypeTable) (home : String) (output : OutputSettings)
    (packageName : Option String := none) : Emitter :=
  ⟨types, home, output, packageName.getD (packageAlias home)⟩

/-- The spelling of a type. -/
def spell (e : Emitter) (id : TypeId) : Writing String := e.types.spell e.home id

/-! ## Functions -/

/-- **The head of the generated function**, with an empty body: the source is
its receiver or its first parameter, the destination a parameter unless the
function makes it. -/
def headOf (spec : MappingSpec) (sourceType destType : String) : FunctionDecl :=
  let source : Parameter := ⟨spec.sourceBinding, sourceType⟩
  let dest : Parameter := ⟨spec.destBinding, destType⟩
  { receiver := if spec.sourceIsReceiver then some source else none
    name := spec.name
    params :=
      (if spec.sourceIsReceiver then [] else [source])
        ++ (if spec.destIsPreconstructed then [] else [dest])
    results :=
      (if spec.destIsReturned then [destType] else [])
        ++ (if spec.errorIsReturned then ["error"] else [])
    body := [] }

/-- What the function returns once it has mapped everything. -/
def success (spec : MappingSpec) : SimpleStatement :=
  .ret ((if spec.destIsReturned then [spec.destBinding] else [])
    ++ (if spec.errorIsReturned then ["nil"] else []))

/-- The return at the end of the body, which is left out if it says nothing. -/
def lastReturn (spec : MappingSpec) : List Statement :=
  if success spec = .ret [] then [] else [.simple (success spec)]

/-- **What makes the destination fit to be written to**: a destination of its
own is made first, and one that is passed as `nil` is left alone. -/
def prepareRecord (e : Emitter) (spec : MappingSpec) (destType : String) :
    Writing (List Statement) := do
  match spec.destIsPreconstructed, ← e.types.pointee spec.destType with
  | true, some pointee =>
    return [.simple (.define spec.destBinding ("new(" ++ (← e.spell pointee) ++ ")"))]
  | true, none => return [.simple (.define spec.destBinding (destType ++ "\x7b\x7d"))]
  | false, some _ => return [.whenNil spec.destBinding [success spec]]
  | false, none => return []

/-- The statements that define temporary variables. -/
def tempStatements (l : Lowered) : List SimpleStatement :=
  l.temps.map (fun t => .define (Expr.tempName t.index) t.value.text)

/-- The statements that feed one field. -/
def feedField (e : Emitter) (spec : MappingSpec) (f : PlannedField) : Writing (List Statement) := do
  let source := Expr.place (spec.sourceBinding ++ "." ++ f.pair.source.name)
  let l ← e.types.lower e.home f.conversion source
  return (tempStatements l).map .simple
    ++ [.simple (.assign (spec.destBinding ++ "." ++ f.pair.dest.name) l.expr.text)]

/-- The comment that stands for a field nothing feeds. -/
def noMatch (f : RecordField) : Statement :=
  .simple (.comment ("no match for \"" ++ f.name ++ "\""))

/-- The statements that feed the fields of a record one after another. -/
def recordStatements (e : Emitter) (spec : MappingSpec) (destType : String)
    (fields : List PlannedField) (unmatched : List RecordField) : Writing (List Statement) := do
  let prepared ← e.prepareRecord spec destType
  let fed ← fields.mapM (e.feedField spec)
  return prepared ++ fed.flatten ++ unmatched.map noMatch

/-- The name of the variable that runs through the source. -/
def itemName (spec : MappingSpec) : String := if spec.sourceBinding = "x" then "item" else "x"

/-- The statements that convert the elements of a slice one after another. Only
a slice can be appended to. -/
def elementStatements (e : Emitter) (spec : MappingSpec) (destType : String)
    (conversion : Conversion) : Writing (List Statement) := do
  match e.types.kind? (← e.types.underlying spec.destType) with
  | some (.slice _) =>
    let start : SimpleStatement :=
      if spec.destIsPreconstructed then .declare spec.destBinding destType
      else .assign spec.destBinding (spec.destBinding ++ "[:0]")
    let l ← e.types.lower e.home conversion (.value (itemName spec))
    let append := "append(" ++ spec.destBinding ++ ", " ++ l.expr.text ++ ")"
    return [.simple start,
      .forEach (itemName spec) spec.sourceBinding
        (tempStatements l ++ [.assign spec.destBinding append])]
  | _ =>
    Writing.fail (.unsupportedMapping spec.qualifiedName
      ("destination " ++ (← e.types.display spec.destType) ++ " is not a slice"))

/-- **The function of a plan.** -/
def function (e : Emitter) (plan : Plan) : Writing FunctionDecl := do
  let spec := plan.spec
  Writing.newFunction
  let sourceType ← e.spell spec.sourceType
  let destType ← e.spell spec.destType
  let body ← match plan.body with
    | .record fields unmatched => e.recordStatements spec destType fields unmatched
    | .elements _ _ conversion => e.elementStatements spec destType conversion
  return { headOf spec sourceType destType with body := body ++ lastReturn spec }

/-! ## Tests -/

/-- **The name of a mapping's test.** The test of a method is named for its
receiver as well, with a capital: a test whose name goes on with a small letter
would not be run. -/
def testName (e : Emitter) (spec : MappingSpec) : Lookup String := do
  if spec.sourceIsReceiver then
    if let some (.named name _ _) := e.types.kind? (← e.types.deref spec.sourceType) then
      return "Test" ++ Text.capitalize name ++ "_" ++ spec.name
  return "Test" ++ spec.name

/-- What the test of a plan does. -/
def testBody (plan : Plan) : List Statement :=
  if plan.unmatchedNames.isEmpty then []
  else
    [.simple (.run ("t.Fatal(\"no mapping for: ["
      ++ String.intercalate " " plan.unmatchedNames ++ "]\")"))]

/-- **The test of a plan.** -/
def test (e : Emitter) (plan : Plan) : Lookup FunctionDecl := do
  return ⟨none, ← e.testName plan.spec, [⟨"t", "*testing.T"⟩], [], testBody plan⟩

/-! ## Files -/

/-- A file of the package with the given imports and functions. -/
def file (e : Emitter) (imports : List String) (decls : List FunctionDecl) : SourceFile :=
  ⟨e.output.header, e.output.buildTag, e.packageName, imports, decls⟩

/-- The functions of some plans in one file, which imports what they name. -/
def sourceFile (e : Emitter) (plans : List Plan) : Checked EmitError SourceFile :=
  match (plans.mapM e.function).run .empty with
  | .ok decls names => .ok (e.file names.imports.specs decls)
  | .error stop _ => .error stop

/-- The tests of some plans in one file. -/
def testFile (e : Emitter) (plans : List Plan) : Lookup SourceFile := do
  return e.file ["\"testing\""] (← plans.mapM e.test)

/-- The stems of some plans, in order and each once. -/
def stems (plans : List Plan) : List String :=
  (OrderedSet.ofList (plans.map (fun p => p.spec.stem))).items.mergeSort Text.precedes

/-- The two files of a stem. -/
def stemFiles (e : Emitter) (plans : List Plan) (stem : String) :
    Checked EmitError (List GeneratedFile) := do
  let own := plans.filter (fun p => p.spec.stem = stem)
  let base := stem ++ "." ++ e.output.suffix
  let source ← e.sourceFile own
  let test ← e.testFile own
  return [⟨base ++ ".go", source⟩, ⟨base ++ "_test.go", test⟩]

/-- **The generated files of some plans**, in the order of their names. -/
def emit (e : Emitter) (plans : List Plan) : Checked EmitError (List GeneratedFile) := do
  let files ← (stems plans).mapM (e.stemFiles plans)
  return files.flatten.mergeSort (fun a b => Text.precedes a.name b.name)

end Emitter

/-- The emitter for a program. -/
def Program.emitter (p : Program) (output : OutputSettings)
    (packageName : Option String := none) : Emitter :=
  .new p.types p.package output packageName

end Crosswalk

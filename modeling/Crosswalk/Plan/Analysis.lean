import Crosswalk.Mapping.Interpretation
import Crosswalk.Mapping.Registry
import Crosswalk.Plan.Basic
import Crosswalk.Program.Validation

/-!
# From a program to its plans

The analysis of a program has two phases. First every function that may be a
mapping function is read, and the specifications are registered. Then each of
them is planned against the finished registry.

The program is validated before anything else, so neither phase meets a
position that does not exist.
-/

namespace Crosswalk

/-- **What an analysis finds.** -/
structure Analysis where
  /-- The specifications. -/
  registry : Registry
  /-- One plan per specification, in the same order. -/
  plans : List Plan
deriving DecidableEq, Repr

namespace Program

/-- **Whether a function may be a mapping function**: it has a body, belongs to
the package, was written by hand, and is no entry point. -/
def isCandidate (p : Program) (f : Func) : Bool :=
  f.hasBody && f.synthetic.isNone && f.package = p.package && f.name ∉ ["init", "main"]

/-! ## Collecting -/

/-- The specifications of the mapping functions in a list of functions. -/
def specsOf (p : Program) (settings : Settings) :
    List Func → Checked MappingError (List MappingSpec)
  | [] => return []
  | f :: rest => do
    if p.isCandidate f then
      let spec ← p.interpret settings f.id
      return spec.toList ++ (← p.specsOf settings rest)
    else p.specsOf settings rest

/-- **Registers every mapping of the package.** -/
def collect (p : Program) (settings : Settings) : Checked MappingError Registry := do
  return .ofList (← p.specsOf settings p.functions.toList)

/-! ## Planning -/

/-- What messages call the function at `id`. -/
def describe (p : Program) (id : FunctionId) : Lookup String :=
  match p.function? id with
  | some f => return "`" ++ (← f.qualifiedName p.types) ++ "`"
  | none => return "function " ++ id.label

/-- The function at `id` cannot map nested values for `spec`. -/
def unusable {α : Type} (p : Program) (spec : MappingSpec) (id : FunctionId) (reason : String) :
    Checked MappingError α := do
  .fail (.unresolvedDelegate spec.qualifiedName (← p.describe id) reason)

/-- The specification by which the function at `id` maps nested values for
`spec`. -/
def delegate (p : Program) (registry : Registry) (spec : MappingSpec) (id : FunctionId) :
    Checked MappingError MappingSpec :=
  match registry.get? id with
  | none => p.unusable spec id "is not a mapping function"
  | some d =>
    if d.isExpressionLike then return d
    else p.unusable spec id "must construct and return its destination without an error"

/-- The specifications that `spec` may map nested values with. -/
def delegates (p : Program) (registry : Registry) (spec : MappingSpec) :
    Checked MappingError (List MappingSpec) :=
  spec.delegateMappings.items.mapM (p.delegate registry spec)

/-- A body that assigns field by field. -/
def recordBody (p : Program) (spec : MappingSpec) (delegates : List MappingSpec)
    (src dst : RecordType) : Lookup PlanBody := do
  let found ← (Matcher.ofSpec spec).matchRecords p.types src dst
  let fields ← found.pairs.mapM (fun pair => do
    return ⟨pair, ← p.types.fieldConversion delegates pair.source.type pair.dest.type⟩)
  return .record fields found.unmatched

/-- The element type of the slice inside the layers of a type. -/
def sliceElem (t : TypeTable) (id : TypeId) : Lookup (Option TypeId) := do
  match ← t.sliceShape id with
  | some slice => t.elem slice
  | none => return none

/-- **What the generated function does**: field by field between records,
element by element between slices, and nothing else is planned. -/
def planBody (p : Program) (spec : MappingSpec) (delegates : List MappingSpec) :
    Checked MappingError PlanBody := do
  let src ← RecordType.resolve p.types spec.sourceType
  let dst ← RecordType.resolve p.types spec.destType
  if let (some src, some dst) := (src, dst) then
    return ← p.recordBody spec delegates src dst
  let sourceElem ← sliceElem p.types spec.sourceType
  let destElem ← sliceElem p.types spec.destType
  if let (some src, some dst) := (sourceElem, destElem) then
    return .elements src dst (← p.types.elementConversion delegates src dst)
  .fail (.unsupportedShape spec.qualifiedName (← p.types.display spec.sourceType)
    (← p.types.display spec.destType))

/-- **The plan of one specification.** -/
def plan (p : Program) (registry : Registry) (spec : MappingSpec) :
    Checked MappingError Plan := do
  return ⟨spec, ← p.planBody spec (← p.delegates registry spec)⟩

/-- The plans of all specifications, in order. -/
def planAll (p : Program) (registry : Registry) : Checked MappingError (List Plan) :=
  registry.specs.mapM (p.plan registry)

/-- Validation, seen as the first step of an analysis. -/
def ensureValid (p : Program) : Checked MappingError Unit :=
  Checked.ofExcept (p.validate.mapError .program)

/-- **Validates a program, then reads and plans its mappings.** -/
def analyze (p : Program) (settings : Settings) : Checked MappingError Analysis := do
  p.ensureValid
  let registry ← p.collect settings
  return ⟨registry, ← p.planAll registry⟩

end Program

end Crosswalk

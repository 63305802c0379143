import Crosswalk.Argument
import Crosswalk.Mapping.Error
import Crosswalk.Mapping.Marker
import Crosswalk.Mapping.Spec
import Crosswalk.Settings

/-!
# Reading a mapping function

The calls of a function are read in the order in which its blocks list them.
Calls of functions outside the marker package are passed over. The first call
that is not decides: unless it is a direct call that begins a mapping, the
function is not a mapping function, and nothing further is asked of it. From
then on every marker call must be in order, and adds to the specification.

## What a call is

A call that names its callee is classified by the callee's package and name. A
call through a value is of interest only if that value stands for a function of
the marker package; markers may not be called that way.
-/

namespace Crosswalk

/-- What a call of the marker package turns out to be. -/
inductive MarkerCall where
  /-- A direct call of a marker. -/
  | direct (m : Marker)
  /-- A direct call of a function that is no marker. -/
  | unknown (name : String)
  /-- A call through a value. -/
  | indirect
deriving DecidableEq, Repr

/-- **A function that is read for its mapping.** -/
structure Reading where
  /-- The settings in force. -/
  settings : Settings
  /-- The function, its program and the index of its values. -/
  scope : Scope
  /-- The name of the function in messages. -/
  qualifiedName : String
deriving Repr

namespace Reading

/-- Gets ready to read a function. -/
def ofFunction (p : Program) (settings : Settings) (f : Func) : Lookup Reading := do
  return ⟨settings, ← Scope.ofFunction p f, ← f.qualifiedName p.types⟩

/-- The types of the program. -/
def types (r : Reading) : TypeTable := r.scope.program.types

/-- Whether the function is declared in the marker package. -/
def isMarkerFunction (r : Reading) (f : Func) : Bool :=
  r.settings.markers.isMarkerPackage f.package

/-- **What a call turns out to be**, if it is of any interest. -/
def classify (r : Reading) (callee : ValueId) : Lookup (Option MarkerCall) := do
  match r.scope.program.staticCallee r.scope.function callee with
  | some id =>
    let target ← r.scope.program.function id
    if !r.isMarkerFunction target then return none
    match Marker.ofName? target.name with
    | some m => return some (.direct m)
    | none => return some (.unknown target.name)
  | none =>
    match ← (r.scope.callable callee).attempt with
    | .error _ => return none
    | .ok id =>
      match r.scope.program.function? id with
      | none => return none
      | some target => return if r.isMarkerFunction target then some .indirect else none

/-! ## Errors -/

/-- A marker is called where, or as, it cannot be. -/
def unexpected (r : Reading) (marker reason : String) : MappingError :=
  .unexpectedCall r.qualifiedName marker reason

/-- An argument of a marker is not of the form it should have. -/
def malformed (r : Reading) (m : Marker) (argument : Nat) (e : ShapeError) : MappingError :=
  .malformedArgument r.qualifiedName m.name argument e.message

/-- Reads the argument of a marker at a given place. -/
def argument {α : Type} (r : Reading) (m : Marker) (place : Nat) (x : Checked ShapeError α) :
    Checked MappingError α :=
  x.mapCause (r.malformed m place)

/-- The wrong number of arguments. -/
def wrongArity (r : Reading) (m : Marker) (found : Nat) : MappingError :=
  r.unexpected m.name
    ("expected " ++ toString m.arity ++ " argument(s), found " ++ toString found)

/-! ## Beginning -/

/-- The types before a last `error`, and whether there is one. -/
def splitError (t : TypeTable) (results : List TypeId) : Lookup (List TypeId × Bool) := do
  match results.getLast? with
  | none => return ([], false)
  | some last => return if ← t.isError last then (results.dropLast, true) else (results, false)

/-- **Whether the function returns its destination, and whether an error.** It
may return nothing else. -/
def resultShape (r : Reading) : Checked MappingError (Bool × Bool) := do
  let results := r.scope.function.signature.results
  let (rest, hasError) ← splitError r.types results
  match rest with
  | [] => return (false, hasError)
  | [_] => return (true, hasError)
  | _ => .fail (.resultShape r.qualifiedName results.length)

/-- **The specification a mapping begins with.** -/
def start (r : Reading) (args : List ValueId) : Checked MappingError MappingSpec := do
  let [source, dest] := args | .fail (r.wrongArity .createMap args.length)
  let source ← r.argument .createMap 0 (r.scope.binding source)
  let dest ← r.argument .createMap 1 (r.scope.binding dest)
  let (destIsReturned, errorIsReturned) ← r.resultShape
  let f := r.scope.function
  return {
    function := f.id
    name := f.name
    qualifiedName := r.qualifiedName
    file := f.file
    sourceType := source.type
    destType := dest.type
    sourceBinding := source.name.getD r.settings.bindings.source
    destBinding := dest.name.getD r.settings.bindings.destination
    sourceIsReceiver := f.isMethod
    destIsPreconstructed := dest.constructed
    destIsReturned, errorIsReturned
    recognizedPrefixes := .empty
    ignoredDestFields := .empty
    manualFieldOverrides := .empty
    delegateMappings := .empty }

/-! ## Going on -/

/-- A function to map nested values with could not be pinned down, or is not a
function at all. -/
def delegateError (r : Reading) (e : ShapeError) : MappingError :=
  if e.isUnresolvedFunction then .unresolvedDelegate r.qualifiedName "a closure" e.message
  else r.malformed .mapWith 0 e

/-- The field that an override is for. It must be selected off the very struct
that is the destination's shape. -/
def destField (r : Reading) (spec : MappingSpec) (dest : ValueId) :
    Checked MappingError Selector := do
  let selector ← r.argument .mapField 1 (r.scope.selector dest)
  if selector.record ≠ (← r.types.peel spec.destType).shape then
    .fail (r.malformed .mapField 1 (.unexpected .destinationField
      ("field `" ++ selector.field.name ++ "` of another record")))
  return selector

/-- **What a marker adds to the specification.** -/
def configure (r : Reading) (spec : MappingSpec) (m : Marker) (args : List ValueId) :
    Checked MappingError MappingSpec := do
  match m, args with
  | .createMap, _ => .fail (r.unexpected m.name "the mapping has already been created")
  | .recognizePrefixes, [packed] =>
    let prefixes ← r.argument m 0 (r.scope.list r.scope.literalString packed)
    return { spec with recognizedPrefixes := spec.recognizedPrefixes.insertAll prefixes }
  | .mapField, [source, dest] =>
    let source ← r.argument m 0 (r.scope.selector source)
    let dest ← r.destField spec dest
    return { spec with
      manualFieldOverrides := spec.manualFieldOverrides.insert dest.field.name source.field.name }
  | .ignoreFields, [packed] =>
    let selectors ← r.argument m 0 (r.scope.list r.scope.selector packed)
    return { spec with
      ignoredDestFields :=
        spec.ignoredDestFields.insertAll (selectors.map (fun s => s.field.name)) }
  | .mapWith, [packed] =>
    let delegates ← (r.scope.list r.scope.callable packed).mapCause r.delegateError
    return { spec with delegateMappings := spec.delegateMappings.insertAll delegates }
  | m, args => .fail (r.wrongArity m args.length)

/-! ## The run through the body -/

/-- Where the run stands. -/
inductive Progress where
  /-- No marker call has been met. -/
  | seeking
  /-- The function is not a mapping function. -/
  | declined
  /-- A mapping has begun. -/
  | accumulating (spec : MappingSpec)
deriving DecidableEq, Repr

/-- **What a marker call does to the run.** -/
def advance (r : Reading) (progress : Progress) (call : MarkerCall) (args : List ValueId) :
    Checked MappingError Progress :=
  match progress, call with
  | .declined, _ => return .declined
  | .seeking, .direct .createMap => return .accumulating (← r.start args)
  | .seeking, _ => return .declined
  | .accumulating spec, .direct m => return .accumulating (← r.configure spec m args)
  | .accumulating _, .unknown name =>
    .fail (r.unexpected name "not a configuration function")
  | .accumulating _, .indirect =>
    .fail (r.unexpected "<dynamic>" "marker functions must be called directly")

/-- The run from one listed instruction to the next. Once the function is known
not to be a mapping function, nothing more is looked at. -/
def run (r : Reading) : Progress → List ValueId → Checked MappingError Progress
  | .declined, _ => return .declined
  | progress, [] => return progress
  | progress, id :: rest => do
    match (← r.scope.function.value id).kind.asCall with
    | none => r.run progress rest
    | some (callee, args) =>
      match ← r.classify callee with
      | none => r.run progress rest
      | some call => r.run (← r.advance progress call args) rest

/-- **The last check**: a destination that the function did not make itself must
be one through which its giver sees what is written. -/
def finish (r : Reading) (spec : MappingSpec) : Checked MappingError MappingSpec := do
  if spec.destIsPreconstructed then return spec
  if ← r.types.isReferenceShaped spec.destType then return spec
  .fail (.invalidDestination spec.qualifiedName spec.destBinding
    (← r.types.display spec.destType))

/-- What the run comes to. -/
def conclude (r : Reading) : Progress → Checked MappingError (Option MappingSpec)
  | .accumulating spec => return some (← r.finish spec)
  | _ => return none

/-- The specification of the function, if it is a mapping function. -/
def spec? (r : Reading) : Checked MappingError (Option MappingSpec) := do
  r.conclude (← r.run .seeking r.scope.function.instructions)

end Reading

/-- **What the function at `id` asks for**, or nothing if it is not a mapping
function. -/
def Program.interpret (p : Program) (settings : Settings) (id : FunctionId) :
    Checked MappingError (Option MappingSpec) := do
  match p.function? id with
  | none => .fail (.program (.unknownFunction id))
  | some f => (← Reading.ofFunction p settings f).spec?

end Crosswalk

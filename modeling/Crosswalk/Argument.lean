import Crosswalk.Program.Census
import Crosswalk.Program.Uses
import Crosswalk.Record

/-!
# What an argument was written as

By the time an argument reaches a marker call it has been lowered: put into an
interface, stored in a local and loaded again, or packed into the backing array
of a variadic call. Read backwards, such a chain of values ends at what the
programmer wrote: a string, a field of a record, a function, the variable that
holds the source or the destination, or a list of any of the first three.

Each reading follows one chain of values. No chain that ends has more links
than the function has values, so a reading is given one step per value and one
more; a chain that comes back to itself is endless.
-/

namespace Crosswalk

/-- What an argument was expected to be. -/
inductive Expected where
  | literalString
  | fieldSelector
  | functionReference
  | variable
  | argumentList
  | backingArray
  /-- A field of the destination in particular. -/
  | destinationField
deriving DecidableEq, Repr

/-- The words for such an argument. -/
def Expected.phrase : Expected → String
  | .literalString => "a string literal"
  | .fieldSelector => "a field selector"
  | .functionReference => "a function reference"
  | .variable => "a variable or constant"
  | .argumentList => "a variadic argument list"
  | .backingArray => "a backing array"
  | .destinationField => "a field of the destination"

/-- **Why an argument is not what it should be.** -/
inductive ShapeError where
  /-- It is something else. -/
  | unexpected (expected : Expected) (found : String)
  /-- The function has no such value. -/
  | unknownValue (value : ValueId)
  /-- The value has no type. -/
  | untyped (value : ValueId)
  /-- The value does not select a field of a record. -/
  | notAField (value : ValueId)
  /-- The program has no such function. -/
  | unknownFunction (function : FunctionId)
  /-- The closure makes no call, or more than one. -/
  | closureCalls (closure : String) (calls : Nat)
  /-- The one call of the closure does not name its callee. -/
  | dynamicCallee (closure : String)
deriving DecidableEq, Repr

namespace ShapeError

/-- The text of the error. -/
def message : ShapeError → String
  | .unexpected expected found => "expected " ++ expected.phrase ++ ", found " ++ found
  | .unknownValue value => "value " ++ value.label ++ " does not exist"
  | .untyped value => "value " ++ value.label ++ " has no type"
  | .notAField value => value.label ++ " does not select a field of a record"
  | .unknownFunction function => "function " ++ function.label ++ " does not exist"
  | .closureCalls closure calls =>
    "closure `" ++ closure ++ "` must wrap exactly one call, found " ++ toString calls
  | .dynamicCallee closure =>
    "the call inside closure `" ++ closure ++ "` has no static callee"

/-- Whether the argument is a function of the right form that could not be
pinned down, rather than something else altogether. -/
def isUnresolvedFunction : ShapeError → Bool
  | .unknownFunction _ | .closureCalls .. | .dynamicCallee _ => true
  | _ => false

end ShapeError

/-- Where a variable came from. -/
inductive BindingOrigin where
  /-- It is the receiver. -/
  | receiver
  /-- It is the parameter at this place. -/
  | parameter (index : Nat)
  /-- It is a local that nothing is stored into. -/
  | localVariable
  /-- It is no variable but a constant. -/
  | constant
deriving DecidableEq, Repr

/-- **A variable that holds the source or the destination.** -/
structure Binding where
  /-- Its name, if it has one. -/
  name : Option String
  /-- Its type. -/
  type : TypeId
  /-- Whether the function made the value itself. -/
  constructed : Bool
  /-- Where it came from. -/
  origin : BindingOrigin
deriving DecidableEq, Repr

/-- **A field selected off a record.** -/
structure Selector where
  /-- The struct that has the field. -/
  record : TypeId
  /-- The field itself. -/
  field : RecordField
deriving DecidableEq, Repr

/-- **A function whose arguments are read**, with its program and the index of
its values. -/
structure Scope where
  /-- The program. -/
  program : Program
  /-- The function. -/
  function : Func
  /-- Who reads which of its values. -/
  index : UseIndex
deriving Repr

namespace Scope

/-- Reading the arguments of a function. -/
def ofFunction (p : Program) (f : Func) : Lookup Scope := do
  return ⟨p, f, ← UseIndex.build f⟩

/-- How many links a chain of values may have. -/
def chainBound (s : Scope) : Nat := s.function.values.size + 1

/-- The value at `v`, which must exist. -/
def value (s : Scope) (v : ValueId) : Checked ShapeError Value :=
  match s.function.value? v with
  | some value => .ok value
  | none => .fail (.unknownValue v)

/-- The type of the value at `v`, which must have one. -/
def typed (v : ValueId) (value : Value) : Checked ShapeError TypeId :=
  match value.type with
  | some type => .ok type
  | none => .fail (.untyped v)

/-- The value is something other than what was expected. -/
def unexpected {α : Type} (expected : Expected) (value : Value) : Checked ShapeError α :=
  .fail (.unexpected expected value.kind.mnemonic)

/-! ## Strings -/

/-- The chain behind a string, of at most the given length. -/
def literalStringTo (s : Scope) : Nat → ValueId → Checked ShapeError String
  | 0, _ => .error (.fault .endless)
  | n + 1, v => do
    let value ← s.value v
    match value.kind with
    | .const (.string text) => return text
    | .makeInterface inner => s.literalStringTo n inner
    | _ => unexpected .literalString value

/-- **A string constant**, whether or not it is in an interface. -/
def literalString (s : Scope) (v : ValueId) : Checked ShapeError String :=
  s.literalStringTo s.chainBound v

/-! ## Fields -/

/-- The field at place `field` of the record behind `base`; `v` is the value
that selects it. -/
def selectorAt (s : Scope) (v base : ValueId) (field : Nat) : Checked ShapeError Selector := do
  let baseType ← typed base (← s.value base)
  let some record ← RecordType.resolve s.program.types baseType | .fail (.notAField v)
  match record.fields[field]? with
  | some selected => return ⟨record.shape, selected⟩
  | none => .fail (.notAField v)

/-- The chain behind a field selector, of at most the given length. -/
def selectorTo (s : Scope) : Nat → ValueId → Checked ShapeError Selector
  | 0, _ => .error (.fault .endless)
  | n + 1, v => do
    let value ← s.value v
    match value.kind with
    | .makeInterface inner | .unOp .deref inner => s.selectorTo n inner
    | .fieldAddr base field => s.selectorAt v base field
    | _ => unexpected .fieldSelector value

/-- **A field of a record**, whether or not it is loaded and put into an
interface. -/
def selector (s : Scope) (v : ValueId) : Checked ShapeError Selector :=
  s.selectorTo s.chainBound v

/-! ## Functions -/

/-- **The function a closure stands for**: the one that its body calls, which
must be the only one. Bound methods and wrapping literals are closures of this
form. -/
def closureTarget (s : Scope) (closure : FunctionId) : Checked ShapeError FunctionId := do
  match s.program.function? closure with
  | none => .fail (.unknownFunction closure)
  | some body =>
    match ← body.calls with
    | [(callee, _)] =>
      match s.program.staticCallee body callee with
      | some target => return target
      | none => .fail (.dynamicCallee body.name)
    | calls => .fail (.closureCalls body.name calls.length)

/-- The chain behind a function, of at most the given length. -/
def callableTo (s : Scope) : Nat → ValueId → Checked ShapeError FunctionId
  | 0, _ => .error (.fault .endless)
  | n + 1, v => do
    let value ← s.value v
    match value.kind with
    | .makeInterface inner => s.callableTo n inner
    | .functionRef id => return id
    | .makeClosure closure _ => s.closureTarget closure
    | _ => unexpected .functionReference value

/-- **A function**, named directly or through a closure around one call. -/
def callable (s : Scope) (v : ValueId) : Checked ShapeError FunctionId :=
  s.callableTo s.chainBound v

/-! ## Variables -/

/-- What the first store into the place `v` stores there. -/
def storedInto (s : Scope) (v : ValueId) : Option ValueId :=
  (s.index.readers v).findSome? (fun u =>
    match u.value.kind with
    | .store address stored => if address = v then some stored else none
    | _ => none)

/-- The chain behind a variable, of at most the given length. -/
def bindingTo (s : Scope) : Nat → ValueId → Checked ShapeError Binding
  | 0, _ => .error (.fault .endless)
  | n + 1, v => do
    let value ← s.value v
    match value.kind with
    | .const _ => return ⟨none, ← typed v value, true, .constant⟩
    | .unOp .deref inner =>
      let binding ← s.bindingTo n inner
      return { binding with type := ← s.program.types.deref binding.type }
    | .parameter index =>
      let origin : BindingOrigin :=
        if index = 0 ∧ s.function.isMethod then .receiver else .parameter index
      return ⟨value.name, ← typed v value, false, origin⟩
    | .makeInterface inner => s.bindingTo n inner
    | .alloc _ =>
      let type ← typed v value
      match s.storedInto v with
      | some stored =>
        let binding ← s.bindingTo n stored
        return { binding with type, name := binding.name <|> value.name }
      | none => return ⟨value.name, type, true, .localVariable⟩
    | _ => unexpected .variable value

/-- **The variable a value was read from.** A local that something is stored
into is what was first stored there, under its own name only if that has
none. -/
def binding (s : Scope) (v : ValueId) : Checked ShapeError Binding :=
  s.bindingTo s.chainBound v

/-! ## Packed lists -/

/-- What a visit of a reader adds to the addresses derived from a backing array
and to the values stored through them. -/
def packStep (state : List ValueId × List ValueId) (u : Use) : List ValueId × List ValueId :=
  match u.value.kind with
  | .store address stored =>
    if address ∈ state.1 then (state.1, state.2 ++ [stored]) else state
  | kind => if kind.producesValue then (u.user :: state.1, state.2) else state

/-- **The values stored into a backing array**, in the order in which a walk
from the array meets the stores. -/
def storedElements (s : Scope) (base : ValueId) : Checked ShapeError (List ValueId) := do
  let value ← s.value base
  if !value.kind.isAlloc then unexpected .backingArray value
  return ((s.index.visits base).foldl packStep ([base], [])).2

/-- The chain behind a packed list, of at most the given length. -/
def packedTo (s : Scope) : Nat → ValueId → Checked ShapeError (List ValueId)
  | 0, _ => .error (.fault .endless)
  | n + 1, v => do
    let value ← s.value v
    match value.kind with
    | .const .nil => return []
    | .makeInterface inner => s.packedTo n inner
    | .slice base => s.storedElements base
    | _ => unexpected .argumentList value

/-- The values packed for a variadic call; `nil` packs none. -/
def packed (s : Scope) (v : ValueId) : Checked ShapeError (List ValueId) :=
  s.packedTo s.chainBound v

/-- **A packed list, each of its elements read in the same way.** -/
def list {α : Type} (s : Scope) (element : ValueId → Checked ShapeError α) (v : ValueId) :
    Checked ShapeError (List α) := do
  (← s.packed v).mapM element

end Scope

end Crosswalk

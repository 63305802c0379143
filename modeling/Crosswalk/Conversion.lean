import Crosswalk.Types.Relations
import Crosswalk.Mapping.Spec

/-!
# Conversions

Once a source value and a destination are paired, something has to turn the one
into the other: nothing at all, a chain of address, dereference and conversion
steps, or a call of another mapping function.

## Meeting in the middle

The chain is found by a walk from both ends. From the outside in, a pointer
destination is filled with an address, and a named destination by converting to
it. From the inside out, a pointer source is dereferenced, and a named source
is converted to what it is declared as. The walk stops as soon as the two types
in hand are assignable. Steps off the source are applied in the order they were
found, steps around the destination in the opposite order.

A type declared by itself can make the walk come back to a pair of types. It
then stops, and the chain it found is *incomplete*.
-/

namespace Crosswalk

/-- One step around a source value. -/
inductive CoercionStep where
  /-- The address of the value. -/
  | addressOf
  /-- What the value points to. -/
  | deref
  /-- The value converted to a type. -/
  | convert (type : TypeId)
deriving DecidableEq, Repr

/-- How another mapping function is called. -/
inductive DelegateStyle where
  /-- As a method of the source. -/
  | receiver
  /-- With the source as its argument. -/
  | call
deriving DecidableEq, Repr

/-- **How a source value becomes a destination value.** -/
inductive Conversion where
  /-- It already is one. -/
  | assign
  /-- By these steps, innermost first. Unless `complete`, they do not suffice. -/
  | coerce (steps : List CoercionStep) (complete : Bool)
  /-- By another mapping function. -/
  | delegate (function : FunctionId) (name : String) (style : DelegateStyle)
deriving DecidableEq, Repr

/-- **What the walk from both ends found.** -/
structure Coercion where
  /-- Steps off the source, innermost first. -/
  inner : List CoercionStep
  /-- Steps around the destination, outermost first. -/
  outer : List CoercionStep
  /-- Whether the two ends met. -/
  complete : Bool
deriving DecidableEq, Repr

namespace Coercion

/-- The two ends met, or did not, without a step. -/
def stop (complete : Bool) : Coercion := ⟨[], [], complete⟩

/-- One more step off the source, before all others. -/
def off (step : CoercionStep) (c : Coercion) : Coercion := { c with inner := step :: c.inner }

/-- One more step around the destination, outside all others. -/
def around (step : CoercionStep) (c : Coercion) : Coercion := { c with outer := step :: c.outer }

/-- All steps, innermost first. -/
def steps (c : Coercion) : List CoercionStep := c.inner ++ c.outer.reverse

/-- The conversion by these steps. -/
def toConversion (c : Coercion) : Conversion :=
  if c.steps.isEmpty && c.complete then .assign else .coerce c.steps c.complete

end Coercion

namespace TypeTable

/-- The walk of `coercion`. Between two visits of one pair it meets every pair
of entries at most once, so the given number of steps is never used up when
there is one per pair. -/
def coercionFrom (t : TypeTable) :
    Nat → List (TypeId × TypeId) → TypeId → TypeId → Lookup Coercion
  | 0, _, _, _ => .error .endless
  | n + 1, seen, src, dst => do
    if ← t.assignable src dst then return .stop true
    if (src, dst) ∈ seen then return .stop false
    let seen := (src, dst) :: seen
    if let some pointee ← t.pointee dst then
      return (← t.coercionFrom n seen src pointee).around .addressOf
    if let some pointee ← t.pointee src then
      return (← t.coercionFrom n seen pointee dst).off .deref
    if ← t.isNamed dst then
      return (← t.coercionFrom n seen src (← t.unname dst)).around (.convert dst)
    if ← t.isNamed src then
      let src ← t.unname src
      return (← t.coercionFrom n seen src dst).off (.convert src)
    return .stop false

/-- The steps from `src` to `dst`. -/
def coercion (t : TypeTable) (src dst : TypeId) : Lookup Coercion :=
  t.coercionFrom (t.size * t.size + 2) [] src dst

/-- **Rewrites a value of type `src` step by step until it can be stored in a
`dst`.** -/
def coerce (t : TypeTable) (src dst : TypeId) : Lookup Conversion := do
  return (← t.coercion src dst).toConversion

end TypeTable

/-! ## Delegates -/

/-- **Whether another mapping function turns `src` into `dst`.** A method whose
receiver is a pointer also accepts what that pointer points to, since calling
it takes the address. -/
def MappingSpec.converts (d : MappingSpec) (t : TypeTable) (src dst : TypeId) : Lookup Bool := do
  if !(← t.assignable d.destType dst) then return false
  if ← t.assignable src d.sourceType then return true
  if !d.sourceIsReceiver then return false
  match ← t.pointee d.sourceType with
  | some pointee => t.assignable src pointee
  | none => return false

/-- How the mapping function is called. -/
def MappingSpec.style (d : MappingSpec) : DelegateStyle :=
  if d.sourceIsReceiver then .receiver else .call

/-- The conversion that calls the mapping function. -/
def MappingSpec.toConversion (d : MappingSpec) : Conversion :=
  .delegate d.function d.name d.style

namespace TypeTable

/-- **The first of the delegates that turns `src` into `dst`.** -/
def findDelegate (t : TypeTable) (delegates : List MappingSpec) (src dst : TypeId) :
    Lookup (Option MappingSpec) :=
  delegates.findM? (fun d => d.converts t src dst)

/-- **The conversion of one field into another.** Fields of one type are simply
assigned, whatever delegates there are. -/
def fieldConversion (t : TypeTable) (delegates : List MappingSpec) (src dst : TypeId) :
    Lookup Conversion := do
  if ← t.identical src dst then return .assign
  match ← t.findDelegate delegates src dst with
  | some d => return d.toConversion
  | none => t.coerce src dst

/-- **The conversion of an element of one slice into one of another.** A
delegate is used even where the element types agree. -/
def elementConversion (t : TypeTable) (delegates : List MappingSpec) (src dst : TypeId) :
    Lookup Conversion := do
  match ← t.findDelegate delegates src dst with
  | some d => return d.toConversion
  | none => if ← t.identical src dst then return .assign else t.coerce src dst

end TypeTable

end Crosswalk

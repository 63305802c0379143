import Crosswalk.Mapping.Spec
import Crosswalk.Ordered

/-!
# The registry of mappings

All specifications of a package are collected before any of them is planned, so
a mapping may rely on one declared after it. The registry keeps them by name,
then by qualified name, so nothing that is made of them depends on the order of
declaration. Specifications that agree on both stay in the order they came in.

Beside the specifications the registry keeps a map from functions to positions,
so that the specification of a function need not be searched for. The map is
made when the specifications stand in their order, and says where they stand
then, not where they came in. Should there be several of one function, it knows
the last.
-/

namespace Crosswalk

/-- Whether one specification may stand before another. -/
def MappingSpec.comesBefore (a b : MappingSpec) : Bool :=
  if a.name = b.name then Text.precedes a.qualifiedName b.qualifiedName
  else Text.precedes a.name b.name

/-- Where the specification of each function stands. -/
def positionsOf (specs : List MappingSpec) : OrderedMap FunctionId Nat :=
  .ofList (specs.zipIdx.map (fun e => (e.1.function, e.2)))

/-- **The specifications of a package**, in their order, with their positions. -/
structure Registry where
  /-- The specifications. -/
  specs : List MappingSpec
  /-- Where the specification of a function stands among them. -/
  positions : OrderedMap FunctionId Nat
  /-- The positions are those of the specifications as they stand. -/
  positions_eq : positions = positionsOf specs
deriving DecidableEq, Repr

namespace Registry

/-- The registry of specifications that stand in their order. -/
def ofSorted (specs : List MappingSpec) : Registry := ⟨specs, positionsOf specs, rfl⟩

instance : Inhabited Registry := ⟨ofSorted []⟩

/-- The registry of a list of specifications. -/
def ofList (specs : List MappingSpec) : Registry :=
  ofSorted (specs.mergeSort MappingSpec.comesBefore)

/-- **The specification of a function**: the one at its position. -/
def get? (r : Registry) (function : FunctionId) : Option MappingSpec :=
  (r.positions.get? function).bind (fun i => r.specs[i]?)

/-- The number of specifications. -/
def size (r : Registry) : Nat := r.specs.length

end Registry

end Crosswalk

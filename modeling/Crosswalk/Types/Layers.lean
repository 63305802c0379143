import Crosswalk.Types.Basic

/-!
# Layers

A record is seldom passed bare: what a mapping function receives is a pointer
to a named struct, or a name for a pointer to one. The pointers and names
around a type are its *layers*, and what they wrap is its *shape*. Records,
slices and destinations are all recognised by their shape, so they all take
layers off by the one walk of this module.

## Where a walk stops

A table may name a type as itself. Such a chain of layers has no shape, so a
walk that has taken off one layer more than the table has entries stops where
it is. A chain that does end never gets that far, because it meets no entry
twice.
-/

namespace Crosswalk

/-- One layer around a type. -/
inductive Layer where
  /-- A pointer; what follows is its pointee. -/
  | pointer
  /-- The named type `id`; what follows is the type it is declared as. -/
  | named (id : TypeId)
deriving DecidableEq, Repr

/-- **A type taken apart**: its layers and what they wrap. -/
structure Peeled where
  /-- The layers, the outermost first. -/
  layers : List Layer
  /-- The type inside the layers. -/
  shape : TypeId
deriving DecidableEq, Repr

namespace Peeled

/-- How many of the layers are pointers. -/
def pointerDepth (p : Peeled) : Nat := p.layers.count .pointer

/-- Whether there was nothing to take off. -/
def isBare (p : Peeled) : Bool := p.layers.isEmpty

/-- The outermost named type. -/
def outermostName (p : Peeled) : Option TypeId :=
  p.layers.findSome? (fun | .named id => some id | .pointer => none)

/-- The same type seen from inside one more layer. -/
def wrap (layer : Layer) (p : Peeled) : Peeled := { p with layers := layer :: p.layers }

end Peeled

namespace TypeTable

/-- The walk of `peel`, taking off at most the given number of layers. -/
def peelUpTo (t : TypeTable) : Nat → TypeId → Lookup Peeled
  | 0, id => .ok ⟨[], id⟩
  | n + 1, id => do
    match ← t.kind id with
    | .pointer elem => return (← t.peelUpTo n elem).wrap .pointer
    | .named _ _ underlying => return (← t.peelUpTo n underlying).wrap (.named id)
    | _ => return ⟨[], id⟩

/-- **Takes off every layer.** -/
def peel (t : TypeTable) (id : TypeId) : Lookup Peeled := t.peelUpTo (t.size + 1) id

/-- The walk of `peelNames`, taking off at most the given number of names. -/
def peelNamesUpTo (t : TypeTable) : Nat → TypeId → Lookup Peeled
  | 0, id => .ok ⟨[], id⟩
  | n + 1, id => do
    match ← t.kind id with
    | .named _ _ underlying => return (← t.peelNamesUpTo n underlying).wrap (.named id)
    | _ => return ⟨[], id⟩

/-- **Takes off names only**, up to the first pointer or literal. -/
def peelNames (t : TypeTable) (id : TypeId) : Lookup Peeled := t.peelNamesUpTo (t.size + 1) id

/-- The walk of `underlying`, following at most the given number of names. -/
def underlyingUpTo (t : TypeTable) : Nat → TypeId → Lookup TypeId
  | 0, id => .ok id
  | n + 1, id => do
    match ← t.kind id with
    | .named _ _ underlying => t.underlyingUpTo n underlying
    | _ => return id

/-- **The type behind every name**: the first type on the chain of declarations
that is not itself named. -/
def underlying (t : TypeTable) (id : TypeId) : Lookup TypeId := t.underlyingUpTo (t.size + 1) id

/-! ## Shapes -/

/-- The element type of a slice or array, looking through names. -/
def elem (t : TypeTable) (id : TypeId) : Lookup (Option TypeId) := do
  match ← t.kind (← t.underlying id) with
  | .slice elem | .array elem _ => return some elem
  | _ => return none

/-- The fields of a struct, looking through every layer. -/
def structFields (t : TypeTable) (id : TypeId) : Lookup (Option (List Member)) := do
  match ← t.kind (← t.peel id).shape with
  | .struct fields => return some fields
  | _ => return none

/-- Whether the shape of the type is a struct. -/
def isStructShaped (t : TypeTable) (id : TypeId) : Lookup Bool := do
  match ← t.kind (← t.peel id).shape with
  | .struct _ => return true
  | _ => return false

/-- The slice type inside the layers, if that is what they wrap. -/
def sliceShape (t : TypeTable) (id : TypeId) : Lookup (Option TypeId) := do
  let shape := (← t.peel id).shape
  match ← t.kind shape with
  | .slice _ => return some shape
  | _ => return none

/-- **Whether writing through a copy is seen by its giver**: a pointer, a slice
or a map, once names are taken off. -/
def isReferenceShaped (t : TypeTable) (id : TypeId) : Lookup Bool := do
  match ← t.kind (← t.peelNames id).shape with
  | .pointer _ | .slice _ | .map .. => return true
  | _ => return false

end TypeTable

end Crosswalk

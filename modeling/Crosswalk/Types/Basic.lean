import Crosswalk.Fault

/-!
# Type tables

A program refers to its types by position in one table. An entry says what a
type is in terms of the positions of its parts, so a table may hold several
entries for one type, entries that lead to themselves, and, until somebody
checks, entries that point past its end.

## Three sorts of entry

* A *basic* type is predeclared and known by its name alone.
* A *named* type is known by its name and package, and carries the type it is
  declared as.
* Every other entry is a type literal, known by its parts.

Basic and named types are the *defined* types.
-/

namespace Crosswalk

/-- **A position in a type table.** -/
structure TypeId where
  /-- The position, counted from zero. -/
  index : Nat
deriving DecidableEq, Repr, Inhabited

/-- The predeclared types. -/
inductive BasicType where
  | bool | int | int8 | int16 | int32 | int64
  | uint | uint8 | uint16 | uint32 | uint64 | uintptr
  | float32 | float64 | string
  /-- The type of the constant `nil`, which no declaration can spell. -/
  | untypedNil
deriving DecidableEq, Repr, Inhabited

/-- One declared field of a struct. -/
structure Member where
  /-- The name of the field, `_` for a blank one. -/
  name : String
  /-- The type of the field. -/
  type : TypeId
  /-- Whether the field is declared by its type alone. -/
  embedded : Bool
deriving DecidableEq, Repr, Inhabited

/-- **What a type is**, in terms of the types it is made of. -/
inductive TypeKind where
  /-- A predeclared type. -/
  | basic (b : BasicType)
  /-- A declared type. Only predeclared names such as `error` lack a package. -/
  | named (name : String) (package : Option String) (underlying : TypeId)
  /-- A pointer to `elem`. -/
  | pointer (elem : TypeId)
  /-- A slice of `elem`. -/
  | slice (elem : TypeId)
  /-- An array of `length` times `elem`. -/
  | array (elem : TypeId) (length : Nat)
  /-- A map from `key` to `value`. -/
  | map (key value : TypeId)
  /-- A struct with these fields, in declaration order. -/
  | struct (fields : List Member)
  /-- An interface, known by the names of its methods. -/
  | interface (methods : List String)
  /-- A function type. When `variadic`, the last parameter takes the rest. -/
  | signature (params results : List TypeId) (variadic : Bool)
  /-- The results of a call that has several. -/
  | tuple (elems : List TypeId)
deriving DecidableEq, Repr, Inhabited

/-- **The types of a program**, each at its position. -/
structure TypeTable where
  /-- The entries in order. -/
  kinds : Array TypeKind
deriving DecidableEq, Repr, Inhabited

namespace TypeTable

/-- The table without entries. -/
def empty : TypeTable := ⟨#[]⟩

/-- The number of entries. -/
def size (t : TypeTable) : Nat := t.kinds.size

/-- The entry at `id`, if there is one. -/
def kind? (t : TypeTable) (id : TypeId) : Option TypeKind := t.kinds[id.index]?

/-- The entry at `id`, or a fault. -/
def kind (t : TypeTable) (id : TypeId) : Lookup TypeKind := entryAt t.kinds id.index

theorem kind_eq_ok_iff {t : TypeTable} {id : TypeId} {k : TypeKind} :
    t.kind id = .ok k ↔ t.kind? id = some k :=
  entryAt_eq_ok_iff

/-! ## Growing a table -/

/-- **The position of `kind`**: of its first entry if the table has one, else
of a new entry at the end. Entries are the same only if they name the same
positions. -/
def intern (t : TypeTable) (kind : TypeKind) : TypeId × TypeTable :=
  match t.kinds.findIdx? (fun k => decide (k = kind)) with
  | some i => (⟨i⟩, t)
  | none => (⟨t.kinds.size⟩, ⟨t.kinds.push kind⟩)

/-- A struct whose fields are given by name and type, none embedded. -/
def plainStruct (fields : List (String × TypeId)) : TypeKind :=
  .struct (fields.map (fun f => ⟨f.1, f.2, false⟩))

/-- The predeclared type `error`, with its one-method interface. -/
def internError (t : TypeTable) : TypeId × TypeTable :=
  let (under, t) := t.intern (.interface ["Error"])
  t.intern (.named "error" none under)

/-! ## Simple questions about one entry -/

/-- Whether the entry is a pointer. -/
def isPointer (t : TypeTable) (id : TypeId) : Lookup Bool := do
  match ← t.kind id with
  | .pointer _ => return true
  | _ => return false

/-- Whether the entry is a named type. -/
def isNamed (t : TypeTable) (id : TypeId) : Lookup Bool := do
  match ← t.kind id with
  | .named .. => return true
  | _ => return false

/-- Whether the type is defined: named or basic. -/
def isDefined (t : TypeTable) (id : TypeId) : Lookup Bool := do
  match ← t.kind id with
  | .named .. | .basic _ => return true
  | _ => return false

/-- Whether the entry is the predeclared type `error`. -/
def isError (t : TypeTable) (id : TypeId) : Lookup Bool := do
  match ← t.kind id with
  | .named name none _ => return name = "error"
  | _ => return false

/-- What a pointer points to. -/
def pointee (t : TypeTable) (id : TypeId) : Lookup (Option TypeId) := do
  match ← t.kind id with
  | .pointer elem => return some elem
  | _ => return none

/-- The type with at most one pointer taken off. -/
def deref (t : TypeTable) (id : TypeId) : Lookup TypeId := do
  return (← t.pointee id).getD id

/-- The type with at most one name taken off. -/
def unname (t : TypeTable) (id : TypeId) : Lookup TypeId := do
  match ← t.kind id with
  | .named _ _ underlying => return underlying
  | _ => return id

end TypeTable

end Crosswalk

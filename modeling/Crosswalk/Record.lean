import Crosswalk.Types.Layers

/-!
# Records

What is mapped field by field is a record: the fields of a struct in their
declaration order, reached through whatever layers wrap it. A field keeps its
position, because names may repeat and `_` may stand for any number of fields.
-/

namespace Crosswalk

/-- One field of a record. -/
structure RecordField where
  /-- The name of the field. -/
  name : String
  /-- The type of the field. -/
  type : TypeId
  /-- The place of the field in its record. -/
  index : Nat
deriving DecidableEq, Repr

/-- Whether the field is blank. A blank field cannot be selected, so nothing is
ever mapped from it or to it. -/
def RecordField.isBlank (f : RecordField) : Bool := f.name = "_"

/-- **The record behind a type.** -/
structure RecordType where
  /-- The type asked about, with its layers. -/
  type : TypeId
  /-- The struct inside the layers. -/
  shape : TypeId
  /-- The fields, in declaration order. -/
  fields : List RecordField
deriving DecidableEq, Repr

namespace RecordType

/-- The fields of a struct, each with its place. -/
def fieldsOf (members : List Member) : List RecordField :=
  members.mapIdx (fun i m => ⟨m.name, m.type, i⟩)

/-- **The record behind `id`**, or nothing if its shape is not a struct. -/
def resolve (t : TypeTable) (id : TypeId) : Lookup (Option RecordType) := do
  let shape := (← t.peel id).shape
  return (← t.structFields shape).map (fun members => ⟨id, shape, fieldsOf members⟩)

/-- The first field with a given name. -/
def field (r : RecordType) (name : String) : Option RecordField :=
  r.fields.find? (fun f => f.name = name)

/-- The number of fields. -/
def size (r : RecordType) : Nat := r.fields.length

end RecordType

end Crosswalk

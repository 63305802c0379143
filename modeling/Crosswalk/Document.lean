/-!
# Documents

Programs and settings are kept in text files, in one of two notations. What
both notations agree on is all that reading them takes: a value may be a text, a
list, or a record of named fields.

A record may be written in either of two ways: its fields by name, in any order,
or their values alone, as a list in the order of declaration. Fields that no
declaration knows are passed over when they are named.
-/

namespace Crosswalk

/-- **The fields of a record**, as some document gives them. -/
structure Fields (ν : Type) where
  /-- The known fields that are given, under their names. -/
  entries : List (String × ν)
  /-- Whether they were told apart by their places in a list. -/
  byPlace : Bool

/-- **What a notation must tell about its values.** -/
class Document (ν : Type) where
  /-- The text that the value is. -/
  text? : ν → Option String
  /-- The items of the list that the value is. -/
  items? : ν → Option (List ν)
  /-- The fields of the record that the value is, when its declared fields are
  these. -/
  fields? : List String → ν → Option (Fields ν)

namespace Fields

variable {ν α : Type}

/-- The value given for a field. -/
def get? (f : Fields ν) (name : String) : Option ν :=
  (f.entries.find? (fun e => e.1 = name)).map Prod.snd

/-- A field that must be given. -/
def required (f : Fields ν) (name : String) (read : ν → Option α) : Option α :=
  (f.get? name).bind read

/-- A field that stands at a default when it is not given. -/
def withDefault (f : Fields ν) (name : String) (default : α) (read : ν → Option α) : Option α :=
  match f.get? name with
  | some v => read v
  | none => some default

/-- A field that stands at a default when it is not given, but that a list of
values may not leave out. -/
def defaultIfNamed (f : Fields ν) (name : String) (default : α) (read : ν → Option α) :
    Option α :=
  if f.byPlace then f.required name read else f.withDefault name default read

end Fields

/-- The list that a value is, item by item. -/
def Document.list? {ν α : Type} [Document ν] (read : ν → Option α) (v : ν) : Option (List α) :=
  (Document.items? v).bind (fun items => items.mapM read)

end Crosswalk

import Crosswalk.Types.Basic
import Crosswalk.Json.Basic

/-!
# Type tables as documents

A table is the array of its entries, and an entry names its kind and gives its
parts. Positions are numbers of 32 bits. Whatever the table may leave out is
written out in full when it is written, so a table that was read and written
again says everything.
-/

namespace Crosswalk

/-- The position that a value is. -/
def TypeId.ofJson? (j : Json) : Option TypeId := (j.nat? Width.count32).map TypeId.mk

/-- A position as a value. -/
def TypeId.toJson (id : TypeId) : Json := .ofNat id.index

/-- The positions that a value lists. -/
def TypeId.listOfJson? (j : Json) : Option (List TypeId) := Document.list? TypeId.ofJson? j

namespace BasicType

/-- The word for a basic type. -/
def word : BasicType → String
  | .bool => "bool"
  | .int => "int"
  | .int8 => "int8"
  | .int16 => "int16"
  | .int32 => "int32"
  | .int64 => "int64"
  | .uint => "uint"
  | .uint8 => "uint8"
  | .uint16 => "uint16"
  | .uint32 => "uint32"
  | .uint64 => "uint64"
  | .uintptr => "uintptr"
  | .float32 => "float32"
  | .float64 => "float64"
  | .string => "string"
  | .untypedNil => "untyped_nil"

/-- The basic type that a word stands for. -/
def ofWord? : String → Option BasicType
  | "bool" => some .bool
  | "int" => some .int
  | "int8" => some .int8
  | "int16" => some .int16
  | "int32" => some .int32
  | "int64" => some .int64
  | "uint" => some .uint
  | "uint8" => some .uint8
  | "uint16" => some .uint16
  | "uint32" => some .uint32
  | "uint64" => some .uint64
  | "uintptr" => some .uintptr
  | "float32" => some .float32
  | "float64" => some .float64
  | "string" => some .string
  | "untyped_nil" => some .untypedNil
  | _ => none

@[simp] theorem ofWord?_word (b : BasicType) : ofWord? b.word = some b := by
  cases b <;> rfl

end BasicType

namespace Member

/-- The struct field that a value describes. -/
def ofJson? (j : Json) : Option Member := do
  let fields ← j.fields? ["name", "ty", "embedded"]
  return {
    name := ← fields.required "name" Json.text?
    type := ← fields.required "ty" TypeId.ofJson?
    embedded := ← fields.withDefault "embedded" false Json.bool?
  }

/-- A struct field as a value. -/
def toJson (m : Member) : Json :=
  .object [("name", .string m.name), ("ty", m.type.toJson), ("embedded", .bool m.embedded)]

end Member

namespace TypeKind

/-- The named type that a value describes. A declaration written as a list of
values must give its package, if only as `null`. -/
def namedOfJson? (j : Json) : Option TypeKind := do
  let fields ← j.fields? ["name", "package", "underlying"]
  return .named
    (← fields.required "name" Json.text?)
    (← fields.defaultIfNamed "package" none (Json.nullable Json.text?))
    (← fields.required "underlying" TypeId.ofJson?)

/-- The array type that a value describes. -/
def arrayOfJson? (j : Json) : Option TypeKind := do
  let fields ← j.fields? ["elem", "len"]
  return .array (← fields.required "elem" TypeId.ofJson?)
    (← fields.required "len" (Json.nat? Width.count64))

/-- The map type that a value describes. -/
def mapOfJson? (j : Json) : Option TypeKind := do
  let fields ← j.fields? ["key", "value"]
  return .map (← fields.required "key" TypeId.ofJson?) (← fields.required "value" TypeId.ofJson?)

/-- The struct type that a value describes. -/
def structOfJson? (j : Json) : Option TypeKind := do
  let fields ← j.fields? ["fields"]
  return .struct (← fields.required "fields" (Document.list? Member.ofJson?))

/-- The interface type that a value describes. -/
def interfaceOfJson? (j : Json) : Option TypeKind := do
  let fields ← j.fields? ["methods"]
  return .interface (← fields.required "methods" (Document.list? Json.text?))

/-- The function type that a value describes. -/
def signatureOfJson? (j : Json) : Option TypeKind := do
  let fields ← j.fields? ["params", "results", "variadic"]
  return .signature
    (← fields.required "params" TypeId.listOfJson?)
    (← fields.required "results" TypeId.listOfJson?)
    (← fields.withDefault "variadic" false Json.bool?)

/-- **The entry that a value describes.** -/
def ofJson? (j : Json) : Option TypeKind := do
  match ← j.case? with
  | ("basic", some content) => return .basic (← content.bareCase?.bind BasicType.ofWord?)
  | ("named", some content) => namedOfJson? content
  | ("pointer", some content) => return .pointer (← TypeId.ofJson? content)
  | ("slice", some content) => return .slice (← TypeId.ofJson? content)
  | ("array", some content) => arrayOfJson? content
  | ("map", some content) => mapOfJson? content
  | ("struct", some content) => structOfJson? content
  | ("interface", some content) => interfaceOfJson? content
  | ("signature", some content) => signatureOfJson? content
  | ("tuple", some content) => return .tuple (← TypeId.listOfJson? content)
  | _ => none

/-- **An entry as a value.** -/
def toJson : TypeKind → Json
  | .basic b => .ofCase "basic" (.string b.word)
  | .named name package underlying =>
    .ofCase "named" (.object [("name", .string name), ("package", .ofOption .string package),
      ("underlying", underlying.toJson)])
  | .pointer elem => .ofCase "pointer" elem.toJson
  | .slice elem => .ofCase "slice" elem.toJson
  | .array elem length =>
    .ofCase "array" (.object [("elem", elem.toJson), ("len", .ofNat length)])
  | .map key value => .ofCase "map" (.object [("key", key.toJson), ("value", value.toJson)])
  | .struct fields => .ofCase "struct" (.object [("fields", .ofList Member.toJson fields)])
  | .interface methods =>
    .ofCase "interface" (.object [("methods", .ofList Json.string methods)])
  | .signature params results variadic =>
    .ofCase "signature" (.object [("params", .ofList TypeId.toJson params),
      ("results", .ofList TypeId.toJson results), ("variadic", .bool variadic)])
  | .tuple elems => .ofCase "tuple" (.ofList TypeId.toJson elems)

end TypeKind

namespace TypeTable

/-- The table that a value lists. Entries keep their positions, and equal ones
stay apart. -/
def ofJson? (j : Json) : Option TypeTable :=
  (Document.list? TypeKind.ofJson? j).map (fun kinds => ⟨kinds.toArray⟩)

/-- A table as a value. -/
def toJson (t : TypeTable) : Json := .ofList TypeKind.toJson t.kinds.toList

end TypeTable

end Crosswalk

import Crosswalk.Program.Basic
import Crosswalk.Types.Json
import Crosswalk.Json.Reader

/-!
# Programs as documents

What a front end leaves behind is one document: the package, the table of types
and the list of functions. A document may leave out what stands at its default;
a program is always written in full, so reading what was written gives the same
program back.
-/

namespace Crosswalk

/-- The position that a value is. -/
def FunctionId.ofJson? (j : Json) : Option FunctionId := (j.nat? Width.count32).map FunctionId.mk

/-- A position as a value. -/
def FunctionId.toJson (id : FunctionId) : Json := .ofNat id.index

/-- The position that a value is. -/
def ValueId.ofJson? (j : Json) : Option ValueId := (j.nat? Width.count32).map ValueId.mk

/-- A position as a value. -/
def ValueId.toJson (id : ValueId) : Json := .ofNat id.index

/-- The positions that a value lists. -/
def ValueId.listOfJson? (j : Json) : Option (List ValueId) := Document.list? ValueId.ofJson? j

/-- Positions as a value. -/
def ValueId.listToJson (ids : List ValueId) : Json := .ofList ValueId.toJson ids

/-- The position that a value is. -/
def BlockId.ofJson? (j : Json) : Option BlockId := (j.nat? Width.count32).map BlockId.mk

/-- A position as a value. -/
def BlockId.toJson (id : BlockId) : Json := .ofNat id.index

namespace Literal

/-- The constant that a value describes. -/
def ofJson? (j : Json) : Option Literal := do
  match ← j.case? with
  | ("string", some content) => return .string (← content.text?)
  | ("int", some content) => return .int (← content.int64?)
  | ("bool", some content) => return .bool (← content.bool?)
  | _ => if j.bareCase? = some "nil" then some .nil else none

/-- A constant as a value. -/
def toJson : Literal → Json
  | .string s => .ofCase "string" (.string s)
  | .int i => .ofCase "int" (.integer i)
  | .bool b => .ofCase "bool" (.bool b)
  | .nil => .string "nil"

end Literal

namespace UnaryOp

/-- The operator that a value names. -/
def ofJson? (j : Json) : Option UnaryOp :=
  match j.bareCase? with
  | some "deref" => some .deref
  | some "neg" => some .neg
  | some "not" => some .not
  | _ => none

/-- An operator as a value. -/
def toJson : UnaryOp → Json
  | .deref => .string "deref"
  | .neg => .string "neg"
  | .not => .string "not"

end UnaryOp

namespace ValueKind

/-- **The kind that a case and its content describe.** -/
def ofCase? : String → Json → Option ValueKind
  | "const", j => return .const (← Literal.ofJson? j)
  | "parameter", j => do
    let fields ← j.fields? ["index"]
    return .parameter (← fields.required "index" (Json.nat? Width.count32))
  | "free_var", j => do
    let fields ← j.fields? ["index"]
    return .freeVar (← fields.required "index" (Json.nat? Width.count32))
  | "function_ref", j => return .functionRef (← FunctionId.ofJson? j)
  | "alloc", j => do
    let fields ← j.fields? ["heap"]
    return .alloc (← fields.required "heap" Json.bool?)
  | "field_addr", j => do
    let fields ← j.fields? ["base", "field"]
    return .fieldAddr (← fields.required "base" ValueId.ofJson?)
      (← fields.required "field" (Json.nat? Width.count32))
  | "index_addr", j => do
    let fields ← j.fields? ["base", "index"]
    return .indexAddr (← fields.required "base" ValueId.ofJson?)
      (← fields.required "index" ValueId.ofJson?)
  | "make_interface", j => do
    let fields ← j.fields? ["value"]
    return .makeInterface (← fields.required "value" ValueId.ofJson?)
  | "un_op", j => do
    let fields ← j.fields? ["op", "operand"]
    return .unOp (← fields.required "op" UnaryOp.ofJson?)
      (← fields.required "operand" ValueId.ofJson?)
  | "slice", j => do
    let fields ← j.fields? ["base"]
    return .slice (← fields.required "base" ValueId.ofJson?)
  | "make_closure", j => do
    let fields ← j.fields? ["function", "bindings"]
    return .makeClosure (← fields.required "function" FunctionId.ofJson?)
      (← fields.required "bindings" ValueId.listOfJson?)
  | "call", j => do
    let fields ← j.fields? ["callee", "args"]
    return .call (← fields.required "callee" ValueId.ofJson?)
      (← fields.required "args" ValueId.listOfJson?)
  | "store", j => do
    let fields ← j.fields? ["address", "value"]
    return .store (← fields.required "address" ValueId.ofJson?)
      (← fields.required "value" ValueId.ofJson?)
  | "return", j => do
    let fields ← j.fields? ["results"]
    return .ret (← fields.required "results" ValueId.listOfJson?)
  | "jump", j => do
    let fields ← j.fields? ["target"]
    return .jump (← fields.required "target" BlockId.ofJson?)
  | "if", j => do
    let fields ← j.fields? ["condition", "then_block", "else_block"]
    return .branch (← fields.required "condition" ValueId.ofJson?)
      (← fields.required "then_block" BlockId.ofJson?)
      (← fields.required "else_block" BlockId.ofJson?)
  | _, _ => none

/-- The kind that a value describes. -/
def ofJson? (j : Json) : Option ValueKind := do
  match ← j.case? with
  | (tag, some content) => ofCase? tag content
  | (_, none) => none

/-- **A kind as a value.** -/
def toJson : ValueKind → Json
  | .const literal => .ofCase "const" literal.toJson
  | .parameter index => .ofCase "parameter" (.object [("index", .ofNat index)])
  | .freeVar index => .ofCase "free_var" (.object [("index", .ofNat index)])
  | .functionRef function => .ofCase "function_ref" function.toJson
  | .alloc heap => .ofCase "alloc" (.object [("heap", .bool heap)])
  | .fieldAddr base field =>
    .ofCase "field_addr" (.object [("base", base.toJson), ("field", .ofNat field)])
  | .indexAddr base index =>
    .ofCase "index_addr" (.object [("base", base.toJson), ("index", index.toJson)])
  | .makeInterface value => .ofCase "make_interface" (.object [("value", value.toJson)])
  | .unOp op operand =>
    .ofCase "un_op" (.object [("op", op.toJson), ("operand", operand.toJson)])
  | .slice base => .ofCase "slice" (.object [("base", base.toJson)])
  | .makeClosure function bindings =>
    .ofCase "make_closure"
      (.object [("function", function.toJson), ("bindings", ValueId.listToJson bindings)])
  | .call callee args =>
    .ofCase "call" (.object [("callee", callee.toJson), ("args", ValueId.listToJson args)])
  | .store address value =>
    .ofCase "store" (.object [("address", address.toJson), ("value", value.toJson)])
  | .ret results => .ofCase "return" (.object [("results", ValueId.listToJson results)])
  | .jump target => .ofCase "jump" (.object [("target", target.toJson)])
  | .branch condition thenBlock elseBlock =>
    .ofCase "if" (.object [("condition", condition.toJson), ("then_block", thenBlock.toJson),
      ("else_block", elseBlock.toJson)])

end ValueKind

namespace Value

/-- The value of a function that a document's value describes. -/
def ofJson? (j : Json) : Option Value := do
  let fields ← j.fields? ["kind", "ty", "name"]
  return {
    kind := ← fields.required "kind" ValueKind.ofJson?
    type := ← fields.withDefault "ty" none (Json.nullable TypeId.ofJson?)
    name := ← fields.withDefault "name" none (Json.nullable Json.text?)
  }

/-- The document's value for a value of a function. -/
def toJson (v : Value) : Json :=
  .object [("kind", v.kind.toJson), ("ty", .ofOption TypeId.toJson v.type),
    ("name", .ofOption .string v.name)]

end Value

namespace Param

/-- The parameter that a value describes. -/
def ofJson? (j : Json) : Option Param := do
  let fields ← j.fields? ["name", "ty"]
  return {
    name := ← fields.required "name" Json.text?
    type := ← fields.required "ty" TypeId.ofJson?
  }

/-- A parameter as a value. -/
def toJson (p : Param) : Json := .object [("name", .string p.name), ("ty", p.type.toJson)]

end Param

namespace Signature

/-- The signature that a value describes. -/
def ofJson? (j : Json) : Option Signature := do
  let fields ← j.fields? ["receiver", "params", "results", "variadic"]
  return {
    receiver := ← fields.withDefault "receiver" none (Json.nullable Param.ofJson?)
    params := ← fields.withDefault "params" [] (Document.list? Param.ofJson?)
    results := ← fields.withDefault "results" [] TypeId.listOfJson?
    variadic := ← fields.withDefault "variadic" false Json.bool?
  }

/-- A signature as a value. -/
def toJson (s : Signature) : Json :=
  .object [("receiver", .ofOption Param.toJson s.receiver),
    ("params", .ofList Param.toJson s.params), ("results", .ofList TypeId.toJson s.results),
    ("variadic", .bool s.variadic)]

end Signature

namespace Block

/-- The block that a value describes. -/
def ofJson? (j : Json) : Option Block := do
  let fields ← j.fields? ["id", "instructions", "comment"]
  return {
    id := ← fields.required "id" BlockId.ofJson?
    instructions := ← fields.required "instructions" ValueId.listOfJson?
    comment := ← fields.withDefault "comment" none (Json.nullable Json.text?)
  }

/-- A block as a value. -/
def toJson (b : Block) : Json :=
  .object [("id", b.id.toJson), ("instructions", ValueId.listToJson b.instructions),
    ("comment", .ofOption .string b.comment)]

end Block

namespace Func

/-- **The function that a value describes.** -/
def ofJson? (j : Json) : Option Func := do
  let fields ← j.fields?
    ["id", "name", "package", "file", "signature", "params", "blocks", "values", "synthetic"]
  return {
    id := ← fields.required "id" FunctionId.ofJson?
    name := ← fields.required "name" Json.text?
    package := ← fields.required "package" Json.text?
    file := ← fields.withDefault "file" none (Json.nullable Json.text?)
    signature := ← fields.required "signature" Signature.ofJson?
    params := ← fields.withDefault "params" [] ValueId.listOfJson?
    blocks := (← fields.withDefault "blocks" [] (Document.list? Block.ofJson?)).toArray
    values := (← fields.withDefault "values" [] (Document.list? Value.ofJson?)).toArray
    synthetic := ← fields.withDefault "synthetic" none (Json.nullable Json.text?)
  }

/-- **A function as a value.** -/
def toJson (f : Func) : Json :=
  .object [("id", f.id.toJson), ("name", .string f.name), ("package", .string f.package),
    ("file", .ofOption .string f.file), ("signature", f.signature.toJson),
    ("params", ValueId.listToJson f.params), ("blocks", .ofList Block.toJson f.blocks.toList),
    ("values", .ofList Value.toJson f.values.toList),
    ("synthetic", .ofOption .string f.synthetic)]

end Func

namespace Program

/-- **The program that a value describes.** -/
def ofJson? (j : Json) : Option Program := do
  let fields ← j.fields? ["package", "types", "functions"]
  return {
    package := ← fields.required "package" Json.text?
    types := ← fields.required "types" TypeTable.ofJson?
    functions := (← fields.required "functions" (Document.list? Func.ofJson?)).toArray
  }

/-- **A program as a value.** -/
def toJson (p : Program) : Json :=
  .object [("package", .string p.package), ("types", p.types.toJson),
    ("functions", .ofList Func.toJson p.functions.toList)]

/-- The program that a text describes. -/
def parse? (text : String) : Option Program := (Json.parse? text).bind ofJson?

end Program

end Crosswalk

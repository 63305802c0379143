import Crosswalk.Program.Basic

/-!
# Putting a program together

A front end declares its functions first, so that bodies may refer to functions
declared later, and fills in the bodies afterwards. Every operation answers the
position of what it added, which is the length of the table before. Positions have
32 bits, so this is meant of tables that 32 bits can count; from there on the length
would have to be cut. An operation that refers to something that is not there faults,
and then the program is as it was before.

## The cursor

Instructions go to the end of the block a *cursor* stands at. Opening a body
puts the cursor at the first block. The first opening also creates that block,
and the values of the parameters.
-/

namespace Crosswalk

/-- Where instructions are added. -/
structure Cursor where
  /-- The function whose body is written. -/
  function : FunctionId
  /-- The block that grows. -/
  block : BlockId
deriving DecidableEq, Repr

/-- The cursor at another block of the same body. -/
def Cursor.switchTo (c : Cursor) (block : BlockId) : Cursor := { c with block }

/-- **An operation on a program under construction.** -/
abbrev Build := StateT Program Lookup

namespace Build

/-! ## Types -/

/-- The position of a type, which is added if the table lacks it. -/
def intern (kind : TypeKind) : Build TypeId := fun p =>
  let (id, types) := p.types.intern kind
  return (id, { p with types })

/-- Asks the type table a question. -/
def ask {α : Type} (question : TypeTable → Lookup α) : Build α := fun p => do
  return (← question p.types, p)

/-! ## Functions -/

/-- **Declares a function** in a given package. -/
def declareIn (package name : String) (signature : Signature) : Build FunctionId := fun p =>
  let id : FunctionId := ⟨p.functions.size⟩
  return (id, { p with functions := p.functions.push (.external id name package signature) })

/-- Declares a function in the package of the program. -/
def declare (name : String) (signature : Signature) : Build FunctionId := fun p =>
  declareIn p.package name signature p

/-- The function at `id`. -/
def function (id : FunctionId) : Build Func := fun p => return (← p.function id, p)

/-- Puts another function in the place of the one at `id`, which must exist. -/
def setFunction (id : FunctionId) (f : Func) : Build Unit := fun p => do
  let _ ← p.function id
  return ((), { p with functions := p.functions.setIfInBounds id.index f })

/-- Records the file a function is declared in. -/
def setFile (id : FunctionId) (file : String) : Build Unit := do
  setFunction id { ← function id with file := some file }

/-- Records why the compiler made a function. -/
def setSynthetic (id : FunctionId) (description : String) : Build Unit := do
  setFunction id { ← function id with synthetic := some description }

/-- The type of a reference to the function: its receiver counts as the first
parameter. -/
def functionType (id : FunctionId) : Build TypeId := do
  let s := (← function id).signature
  intern (.signature (s.allParams.map Param.type) s.results s.variadic)

/-- The function with the values of its parameters and its first block. -/
def openFunc (f : Func) : Func :=
  let params := f.signature.allParams.zipIdx
  { f with
    params := f.params ++ params.map (fun p => ⟨f.values.size + p.2⟩)
    values := f.values ++ (params.map (fun p =>
      (⟨.parameter p.2, some p.1.type, some p.1.name⟩ : Value))).toArray
    blocks := #[.empty ⟨0⟩] }

/-- **Opens the body of a function.** -/
def body (id : FunctionId) : Build Cursor := do
  let f ← function id
  unless f.hasBody do setFunction id (openFunc f)
  return ⟨id, ⟨0⟩⟩

/-! ## Values -/

/-- Adds a value without putting it into a block. -/
def push (c : Cursor) (v : Value) : Build ValueId := do
  let f ← function c.function
  setFunction c.function { f with values := f.values.push v }
  return ⟨f.values.size⟩

/-- Adds a value at the end of the block under the cursor. -/
def emit (c : Cursor) (kind : ValueKind) (type : Option TypeId) (name : Option String := none) :
    Build ValueId := do
  let id ← push c ⟨kind, type, name⟩
  let f ← function c.function
  let block ← liftM (entryAt f.blocks c.block.index)
  let block := { block with instructions := block.instructions ++ [id] }
  setFunction c.function { f with blocks := f.blocks.setIfInBounds c.block.index block }
  return id

/-- The type of a value of the function. -/
def typeOf (c : Cursor) (v : ValueId) : Build (Option TypeId) := do
  return (← liftM ((← function c.function).value v)).type

/-- The value bound to a parameter. -/
def param (c : Cursor) (index : Nat) : Build ValueId := do
  liftM (entryAt (← function c.function).params.toArray index)

/-- A string constant. -/
def constString (c : Cursor) (s : String) : Build ValueId := do
  push c ⟨.const (.string s), some (← intern (.basic .string)), none⟩

/-- An integer constant. -/
def constInt (c : Cursor) (i : Int) : Build ValueId := do
  push c ⟨.const (.int i), some (← intern (.basic .int)), none⟩

/-- The zero value of a type that has `nil`. -/
def constNil (c : Cursor) (type : TypeId) : Build ValueId :=
  push c ⟨.const .nil, some type, none⟩

/-- A reference to a function. -/
def functionRef (c : Cursor) (target : FunctionId) : Build ValueId := do
  push c ⟨.functionRef target, some (← functionType target), none⟩

/-- A captured variable. -/
def freeVar (c : Cursor) (index : Nat) (type : TypeId) (name : String) : Build ValueId :=
  push c ⟨.freeVar index, some type, some name⟩

/-! ## Instructions -/

/-- A place on the stack, which may back a variable. -/
def alloc (c : Cursor) (elem : TypeId) (name : Option String) : Build ValueId := do
  emit c (.alloc false) (some (← intern (.pointer elem))) name

/-- A place on the heap. -/
def newObject (c : Cursor) (elem : TypeId) : Build ValueId := do
  emit c (.alloc true) (some (← intern (.pointer elem)))

/-- The type of a field of what a value of type `base` points to. -/
def fieldType (base : TypeId) (field : Nat) : Build (Option TypeId) := do
  return ((← ask (fun t => t.structFields base)).bind (fun fs => fs[field]?)).map Member.type

/-- The type of an element of what a value of type `base` points to. -/
def elemType (base : TypeId) : Build (Option TypeId) :=
  ask (fun t => do t.elem (← t.deref base))

/-- A question about a type that may be missing. -/
def withType {α : Type} (type : Option TypeId) (question : TypeId → Build (Option α)) :
    Build (Option α) :=
  match type with
  | none => return none
  | some id => question id

/-- The type made of another one, unless that is missing. -/
def internFrom (kind : TypeId → TypeKind) (type : Option TypeId) : Build (Option TypeId) :=
  withType type (fun id => return some (← intern (kind id)))

/-- The address of a field. -/
def fieldAddr (c : Cursor) (base : ValueId) (field : Nat) : Build ValueId := do
  let type ← withType (← typeOf c base) (fun id => fieldType id field)
  emit c (.fieldAddr base field) (← internFrom .pointer type)

/-- The address of an element. -/
def indexAddr (c : Cursor) (base index : ValueId) : Build ValueId := do
  let type ← withType (← typeOf c base) elemType
  emit c (.indexAddr base index) (← internFrom .pointer type)

/-- What is stored at an address. -/
def load (c : Cursor) (address : ValueId) : Build ValueId := do
  let type ← withType (← typeOf c address) (fun id => ask (fun t => t.pointee id))
  emit c (.unOp .deref address) type

/-- A value put into the empty interface. -/
def makeInterface (c : Cursor) (value : ValueId) : Build ValueId := do
  emit c (.makeInterface value) (some (← intern (.interface [])))

/-- A slice over an array. -/
def slice (c : Cursor) (base : ValueId) : Build ValueId := do
  let type ← withType (← typeOf c base) elemType
  emit c (.slice base) (← internFrom .slice type)

/-- A value written to an address. -/
def store (c : Cursor) (address value : ValueId) : Build ValueId :=
  emit c (.store address value) none

/-- A function with the variables it captures. -/
def makeClosure (c : Cursor) (function : FunctionId) (bindings : List ValueId) :
    Build ValueId := do
  emit c (.makeClosure function bindings) (some (← functionType function))

/-- The type of a call's value, given the results of its callee. -/
def resultType : List TypeId → Build (Option TypeId)
  | [] => return none
  | [single] => return some single
  | many => return some (← intern (.tuple many))

/-- A call through a value. -/
def callValue (c : Cursor) (callee : ValueId) (args : List ValueId) : Build ValueId := do
  let type ← withType (← typeOf c callee) (fun id => do
    match ← ask (fun t => t.kind id) with
    | .signature _ results _ => resultType results
    | _ => return none)
  emit c (.call callee args) type

/-- **A direct call.** -/
def call (c : Cursor) (target : FunctionId) (args : List ValueId) : Build ValueId := do
  callValue c (← functionRef c target) args

/-- The end of the function. -/
def ret (c : Cursor) (results : List ValueId) : Build ValueId := emit c (.ret results) none

/-- A jump to another block. -/
def jump (c : Cursor) (target : BlockId) : Build ValueId := emit c (.jump target) none

/-- Stores values into an array, one after another. -/
def storeEach (c : Cursor) (backing : ValueId) : List (ValueId × Nat) → Build Unit
  | [] => return ()
  | (value, i) :: rest => do
    let index ← constInt c i
    let slot ← indexAddr c backing index
    let _ ← store c slot value
    storeEach c backing rest

/-- **Packs values the way the last arguments of a variadic call are passed**: a
fresh array, one store per value in order, and a slice over the array. -/
def variadic (c : Cursor) (elem : TypeId) (values : List ValueId) : Build ValueId := do
  let backing ← newObject c (← intern (.array elem values.length))
  storeEach c backing values.zipIdx
  slice c backing

/-- A new block at the end of the body. -/
def newBlock (c : Cursor) : Build BlockId := do
  let f ← function c.function
  let id : BlockId := ⟨f.blocks.size⟩
  setFunction c.function { f with blocks := f.blocks.push (.empty id) }
  return id

end Build

end Crosswalk

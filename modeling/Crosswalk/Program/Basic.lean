import Crosswalk.Types.Spelling

/-!
# Programs

A program is one package after its front end is done with it: a table of types
and a list of functions, external ones included. A function owns its values.
Some are plain operands: constants, parameters, captured variables, references
to functions. The rest are instructions, listed block by block in the order of
control flow; those that produce nothing are values all the same, so that a
reader of an operand can always be named.

Everything is referred to by position: types, functions, the values and blocks
of a function. Nothing here promises that a position exists; that is what
validation is for.
-/

namespace Crosswalk

/-- **A position in the list of functions of a program.** -/
structure FunctionId where
  /-- The position, counted from zero. -/
  index : Nat
deriving DecidableEq, Repr, Inhabited

/-- **A position in the list of values of a function.** -/
structure ValueId where
  /-- The position, counted from zero. -/
  index : Nat
deriving DecidableEq, Repr, Inhabited

/-- **A position in the list of blocks of a function.** -/
structure BlockId where
  /-- The position, counted from zero. -/
  index : Nat
deriving DecidableEq, Repr, Inhabited

/-- A position as messages name it. -/
def FunctionId.label (id : FunctionId) : String := "f" ++ toString id.index

/-- A position as messages name it. -/
def ValueId.label (id : ValueId) : String := "v" ++ toString id.index

/-- A position as messages name it. -/
def BlockId.label (id : BlockId) : String := "b" ++ toString id.index

/-- A constant. -/
inductive Literal where
  | string (s : String)
  | int (i : Int)
  | bool (b : Bool)
  /-- The zero value of every pointer, slice, map, interface and function. -/
  | nil
deriving DecidableEq, Repr, Inhabited

/-- The unary operators. -/
inductive UnaryOp where
  /-- The value a pointer points to. -/
  | deref
  | neg
  | not
deriving DecidableEq, Repr, Inhabited

/-- **What a value is.** -/
inductive ValueKind where
  /-- A constant. -/
  | const (literal : Literal)
  /-- The parameter at this place, a receiver counting as the first. -/
  | parameter (index : Nat)
  /-- The captured variable at this place. -/
  | freeVar (index : Nat)
  /-- A function, named directly. -/
  | functionRef (function : FunctionId)
  /-- A fresh place; the value is a pointer to it. -/
  | alloc (heap : Bool)
  /-- The address of a field of the struct `base` points to. -/
  | fieldAddr (base : ValueId) (field : Nat)
  /-- The address of an element of the array or slice `base` points to. -/
  | indexAddr (base index : ValueId)
  /-- A value put into an interface. -/
  | makeInterface (value : ValueId)
  /-- A unary operator applied to a value. -/
  | unOp (op : UnaryOp) (operand : ValueId)
  /-- A slice over the array `base` points to. -/
  | slice (base : ValueId)
  /-- A function together with the variables it captures. -/
  | makeClosure (function : FunctionId) (bindings : List ValueId)
  /-- A call. -/
  | call (callee : ValueId) (args : List ValueId)
  /-- A value written to an address. -/
  | store (address value : ValueId)
  /-- The end of the function. -/
  | ret (results : List ValueId)
  /-- The end of a block, going on in `target`. -/
  | jump (target : BlockId)
  /-- The end of a block, going on in one of two others. -/
  | branch (condition : ValueId) (thenBlock elseBlock : BlockId)
deriving DecidableEq, Repr, Inhabited

namespace ValueKind

/-- **The values this one reads**, in order. -/
def operands : ValueKind → List ValueId
  | .const _ | .parameter _ | .freeVar _ | .functionRef _ | .alloc _ | .jump _ => []
  | .fieldAddr base _ => [base]
  | .indexAddr base index => [base, index]
  | .makeInterface value => [value]
  | .unOp _ operand => [operand]
  | .slice base => [base]
  | .makeClosure _ bindings => bindings
  | .call callee args => callee :: args
  | .store address value => [address, value]
  | .ret results => results
  | .branch condition _ _ => [condition]

/-- Whether the value belongs in a block. -/
def isInstruction : ValueKind → Bool
  | .const _ | .parameter _ | .freeVar _ | .functionRef _ => false
  | _ => true

/-- Whether other values may read this one. -/
def producesValue : ValueKind → Bool
  | .store .. | .ret _ | .jump _ | .branch .. => false
  | _ => true

/-- Whether the value is a parameter. -/
def isParameter : ValueKind → Bool
  | .parameter _ => true
  | _ => false

/-- Whether the value is a place of its own. -/
def isAlloc : ValueKind → Bool
  | .alloc _ => true
  | _ => false

/-- The callee and the arguments of a call. -/
def asCall : ValueKind → Option (ValueId × List ValueId)
  | .call callee args => some (callee, args)
  | _ => none

/-- What messages call a value of this kind. -/
def mnemonic : ValueKind → String
  | .const _ => "const"
  | .parameter _ => "parameter"
  | .freeVar _ => "freevar"
  | .functionRef _ => "function"
  | .alloc _ => "alloc"
  | .fieldAddr .. => "fieldaddr"
  | .indexAddr .. => "indexaddr"
  | .makeInterface _ => "make interface"
  | .unOp .. => "unop"
  | .slice _ => "slice"
  | .makeClosure .. => "make closure"
  | .call .. => "call"
  | .store .. => "store"
  | .ret _ => "return"
  | .jump _ => "jump"
  | .branch .. => "if"

end ValueKind

/-- **A value of a function.** -/
structure Value where
  /-- What the value is. -/
  kind : ValueKind
  /-- Its type, unless it produces nothing. -/
  type : Option TypeId
  /-- The name of the parameter or variable it stands for. -/
  name : Option String
deriving DecidableEq, Repr, Inhabited

/-- A declared parameter or receiver. -/
structure Param where
  /-- The declared name. -/
  name : String
  /-- The declared type. -/
  type : TypeId
deriving DecidableEq, Repr, Inhabited

/-- **What a function is declared to take and give.** -/
structure Signature where
  /-- The receiver, if the function is a method. -/
  receiver : Option Param
  /-- The parameters proper. -/
  params : List Param
  /-- The types of the results. -/
  results : List TypeId
  /-- Whether the last parameter takes the rest. -/
  variadic : Bool
deriving DecidableEq, Repr, Inhabited

/-- The receiver, if there is one, and the parameters. -/
def Signature.allParams (s : Signature) : List Param := s.receiver.toList ++ s.params

/-- A straight run of instructions. -/
structure Block where
  /-- The position the block claims. -/
  id : BlockId
  /-- Its instructions, in order. -/
  instructions : List ValueId
  /-- What the front end had to say about the block. -/
  comment : Option String
deriving DecidableEq, Repr, Inhabited

/-- The block at `id`, before anything is put into it. -/
def Block.empty (id : BlockId) : Block := ⟨id, [], none⟩

/-- **A function, a method or a wrapper made by the compiler.** -/
structure Func where
  /-- The position the function claims. -/
  id : FunctionId
  /-- The declared name. -/
  name : String
  /-- The import path of the declaring package. -/
  package : String
  /-- The file of the declaration, without its directory. -/
  file : Option String
  /-- What it takes and gives. -/
  signature : Signature
  /-- The values its parameters are bound to, the receiver's first. -/
  params : List ValueId
  /-- Its blocks in declaration order; none if it has no body. -/
  blocks : Array Block
  /-- Its values. -/
  values : Array Value
  /-- Why the compiler made it, if it did. -/
  synthetic : Option String
deriving DecidableEq, Repr, Inhabited

namespace Func

/-- A function declared without a body. -/
def external (id : FunctionId) (name package : String) (signature : Signature) : Func :=
  ⟨id, name, package, none, signature, [], #[], #[], none⟩

/-- Whether the function has a body. -/
def hasBody (f : Func) : Bool := !f.blocks.isEmpty

/-- Whether the function is a method. -/
def isMethod (f : Func) : Bool := f.signature.receiver.isSome

/-- The value at `id`, if there is one. -/
def value? (f : Func) (id : ValueId) : Option Value := f.values[id.index]?

/-- The value at `id`, or a fault. -/
def value (f : Func) (id : ValueId) : Lookup Value := entryAt f.values id.index

theorem value_eq_ok_iff {f : Func} {id : ValueId} {v : Value} :
    f.value id = .ok v ↔ f.value? id = some v :=
  entryAt_eq_ok_iff

/-- **The instructions of the function**, block after block. -/
def instructions (f : Func) : List ValueId := f.blocks.toList.flatMap Block.instructions

/-- **The name of the function in reports and messages**: `(Receiver).Name` for
a method, `package.Name` otherwise, with the last segment of the package's path.
A path that ends in a slash leaves the bare name. -/
def qualifiedName (t : TypeTable) (f : Func) : Lookup String :=
  match f.signature.receiver with
  | some receiver => return "(" ++ (← t.display receiver.type) ++ ")." ++ f.name
  | none =>
    let short := Text.lastSegment f.package
    return if short = "" then f.name else short ++ "." ++ f.name

end Func

/-- **A program**: one package, its types, and its functions. -/
structure Program where
  /-- The import path of the package. -/
  package : String
  /-- The types. -/
  types : TypeTable
  /-- The functions, external ones included. -/
  functions : Array Func
deriving DecidableEq, Repr, Inhabited

namespace Program

/-- The program of a package in which nothing is declared yet. -/
def empty (package : String) : Program := ⟨package, .empty, #[]⟩

/-- The function at `id`, if there is one. -/
def function? (p : Program) (id : FunctionId) : Option Func := p.functions[id.index]?

/-- The function at `id`, or a fault. -/
def function (p : Program) (id : FunctionId) : Lookup Func := entryAt p.functions id.index

theorem function_eq_ok_iff {p : Program} {id : FunctionId} {f : Func} :
    p.function id = .ok f ↔ p.function? id = some f :=
  entryAt_eq_ok_iff

/-- **The function a call in `f` names directly**, if its callee does name one
of this program. -/
def staticCallee (p : Program) (f : Func) (callee : ValueId) : Option FunctionId :=
  match (f.value? callee).map Value.kind with
  | some (.functionRef id) => if (p.function? id).isSome then some id else none
  | _ => none

/-- The first function with a given name. -/
def findByName (p : Program) (name : String) : Option Func :=
  p.functions.find? (fun f => f.name = name)

end Program

end Crosswalk

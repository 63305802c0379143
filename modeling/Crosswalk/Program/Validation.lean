import Crosswalk.Program.Error

/-!
# Validation

A program is looked through once before it is analysed. Afterwards every
position it mentions exists, every entry is at the position it claims, and
every value stands where values of its kind may stand. The check itself asks
only whether positions exist, so it can be run on anything.

## The order of the search

The first offence found is the one reported: types first, then the functions
one after another; within a function its signature, its parameters, its values
in their order, and last its blocks.
-/

namespace Crosswalk

/-- Runs a check on each member of a list, up to the first offence. -/
def checkEach {α ε : Type} (check : α → Except ε Unit) : List α → Except ε Unit
  | [] => .ok ()
  | a :: as => do check a; checkEach check as

section checkEach

variable {α ε : Type} {check : α → Except ε Unit}

/-- **A list passes when every member does.** -/
theorem checkEach_eq_ok_iff {as : List α} :
    checkEach check as = .ok () ↔ ∀ a ∈ as, check a = .ok () := by
  induction as with
  | nil => simp [checkEach]
  | cons a as ih =>
    cases ha : check a with
    | ok u => simp [checkEach, ha, bind, Except.bind, ih]
    | error e => simp [checkEach, ha, bind, Except.bind]

end checkEach

/-- The types an entry mentions, in order. -/
def TypeKind.parts : TypeKind → List TypeId
  | .basic _ | .interface _ => []
  | .named _ _ underlying => [underlying]
  | .pointer elem | .slice elem | .array elem _ => [elem]
  | .map key value => [key, value]
  | .struct fields => fields.map Member.type
  | .signature params results _ => params ++ results
  | .tuple elems => elems

/-- The function a value refers to, if it refers to one. -/
def ValueKind.target : ValueKind → Option FunctionId
  | .functionRef f | .makeClosure f _ => some f
  | _ => none

/-- The blocks a value may branch to. -/
def ValueKind.branches : ValueKind → List BlockId
  | .jump b => [b]
  | .branch _ b c => [b, c]
  | _ => []

/-- The type must exist. -/
def TypeTable.check (t : TypeTable) (id : TypeId) : Except ProgramError Unit :=
  if (t.kind? id).isSome then .ok () else .error (.unknownType id)

/-- Every type mentioned in the table must be in it. -/
def TypeTable.validate (t : TypeTable) : Except ProgramError Unit :=
  checkEach (fun k => checkEach t.check k.parts) t.kinds.toList

namespace Func

/-- The value must exist and be of a kind that `fits`. -/
def checkValue (f : Func) (fits : ValueKind → Bool) (id : ValueId) : Except ProgramError Unit :=
  match f.value? id with
  | none => .error (.unknownValue f.name id)
  | some v =>
    if fits v.kind then .ok () else .error (.misplacedValue f.name id v.kind.mnemonic)

/-- The block must exist. -/
def checkBlock (f : Func) (id : BlockId) : Except ProgramError Unit :=
  if (f.blocks[id.index]?).isSome then .ok () else .error (.unknownBlock f.name id)

/-- A body must bind as many parameters as are declared. -/
def checkArity (f : Func) : Except ProgramError Unit :=
  let declared := f.signature.allParams.length
  if f.hasBody ∧ f.params.length ≠ declared then
    .error (.parameterMismatch f.name declared f.params.length)
  else .ok ()

end Func

namespace Program

/-- The function must exist. -/
def checkFunction (p : Program) (id : FunctionId) : Except ProgramError Unit :=
  if (p.function? id).isSome then .ok () else .error (.unknownFunction id)

/-- One value of a function: its type, what it reads, what it refers to. -/
def validateValue (p : Program) (f : Func) (v : Value) : Except ProgramError Unit := do
  checkEach p.types.check v.type.toList
  checkEach (f.checkValue ValueKind.producesValue) v.kind.operands
  checkEach p.checkFunction v.kind.target.toList
  checkEach f.checkBlock v.kind.branches

/-- One block of a function: its place, and what it lists. -/
def validateBlock (f : Func) (block : Block × Nat) : Except ProgramError Unit := do
  if block.1.id.index ≠ block.2 then
    .error (.idMismatch .block block.2 block.1.id.index)
  checkEach (f.checkValue ValueKind.isInstruction) block.1.instructions

/-- One function of a program. -/
def validateFunction (p : Program) (f : Func) : Except ProgramError Unit := do
  checkEach p.types.check (f.signature.allParams.map Param.type)
  checkEach p.types.check f.signature.results
  f.checkArity
  checkEach (f.checkValue ValueKind.isParameter) f.params
  checkEach (p.validateValue f) f.values.toList
  checkEach (validateBlock f) f.blocks.toList.zipIdx

/-- One function of a program, and its place. -/
def validateEntry (p : Program) (entry : Func × Nat) : Except ProgramError Unit := do
  if entry.1.id.index ≠ entry.2 then
    .error (.idMismatch .function entry.2 entry.1.id.index)
  p.validateFunction entry.1

/-- **Checks that every position in the program exists and that every entry is
at its own.** -/
def validate (p : Program) : Except ProgramError Unit := do
  p.types.validate
  checkEach p.validateEntry p.functions.toList.zipIdx

end Program

end Crosswalk

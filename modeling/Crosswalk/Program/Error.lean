import Crosswalk.Program.Basic

/-!
# What can be wrong with a program

A program that was not put together by this library may refer to positions that
do not exist, list its entries out of place, or use a value where it cannot
stand. Each of these is a cause of its own, with the position at fault.
-/

namespace Crosswalk

/-- What is kept in a list and carries its own position. -/
inductive Numbered where
  | function
  | block
deriving DecidableEq, Repr

/-- The word for such a thing. -/
def Numbered.word : Numbered → String
  | .function => "function"
  | .block => "block"

/-- **How a program breaks the rules of its own structure.** -/
inductive ProgramError where
  /-- There is no function at `id`. -/
  | unknownFunction (id : FunctionId)
  /-- There is no type at `id`. -/
  | unknownType (id : TypeId)
  /-- The function refers to a value it does not have. -/
  | unknownValue (function : String) (value : ValueId)
  /-- The function branches to a block it does not have. -/
  | unknownBlock (function : String) (block : BlockId)
  /-- The value, of the kind that `mnemonic` names, cannot stand where the
  function has it. -/
  | misplacedValue (function : String) (value : ValueId) (mnemonic : String)
  /-- The entry at `expected` claims to be at `found`. -/
  | idMismatch (what : Numbered) (expected found : Nat)
  /-- The body binds another number of parameters than are declared. -/
  | parameterMismatch (function : String) (declared found : Nat)
deriving DecidableEq, Repr

namespace ProgramError

/-- The text of the error. -/
def message : ProgramError → String
  | .unknownFunction id => "Unknown function id " ++ id.label
  | .unknownType id => "Unknown type id " ++ id.label
  | .unknownValue function value =>
    "Value " ++ value.label ++ " referenced in `" ++ function ++ "` does not exist"
  | .unknownBlock function block =>
    "Block " ++ block.label ++ " referenced in `" ++ function ++ "` does not exist"
  | .misplacedValue function value mnemonic =>
    "Value " ++ value.label ++ " in `" ++ function ++ "` is a " ++ mnemonic
      ++ " and cannot appear there"
  | .idMismatch what expected found =>
    what.word ++ " at position " ++ toString expected ++ " carries id " ++ toString found
  | .parameterMismatch function declared found =>
    "`" ++ function ++ "` declares " ++ toString declared ++ " parameters but its body binds "
      ++ toString found

/-- The code under which the error is documented. -/
def code : ProgramError → String
  | .unknownFunction _ => "typemapper::ir::unknown_function"
  | .unknownType _ => "typemapper::ir::unknown_type"
  | .unknownValue .. => "typemapper::ir::unknown_value"
  | .unknownBlock .. => "typemapper::ir::unknown_block"
  | .misplacedValue .. => "typemapper::ir::misplaced_value"
  | .idMismatch .. => "typemapper::ir::id_mismatch"
  | .parameterMismatch .. => "typemapper::ir::parameter_mismatch"

/-- Advice, where there is any. -/
def help : ProgramError → Option String
  | .idMismatch .. => some "ids are positions: the n-th entry must carry id n"
  | _ => none

end ProgramError

end Crosswalk

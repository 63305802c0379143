import Crosswalk.Program.Basic

/-!
# Visiting a function

What is asked of a function as a whole is often asked by going through it: its
signature first, then its instructions, block after block. A *visitor* is what
such a round is made for. It keeps a state, and says what becomes of the state
when it comes by a type and when it comes by an operand. Whatever it says
nothing about leaves the state as it was.

An instruction that is listed twice is come by twice. That a position is listed
does not mean that there is a value, and then the round ends in a fault.
-/

namespace Crosswalk

/-- A listed instruction. -/
structure Use where
  /-- Its position. -/
  user : ValueId
  /-- The instruction itself. -/
  value : Value
deriving DecidableEq, Repr

/-- Whether the instruction reads `v`. -/
def Use.reads (u : Use) (v : ValueId) : Bool := decide (v ∈ u.value.kind.operands)

/-- **The listed instructions of a function**, block after block. All of them
must exist. -/
def Func.listed (f : Func) : Lookup (List Use) :=
  f.instructions.mapM (fun id => return ⟨id, ← f.value id⟩)

/-- **A visitor** with a state in `σ`. -/
structure ProgramVisitor (σ : Type) where
  /-- The state after a type. -/
  type : σ → TypeId → σ := fun s _ => s
  /-- The state after an operand of an instruction. -/
  operand : σ → Use → ValueId → σ := fun s _ _ => s

namespace ProgramVisitor

variable {σ : Type} (visitor : ProgramVisitor σ)

/-- A signature shows the types of all its parameters and those of its results. -/
def signature (s : σ) (signature : Signature) : σ :=
  signature.results.foldl visitor.type ((signature.allParams.map Param.type).foldl visitor.type s)

/-- An instruction shows its type, if it has one, and then its operands in order. -/
def instruction (s : σ) (u : Use) : σ :=
  u.value.kind.operands.foldl (fun s operand => visitor.operand s u operand)
    (u.value.type.toList.foldl visitor.type s)

/-- **A round through a function**: its signature, then its instructions. -/
def function (s : σ) (f : Func) : Lookup σ :=
  return (← f.listed).foldl visitor.instruction (visitor.signature s f.signature)

end ProgramVisitor

end Crosswalk

import Crosswalk.Program.Basic

/-!
# How large a program is

The census counts what a program consists of. Only the listed instructions have
to be looked at, to tell the calls among them.
-/

namespace Crosswalk

/-- **The counts of a program.** -/
structure Census where
  /-- Functions with a body. -/
  functions : Nat
  /-- Functions without a body. -/
  externals : Nat
  /-- Blocks. -/
  blocks : Nat
  /-- Listed instructions. -/
  instructions : Nat
  /-- Listed instructions that are calls. -/
  calls : Nat
deriving DecidableEq, Repr

/-- The listed instructions of a function that are calls. -/
def Func.calls (f : Func) : Lookup (List (ValueId × List ValueId)) := do
  return (← f.instructions.mapM f.value).filterMap (fun v => v.kind.asCall)

/-- **The census of a program.** -/
def Program.census (p : Program) : Lookup Census := do
  let functions := p.functions.toList
  let calls ← functions.mapM (fun f => return (← f.calls).length)
  return {
    functions := functions.countP Func.hasBody
    externals := functions.countP (fun f => !f.hasBody)
    blocks := functions.foldr (fun f n => f.blocks.size + n) 0
    instructions := functions.foldr (fun f n => f.instructions.length + n) 0
    calls := calls.foldr (· + ·) 0 }

end Crosswalk

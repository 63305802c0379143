/-!
# Stopping short

Types, values, functions and blocks are named by their position in a list, and
nothing but a check made once, up front, guarantees that a position exists. A
question asked of an unchecked program can therefore fail in a way that has
nothing to do with the answer: it may be led to a position past the end, or
round a loop of types or values that never comes to an end. Both are *faults*.
They are kept apart from the *causes* a computation reports about its input, so
that no handler of causes can swallow a fault.

## Two layers

A `Lookup` either answers or faults. A `Checked ε` computation answers, faults,
or stops with a cause of type `ε`. Every lookup is a checked computation.
-/

namespace Crosswalk

/-- **Why a question has no answer at all.** -/
inductive Fault where
  /-- A position past the end of its list was followed. -/
  | dangling
  /-- The walk came back to where it had been, and would go on for ever. -/
  | endless
deriving DecidableEq, Repr

/-- A question about positions: answered, or faulted. -/
abbrev Lookup (α : Type) := Except Fault α

/-- **How a computation stops short**: by a fault, or for a cause it reports. -/
inductive Stop (ε : Type) where
  /-- An unchecked position was followed in vain. -/
  | fault (f : Fault)
  /-- The input itself is at fault, in the way `e` says. -/
  | cause (e : ε)
deriving DecidableEq, Repr

/-- A computation that may fault, or stop with a cause of type `ε`. -/
abbrev Checked (ε : Type) (α : Type) := Except (Stop ε) α

namespace Checked

variable {ε δ α : Type}

/-- Stops with the cause `e`. -/
def fail (e : ε) : Checked ε α := .error (.cause e)

/-- A lookup, seen as a checked computation that reports no cause. -/
def ofLookup : Lookup α → Checked ε α
  | .ok a => .ok a
  | .error f => .error (.fault f)

/-- A result without faults, seen as a checked computation. -/
def ofExcept : Except ε α → Checked ε α
  | .ok a => .ok a
  | .error e => .error (.cause e)

/-- Restates the cause. Faults pass through unchanged. -/
def mapCause (g : ε → δ) : Checked ε α → Checked δ α
  | .ok a => .ok a
  | .error (.fault f) => .error (.fault f)
  | .error (.cause e) => .error (.cause (g e))

/-- **Handles causes and nothing else**: the cause becomes part of the answer,
while a fault is still a fault. -/
def attempt : Checked ε α → Lookup (Except ε α)
  | .ok a => .ok (.ok a)
  | .error (.fault f) => .error f
  | .error (.cause e) => .ok (.error e)

end Checked

instance {ε : Type} : MonadLift Lookup (Checked ε) where
  monadLift := Checked.ofLookup

/-- The entry of `xs` at position `i`, or a fault when there is none. -/
def entryAt {α : Type} (xs : Array α) (i : Nat) : Lookup α :=
  match xs[i]? with
  | some x => .ok x
  | none => .error .dangling

section entryAt

variable {α : Type} {xs : Array α} {i : Nat}

theorem entryAt_eq_ok_iff {x : α} : entryAt xs i = .ok x ↔ xs[i]? = some x := by
  unfold entryAt
  cases xs[i]? <;> simp

theorem entryAt_of_size_le (h : xs.size ≤ i) : entryAt xs i = .error .dangling := by
  unfold entryAt
  rw [Array.getElem?_eq_none h]

end entryAt

end Crosswalk

import Crosswalk.Proofs.Program.Mirror
import Mathlib.Logic.Equiv.Defs

/-!
# Declaring functions in another order

A program refers to its functions by position. When they are declared in another order,
every reference has to follow its function to the new position, and every function has to
claim that position; nothing else of the program changes.

The program that results mirrors the one it was made of, with types left as they are
(`Program.mirrors_reorder`). What holds of programs that mirror one another therefore holds
of it.
-/

namespace Crosswalk

variable (ρ : FunctionId → FunctionId)

/-- The value with the function that it refers to renamed. -/
def Value.rename (v : Value) : Value := { v with kind := v.kind.rename ρ }

/-- The function, with the position it claims and those that it refers to renamed. -/
def Func.rename (f : Func) : Func :=
  { f with id := ρ f.id, values := f.values.map (Value.rename ρ) }

/-- A function that was renamed mirrors what it was. -/
theorem Func.mirrors_rename (f : Func) : f.Mirrors ρ Eq (f.rename ρ) where
  id := rfl
  name := rfl
  package := rfl
  file := rfl
  synthetic := rfl
  signature := Signature.mirrors_self (fun _ _ => rfl) (fun _ _ => rfl)
  params := rfl
  blocks := rfl
  values := by
    intro id
    have hvalue : (f.rename ρ).value? id = (f.value? id).map (Value.rename ρ) :=
      Array.getElem?_map
    rw [hvalue]
    cases f.value? id with
    | none => exact .none
    | some v => exact .some ⟨rfl, optionRel_eq_eq_eq ▸ rfl, rfl⟩

namespace Program

variable {p : Program}

/-- **The position that a function is moved to.** A position without a function stays what it
is. -/
def relabel (p : Program) (σ : Equiv.Perm (Fin p.functions.size)) (id : FunctionId) :
    FunctionId :=
  if h : id.index < p.functions.size then ⟨σ ⟨id.index, h⟩⟩ else id

/-- **The program with its functions in another order**: the function at `i` goes to `σ i`, and
whatever refers to it follows. -/
def reorder (p : Program) (σ : Equiv.Perm (Fin p.functions.size)) : Program :=
  { p with functions := Array.ofFn (fun i => p.functions[σ.symm i].rename (p.relabel σ)) }

variable {σ : Equiv.Perm (Fin p.functions.size)} {id : FunctionId}

theorem relabel_of_lt (h : id.index < p.functions.size) :
    p.relabel σ id = ⟨σ ⟨id.index, h⟩⟩ := dif_pos h

theorem relabel_of_le (h : p.functions.size ≤ id.index) : p.relabel σ id = id :=
  dif_neg (Nat.not_lt.mpr h)

/-- Moving functions back undoes the move. -/
theorem relabel_symm_relabel (σ : Equiv.Perm (Fin p.functions.size)) (id : FunctionId) :
    p.relabel σ.symm (p.relabel σ id) = id := by
  by_cases h : id.index < p.functions.size
  · rw [relabel_of_lt h, relabel_of_lt (σ ⟨id.index, h⟩).isLt, Fin.eta, σ.symm_apply_apply]
  · have h := Nat.not_lt.mp h
    rw [relabel_of_le h, relabel_of_le h]

theorem relabel_bijective (σ : Equiv.Perm (Fin p.functions.size)) :
    Function.Bijective (p.relabel σ) :=
  Function.bijective_iff_has_inverse.mpr ⟨p.relabel σ.symm, relabel_symm_relabel σ,
    relabel_symm_relabel σ.symm⟩

theorem function?_eq_none_iff : p.function? id = none ↔ p.functions.size ≤ id.index :=
  Array.getElem?_eq_none_iff

/-- **The functions are where they were moved to.** -/
theorem function?_reorder (σ : Equiv.Perm (Fin p.functions.size)) (id : FunctionId) :
    (p.reorder σ).function? (p.relabel σ id)
      = (p.function? id).map (Func.rename (p.relabel σ)) := by
  have hsize : (p.reorder σ).functions.size = p.functions.size := Array.size_ofFn
  by_cases h : id.index < p.functions.size
  · rw [relabel_of_lt h]
    unfold function? reorder
    rw [Array.getElem?_ofFn, dif_pos (σ ⟨id.index, h⟩).isLt, Fin.eta,
      Array.getElem?_eq_getElem h]
    simp only [σ.symm_apply_apply, Fin.getElem_fin, Option.map_some]
  · have h := Nat.not_lt.mp h
    rw [relabel_of_le h, function?_eq_none_iff.mpr h, function?_eq_none_iff.mpr (hsize ▸ h)]
    rfl

/-- **A program mirrors itself in another order.** -/
theorem mirrors_reorder (p : Program) (σ : Equiv.Perm (Fin p.functions.size)) :
    p.Mirrors (p.relabel σ) Eq (p.reorder σ) where
  package := rfl
  types := rfl
  functions := by
    intro id
    rw [function?_reorder]
    cases p.function? id with
    | none => exact .none
    | some f => exact .some (f.mirrors_rename (p.relabel σ))
  bijective := relabel_bijective σ
  fixed := fun _ h => relabel_of_le (function?_eq_none_iff.mp h)

end Program

end Crosswalk

import Crosswalk.Proofs.Lists
import Crosswalk.Proofs.Outcome

/-!
# Computations that do not fault

A lookup or a checked computation is *safe* when all it may do besides answering is
what nobody holds against it: it may stop for a cause, and where there is something to
go round in it may go round for ever. It never follows a position past the end. What
it answers is described along with it, because the next step is safe only for some
answers.

Whether there is something to go round in is the parameter `loops`. With `loops`
false a safe lookup answers; with `loops` true safety still forbids positions past the
end, of any input whatsoever.
-/

namespace Crosswalk

variable {σ ε δ α β : Type} {loops : Prop}

/-- **The faults that are excused**: that of an endless walk, where there are loops. -/
def Fault.Excused (loops : Prop) : Fault → Prop
  | .dangling => False
  | .endless => loops

/-- Causes are always excused. -/
def Stop.Excused (loops : Prop) : Stop ε → Prop
  | .fault f => f.Excused loops
  | .cause _ => True

/-- **How a computation may end**: with an answer as in `P`, or with a stop that is
excused. -/
def Ends (excused : σ → Prop) (P : α → Prop) : Except σ α → Prop
  | .ok a => P a
  | .error s => excused s

/-- A lookup that does not fault, but for loops. -/
abbrev Lookup.Safe (loops : Prop) (P : α → Prop) (x : Lookup α) : Prop :=
  Ends (Fault.Excused loops) P x

/-- A checked computation that does not fault, but for loops. -/
abbrev Checked.Safe (loops : Prop) (P : α → Prop) (x : Checked ε α) : Prop :=
  Ends (Stop.Excused loops) P x

namespace Ends

variable {excused : σ → Prop} {P Q : α → Prop} {R : β → Prop} {x : Except σ α}

theorem of_eq_ok {a : α} (h : x = .ok a) (hP : P a) : Ends excused P x := by
  rw [h]
  exact hP

theorem pure {a : α} (h : P a) : Ends excused P (Pure.pure a : Except σ α) := h

theorem mono (h : Ends excused P x) (hPQ : ∀ a, P a → Q a) : Ends excused Q x := by
  cases x with
  | ok a => exact hPQ a h
  | error s => exact h

/-- What is answered is kept in mind. -/
theorem known (h : Ends excused P x) : Ends excused (fun a => x = .ok a ∧ P a) x := by
  cases x with
  | ok a => exact ⟨rfl, h⟩
  | error s => exact h

/-- **One step after another**: the second has to end well only for what the first
may answer. -/
theorem bind {f : α → Except σ β} (h : Ends excused P x)
    (hf : ∀ a, P a → Ends excused R (f a)) : Ends excused R (x >>= f) := by
  cases x with
  | ok a => exact hf a h
  | error s => exact h

/-- Whatever is answered is an answer. -/
theorem of_any (x : Except σ α) : Ends (fun _ => True) (fun a => x = .ok a) x := by
  cases x with
  | ok a => rfl
  | error s => trivial

theorem answer {a : α} (h : Ends excused P x) (ha : x = .ok a) : P a := by
  rw [ha] at h
  exact h

theorem stop {s : σ} (h : Ends excused P x) (hs : x = .error s) : excused s := by
  rw [hs] at h
  exact h

/-- **Every member of a list in turn**, each with its answer. -/
theorem forall₂_mapM {f : β → Except σ α} {S : β → α → Prop} {bs : List β}
    (h : ∀ b ∈ bs, Ends excused (S b) (f b)) :
    Ends excused (List.Forall₂ S bs) (bs.mapM f) := by
  induction bs with
  | nil => exact List.Forall₂.nil
  | cons b bs ih =>
    rw [List.mapM_cons]
    refine (h b List.mem_cons_self).bind (fun a ha => ?_)
    refine (ih (fun b' hb' => h b' (List.mem_cons_of_mem b hb'))).bind (fun as has => ?_)
    exact List.Forall₂.cons ha has

/-- Every member of a list in turn, where all may answer the same. -/
theorem mapM {f : β → Except σ α} {bs : List β} (h : ∀ b ∈ bs, Ends excused P (f b)) :
    Ends excused (fun as => ∀ a ∈ as, P a) (bs.mapM f) :=
  (forall₂_mapM (S := fun _ => P) h).mono (fun as has a ha => by
    obtain ⟨b, -, hP⟩ := exists_beside has ha
    exact hP)

/-- What is looked for in a list is found in it, or not at all. -/
theorem findM? {f : α → Except σ Bool} {as : List α}
    (h : ∀ a ∈ as, Ends excused (fun _ => True) (f a)) :
    Ends excused (fun found => ∀ a ∈ found, a ∈ as) (as.findM? f) := by
  induction as with
  | nil => exact nofun
  | cons a as ih =>
    rw [List.findM?]
    refine (h a List.mem_cons_self).bind (fun found _ => ?_)
    cases found with
    | true =>
      intro b hb
      exact Option.some.inj hb ▸ List.mem_cons_self
    | false =>
      refine (ih (fun b hb => h b (List.mem_cons_of_mem a hb))).mono (fun found hfound b hb => ?_)
      exact List.mem_cons_of_mem a (hfound b hb)

end Ends

/-- Without loops a safe lookup answers. -/
theorem Lookup.Safe.exists_ok {P : α → Prop} {x : Lookup α} (h : x.Safe False P) :
    ∃ a, x = .ok a ∧ P a := by
  cases x with
  | ok a => exact ⟨a, rfl, h⟩
  | error f => cases f <;> exact h.elim

/-- **The only fault of a safe computation** is that of an endless walk. -/
theorem Checked.Safe.fault {P : α → Prop} {x : Checked ε α} {f : Fault} (h : x.Safe loops P)
    (hf : x = .error (.fault f)) : f = .endless ∧ loops := by
  have hexcused := h.stop hf
  cases f with
  | dangling => exact hexcused.elim
  | endless => exact ⟨rfl, hexcused⟩

/-! ## From lookups to checked computations -/

/-- A safe lookup is safe among checked computations. -/
theorem Lookup.Safe.lift {P : α → Prop} {x : Lookup α} (h : x.Safe loops P) :
    (liftM x : Checked ε α).Safe loops P := by
  cases x with
  | ok a => exact h
  | error f => exact h

namespace Checked.Safe

variable {P : α → Prop} {x : Checked ε α}

/-- Restating causes keeps a computation safe. -/
theorem mapCause (h : x.Safe loops P) (g : ε → δ) : (x.mapCause g).Safe loops P := by
  match x, h with
  | .ok a, h => exact h
  | .error (.fault f), h => exact h
  | .error (.cause e), _ => exact trivial

/-- Handling causes leaves a safe lookup. -/
theorem attempt (h : x.Safe loops P) : x.attempt.Safe loops (fun _ => True) := by
  match x, h with
  | .ok a, _ => exact trivial
  | .error (.fault f), h => exact h
  | .error (.cause e), _ => exact trivial

theorem ofExcept {x : Except ε α} (h : ∀ a, x = .ok a → P a) :
    (Checked.ofExcept x).Safe loops P := by
  cases x with
  | ok a => exact h a rfl
  | error e => exact trivial

end Checked.Safe

end Crosswalk

import Crosswalk.Fault
import Mathlib.Data.List.Forall2

/-!
# Outcomes

A lookup or a checked computation is put together from smaller ones, and it
comes to an answer only if each of them does. The statements of this module
take such a computation apart at its first step, so that no other proof has to
open one.
-/

namespace Crosswalk

variable {ε α β : Type}

@[simp] theorem ok_bind (a : α) (f : α → Except ε β) : (Except.ok a >>= f) = f a := rfl

@[simp] theorem error_bind (e : ε) (f : α → Except ε β) :
    ((Except.error e : Except ε α) >>= f) = .error e := rfl

@[simp] theorem pure_eq_ok (a : α) : (pure a : Except ε α) = .ok a := rfl

/-- **A computation answers exactly when its first step does**, and what follows
it answers in turn. -/
theorem bind_eq_ok_iff {x : Except ε α} {f : α → Except ε β} {b : β} :
    (x >>= f) = .ok b ↔ ∃ a, x = .ok a ∧ f a = .ok b := by
  cases x with
  | ok a => simp
  | error e => simp

/-- A computation stops where its first step does, or later. -/
theorem bind_eq_error_iff {x : Except ε α} {f : α → Except ε β} {e : ε} :
    (x >>= f) = .error e ↔ x = .error e ∨ ∃ a, x = .ok a ∧ f a = .error e := by
  cases x with
  | ok a => simp
  | error e => simp

/-- Two questions in a row, the second asked only after the first is affirmed,
are affirmed when both are. -/
theorem both_eq_ok_true_iff {x y : Except ε Bool} :
    (x >>= fun r => if r = true then y else pure false) = .ok true
      ↔ x = .ok true ∧ y = .ok true := by
  rcases x with e | r
  · simp
  · cases r <;> simp

/-- **Whether a computation answers**, with an answer that passes a test. -/
def answersWith (test : α → Bool) : Except ε α → Bool
  | .ok a => test a
  | .error _ => false

theorem exists_of_answersWith {test : α → Bool} {x : Except ε α} (h : answersWith test x = true) :
    ∃ a, x = .ok a ∧ test a = true := by
  cases x with
  | ok a => exact ⟨a, rfl, h⟩
  | error e => cases h

/-! ## One computation for each member of a list -/

/-- **Computing for every member of a list** comes to an answer when it does for
each of them, and the answers stand in the same order. -/
theorem mapM_eq_ok_iff {f : α → Except ε β} {as : List α} {bs : List β} :
    as.mapM f = .ok bs ↔ List.Forall₂ (fun a b => f a = .ok b) as bs := by
  induction as generalizing bs with
  | nil =>
    rw [List.mapM_nil]
    constructor
    · intro h
      obtain rfl := Except.ok.inj h
      exact .nil
    · rintro ⟨⟩
      rfl
  | cons a as ih =>
    rw [List.mapM_cons, bind_eq_ok_iff]
    constructor
    · rintro ⟨b, hb, h⟩
      obtain ⟨bs', hbs, h⟩ := bind_eq_ok_iff.mp h
      obtain rfl := Except.ok.inj h
      exact .cons hb (ih.mp hbs)
    · rintro (⟨⟩ | ⟨hb, hbs⟩)
      exact ⟨_, hb, bind_eq_ok_iff.mpr ⟨_, ih.mpr hbs, rfl⟩⟩

theorem exists_mapM_eq_ok {f : α → Except ε β} {as : List α} (h : ∀ a ∈ as, ∃ b, f a = .ok b) :
    ∃ bs, as.mapM f = .ok bs := by
  induction as with
  | nil => exact ⟨[], rfl⟩
  | cons a as ih =>
    obtain ⟨b, hb⟩ := h a List.mem_cons_self
    obtain ⟨bs, hbs⟩ := ih (fun a' ha' => h a' (List.mem_cons_of_mem a ha'))
    exact ⟨b :: bs, mapM_eq_ok_iff.mpr (.cons hb (mapM_eq_ok_iff.mp hbs))⟩

/-- What stops a computation for every member of a list stops it for one of them. -/
theorem exists_of_mapM_eq_error {f : α → Except ε β} {as : List α} {e : ε}
    (h : as.mapM f = .error e) : ∃ a ∈ as, f a = .error e := by
  induction as with
  | nil => cases h
  | cons a as ih =>
    rw [List.mapM_cons] at h
    rcases bind_eq_error_iff.mp h with h | ⟨b, -, h⟩
    · exact ⟨a, List.mem_cons_self, h⟩
    · have h := (bind_eq_error_iff.mp h).resolve_right (fun ⟨_, _, h⟩ => nomatch h)
      obtain ⟨a', ha', h⟩ := ih h
      exact ⟨a', List.mem_cons_of_mem _ ha', h⟩

/-- What is found in a list is a member of it that passes the test. -/
theorem findM?_eq_ok_some {f : α → Except ε Bool} {as : List α} {a : α}
    (h : as.findM? f = .ok (some a)) : a ∈ as ∧ f a = .ok true := by
  induction as with
  | nil => cases h
  | cons b as ih =>
    rw [List.findM?] at h
    obtain ⟨found, hfound, h⟩ := bind_eq_ok_iff.mp h
    cases found with
    | true =>
      obtain rfl := Option.some.inj (Except.ok.inj h)
      exact ⟨List.mem_cons_self, hfound⟩
    | false => exact ⟨List.mem_cons_of_mem _ (ih h).1, (ih h).2⟩

/-! ## Lookups among checked computations -/

theorem liftM_ok (a : α) : (liftM (Except.ok a : Lookup α) : Checked ε α) = .ok a := rfl

theorem liftM_eq_ok_iff {x : Lookup α} {a : α} :
    (liftM x : Checked ε α) = .ok a ↔ x = .ok a := by
  cases x with
  | ok b => exact ⟨fun h => congrArg _ (Except.ok.inj h), fun h => congrArg _ (Except.ok.inj h)⟩
  | error f => exact ⟨nofun, nofun⟩

/-- A lookup has no cause to stop for. -/
theorem liftM_ne_cause {x : Lookup α} {e : ε} : (liftM x : Checked ε α) ≠ .error (.cause e) := by
  cases x with
  | ok a => exact nofun
  | error f => exact nofun

theorem mapCause_eq_ok_iff {δ : Type} {x : Checked ε α} {g : ε → δ} {a : α} :
    x.mapCause g = .ok a ↔ x = .ok a := by
  match x with
  | .ok b => exact ⟨fun h => congrArg _ (Except.ok.inj h), fun h => congrArg _ (Except.ok.inj h)⟩
  | .error (.fault f) => exact ⟨nofun, nofun⟩
  | .error (.cause e) => exact ⟨nofun, nofun⟩

/-- A restated cause is that of another one. -/
theorem mapCause_eq_cause_iff {δ : Type} {x : Checked ε α} {g : ε → δ} {d : δ} :
    x.mapCause g = .error (.cause d) ↔ ∃ e, x = .error (.cause e) ∧ d = g e := by
  match x with
  | .ok b => exact ⟨nofun, fun ⟨_, h, _⟩ => nomatch h⟩
  | .error (.fault f) => exact ⟨nofun, fun ⟨_, h, _⟩ => nomatch h⟩
  | .error (.cause e) =>
    constructor
    · intro h
      exact ⟨e, rfl, (Stop.cause.inj (Except.error.inj h)).symm⟩
    · rintro ⟨e', h, rfl⟩
      obtain rfl := Stop.cause.inj (Except.error.inj h)
      rfl

theorem ofExcept_eq_ok_iff {x : Except ε α} {a : α} :
    Checked.ofExcept x = .ok a ↔ x = .ok a := by
  cases x with
  | ok b => exact ⟨fun h => congrArg _ (Except.ok.inj h), fun h => congrArg _ (Except.ok.inj h)⟩
  | error e => exact ⟨nofun, nofun⟩

end Crosswalk

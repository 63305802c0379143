import Crosswalk.Proofs.Outcome

/-!
# Computations in step

Two computations of the same shape, run on inputs that say the same in other words, stop
together and for the same reason, or answer together; and what they answer says the same
in other words again. Such computations are *in step*.

What "the same in other words" means is a relation between answers, and differs from one
step to the next. Each rule here says how it passes through one way of putting
computations together, so that a program may be gone through once for all such relations.
-/

namespace Crosswalk

variable {σ ε δ α β α' β' γ : Type}

/-- **The computations stop alike, or answer as in `R`.** -/
inductive InStep (R : α → β → Prop) : Except σ α → Except σ β → Prop
  /-- Both answer. -/
  | ok {a : α} {b : β} (h : R a b) : InStep R (.ok a) (.ok b)
  /-- Both stop. -/
  | error (s : σ) : InStep R (.error s) (.error s)

namespace InStep

variable {R S : α → β → Prop} {T : α' → β' → Prop} {x : Except σ α} {y : Except σ β}

theorem of_eq {y : Except σ α} (h : x = y) : InStep Eq x y := by
  subst h
  cases x with
  | ok a => exact .ok rfl
  | error s => exact .error s

theorem refl (x : Except σ α) : InStep Eq x x := .of_eq rfl

theorem eq {y : Except σ α} (h : InStep Eq x y) : x = y := by
  cases h with
  | ok h => rw [h]
  | error s => rfl

/-- Where both answer alike, they are in step. -/
theorem of_ok {a : α} {b : β} (ha : x = .ok a) (hb : y = .ok b) (h : R a b) : InStep R x y := by
  rw [ha, hb]
  exact .ok h

/-- Answers of computations in step are related. -/
theorem answer {a : α} {b : β} (h : InStep R x y) (ha : x = .ok a) (hb : y = .ok b) : R a b := by
  rw [ha, hb] at h
  cases h with
  | ok h => exact h

theorem exists_right {a : α} (h : InStep R x y) (ha : x = .ok a) : ∃ b, y = .ok b ∧ R a b := by
  rw [ha] at h
  cases h with
  | ok h => exact ⟨_, rfl, h⟩

theorem exists_left {b : β} (h : InStep R x y) (hb : y = .ok b) : ∃ a, x = .ok a ∧ R a b := by
  rw [hb] at h
  cases h with
  | ok h => exact ⟨_, rfl, h⟩

theorem exists_ok_iff (h : InStep R x y) : (∃ a, x = .ok a) ↔ ∃ b, y = .ok b := by
  cases h with
  | ok h => exact ⟨fun _ => ⟨_, rfl⟩, fun _ => ⟨_, rfl⟩⟩
  | error s => exact ⟨nofun, nofun⟩

theorem mono (h : InStep R x y) (hRS : ∀ a b, R a b → S a b) : InStep S x y := by
  cases h with
  | ok h => exact .ok (hRS _ _ h)
  | error s => exact .error s

/-- What is answered is kept in mind. -/
theorem known (h : InStep R x y) : InStep (fun a b => R a b ∧ x = .ok a ∧ y = .ok b) x y := by
  cases h with
  | ok h => exact .ok ⟨h, rfl, rfl⟩
  | error s => exact .error s

/-- **One step after another**: the second is in step for whatever the first may answer. -/
theorem bind {f : α → Except σ α'} {g : β → Except σ β'} (h : InStep R x y)
    (hfg : ∀ a b, R a b → InStep T (f a) (g b)) : InStep T (x >>= f) (y >>= g) := by
  cases h with
  | ok h => exact hfg _ _ h
  | error s => exact .error s

/-- What both answer is put to use in step. -/
theorem bind_eq {y : Except σ α} {f : α → Except σ α'} {g : α → Except σ β'} (h : InStep Eq x y)
    (hfg : ∀ a, InStep T (f a) (g a)) : InStep T (x >>= f) (y >>= g) :=
  h.bind (fun a _ hab => hab ▸ hfg a)

/-- Answers that are put to use in the same way. -/
theorem map {f : α → α'} {g : β → β'} (h : InStep R x y) (hfg : ∀ a b, R a b → T (f a) (g b)) :
    InStep T (x >>= fun a => .ok (f a)) (y >>= fun b => .ok (g b)) :=
  h.bind (fun a b hab => .ok (hfg a b hab))

/-- **Every member of two lists in turn.** -/
theorem mapM {f : α → Except σ α'} {g : β → Except σ β'} {as : List α} {bs : List β}
    (h : List.Forall₂ (fun a b => InStep T (f a) (g b)) as bs) :
    InStep (List.Forall₂ T) (as.mapM f) (bs.mapM g) := by
  induction h with
  | nil => exact .ok .nil
  | cons hab _ ih =>
    rw [List.mapM_cons, List.mapM_cons]
    exact hab.bind (fun _ _ hab => ih.bind (fun _ _ hrest => .ok (.cons hab hrest)))

theorem mapM_eq {f : α → Except σ γ} {g : β → Except σ γ} {as : List α} {bs : List β}
    (h : List.Forall₂ (fun a b => InStep Eq (f a) (g b)) as bs) :
    InStep Eq (as.mapM f) (bs.mapM g) :=
  (mapM h).mono (fun _ _ hab => List.forall₂_eq_eq_eq ▸ hab)

/-- The same is found in two lists, or nothing in either. -/
theorem findM? {f : α → Except σ Bool} {g : β → Except σ Bool} {as : List α} {bs : List β}
    (hlists : List.Forall₂ R as bs) (h : ∀ a b, R a b → InStep Eq (f a) (g b)) :
    InStep (Option.Rel R) (as.findM? f) (bs.findM? g) := by
  induction hlists with
  | nil => exact .ok .none
  | cons hab _ ih =>
    rw [List.findM?, List.findM?]
    refine (h _ _ hab).bind (fun found _ heq => ?_)
    subst heq
    cases found with
    | true => exact .ok (.some hab)
    | false => exact ih

/-- Yes-or-no questions that are both answered are in step if they are affirmed alike. -/
theorem of_iff {x y : Except σ Bool} {r r' : Bool} (hx : x = .ok r) (hy : y = .ok r')
    (h : x = .ok true ↔ y = .ok true) : InStep Eq x y := by
  subst hx hy
  cases r with
  | true => exact .of_eq (h.mp rfl).symm
  | false =>
    cases r' with
    | true => cases h.mpr rfl
    | false => exact .refl _

end InStep

/-! ## What may not be there

Two options are related when both are there and related, or neither is. -/

section optionRel

variable {R : α → β → Prop} {x : Option α} {y : Option β}

theorem optionRel_eq_eq_eq : (Option.Rel Eq : Option α → Option α → Prop) = Eq := by
  funext a b
  refine propext ⟨fun h => ?_, fun h => ?_⟩
  · cases h with
    | some h => rw [h]
    | none => rfl
  · subst h
    cases a with
    | none => exact .none
    | some a => exact .some rfl

theorem optionRel_imp {S : α → β → Prop} (h : Option.Rel R x y) (hRS : ∀ a b, R a b → S a b) :
    Option.Rel S x y := by
  cases h with
  | some h => exact .some (hRS _ _ h)
  | none => exact .none

theorem exists_right_of_optionRel {a : α} (h : Option.Rel R x y) (hx : x = some a) :
    ∃ b, y = some b ∧ R a b := by
  subst hx
  cases h with
  | some h => exact ⟨_, rfl, h⟩

theorem exists_left_of_optionRel {b : β} (h : Option.Rel R x y) (hy : y = some b) :
    ∃ a, x = some a ∧ R a b := by
  subst hy
  cases h with
  | some h => exact ⟨_, rfl, h⟩

/-- Options are related if what is there on either side has something beside it. -/
theorem optionRel_of_exists (h : ∀ a, x = some a → ∃ b, y = some b ∧ R a b)
    (h' : ∀ b, y = some b → ∃ a, x = some a) : Option.Rel R x y := by
  cases x with
  | some a =>
    obtain ⟨b, rfl, hab⟩ := h a rfl
    exact .some hab
  | none =>
    cases y with
    | none => exact .none
    | some b =>
      obtain ⟨a, ha⟩ := h' b rfl
      cases ha

theorem eq_none_iff_of_optionRel (h : Option.Rel R x y) : x = none ↔ y = none := by
  cases h with
  | some h => exact ⟨nofun, nofun⟩
  | none => exact ⟨fun _ => rfl, fun _ => rfl⟩

theorem isSome_eq_of_optionRel (h : Option.Rel R x y) : x.isSome = y.isSome := by
  cases h <;> rfl

theorem forall₂_toList_of_optionRel (h : Option.Rel R x y) :
    List.Forall₂ R x.toList y.toList := by
  cases h with
  | some h => exact .cons h .nil
  | none => exact .nil

/-- The same place of two lists. -/
theorem optionRel_getElem? {as : List α} {bs : List β} (h : List.Forall₂ R as bs) (i : Nat) :
    Option.Rel R as[i]? bs[i]? := by
  induction h generalizing i with
  | nil => exact .none
  | cons hab _ ih =>
    cases i with
    | zero => exact .some hab
    | succ i => exact ih i

theorem forall₂_of_optionRel_getElem? {as : List α} {bs : List β}
    (h : ∀ i : Nat, Option.Rel R as[i]? bs[i]?) : List.Forall₂ R as bs := by
  induction as generalizing bs with
  | nil =>
    cases bs with
    | nil => exact .nil
    | cons b bs => cases h 0
  | cons a as ih =>
    cases bs with
    | nil => cases h 0
    | cons b bs =>
      cases h 0 with
      | some hab => exact .cons hab (ih (fun i => h (i + 1)))

theorem optionRel_getLast? {as : List α} {bs : List β} (h : List.Forall₂ R as bs) :
    Option.Rel R as.getLast? bs.getLast? := by
  rw [List.getLast?_eq_getElem?, List.getLast?_eq_getElem?, h.length_eq]
  exact optionRel_getElem? h _

/-- What passes a test that related members pass alike. -/
theorem optionRel_find? {as : List α} {bs : List β} {test : α → Bool} {test' : β → Bool}
    (h : List.Forall₂ R as bs) (htest : ∀ a b, R a b → test a = test' b) :
    Option.Rel R (as.find? test) (bs.find? test') := by
  induction h with
  | nil => exact .none
  | @cons a b as bs hab _ ih =>
    rw [List.find?_cons, List.find?_cons, ← htest a b hab]
    cases test a with
    | true => exact .some hab
    | false => exact ih

/-- What is related to itself in every place, and to what it becomes in one, is related to the
array with that place changed. -/
theorem optionRel_getElem?_modify {S : α → α → Prop} {xs : Array α} {i : Nat}
    {change : α → α} (hself : ∀ (j : Nat) a, xs[j]? = some a → S a a)
    (hchange : ∀ a, xs[i]? = some a → S a (change a)) (j : Nat) :
    Option.Rel S xs[j]? (xs.modify i change)[j]? := by
  rw [Array.getElem?_modify]
  split
  · rename_i hij
    subst hij
    cases ha : xs[i]? with
    | none => exact .none
    | some a => exact .some (hchange a ha)
  · cases ha : xs[j]? with
    | none => exact .none
    | some a => exact .some (hself j a ha)

end optionRel

/-! ## Lookups among checked computations -/

namespace InStep

variable {R : α → β → Prop}

/-- Two positions with related entries. -/
theorem entryAt {xs : Array α} {ys : Array β} {i j : Nat} (h : Option.Rel R xs[i]? ys[j]?) :
    InStep R (entryAt xs i) (entryAt ys j) := by
  unfold Crosswalk.entryAt
  cases hx : xs[i]? with
  | none =>
    rw [hx] at h
    rw [(eq_none_iff_of_optionRel h).mp rfl]
    exact .error _
  | some x =>
    obtain ⟨y, hy, hxy⟩ := exists_right_of_optionRel h hx
    rw [hy]
    exact .ok hxy

theorem lift {x : Lookup α} {y : Lookup β} (h : InStep R x y) :
    InStep R (liftM x : Checked ε α) (liftM y : Checked ε β) := by
  cases h with
  | ok h => exact .ok h
  | error f => exact .error _

/-- Causes that are restated alike. -/
theorem mapCause {x : Checked ε α} {y : Checked ε β} (h : InStep R x y) (g : ε → δ) :
    InStep R (x.mapCause g) (y.mapCause g) := by
  cases h with
  | ok h => exact .ok h
  | error s =>
    cases s with
    | fault f => exact .error _
    | cause e => exact .error _

/-- Handling causes leaves answers that are in step. -/
theorem attempt {x : Checked ε α} {y : Checked ε β} (h : InStep R x y) :
    InStep (InStep R) x.attempt y.attempt := by
  cases h with
  | ok h => exact .ok (.ok h)
  | error s =>
    cases s with
    | fault f => exact .error f
    | cause e => exact .ok (.error e)

theorem fail (e : ε) : InStep R (Checked.fail e : Checked ε α) (Checked.fail e) := .error _

end InStep

end Crosswalk

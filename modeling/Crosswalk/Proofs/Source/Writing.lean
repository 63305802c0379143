import Crosswalk.Source.Naming
import Mathlib.Data.List.Forall2

/-!
# What has been written

Writing may stop short at every step. What has been written in full came of each
of its steps in turn, whatever names were used up on the way.
-/

namespace Crosswalk

namespace Writing

variable {α β : Type} {names names' : Names} {x : Writing α} {f : α → Writing β} {a : α} {b : β}

theorem bind_eq_ok_iff :
    (x >>= f) names = .ok b names' ↔
      ∃ a between, x names = .ok a between ∧ f a between = .ok b names' := by
  show EStateM.bind x f names = _ ↔ _
  unfold EStateM.bind
  cases x names with
  | ok a between =>
    constructor
    · exact fun h => ⟨a, between, rfl, h⟩
    · rintro ⟨a', between', h, h'⟩
      obtain ⟨rfl, rfl⟩ := EStateM.Result.ok.inj h
      exact h'
  | error e between => exact ⟨nofun, fun ⟨_, _, h, _⟩ => nomatch h⟩

theorem pure_eq_ok_iff {c : α} :
    (pure a : Writing α) names = .ok c names' ↔ a = c ∧ names = names' := by
  constructor
  · exact fun h => EStateM.Result.ok.inj h
  · rintro ⟨rfl, rfl⟩
    rfl

theorem liftM_eq_ok_iff {y : Lookup α} :
    (liftM y : Writing α) names = .ok a names' ↔ y = .ok a ∧ names = names' := by
  cases y with
  | ok c =>
    refine ⟨fun h => ?_, ?_⟩
    · obtain ⟨rfl, rfl⟩ := EStateM.Result.ok.inj h
      exact ⟨rfl, rfl⟩
    · rintro ⟨h, rfl⟩
      obtain rfl := Except.ok.inj h
      rfl
  | error f => exact ⟨nofun, fun ⟨h, _⟩ => nomatch h⟩

/-- **Writing something for every member of a list**: each of the results was
written at some point. -/
theorem forall₂_of_mapM {as : List α} {bs : List β} (h : as.mapM f names = .ok bs names') :
    List.Forall₂ (fun a b => ∃ before after, f a before = .ok b after) as bs := by
  induction as generalizing bs names with
  | nil =>
    rw [List.mapM_nil] at h
    obtain ⟨rfl, -⟩ := pure_eq_ok_iff.mp h
    exact .nil
  | cons a as ih =>
    rw [List.mapM_cons] at h
    obtain ⟨b, between, hb, h⟩ := bind_eq_ok_iff.mp h
    obtain ⟨bs', between', hbs, h⟩ := bind_eq_ok_iff.mp h
    obtain ⟨rfl, rfl⟩ := pure_eq_ok_iff.mp h
    exact .cons ⟨names, between, hb⟩ (ih hbs)

end Writing

end Crosswalk

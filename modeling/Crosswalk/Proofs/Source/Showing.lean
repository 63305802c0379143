import Crosswalk.Proofs.Source.Mentions
import Crosswalk.Proofs.Source.Safe

/-!
# Types of any table

Types are shown in error texts, also those of tables that nobody has validated, and it is while
they are spelled that it comes out whether they can be. So both should come to an end whatever
the table is like: there is a text for a position past the end, and an error for a type that has
no spelling.

They do, for just the types that can be shown (`TypeTable.Showable`). Where no literal contains
itself these are all types, if the last parameter of every variadic function is there and is not
given by name (`TypeTable.TakesPlainly`). If it is given by name, its elements are looked up behind
the name as in a table that has been validated.
-/

namespace Crosswalk

/-- The errors that spelling a type may come to. -/
def EmitError.OfSpelling : EmitError → Prop
  | .unsupportedType _ | .importConflict .. => True
  | .unsupportedMapping .. => False

/-- An error of spelling, and no fault. -/
def Stop.OfSpelling (stop : Stop EmitError) : Prop := ∃ e, stop = .cause e ∧ e.OfSpelling

theorem Writing.importPackage_ends (path : String) :
    (importPackage path).Ends Stop.OfSpelling (fun _ => True) := by
  intro names
  unfold importPackage
  cases hadd : names.imports.add path with
  | ok imports => trivial
  | error e =>
    refine ⟨e, rfl, ?_⟩
    unfold Imports.add at hadd
    split at hadd
    · cases hadd
    · split at hadd
      · obtain rfl := Except.error.inj hadd
        trivial
      · cases hadd

namespace TypeTable

variable {t : TypeTable} {id a b p : TypeId} {k : TypeKind} {n : Nat} {home : String}

/-- A type that has no spelling is shown in the error. -/
theorem Showable.unsupported_ends {α : Type} {P : α → Prop} (h : t.Showable id) :
    (t.unsupported id : Writing α).Ends Stop.OfSpelling P := by
  obtain ⟨text, htext⟩ := exists_display_iff.mpr h
  exact (Writing.Ends.of_lookup (P := fun _ => True) (.of_eq_ok htext trivial)).bind
    (fun _ _ _ => ⟨_, rfl, trivial⟩)

/-- **Spelling a type that can be shown** comes to a spelling or to an error of spelling. -/
theorem Showable.spellTo_ends (h : t.Showable id) (hn : Within t.Shows n id) :
    (t.spellTo home n id).Ends Stop.OfSpelling (fun _ => True) := by
  induction n generalizing id with
  | zero => exact hn.elim
  | succ n ih =>
    refine Writing.Ends.stepwise.spellTo_succ h.unsupported_ends Writing.importPackage_ends
      (fun b hb => ih (h.of_shows hb) (hn b hb)) (fun params results p hk hp => ?_)
    obtain ⟨e, he⟩ := exists_restElem_iff.mpr (h.found id .refl params results p hk hp)
    exact .of_lookup (.of_eq_ok he he)

/-! ## Variadic functions that take nothing by name -/

/-- **The last parameter of every variadic function** is there, and is not given by name. -/
def TakesPlainly (t : TypeTable) : Prop :=
  ∀ a params results p, t.kind? a = some (.signature params results true) →
    params.getLast? = some p → ∃ k, t.kind? p = some k ∧ k.IsBare

theorem not_strays_of_isBare (hk : t.kind? p = some k) (hbare : k.IsBare) : ¬ t.Strays p := by
  intro h
  cases h with
  | missing h => cases h.symm.trans hk
  | named hp h =>
    obtain ⟨name, package, hk'⟩ := hp
    obtain rfl := Option.some.inj (hk.symm.trans hk')
    cases hbare

/-- The elements of what is not given by name are a part of it. -/
theorem contains_of_elem (hk : t.kind? p = some k) (hbare : k.IsBare)
    (h : t.elem p = .ok (some b)) : t.Contains p b := by
  refine ⟨k, hk, hbare, ?_⟩
  rw [elem, underlying_of_isBare hk hbare, ok_bind, kind_of_kind? hk, ok_bind] at h
  split at h
  · exact Option.some.inj (Except.ok.inj h) ▸ List.mem_cons_self
  · exact Option.some.inj (Except.ok.inj h) ▸ List.mem_cons_self
  · cases h

/-- Then nothing is met that is not inside. -/
theorem TakesPlainly.transGen_contains (ht : t.TakesPlainly) (h : t.Shows a b) :
    Relation.TransGen t.Contains a b := by
  cases Unfolds.of_shows h with
  | part h => exact .single h
  | @rest params results p b hk hp hb =>
    obtain ⟨k, hkp, hbare⟩ := ht a params results p hk hp
    have hpart : t.Contains a p :=
      ⟨_, hk, rfl, List.mem_append_left _ (List.mem_of_getLast? hp)⟩
    exact .head hpart (.single (contains_of_elem hkp hbare hb))

theorem TakesPlainly.showable (ht : t.TakesPlainly)
    (hgrounded : ∀ a, ¬ Relation.TransGen t.Contains a a) (id : TypeId) : t.Showable id where
  found := by
    intro a _ params results p hk hp
    obtain ⟨k, hkp, hbare⟩ := ht a params results p hk hp
    exact not_strays_of_isBare hkp hbare
  ends := fun a _ hcycle =>
    hgrounded a (hcycle.lift' (fun x => x) (fun _ _ => ht.transGen_contains))

/-- **What can be shown is shown and spelled**: a type has a text just if it can be shown, what is
past the end stands in the text as such, and spelling the type comes to a spelling or to an error of
spelling. Where no literal contains itself, and variadic functions take nothing by name, this is so
of every position, whether it exists or not. -/
theorem showable_exact (t : TypeTable) (id : TypeId) :
    ((∃ text, t.display id = .ok text) ↔ t.Showable id) ∧
    (∀ text, t.display id = .ok text → ∀ a, Relation.ReflTransGen t.Shows id a → ¬ t.Has a →
      Occurs ("<invalid " ++ a.label ++ ">") text) ∧
    (t.Showable id → ∀ home names,
      (∃ text names', t.spell home id names = .ok text names') ∨
        ∃ e names', t.spell home id names = .error (.cause e) names' ∧ e.OfSpelling) ∧
    ((∀ a, ¬ Relation.TransGen t.Contains a a) → t.TakesPlainly → t.Showable id) := by
  refine ⟨exists_display_iff, fun text htext a ha hmissing => ?_, fun h home names => ?_,
    fun hgrounded ht => ht.showable hgrounded id⟩
  · exact ((displayTo_eq_ok htext).2 a ha).1 (Option.not_isSome_iff_eq_none.mp hmissing)
  · have hwriting : (t.spell home id).Ends Stop.OfSpelling (fun _ => True) :=
      h.spellTo_ends (within_shows_iff.mpr h.ends)
    have hends := hwriting names
    cases hrun : t.spell home id names with
    | ok text names' => exact .inl ⟨text, names', rfl⟩
    | error stop names' =>
      rw [hrun] at hends
      obtain ⟨e, rfl, he⟩ := hends
      exact .inr ⟨e, names', rfl, he⟩

/-- The type of a variadic function whose parameter is past the end. -/
def danglingRest : TypeTable := ⟨#[.signature [⟨5⟩] [] true]⟩

/-- The types of `type T []func(...T)`. -/
def restOfItself : TypeTable :=
  ⟨#[.signature [⟨1⟩] [] true, .named "T" (some "example.com/demo") ⟨2⟩, .slice ⟨0⟩]⟩

/-- **Not every type can be shown**, though no literal contains itself: a position past the end is
followed, or there is no end. -/
theorem not_showable :
    ((∀ a, ¬ Relation.TransGen danglingRest.Contains a a) ∧
      danglingRest.display ⟨0⟩ = .error .dangling ∧
      danglingRest.spell "example.com/demo" ⟨0⟩ .empty = .error (.fault .dangling) .empty) ∧
    ((∀ a, ¬ Relation.TransGen restOfItself.Contains a a) ∧
      restOfItself.display ⟨0⟩ = .error .endless ∧
      restOfItself.spell "example.com/demo" ⟨0⟩ .empty = .error (.fault .endless) .empty) := by
  refine ⟨⟨?_, by decide +kernel, rfl⟩, ⟨?_, by decide +kernel, rfl⟩⟩
  · exact not_transGen_contains (fun id => if id.index = 0 then 1 else 0) (by decide)
  · exact not_transGen_contains (fun id => [1, 0, 2].getD id.index 0) (by decide)

end TypeTable

end Crosswalk

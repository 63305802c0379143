import Crosswalk.Proofs.Descent
import Crosswalk.Proofs.Safe
import Crosswalk.Proofs.Types.Chain
import Crosswalk.Proofs.Types.Identity

/-!
# Well-formed tables

A type checker stands in front of every dump, and what it accepts is more
regular than what validation asks for. Besides being closed, a table that came
through it has no literal inside itself, no name without a type behind it, and
no two declarations of one name that differ.

Questions about such a table are always answered. The depth that identity is
given is enough, because a descent through literals that do not contain
themselves is no longer than the table.
-/

namespace Crosswalk

/-- The name that a named entry declares, with its package. -/
def TypeKind.title? : TypeKind → Option (String × Option String)
  | .named name package _ => some (name, package)
  | _ => none

namespace TypeTable

variable {t : TypeTable} {n : Nat} {id a b u v : TypeId} {k ka kb : TypeKind} {loops : Prop}

/-- `b` is a part of the literal at `a`. -/
def Contains (t : TypeTable) (a b : TypeId) : Prop :=
  ∃ k, t.kind? a = some k ∧ k.IsBare ∧ b ∈ k.parts

/-- **What a type checker guarantees of the types it lets through.** -/
structure WellFormed (t : TypeTable) : Prop where
  /-- Every position that is mentioned exists. -/
  closed : t.Closed
  /-- No literal contains itself, unless by name. -/
  grounded : ∀ id, ¬ Relation.TransGen t.Contains id id
  /-- Behind the names of a type stands another one, and not that of `nil`. -/
  settled : ∀ id name package u, t.kind? id = some (.named name package u) →
    ∃ path v, t.Leads TypeKind.declared? path id v ∧ t.kind? v ≠ some (.basic .untypedNil)
  /-- Declarations of one name declare one type. -/
  agreed : ∀ a b name package u v, t.kind? a = some (.named name package u) →
    t.kind? b = some (.named name package v) →
    ∃ x y, t.underlying a = .ok x ∧ t.underlying b = .ok y ∧ t.identical x y = .ok true

/-! ## Depth of literals -/

/-- From the position one can descend fewer than `n` literals deep. -/
def Shallow (t : TypeTable) : Nat → TypeId → Prop
  | 0, _ => False
  | n + 1, a => ∀ b, t.Contains a b → t.Shallow n b

theorem shallow_of_within (h : Within t.Contains n a) : t.Shallow n a := by
  induction n generalizing a with
  | zero => exact h
  | succ n ih => exact fun b hb => ih (h b hb)

/-- A descent stays within a closed table. -/
theorem Contains.has (h : t.Contains a b) (ht : t.Closed) : t.Has b := by
  obtain ⟨k, hk, -, hb⟩ := h
  exact ht a k hk b hb

/-- **No descent is longer than the table** where no literal contains itself. -/
theorem Closed.shallow (ht : t.Closed) (h : ∀ id, ¬ Relation.TransGen t.Contains id id)
    (a : TypeId) : t.Shallow (t.size + 1) a :=
  shallow_of_within (within_of_acyclic index_injective
    (fun _ _ hab => has_iff_lt.mp (hab.has ht)) h a)

theorem WellFormed.shallow (ht : t.WellFormed) (a : TypeId) : t.Shallow (t.size + 1) a :=
  ht.closed.shallow ht.grounded a

/-! ## Identity answers -/

theorem agreeAll_safe {α β : Type} {agree : α → β → Lookup Bool} {as : List α} {bs : List β}
    (h : ∀ a ∈ as, ∀ b ∈ bs, (agree a b).Safe loops (fun _ => True)) :
    (agreeAll agree as bs).Safe loops (fun _ => True) := by
  suffices (agreeEach agree as bs).Safe loops (fun _ => True) by
    unfold agreeAll
    split
    · exact this
    · exact trivial
  induction as generalizing bs with
  | nil => exact trivial
  | cons a as ih =>
    cases bs with
    | nil => exact trivial
    | cons b bs =>
      refine (h a List.mem_cons_self b List.mem_cons_self).bind (fun r _ => ?_)
      cases r with
      | false => exact trivial
      | true =>
        exact ih (fun a ha b hb => h a (List.mem_cons_of_mem _ ha) b (List.mem_cons_of_mem _ hb))

/-- One level of a comparison is safe when comparing parts is. -/
theorem identicalTo_succ_safe (ha : t.kind? a = some ka) (hb : t.kind? b = some kb)
    (h : ka.IsBare → ∀ x ∈ ka.parts, ∀ y ∈ kb.parts,
      (t.identicalTo n x y).Safe loops (fun _ => True)) :
    (t.identicalTo (n + 1) a b).Safe loops (fun _ => True) := by
  by_cases hab : a = b
  · subst hab
    exact .of_eq_ok (identicalTo_self t _ a) trivial
  rw [identicalTo, if_neg hab, kind_of_kind? ha, kind_of_kind? hb, ok_bind, ok_bind]
  -- names are compared as they stand, so only parts of bare kinds are asked about
  split
  · exact trivial
  · exact trivial
  · exact h rfl _ List.mem_cons_self _ List.mem_cons_self
  · exact h rfl _ List.mem_cons_self _ List.mem_cons_self
  · split
    · exact h rfl _ List.mem_cons_self _ List.mem_cons_self
    · exact trivial
  · refine (h rfl _ List.mem_cons_self _ List.mem_cons_self).bind (fun r _ => ?_)
    cases r with
    | false => exact trivial
    | true =>
      refine h rfl _ ?_ _ ?_
      all_goals exact List.mem_cons_of_mem _ List.mem_cons_self
  · refine agreeAll_safe (fun f hf g hg => ?_)
    split
    · exact h rfl _ (List.mem_map_of_mem hf) _ (List.mem_map_of_mem hg)
    · exact trivial
  · exact trivial
  · split
    · refine (agreeAll_safe (fun x hx y hy =>
        h rfl x (List.mem_append_left _ hx) y (List.mem_append_left _ hy))).bind (fun r _ => ?_)
      cases r with
      | false => exact trivial
      | true =>
        exact agreeAll_safe (fun x hx y hy =>
          h rfl x (List.mem_append_right _ hx) y (List.mem_append_right _ hy))
    · exact trivial
  · exact agreeAll_safe (fun x hx y hy => h rfl x hx y hy)
  · exact trivial

/-- **A comparison follows no position past the end**, and it ends if the literals are not
too deep. -/
theorem identicalTo_safe (ht : t.Closed) (h : loops ∨ t.Shallow n a) (ha : t.Has a)
    (hb : t.Has b) : (t.identicalTo n a b).Safe loops (fun _ => True) := by
  induction n generalizing a b with
  | zero =>
    rw [identicalTo]
    split
    · exact trivial
    · exact h.resolve_right not_false
  | succ n ih =>
    obtain ⟨ka, hka⟩ := exists_kind_of_has ha
    obtain ⟨kb, hkb⟩ := exists_kind_of_has hb
    refine identicalTo_succ_safe hka hkb (fun hbare x hx y hy => ?_)
    exact ih (h.imp_right (fun h => h x ⟨ka, hka, hbare, hx⟩)) (ht a ka hka x hx)
      (ht b kb hkb y hy)

namespace WellFormed

/-! ## What is behind the names -/

/-- Behind the names of every type stands a bare one. -/
theorem exists_leads (ht : t.WellFormed) (ha : t.Has a) :
    ∃ path v, t.Leads TypeKind.declared? path a v := by
  obtain ⟨k, hk⟩ := exists_kind_of_has ha
  cases hstep : k.declared? with
  | none => exact ⟨[], a, .stop hk hstep⟩
  | some u =>
    obtain ⟨name, package, rfl⟩ := TypeKind.declared?_eq_some hstep
    obtain ⟨path, v, h, -⟩ := ht.settled a name package u hk
    exact ⟨path, v, h⟩

/-- Taking one name off changes nothing about what is behind all of them. -/
theorem underlying_eq {name : String} {package : Option String} (ht : t.WellFormed)
    (hk : t.kind? a = some (.named name package u)) : t.underlying a = t.underlying u := by
  obtain ⟨path, v, h, -⟩ := ht.settled a name package u hk
  rw [underlying_of_leads h]
  cases h with
  | stop hk' hstep =>
    obtain rfl := Option.some.inj (hk.symm.trans hk')
    cases hstep
  | next hk' hstep h =>
    obtain rfl := Option.some.inj (hk.symm.trans hk')
    obtain rfl := Option.some.inj hstep
    exact (underlying_of_leads h).symm

/-- **Identical types are identical behind their names.** -/
theorem identical_underlying (ht : t.WellFormed) (h : t.identical a b = .ok true)
    (hu : t.underlying a = .ok u) (hv : t.underlying b = .ok v) : t.identical u v = .ok true := by
  rcases identical_iff.mp h with rfl | ⟨ka, kb, hka, hkb, halike⟩
  · obtain rfl := Except.ok.inj (hu.symm.trans hv)
    exact identical_self t u
  cases hstep : ka.declared? with
  | some u' =>
    obtain ⟨name, package, rfl⟩ := TypeKind.declared?_eq_some hstep
    cases halike with
    | named _ _ _ v' =>
      obtain ⟨x, y, hx, hy, hxy⟩ := ht.agreed a b _ _ _ _ hka hkb
      obtain rfl := Except.ok.inj (hu.symm.trans hx)
      obtain rfl := Except.ok.inj (hv.symm.trans hy)
      exact hxy
  | none =>
    have hbare : kb.IsBare := by
      cases halike with
      | named => cases hstep
      | _ => rfl
    obtain rfl := Except.ok.inj (hu.symm.trans (underlying_of_isBare hka hstep))
    obtain rfl := Except.ok.inj (hv.symm.trans (underlying_of_isBare hkb hbare))
    exact h

end WellFormed

/-! ## Small tables

Where no entry mentions itself or a later one there is nothing to go round in, and where
no name is declared twice no two declarations differ. -/

/-- **Every entry mentions earlier entries only.** -/
def Descending (t : TypeTable) : Prop :=
  ∀ i, (h : i < t.kinds.size) → ∀ part ∈ t.kinds[i].parts, part.index < i

instance : Decidable t.Descending :=
  inferInstanceAs (Decidable (∀ i, (h : i < t.kinds.size) →
    ∀ part ∈ t.kinds[i].parts, part.index < i))

theorem Descending.lt (h : t.Descending) (hk : t.kind? a = some k) (hb : b ∈ k.parts) :
    b.index < a.index := by
  obtain ⟨hlt, rfl⟩ := Array.getElem?_eq_some_iff.mp hk
  exact h a.index hlt b hb

theorem Descending.has (h : t.Descending) (hk : t.kind? a = some k) (hb : b ∈ k.parts) :
    t.Has b :=
  has_iff_lt.mpr (Nat.lt_trans (h.lt hk hb) (has_iff_lt.mp (has_of_kind? hk)))

theorem Descending.closed (h : t.Descending) : t.Closed :=
  fun _ _ hk _ hpart => h.has hk hpart

/-- **Literals whose parts come before them**, in whatever order, do not contain themselves. -/
theorem not_transGen_contains (rank : TypeId → Nat)
    (h : ∀ i, (hi : i < t.kinds.size) → t.kinds[i].IsBare → ∀ part ∈ t.kinds[i].parts,
      rank part < rank ⟨i⟩) (id : TypeId) : ¬ Relation.TransGen t.Contains id id := by
  refine not_transGen_of_lt rank (fun a b hab => ?_) id
  obtain ⟨k, hk, hbare, hb⟩ := hab
  obtain ⟨hlt, rfl⟩ := Array.getElem?_eq_some_iff.mp hk
  exact h a.index hlt hbare b hb

theorem Descending.grounded (h : t.Descending) (id : TypeId) :
    ¬ Relation.TransGen t.Contains id id :=
  not_transGen_contains TypeId.index (fun i hi _ => h i hi) id

/-- The names that a table declares, with their packages. -/
def titles (t : TypeTable) : List (String × Option String) :=
  t.kinds.toList.filterMap TypeKind.title?

/-- Where no name is declared twice, one name stands at one position. -/
theorem eq_of_titles_nodup {x : String × Option String} (h : t.titles.Nodup)
    (ha : t.kind? a = some ka) (hb : t.kind? b = some kb) (hka : ka.title? = some x)
    (hkb : kb.title? = some x) : a = b := by
  have happart := List.pairwise_iff_getElem.mp (List.pairwise_filterMap.mp h)
  obtain ⟨hla, rfl⟩ := Array.getElem?_eq_some_iff.mp ha
  obtain ⟨hlb, rfl⟩ := Array.getElem?_eq_some_iff.mp hb
  rcases Nat.lt_trichotomy a.index b.index with hlt | heq | hlt
  · exact absurd rfl (happart _ _ hla hlb hlt x hka x hkb)
  · exact index_injective heq
  · exact absurd rfl (happart _ _ hlb hla hlt x hkb x hka)

/-- Behind every type of such a table stands a bare one. -/
theorem exists_leads_of_descending (hdesc : t.Descending) (ha : t.Has a) :
    ∃ path v, t.Leads TypeKind.declared? path a v := by
  induction hi : a.index using Nat.strong_induction_on generalizing a with
  | h i ih =>
    subst hi
    obtain ⟨k, hk⟩ := exists_kind_of_has ha
    cases hstep : k.declared? with
    | none => exact ⟨[], a, .stop hk hstep⟩
    | some u =>
      obtain ⟨name, package, rfl⟩ := TypeKind.declared?_eq_some hstep
      have hlt := hdesc.lt hk List.mem_cons_self
      obtain ⟨path, v, hlead⟩ := ih u.index hlt (hdesc.has hk List.mem_cons_self) rfl
      exact ⟨a :: path, v, .next hk hstep hlead⟩

/-- **A table that looks back only is well formed**, unless it declares a name twice or
has a place for `nil`. -/
theorem wellFormed_of_descending (hdesc : t.Descending) (htitles : t.titles.Nodup)
    (hnil : .basic .untypedNil ∉ t.kinds.toList) : t.WellFormed where
  closed := hdesc.closed
  grounded := hdesc.grounded
  settled := by
    intro id name package u hk
    obtain ⟨path, v, hlead⟩ := exists_leads_of_descending hdesc (has_of_kind? hk)
    exact ⟨path, v, hlead, fun hv => hnil (Array.mem_toList_iff.mpr (Array.mem_of_getElem? hv))⟩
  agreed := by
    intro a b name package u v ha hb
    obtain rfl := eq_of_titles_nodup htitles ha hb rfl rfl
    obtain ⟨path, x, hlead⟩ := exists_leads_of_descending hdesc (has_of_kind? ha)
    exact ⟨x, x, underlying_of_leads hlead, underlying_of_leads hlead, identical_self t x⟩

/-- The types of `type Ints []int`, and a pointer to it. -/
def declaredInts : TypeTable :=
  ⟨#[.basic .int, .slice ⟨0⟩, .named "Ints" (some "example.com/demo") ⟨1⟩, .pointer ⟨2⟩]⟩

theorem wellFormed_declaredInts : declaredInts.WellFormed :=
  wellFormed_of_descending (by decide) (by decide) (by decide)

end TypeTable

end Crosswalk

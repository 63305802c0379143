import Crosswalk.Proofs.InStep
import Crosswalk.Proofs.Types.Safe

/-!
# Identity as a congruence

Entries that denote one type may say so in different words: at other positions, with the
methods of an interface in another order. No question about types should tell them apart.

Identity stops at names, so for that it must not matter which of several declarations of a
name an entry is. In a *coherent* table they declare one type. Then whatever layer comes off
one of two identical types, the same layer comes off the other, and what is inside is identical
again (`TypeTable.Coherent.unname`). Questions that take layers off one by one and compare what
they come to are therefore in step, and so is assignability
(`TypeTable.Coherent.assignable`).
-/

namespace Crosswalk

namespace TypeKind.Alike

variable {R : TypeId → TypeId → Prop} {ka kb : TypeKind}

/-- An entry agrees with itself. -/
theorem refl (hR : ∀ a, R a a) (k : TypeKind) : Alike R k k := by
  have hsame : ∀ ids : List TypeId, List.Forall₂ R ids ids :=
    fun ids => List.forall₂_same.mpr (fun id _ => hR id)
  cases k with
  | basic b => exact .basic b
  | named name package u => exact .named name package u u
  | pointer elem => exact .pointer (hR elem)
  | slice elem => exact .slice (hR elem)
  | array elem length => exact .array length (hR elem)
  | map key value => exact .map (hR key) (hR value)
  | struct fields => exact .struct (List.forall₂_same.mpr (fun f _ => ⟨rfl, rfl, hR f.type⟩))
  | interface methods => exact .interface rfl
  | signature params results variadic => exact .signature variadic (hsame params) (hsame results)
  | tuple elems => exact .tuple (hsame elems)

theorem pointee?_eq_none (h : Alike R ka kb) (hp : ka.pointee? = none) : kb.pointee? = none := by
  cases h with
  | pointer => cases hp
  | _ => rfl

theorem inside?_eq_none (h : Alike R ka kb) (hin : ka.inside? = none) : kb.inside? = none := by
  cases h with
  | pointer | named => cases hin
  | _ => rfl

theorem isSome_declared? (h : Alike R ka kb) :
    ka.declared?.isSome = kb.declared?.isSome := by
  cases h <;> rfl

theorem isDefined (h : Alike R ka kb) : ka.isDefined = kb.isDefined := by
  cases h <;> rfl

end TypeKind.Alike

theorem mem_sortedNames {name : String} {names : List String} :
    name ∈ sortedNames names ↔ name ∈ names :=
  (List.mergeSort_perm names _).mem_iff

namespace TypeTable

variable {t : TypeTable} {a b a' b' u v u' v' : TypeId} {n : Nat} {ka kb : TypeKind}

/-- Interfaces with one sorted list of methods ask for the same and offer the same. -/
theorem coversMethods_congr {ms ms' ns ns' : List String} (hm : sortedNames ms = sortedNames ms')
    (hn : sortedNames ns = sortedNames ns') : coversMethods ms ns = coversMethods ms' ns' := by
  rw [Bool.eq_iff_iff, coversMethods_eq_true_iff, coversMethods_eq_true_iff]
  have hmem : ∀ m, m ∈ ms ↔ m ∈ ms' := fun m => by rw [← mem_sortedNames, hm, mem_sortedNames]
  have hmem' : ∀ m, m ∈ ns ↔ m ∈ ns' := fun m => by rw [← mem_sortedNames, hn, mem_sortedNames]
  exact forall_congr' (fun m => by rw [hmem, hmem'])

/-- **The entries denote one type.** -/
abbrev Same (t : TypeTable) (a b : TypeId) : Prop := t.identical a b = .ok true

/-- **A valid table in which names stand for what they are declared as**: no literal contains
itself, unless by name, and declarations of one name are of identical types. -/
structure Coherent (t : TypeTable) : Prop where
  /-- Every position that is mentioned exists. -/
  valid : t.validate = .ok ()
  /-- No literal contains itself, unless by name. -/
  grounded : ∀ id, ¬ Relation.TransGen t.Contains id id
  /-- What two entries of one name are declared as is identical. -/
  agreed : ∀ a b name package u v, t.kind? a = some (.named name package u) →
    t.kind? b = some (.named name package v) → t.Same u v

/-! ## One entry -/

theorem has_iff_of_same (h : t.Same a b) : t.Has a ↔ t.Has b := by
  rcases has_of_identical h with rfl | ⟨ha, hb⟩
  · exact Iff.rfl
  · exact ⟨fun _ => hb, fun _ => ha⟩

/-- What denotes the type of an entry is an entry that agrees with it. -/
theorem exists_kind_of_same (h : t.Same a b) (ha : t.kind? a = some ka) :
    ∃ kb, t.kind? b = some kb ∧ TypeKind.Alike t.Same ka kb := by
  rcases identical_iff.mp h with rfl | ⟨ka', kb, hka, hkb, halike⟩
  · exact ⟨ka, ha, .refl (identical_self t) ka⟩
  · obtain rfl := Option.some.inj (ha.symm.trans hka)
    exact ⟨kb, hkb, halike⟩

/-- Looking up identical types is in step. -/
theorem kind_inStep (h : t.Same a b) :
    InStep (TypeKind.Alike t.Same) (t.kind a) (t.kind b) := by
  rcases identical_iff.mp h with rfl | ⟨ka, kb, hka, hkb, halike⟩
  · exact (InStep.refl (t.kind a)).mono (fun _ _ heq => heq ▸ .refl (identical_self t) _)
  · exact .of_ok (kind_of_kind? hka) (kind_of_kind? hkb) halike

theorem isDefined_inStep (h : t.Same a b) : InStep Eq (t.isDefined a) (t.isDefined b) := by
  rcases identical_iff.mp h with rfl | ⟨ka, kb, hka, hkb, halike⟩
  · exact .refl _
  · rw [isDefined_of_kind? hka, isDefined_of_kind? hkb, halike.isDefined]
    exact .refl _

/-- A comparison with a position that does not exist fails. -/
theorem identical_eq_error (hne : a ≠ b) (h : ¬ (t.Has a ∧ t.Has b)) :
    t.identical a b = .error .dangling := by
  have hkind : ∀ {id}, ¬ t.Has id → t.kind id = .error .dangling := fun hid =>
    entryAt_of_size_le (Nat.le_of_not_lt (fun hlt => hid (has_iff_lt.mpr hlt)))
  unfold identical
  rw [identicalTo, if_neg hne]
  by_cases ha : t.Has a
  · obtain ⟨ka, hka⟩ := exists_kind_of_has ha
    rw [kind_of_kind? hka, hkind (fun hb => h ⟨ha, hb⟩)]
    rfl
  · rw [hkind ha]
    rfl

/-- The last rules of assignability do not tell identical types apart. -/
theorem takes_inStep (ha : t.Same a b) (hu : t.Same u u') (hv : t.Same v v') :
    InStep Eq (t.takes a u v) (t.takes b u' v') := by
  refine (kind_inStep hv).bind (fun kv kv' hkv => ?_)
  cases hkv with
  | @interface wanted wanted' hwanted =>
    have hempty : wanted.isEmpty = wanted'.isEmpty := by
      rw [Bool.eq_iff_iff, List.isEmpty_iff_length_eq_zero, List.isEmpty_iff_length_eq_zero,
        ← (List.mergeSort_perm wanted _).length_eq, ← (List.mergeSort_perm wanted' _).length_eq]
      exact iff_of_eq (congrArg (fun names => names.length = 0) hwanted)
    show InStep Eq (if wanted.isEmpty then _ else _) (if wanted'.isEmpty then _ else _)
    rw [hempty]
    split
    · exact .refl _
    · refine (kind_inStep hu).bind (fun ku ku' hku => ?_)
      cases hku with
      | interface hmethods => exact .of_eq (congrArg Except.ok (coversMethods_congr hwanted hmethods))
      | _ => exact .refl _
  -- a destination that is no interface takes nothing but the untyped `nil`
  | _ => exact (kind_inStep ha).bind (fun ka kb hk => by cases hk <;> exact .refl _)

namespace Coherent

theorem closed (ht : t.Coherent) : t.Closed := validate_eq_ok_iff.mp ht.valid

/-- Comparisons in a coherent table come to an end. -/
theorem groundedness (ht : t.Coherent) : t.Grounded False :=
  ⟨ht.closed, .inr (fun id => ht.closed.shallow ht.grounded id)⟩

/-- What is identical to a named type is one of that name, declared as something identical. -/
theorem exists_named_of_same {name : String} {package : Option String} (ht : t.Coherent)
    (h : t.Same a b) (ha : t.kind? a = some (.named name package u)) :
    ∃ v, t.kind? b = some (.named name package v) ∧ t.Same u v := by
  obtain ⟨kb, hkb, halike⟩ := exists_kind_of_same h ha
  cases halike with
  | named _ _ _ v => exact ⟨v, hkb, ht.agreed a b _ _ _ _ ha hkb⟩

/-- **Behind one name of identical types stand identical types.** -/
theorem unname (ht : t.Coherent) (h : t.Same a b) (ha : t.kind? a = some ka)
    (hb : t.kind? b = some kb) : t.Same (ka.declared?.getD a) (kb.declared?.getD b) := by
  cases hu : ka.declared? with
  | some u =>
    obtain ⟨name, package, rfl⟩ := TypeKind.declared?_eq_some hu
    obtain ⟨v, hb', huv⟩ := ht.exists_named_of_same h ha
    obtain rfl := Option.some.inj (hb.symm.trans hb')
    exact huv
  | none =>
    obtain ⟨kb', hb', halike⟩ := exists_kind_of_same h ha
    obtain rfl := Option.some.inj (hb.symm.trans hb')
    have hnone := halike.isSome_declared?
    rw [hu, Option.isSome_none, eq_comm, Option.isSome_eq_false_iff, Option.isNone_iff_eq_none]
      at hnone
    rw [hnone]
    exact h

/-- Behind all names of identical types stand identical types. The names come off in step, so
chains of names need not end for this. -/
theorem underlyingUpTo (ht : t.Coherent) (h : t.Same a b) :
    InStep t.Same (t.underlyingUpTo n a) (t.underlyingUpTo n b) := by
  induction n generalizing a b with
  | zero => exact .ok h
  | succ n ih =>
    have hkind := (kind_inStep h).known
    refine hkind.bind (fun ka kb hk => ?_)
    obtain ⟨halike, ha, hb⟩ := hk
    have hinner := ht.unname h (kind_eq_ok_iff.mp ha) (kind_eq_ok_iff.mp hb)
    cases halike with
    | named name package u v => exact ih hinner
    | _ => exact .ok h

theorem underlying (ht : t.Coherent) (h : t.Same a b) :
    InStep t.Same (t.underlying a) (t.underlying b) :=
  ht.underlyingUpTo h

/-! ## Comparisons -/

theorem identical (ht : t.Coherent) (ha : t.Same a b) (ha' : t.Same a' b') :
    InStep Eq (t.identical a a') (t.identical b b') := by
  by_cases hhas : t.Has a ∧ t.Has a'
  · have hb := (has_iff_of_same ha).mp hhas.1
    have hb' := (has_iff_of_same ha').mp hhas.2
    obtain ⟨r, hr, -⟩ := (ht.groundedness.identical_safe hhas.1 hhas.2).exists_ok
    obtain ⟨r', hr', -⟩ := (ht.groundedness.identical_safe hb hb').exists_ok
    refine .of_iff hr hr' ⟨fun h => ?_, fun h => ?_⟩
    · exact identical_trans (identical_symm ha) (identical_trans h ha')
    · exact identical_trans ha (identical_trans h (identical_symm ha'))
  · -- one of the two does not exist, and denotes nothing but itself
    have hhas' : ¬ (t.Has b ∧ t.Has b') := by
      rwa [← has_iff_of_same ha, ← has_iff_of_same ha']
    by_cases heq : a = a'
    · subst heq
      have hno : ¬ t.Has a := fun h => hhas ⟨h, h⟩
      obtain rfl := (has_of_identical ha).resolve_right (fun h => hno h.1)
      obtain rfl := (has_of_identical ha').resolve_right (fun h => hno h.1)
      exact .refl _
    · have hne : b ≠ b' := by
        rintro rfl
        have hno : ¬ t.Has b := fun h => hhas' ⟨h, h⟩
        obtain rfl := (has_of_identical ha).resolve_right (fun h => hno h.2)
        obtain rfl := (has_of_identical ha').resolve_right (fun h => hno h.2)
        exact heq rfl
      rw [identical_eq_error heq hhas, identical_eq_error hne hhas']
      exact .error _

/-- **Identical types are stored in the same places, and take the same values.** -/
theorem assignable (ht : t.Coherent) (ha : t.Same a b) (ha' : t.Same a' b') :
    InStep Eq (t.assignable a a') (t.assignable b b') := by
  rw [assignable_eq, assignable_eq]
  refine (ht.identical ha ha').bind_eq (fun same => ?_)
  split
  · exact .refl _
  refine (ht.underlying ha).bind (fun u u' hu => (ht.underlying ha').bind (fun v v' hv => ?_))
  refine (ht.identical hu hv).bind_eq (fun shape => ?_)
  split
  · refine (isDefined_inStep ha).bind_eq (fun ds => ?_)
    split
    · exact .refl _
    refine (isDefined_inStep ha').bind_eq (fun dd => ?_)
    split
    · exact .refl _
    · exact takes_inStep ha hu hv
  · exact takes_inStep ha hu hv

end Coherent

end TypeTable

end Crosswalk

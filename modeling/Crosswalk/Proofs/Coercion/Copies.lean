import Crosswalk.Proofs.Coercion.Course
import Crosswalk.Proofs.Types.Copies

/-!
# Walks between copies

A walk between copies takes the course that the walk between the originals takes, step by
step. So where the course ends, both walks come to the same, up to copies. Where it has no
end they both fail; but a walk of that kind ends when it meets a pair of entries again, and
copies may lead round longer or shorter circles than the originals. What the two have
recorded until then need not agree (`TypeTable.Recast.unending`).

## What copies share

Reading and planning ask about types through a handful of questions only.
`TypeTable.Indistinct` lists them: a relation under which the answers agree is one that no
specification and no plan can tell apart. Equality is such a relation, and so is any that
passes from entries to their parts.
-/

namespace Crosswalk

/-- **Two steps that agree up to types.** -/
inductive CoercionStep.Copied (R : TypeId → TypeId → Prop) : CoercionStep → CoercionStep → Prop
  | addressOf : Copied R .addressOf .addressOf
  | deref : Copied R .deref .deref
  | convert {a b : TypeId} (h : R a b) : Copied R (.convert a) (.convert b)

/-- **Two walks that found the same steps**, up to types. -/
structure Coercion.Copied (R : TypeId → TypeId → Prop) (c c' : Coercion) : Prop where
  /-- Those off the source. -/
  inner : List.Forall₂ (CoercionStep.Copied R) c.inner c'.inner
  /-- Those around the destination. -/
  outer : List.Forall₂ (CoercionStep.Copied R) c.outer c'.outer
  /-- Both ended well, or neither did. -/
  complete : c.complete = c'.complete

namespace Coercion

variable {R : TypeId → TypeId → Prop} {c c' : Coercion} {x y : CoercionStep}

theorem copied_stop (complete : Bool) : Copied R (.stop complete) (.stop complete) :=
  ⟨.nil, .nil, rfl⟩

theorem Copied.off (hxy : x.Copied R y) (h : Copied R c c') : Copied R (c.off x) (c'.off y) :=
  ⟨.cons hxy h.inner, h.outer, h.complete⟩

theorem Copied.around (hxy : x.Copied R y) (h : Copied R c c') :
    Copied R (c.around x) (c'.around y) :=
  ⟨h.inner, .cons hxy h.outer, h.complete⟩

theorem Copied.steps (h : Copied R c c') :
    List.Forall₂ (CoercionStep.Copied R) c.steps c'.steps :=
  List.rel_append h.inner (List.rel_reverse h.outer)

end Coercion

namespace TypeTable

variable {t : TypeTable} {R : TypeId → TypeId → Prop} {a b a' b' s d : TypeId} {n : Nat}
  {record : Coercion → Coercion} {c : Coercion}

/-- **A conversion of `src` to `dst` and one between copies of the two.** -/
inductive Recast (t : TypeTable) (R : TypeId → TypeId → Prop) (src dst : TypeId) :
    Conversion → Conversion → Prop
  /-- Nothing has to be done. -/
  | assign : Recast t R src dst .assign .assign
  /-- The steps agree. -/
  | coerce {steps steps' : List CoercionStep} (complete : Bool)
      (h : List.Forall₂ (CoercionStep.Copied R) steps steps') :
      Recast t R src dst (.coerce steps complete) (.coerce steps' complete)
  /-- There is no way to convert, and none to tell how far the walks went. -/
  | unending (steps steps' : List CoercionStep) (h : ∀ c, ¬ t.Course src dst c) :
      Recast t R src dst (.coerce steps false) (.coerce steps' false)

/-- What two walks found makes conversions that agree. -/
theorem recast_toConversion {c' : Coercion} (h : c.Copied R c') :
    t.Recast R a a' c.toConversion c'.toConversion := by
  have hempty : c.steps.isEmpty = c'.steps.isEmpty := by
    rw [Bool.eq_iff_iff, List.isEmpty_iff_length_eq_zero, List.isEmpty_iff_length_eq_zero,
      h.steps.length_eq]
  unfold Coercion.toConversion
  rw [hempty, h.complete]
  split
  · exact .assign
  · exact .coerce _ h.steps

namespace Copying

/-! ## The walk from both ends -/

/-- **Between copies a walk goes on as between the originals.** -/
theorem advances (hR : t.Copying R) (ha : R a b) (ha' : R a' b')
    (h : t.Advances a a' record s d) :
    ∃ record' s' d', t.Advances b b' record' s' d' ∧ R s s' ∧ R d d' ∧
      ∀ c c', Coercion.Copied R c c' → Coercion.Copied R (record c) (record' c') := by
  obtain ⟨ka, kb, hka, hkb, hk⟩ := hR a b ha
  obtain ⟨ka', kb', hka', hkb', hk'⟩ := hR a' b' ha'
  cases h with
  | address hd =>
    obtain rfl := Option.some.inj (hka'.symm.trans hd)
    cases hk' with
    | pointer he => exact ⟨_, _, _, .address hkb', ha, he, fun _ _ hc => hc.around .addressOf⟩
  | deref hd hdp hs =>
    obtain rfl := Option.some.inj (hka'.symm.trans hd)
    obtain rfl := Option.some.inj (hka.symm.trans hs)
    cases hk with
    | pointer he =>
      exact ⟨_, _, _, .deref hkb' (hk'.pointee?_eq_none hdp) hkb, he, ha',
        fun _ _ hc => hc.off .deref⟩
  | name hd hs hsp =>
    obtain rfl := Option.some.inj (hka'.symm.trans hd)
    obtain rfl := Option.some.inj (hka.symm.trans hs)
    cases hk' with
    | named name package hu =>
      exact ⟨_, _, _, .name hkb' hkb (hk.pointee?_eq_none hsp), ha, hu,
        fun _ _ hc => hc.around (.convert ha')⟩
  | unname hd hdp hs =>
    obtain rfl := Option.some.inj (hka'.symm.trans hd)
    obtain rfl := Option.some.inj (hka.symm.trans hs)
    cases hk with
    | named name package hu =>
      exact ⟨_, _, _, .unname hkb' (hk'.inside?_eq_none hdp) hkb, hu, ha',
        fun _ _ hc => hc.off (.convert hu)⟩

/-- **The walk between copies takes the course of that between the originals.** -/
theorem exists_course (hR : t.Copying R) (ht : t.Grounded False) (ha : R a b) (ha' : R a' b')
    (h : t.Course a a' c) : ∃ c', t.Course b b' c' ∧ c.Copied R c' := by
  induction h generalizing b b' with
  | met h => exact ⟨_, .met ((hR.assignable ht ha ha').eq ▸ h), Coercion.copied_stop true⟩
  | stuck hno h =>
    refine ⟨_, .stuck ((hR.assignable ht ha ha').eq ▸ hno) (fun record s d hadv => ?_),
      Coercion.copied_stop false⟩
    -- where the copies go on, so do the originals
    obtain ⟨record', s', d', hadv', -⟩ := hR.flip.advances ha ha' hadv
    exact h record' s' d' hadv'
  | step hno hadv _ ih =>
    obtain ⟨record', s', d', hadv', hs, hd, hrecord⟩ := hR.advances ha ha' hadv
    obtain ⟨c', hc', hcopied⟩ := ih hs hd
    exact ⟨_, .step ((hR.assignable ht ha ha').eq ▸ hno) hadv' hc', hrecord _ _ hcopied⟩

/-- **Copies are converted as the originals are**, as far as this can be said. -/
theorem coerce (hR : t.Copying R) (ht : t.Grounded False) (ha : R a b) (ha' : R a' b') :
    InStep (t.Recast R a a') (t.coerce a a') (t.coerce b b') := by
  have hwalk : ∀ {x y}, t.Has x → t.Has y → ∃ c, t.coercion x y = .ok c := by
    intro x y hx hy
    obtain ⟨c, hc, -⟩ := (ht.coercionFrom_safe (.start t) hx hy).exists_ok
    exact ⟨c, hc⟩
  suffices InStep (fun c c' => t.Recast R a a' c.toConversion c'.toConversion) (t.coercion a a')
      (t.coercion b b') from this.bind (fun _ _ h => .ok h)
  by_cases hends : ∃ c, t.Course a a' c
  · obtain ⟨c, hc⟩ := hends
    obtain ⟨c', hc', hcopied⟩ := hR.exists_course ht ha ha' hc
    exact .of_ok (hc.coercion ht (hR.has_left ha) (hR.has_left ha'))
      (hc'.coercion ht (hR.has_right ha) (hR.has_right ha')) (recast_toConversion hcopied)
  · obtain ⟨c, hc⟩ := hwalk (hR.has_left ha) (hR.has_left ha')
    obtain ⟨c', hc'⟩ := hwalk (hR.has_right ha) (hR.has_right ha')
    have hfails : c.complete = false := by
      refine Bool.eq_false_iff.mpr (fun hcomplete => hends ?_)
      exact ⟨c, course_of_coercionFrom hc hcomplete⟩
    have hfails' : c'.complete = false := by
      refine Bool.eq_false_iff.mpr (fun hcomplete => hends ?_)
      obtain ⟨c₀, hc₀, -⟩ := hR.flip.exists_course ht ha ha' (course_of_coercionFrom hc' hcomplete)
      exact ⟨c₀, hc₀⟩
    refine .of_ok hc hc' ?_
    unfold Coercion.toConversion
    rw [hfails, hfails', Bool.and_false, Bool.and_false]
    exact .unending _ _ (fun c hc => hends ⟨c, hc⟩)

/-! ## The walk that matches types -/

theorem feeds (hR : t.Copying R) (ht : t.Grounded False) (ha : R a b) (ha' : R a' b')
    (h : t.Feeds n a a') : t.Feeds n b b' := by
  induction h generalizing b b' with
  | fits h => exact .fits ((hR.assignable ht ha ha').eq ▸ h)
  | pointee hno hp _ ih =>
    obtain ⟨_, hp', hrel⟩ := (hR.pointee ha').exists_right hp
    cases hrel with
    | some he => exact .pointee ((hR.assignable ht ha ha').eq ▸ hno) hp' (ih ha he)
  | unname hno hp hs hd _ ih =>
    obtain ⟨_, hp', hrel⟩ := (hR.pointee ha').exists_right hp
    obtain ⟨s', hs', hss⟩ := (hR.unname ha).exists_right hs
    obtain ⟨d', hd', hdd⟩ := (hR.unname ha').exists_right hd
    cases hrel with
    | none => exact .unname ((hR.assignable ht ha ha').eq ▸ hno) hp' hs' hd' (ih hss hdd)

/-- **Copies feed what the originals feed.** -/
theorem compatible (hR : t.Copying R) (ht : t.Grounded False) (ha : R a b) (ha' : R a' b') :
    InStep Eq (t.compatible a a') (t.compatible b b') := by
  obtain ⟨r, hr, -⟩ := (ht.compatible_safe (hR.has_left ha) (hR.has_left ha')).exists_ok
  obtain ⟨r', hr', -⟩ := (ht.compatible_safe (hR.has_right ha) (hR.has_right ha')).exists_ok
  refine .of_iff hr hr' ?_
  rw [compatible_iff ht.closed (hR.has_left ha) (hR.has_left ha'),
    compatible_iff ht.closed (hR.has_right ha) (hR.has_right ha')]
  exact exists_congr (fun n => ⟨hR.feeds ht ha ha', hR.flip.feeds ht ha ha'⟩)

end Copying

/-! ## Types that cannot be told apart -/

/-- **Types that are related cannot be told apart** by what is asked of them; converting
them comes to conversions as in `E`. -/
structure Indistinct (t : TypeTable) (R : TypeId → TypeId → Prop)
    (E : TypeId → TypeId → Conversion → Conversion → Prop) : Prop where
  /-- Whether a result is an error. -/
  isError : ∀ {a b}, R a b → InStep Eq (t.isError a) (t.isError b)
  /-- How a type is shown. -/
  display : ∀ {a b}, R a b → InStep Eq (t.display a) (t.display b)
  /-- What a pointer points to. -/
  pointee : ∀ {a b}, R a b → InStep (Option.Rel R) (t.pointee a) (t.pointee b)
  /-- What is behind the layers. -/
  peel : ∀ {a b}, R a b → InStep (fun p q => R p.shape q.shape) (t.peel a) (t.peel b)
  /-- Whether a copy shares what the original holds. -/
  isReferenceShaped : ∀ {a b}, R a b → InStep Eq (t.isReferenceShaped a) (t.isReferenceShaped b)
  /-- The record behind a type. -/
  resolve : ∀ {a b}, R a b → InStep (Option.Rel (RecordType.Copied R)) (RecordType.resolve t a)
    (RecordType.resolve t b)
  /-- The slice behind a type. -/
  sliceShape : ∀ {a b}, R a b → InStep (Option.Rel R) (t.sliceShape a) (t.sliceShape b)
  /-- The elements of a slice. -/
  elem : ∀ {a b}, R a b → InStep (Option.Rel R) (t.elem a) (t.elem b)
  /-- Whether two types are one. -/
  identical : ∀ {a b a' b'}, R a b → R a' b' → InStep Eq (t.identical a a') (t.identical b b')
  /-- Whether a value may stand in a place. -/
  assignable : ∀ {a b a' b'}, R a b → R a' b' → InStep Eq (t.assignable a a') (t.assignable b b')
  /-- Whether a value may feed a field. -/
  compatible : ∀ {a b a' b'}, R a b → R a' b' → InStep Eq (t.compatible a a') (t.compatible b b')
  /-- How it is converted then. -/
  coerce : ∀ {a b a' b'}, R a b → R a' b' → InStep (E a a') (t.coerce a a') (t.coerce b b')

/-- What is left when a pointer is taken off. -/
theorem Indistinct.deref {E : TypeId → TypeId → Conversion → Conversion → Prop}
    (ht : t.Indistinct R E) (h : R a b) : InStep R (t.deref a) (t.deref b) := by
  refine (ht.pointee h).bind (fun pa pb hp => ?_)
  cases hp with
  | none => exact .ok h
  | some hp => exact .ok hp

/-- **Copies cannot be told apart** in a table whose types can be compared. -/
theorem Copying.indistinct (hR : t.Copying R) (ht : t.Grounded False) :
    t.Indistinct R (t.Recast R) where
  isError := hR.isError
  display := hR.display
  pointee := hR.pointee
  peel := hR.peel
  isReferenceShaped := hR.isReferenceShaped
  resolve := hR.resolve
  sliceShape := hR.sliceShape
  elem := hR.elem
  identical := hR.identical ht
  assignable := hR.assignable ht
  compatible := hR.compatible ht
  coerce := hR.coerce ht

/-- A type cannot be told from itself. -/
theorem indistinct_eq (t : TypeTable) : t.Indistinct Eq (fun _ _ => Eq) where
  isError := by
    rintro a _ rfl
    exact .refl _
  display := by
    rintro a _ rfl
    exact .refl _
  pointee := by
    rintro a _ rfl
    exact optionRel_eq_eq_eq ▸ .refl _
  peel := by
    rintro a _ rfl
    exact (InStep.refl _).mono (fun p _ h => congrArg Peeled.shape h)
  isReferenceShaped := by
    rintro a _ rfl
    exact .refl _
  resolve := by
    rintro a _ rfl
    rw [RecordType.copied_eq_eq_eq, optionRel_eq_eq_eq]
    exact .refl _
  sliceShape := by
    rintro a _ rfl
    exact optionRel_eq_eq_eq ▸ .refl _
  elem := by
    rintro a _ rfl
    exact optionRel_eq_eq_eq ▸ .refl _
  identical := by
    rintro a _ b _ rfl rfl
    exact .refl _
  assignable := by
    rintro a _ b _ rfl rfl
    exact .refl _
  compatible := by
    rintro a _ b _ rfl rfl
    exact .refl _
  coerce := by
    rintro a _ b _ rfl rfl
    exact .refl _

end TypeTable

end Crosswalk

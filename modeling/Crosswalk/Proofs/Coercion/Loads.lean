import Crosswalk.Proofs.Coercion.Course

/-!
# When a matched field loads through its source

A source that is a pointer may be `nil`, and a conversion that begins by taking what it
points to then fails at run time. The walk that matches types never takes a pointer off
the source; the walk that converts does, before it takes a name off the destination. So a
match may well be converted by way of what its source points to.

It is exactly if the source is itself a pointer, and neither the destination nor anything
found by taking off the pointers it begins with takes that pointer as it is
(`TypeTable.WellFormed.coerce_loads_iff`). A source that is a pointer by name only is never
loaded through.
-/

namespace Crosswalk

/-- The steps of a conversion, innermost first. An assignment has none, and what another
mapping function does is its own affair. -/
def Conversion.steps : Conversion → List CoercionStep
  | .coerce steps _ => steps
  | .assign | .delegate .. => []

theorem Coercion.steps_toConversion (c : Coercion) : c.toConversion.steps = c.steps := by
  unfold toConversion
  split
  · rename_i h
    rw [Bool.and_eq_true, List.isEmpty_iff] at h
    exact h.1.symm
  · rfl

namespace TypeTable

variable {t : TypeTable} {src dst d e : TypeId} {ks : TypeKind} {c : Coercion}

/-- The type `a` is a pointer to `b`. -/
def PointsTo (t : TypeTable) (a b : TypeId) : Prop := t.kind? a = some (.pointer b)

/-- Around a destination no pointer is taken off. -/
theorem Course.deref_not_mem_outer (h : t.Course src dst c) : .deref ∉ c.outer := by
  induction h with
  | met | stuck => exact List.not_mem_nil
  | step _ hadv _ ih =>
    cases hadv with
    | address | name => exact List.not_mem_cons_of_ne_of_not_mem nofun ih
    | deref | unname => exact ih

theorem Course.deref_mem_steps_iff (h : t.Course src dst c) :
    .deref ∈ c.steps ↔ .deref ∈ c.inner := by
  unfold Coercion.steps
  rw [List.mem_append, List.mem_reverse]
  exact or_iff_left h.deref_not_mem_outer

/-- **A walk that is level loads nothing.** -/
theorem Level.deref_not_mem_inner (h : t.Level src dst) (hc : t.Course src dst c) :
    .deref ∉ c.inner := by
  induction h generalizing c with
  | here h =>
    cases hc with
    | met => exact List.not_mem_nil
    | stuck hno | step hno => cases h.symm.trans hno
  | around hno hadv _ ih =>
    cases hc with
    | met h => cases h.symm.trans hno
    | stuck _ h => exact absurd hadv (h _ _ _)
    | step _ hadv' hc =>
      obtain rfl := hadv.record_eq hadv'
      obtain ⟨rfl, rfl⟩ := hadv.unique hadv'
      exact fun hmem => ih hc hmem
  | unname hno hadv _ ih =>
    cases hc with
    | met h => cases h.symm.trans hno
    | stuck _ h => exact absurd hadv (h _ _ _)
    | step _ hadv' hc =>
      obtain rfl := hadv.record_eq hadv'
      obtain ⟨rfl, rfl⟩ := hadv.unique hadv'
      exact List.not_mem_cons_of_ne_of_not_mem nofun (ih hc)

/-- **A pointer that nothing takes as it is loses its layer**, once the pointers of the
destination are off. -/
theorem Course.deref_mem_inner (h : t.Course src dst c) (hc : c.complete = true)
    (hk : t.kind? src = some (.pointer e))
    (hno : ∀ d, Relation.ReflTransGen t.PointsTo dst d → t.assignable src d ≠ .ok true) :
    .deref ∈ c.inner := by
  induction h with
  | met h => exact absurd h (hno _ .refl)
  | stuck => cases hc
  | step _ hadv _ ih =>
    cases hadv with
    | address hd => exact ih hc hk (fun d hreach => hno d (.head hd hreach))
    | deref => exact List.mem_cons_self
    | name _ hs hp =>
      obtain rfl := Option.some.inj (hk.symm.trans hs)
      cases hp
    | unname _ _ hs => cases hk.symm.trans hs

namespace WellFormed

/-- A source that fits something the destination points to meets level. -/
theorem level_of_pointsTo (ht : t.WellFormed) (hs : t.Has src)
    (hreach : Relation.ReflTransGen t.PointsTo dst d) (h : t.assignable src d = .ok true) :
    t.Level src dst := by
  induction hreach using Relation.ReflTransGen.head_induction_on with
  | refl => exact .here h
  | head hd _ ih => exact ht.level_of_around hs (has_of_kind? hd) (.address hd) ih

/-- **When the conversion of a match loads through its source**: when that is a pointer
which neither the destination nor anything it points to takes as it is. -/
theorem coerce_loads_iff (ht : t.WellFormed) (h : t.compatible src dst = .ok true) :
    ∃ c, t.coerce src dst = .ok c ∧
      (.deref ∈ c.steps ↔ (∃ e, t.kind? src = some (.pointer e)) ∧
        ∀ d, Relation.ReflTransGen t.PointsTo dst d → t.assignable src d ≠ .ok true) := by
  obtain ⟨c, hc, hcomplete⟩ := ht.exists_coercion_of_compatible h
  have hcourse := course_of_coercionFrom hc hcomplete
  refine ⟨c.toConversion, by rw [coerce, hc]; rfl, ?_⟩
  rw [c.steps_toConversion, hcourse.deref_mem_steps_iff]
  constructor
  · intro hmem
    have hlevel : ¬ t.Level src dst := fun hlevel => hlevel.deref_not_mem_inner hcourse hmem
    rcases has_of_compatible h with rfl | ⟨hsrc, -⟩
    · exact absurd (.here (assignable_self t src)) hlevel
    refine ⟨?_, fun d hreach hfits => hlevel (ht.level_of_pointsTo hsrc hreach hfits)⟩
    obtain ⟨ks, hk⟩ := exists_kind_of_has hsrc
    cases hp : ks.pointee? with
    | some e => exact ⟨e, TypeKind.pointee?_eq_some hp ▸ hk⟩
    | none => exact absurd (ht.level_of_compatible hk hp h) hlevel
  · rintro ⟨⟨e, hk⟩, hno⟩
    exact hcourse.deref_mem_inner hcomplete hk hno

end WellFormed

/-- The types of `type Box **int`. -/
def boxedInts : TypeTable :=
  ⟨#[.basic .int, .pointer ⟨0⟩, .pointer ⟨1⟩, .named "Box" (some "example.com/demo") ⟨2⟩]⟩

theorem wellFormed_boxedInts : boxedInts.WellFormed :=
  wellFormed_of_descending (by decide) (by decide) (by decide)

/-- A `Box` is no pointer itself, and it does not take a pointer to a number as it is. -/
theorem boxedInts_loads :
    boxedInts.WellFormed ∧ boxedInts.compatible ⟨1⟩ ⟨3⟩ = .ok true ∧
      ∃ c, boxedInts.coerce ⟨1⟩ ⟨3⟩ = .ok c ∧
        (.deref ∈ c.steps ↔ (∃ e, boxedInts.kind? ⟨1⟩ = some (.pointer e)) ∧
          ∀ d, Relation.ReflTransGen boxedInts.PointsTo ⟨3⟩ d →
            boxedInts.assignable ⟨1⟩ d ≠ .ok true) :=
  ⟨wellFormed_boxedInts, rfl, wellFormed_boxedInts.coerce_loads_iff rfl⟩

/-- **A match may load through its source**: a pointer to a number becomes a `Box` by way
of the number. -/
theorem boxedInts_match_loads :
    boxedInts.WellFormed ∧ boxedInts.compatible ⟨1⟩ ⟨3⟩ = .ok true ∧
      ∃ c, boxedInts.coerce ⟨1⟩ ⟨3⟩ = .ok c ∧ .deref ∈ c.steps :=
  ⟨wellFormed_boxedInts, rfl, _, rfl, List.mem_cons_self⟩

end TypeTable

end Crosswalk

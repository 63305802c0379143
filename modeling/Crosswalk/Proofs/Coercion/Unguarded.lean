import Crosswalk.Proofs.Coercion.Course
import Crosswalk.Proofs.Descent

/-!
# What the memory of the two walks is good for

The two walks over pairs of types give up when they meet a pair again. Neither gets anywhere
by that: a walk that has come back to a pair goes round for ever, and has found no types that
fit on the way round. So each of them finds out whether its *unguarded* walk, which goes on as
long as there is a layer to take off, ever comes to types that fit
(`TypeTable.guards_exact`).

The unguarded walks are relations between a pair of types and the next. Each leads one way
only, but it need not end: types that are declared by themselves lead round in circles.
-/

namespace Crosswalk

/-- Whether a conversion makes do: the steps that were found suffice, or none are needed. -/
def Conversion.isComplete : Conversion → Bool
  | .coerce _ complete => complete
  | .assign | .delegate .. => true

theorem Coercion.isComplete_toConversion (c : Coercion) :
    c.toConversion.isComplete = c.complete := by
  unfold toConversion
  split
  · rename_i h
    exact ((Bool.and_eq_true _ _).mp h).2.symm
  · rfl

namespace TypeTable

variable {t : TypeTable} {src dst : TypeId} {n : Nat} {c : Coercion} {p q : TypeId × TypeId}

/-! ## The unguarded walks -/

/-- **How the walk that matches types goes on**: the destination loses a pointer, or else
either side loses a name if it has one, and one of them has. -/
inductive Sheds (t : TypeTable) : TypeId × TypeId → TypeId × TypeId → Prop
  | pointer {src dst e : TypeId} (hd : t.kind? dst = some (.pointer e)) :
      Sheds t (src, dst) (src, e)
  | names {src dst : TypeId} {ks kd : TypeKind} (hs : t.kind? src = some ks)
      (hd : t.kind? dst = some kd) (hp : kd.pointee? = none)
      (hnamed : ks.declared?.isSome = true ∨ kd.declared?.isSome = true) :
      Sheds t (src, dst) (ks.declared?.getD src, kd.declared?.getD dst)

/-- **How the walk from both ends goes on**: the destination loses a pointer, or else the
source, or else the destination loses a name, or else the source. -/
def Strips (t : TypeTable) (p q : TypeId × TypeId) : Prop :=
  ∃ record, t.Advances p.1 p.2 record q.1 q.2

/-- **The walk comes to types that fit**, after however many steps. -/
def Arrives (t : TypeTable) (step : TypeId × TypeId → TypeId × TypeId → Prop)
    (src dst : TypeId) : Prop :=
  ∃ s d, Relation.ReflTransGen step (src, dst) (s, d) ∧ t.assignable s d = .ok true

theorem Sheds.has (ht : t.Closed) (h : t.Sheds p q) (hs : t.Has p.1) :
    t.Has q.1 ∧ t.Has q.2 := by
  have hinner : ∀ {id k}, t.kind? id = some k → t.Has (k.declared?.getD id) := by
    intro id k hk
    cases hdecl : k.declared? with
    | none => exact has_of_kind? hk
    | some u => exact ht.has_of_inside? hk (TypeKind.inside?_eq_of_declared? hdecl)
  cases h with
  | pointer hd => exact ⟨hs, ht.has_of_inside? hd rfl⟩
  | names hks hkd => exact ⟨hinner hks, hinner hkd⟩

theorem Arrives.head {step : TypeId × TypeId → TypeId × TypeId → Prop} (hpq : step p q)
    (h : t.Arrives step q.1 q.2) : t.Arrives step p.1 p.2 := by
  obtain ⟨s, d, hreach, hfits⟩ := h
  exact ⟨s, d, .head hpq hreach, hfits⟩

/-! ## The walk that matches types -/

theorem Feeds.arrives (h : t.Feeds n src dst) : t.Arrives t.Sheds src dst := by
  induction h with
  | fits h => exact ⟨_, _, .refl, h⟩
  | pointee _ hp _ ih =>
    obtain ⟨kd, hd, heq⟩ := exists_kind_of_pointee hp
    obtain rfl := TypeKind.pointee?_eq_some heq.symm
    exact ih.head (p := (_, _)) (.pointer hd)
  | @unname src dst s d n hno hp hs hd _ ih =>
    obtain ⟨kd, hkd, heq⟩ := exists_kind_of_pointee hp
    obtain ⟨ks, hks⟩ : ∃ ks, t.kind? src = some ks := by
      rcases has_of_assignable hno with rfl | ⟨hhas, -⟩
      · exact ⟨kd, hkd⟩
      · exact exists_kind_of_has hhas
    obtain rfl := Except.ok.inj (hs.symm.trans (unname_of_kind? hks))
    obtain rfl := Except.ok.inj (hd.symm.trans (unname_of_kind? hkd))
    by_cases hnamed : ks.declared?.isSome = true ∨ kd.declared?.isSome = true
    · exact ih.head (p := (_, _)) (.names hks hkd heq.symm hnamed)
    · -- without a name on either side the walk stands still
      obtain ⟨hsn, hdn⟩ := not_or.mp hnamed
      rw [Option.not_isSome_iff_eq_none] at hsn hdn
      rwa [hsn, hdn] at ih

/-- **A walk that comes to types that fit has a course.** The induction is on the way there; what
lies beyond the first types that fit does not matter. -/
theorem Grounded.exists_feeds (ht : t.Grounded False) (h : t.Arrives t.Sheds src dst)
    (hs : t.Has src) (hd : t.Has dst) : ∃ n, t.Feeds n src dst := by
  obtain ⟨s, d, hreach, hfits⟩ := h
  suffices ∀ p, Relation.ReflTransGen t.Sheds p (s, d) → t.Has p.1 → t.Has p.2 →
      ∃ n, t.Feeds n p.1 p.2 from this (src, dst) hreach hs hd
  intro p hreach
  induction hreach using Relation.ReflTransGen.head_induction_on with
  | refl => exact fun _ _ => ⟨0, .fits hfits⟩
  | head hstep _ ih =>
    intro hs hd
    obtain ⟨r, hr, -⟩ := (ht.assignable_safe hs hd).exists_ok
    cases r with
    | true => exact ⟨0, .fits hr⟩
    | false =>
      obtain ⟨hhas, hhas'⟩ := hstep.has ht.closed hs
      obtain ⟨n, h⟩ := ih hhas hhas'
      cases hstep with
      | pointer hk => exact ⟨n + 1, .pointee hr (pointee_of_kind? hk) h⟩
      | names hks hkd hp =>
        have hpointee := hp ▸ pointee_of_kind? hkd
        exact ⟨n + 1, .unname hr hpointee (unname_of_kind? hks) (unname_of_kind? hkd) h⟩

/-- **Whether types feed one another is whether the unguarded walk arrives.** -/
theorem Grounded.compatible_iff_arrives (ht : t.Grounded False) (hs : t.Has src)
    (hd : t.Has dst) : t.compatible src dst = .ok true ↔ t.Arrives t.Sheds src dst := by
  rw [compatible_iff ht.closed hs hd]
  constructor
  · rintro ⟨n, h⟩
    exact h.arrives
  · exact fun h => ht.exists_feeds h hs hd

/-! ## The walk from both ends -/

theorem Advances.complete {record : Coercion → Coercion} {s d : TypeId}
    (h : t.Advances src dst record s d) (c : Coercion) : (record c).complete = c.complete := by
  cases h <;> rfl

theorem Course.arrives (h : t.Course src dst c) (hc : c.complete = true) :
    t.Arrives t.Strips src dst := by
  induction h with
  | met h => exact ⟨_, _, .refl, h⟩
  | stuck => cases hc
  | step _ hadv _ ih =>
    rw [hadv.complete] at hc
    exact (ih hc).head (p := (_, _)) (q := (_, _)) ⟨_, hadv⟩

theorem Grounded.exists_course (ht : t.Grounded False) (h : t.Arrives t.Strips src dst)
    (hs : t.Has src) (hd : t.Has dst) : ∃ c, t.Course src dst c ∧ c.complete = true := by
  obtain ⟨s, d, hreach, hfits⟩ := h
  suffices ∀ p, Relation.ReflTransGen t.Strips p (s, d) → t.Has p.1 → t.Has p.2 →
      ∃ c, t.Course p.1 p.2 c ∧ c.complete = true from this (src, dst) hreach hs hd
  intro p hreach
  induction hreach using Relation.ReflTransGen.head_induction_on with
  | refl => exact fun _ _ => ⟨.stop true, .met hfits, rfl⟩
  | head hstep _ ih =>
    intro hs hd
    obtain ⟨r, hr, -⟩ := (ht.assignable_safe hs hd).exists_ok
    cases r with
    | true => exact ⟨.stop true, .met hr, rfl⟩
    | false =>
      obtain ⟨record, hadv⟩ := hstep
      obtain ⟨hhas, hhas'⟩ := hadv.has ht.closed hs
      obtain ⟨c, h, hc⟩ := ih hhas hhas'
      exact ⟨record c, .step hr hadv h, (hadv.complete c).trans hc⟩

/-- **A conversion is complete if the unguarded walk arrives**, and then it is what that walk
records up to where it arrives first. -/
theorem Grounded.exists_coerce (ht : t.Grounded False) (hs : t.Has src) (hd : t.Has dst) :
    ∃ conversion, t.coerce src dst = .ok conversion ∧
      (conversion.isComplete = true ↔ t.Arrives t.Strips src dst) ∧
      (conversion.isComplete = true → ∃ c, t.Course src dst c ∧ c.complete = true) ∧
      ∀ c, t.Course src dst c → conversion = c.toConversion := by
  obtain ⟨c, hc, -⟩ := (ht.coercionFrom_safe (.start t) hs hd).exists_ok
  have hcoercion : t.coercion src dst = .ok c := hc
  have hcourse : c.complete = true → t.Course src dst c := fun h => course_of_coercionFrom hc h
  refine ⟨c.toConversion, by rw [coerce, hcoercion]; rfl, ?_, ?_, fun c' hc' => ?_⟩
  · rw [c.isComplete_toConversion]
    constructor
    · exact fun h => (hcourse h).arrives h
    · intro h
      obtain ⟨c', hc', hcomplete⟩ := ht.exists_course h hs hd
      obtain rfl := Except.ok.inj (hcoercion.symm.trans (hc'.coercion ht hs hd))
      exact hcomplete
  · rw [c.isComplete_toConversion]
    exact fun h => ⟨c, hcourse h, h⟩
  · rw [Except.ok.inj (hcoercion.symm.trans (hc'.coercion ht hs hd))]

/-! ## Both walks -/

/-- No literal contains itself where parts of literals have a lower rank than the literals. -/
theorem not_transGen_contains_of_rank (rank : TypeId → Nat)
    (h : ∀ i, (hi : i < t.kinds.size) → t.kinds[i].IsBare →
      ∀ part ∈ t.kinds[i].parts, rank part < rank ⟨i⟩) (id : TypeId) :
    ¬ Relation.TransGen t.Contains id id := by
  refine not_transGen_of_lt rank (fun a b hab => ?_) id
  obtain ⟨k, hk, hbare, hb⟩ := hab
  obtain ⟨hlt, rfl⟩ := Array.getElem?_eq_some_iff.mp hk
  exact h a.index hlt hbare b hb

theorem grounded_of_validate (ht : t.validate = .ok ())
    (hacyclic : ∀ id, ¬ Relation.TransGen t.Contains id id) : t.Grounded False :=
  ⟨validate_eq_ok_iff.mp ht, .inr (fun id => (validate_eq_ok_iff.mp ht).shallow hacyclic id)⟩

/-- **The guards are exact.** In a valid table without a circle that avoids names, both walks
come to an answer. The first affirms exactly where its unguarded walk comes to types that fit;
the second is complete exactly where its own does, and then it consists of the steps of that
walk up to the first types that fit. -/
theorem guards_exact (ht : t.validate = .ok ())
    (hacyclic : ∀ id, ¬ Relation.TransGen t.Contains id id) (hs : t.Has src) (hd : t.Has dst) :
    (∃ feeds, t.compatible src dst = .ok feeds ∧
      (feeds = true ↔ t.Arrives t.Sheds src dst)) ∧
    ∃ conversion, t.coerce src dst = .ok conversion ∧
      (conversion.isComplete = true ↔ t.Arrives t.Strips src dst) ∧
      (conversion.isComplete = true → ∃ c, t.Course src dst c ∧ c.complete = true) ∧
      ∀ c, t.Course src dst c → conversion = c.toConversion := by
  have hgrounded := grounded_of_validate ht hacyclic
  refine ⟨?_, hgrounded.exists_coerce hs hd⟩
  obtain ⟨feeds, hfeeds, -⟩ := (hgrounded.compatible_safe hs hd).exists_ok
  refine ⟨feeds, hfeeds, ?_⟩
  rw [← hgrounded.compatible_iff_arrives hs hd, hfeeds]
  exact ⟨fun h => h ▸ rfl, Except.ok.inj⟩

/-- The types of `type P *P` and of `type Q *Q`. -/
def selfPointers : TypeTable :=
  ⟨#[.named "P" (some "example.com/demo") ⟨1⟩, .pointer ⟨0⟩,
    .named "Q" (some "example.com/demo") ⟨3⟩, .pointer ⟨2⟩]⟩

theorem selfPointers_not_contains (id : TypeId) :
    ¬ Relation.TransGen selfPointers.Contains id id :=
  not_transGen_contains_of_rank (fun id => id.index % 2) (by decide) id

/-- Between `P` and `Q` both walks go round in circles, and both answers say that there are no
types that fit on the way. -/
theorem selfPointers_guards_exact :
    selfPointers.validate = .ok () ∧ (∀ id, ¬ Relation.TransGen selfPointers.Contains id id) ∧
    selfPointers.Has ⟨0⟩ ∧ selfPointers.Has ⟨2⟩ ∧
    ¬ selfPointers.Arrives selfPointers.Sheds ⟨0⟩ ⟨2⟩ ∧
    ¬ selfPointers.Arrives selfPointers.Strips ⟨0⟩ ⟨2⟩ := by
  have hvalid : selfPointers.validate = .ok () := rfl
  have hs : selfPointers.Has ⟨0⟩ := rfl
  have hd : selfPointers.Has ⟨2⟩ := rfl
  refine ⟨hvalid, selfPointers_not_contains, hs, hd, ?_⟩
  obtain ⟨⟨feeds, hfeeds, hiff⟩, conversion, hconversion, hcomplete, -⟩ :=
    guards_exact hvalid selfPointers_not_contains hs hd
  have hnot : selfPointers.compatible ⟨0⟩ ⟨2⟩ = .ok false := by decide
  have hsteps : selfPointers.coerce ⟨0⟩ ⟨2⟩ = .ok (.coerce [.addressOf, .convert ⟨2⟩] false) := by
    decide
  obtain rfl := Except.ok.inj (hfeeds.symm.trans hnot)
  obtain rfl := Except.ok.inj (hconversion.symm.trans hsteps)
  exact ⟨fun h => Bool.false_ne_true (hiff.mpr h), fun h => Bool.false_ne_true (hcomplete.mpr h)⟩

end TypeTable

end Crosswalk

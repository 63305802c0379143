import Crosswalk.Proofs.Coercion.Unguarded
import Crosswalk.Proofs.Types.Coherent

/-!
# Every relation respects identity

Matching and converting walk from pair to pair of types and remember the pairs by position, so
between other entries for the same types they may go round longer or shorter circles. What they
find out does not change: their unguarded walks do not come by positions but by layers, and in a
coherent table identical types lose identical layers (`TypeTable.Coherent.sheds`,
`TypeTable.Coherent.strips`). So the one comes to types that fit where the other does.
-/

namespace Crosswalk

namespace TypeTable

variable {t : TypeTable} {a b a' b' : TypeId} {p q p' : TypeId × TypeId}
  {step : TypeId × TypeId → TypeId × TypeId → Prop} {delegates : List MappingSpec}

/-- The types of two pairs are one, side by side. -/
def SamePair (t : TypeTable) (p q : TypeId × TypeId) : Prop := t.Same p.1 q.1 ∧ t.Same p.2 q.2

/-! ## The first pair of a walk -/

/-- A pair of types that has no answer to whether it fits feeds nothing. -/
theorem compatible_of_assignable_error {fault : Fault} (h : t.assignable a b = .error fault) :
    t.compatible a b = .error fault := by
  unfold compatible
  rw [compatibleFrom_succ List.not_mem_nil, h]
  rfl

theorem compatible_of_assignable (h : t.assignable a b = .ok true) :
    t.compatible a b = .ok true := by
  unfold compatible
  rw [compatibleFrom_succ List.not_mem_nil, h]
  rfl

theorem coerce_of_assignable_error {fault : Fault} (h : t.assignable a b = .error fault) :
    t.coerce a b = .error fault := by
  unfold coerce coercion
  rw [coercionFrom, h]
  rfl

theorem coerce_of_assignable (h : t.assignable a b = .ok true) : t.coerce a b = .ok .assign := by
  unfold coerce coercion
  rw [coercionFrom, h]
  rfl

/-- Two walks that go on in step come to types that fit together. -/
theorem Coherent.arrives (ht : t.Coherent)
    (hstep : ∀ p q p', step p q → t.SamePair p p' → ∃ q', step p' q' ∧ t.SamePair q q')
    (ha : t.Same a a') (hb : t.Same b b') (h : t.Arrives step a b) : t.Arrives step a' b' := by
  obtain ⟨s, d, hreach, hfits⟩ := h
  have hsame : ∀ q, Relation.ReflTransGen step (a, b) q →
      ∃ q', Relation.ReflTransGen step (a', b') q' ∧ t.SamePair q q' := by
    intro q hreach
    induction hreach with
    | refl => exact ⟨(a', b'), .refl, ha, hb⟩
    | tail _ hnext ih =>
      obtain ⟨p', hp', hsame⟩ := ih
      obtain ⟨q', hq', hsame'⟩ := hstep _ _ _ hnext hsame
      exact ⟨q', hp'.tail hq', hsame'⟩
  obtain ⟨⟨s', d'⟩, hreach', hs, hd⟩ := hsame _ hreach
  exact ⟨s', d', hreach', (ht.assignable hs hd).eq ▸ hfits⟩

namespace Coherent

variable (ht : t.Coherent)
include ht

/-! ## Steps of the walks -/

/-- **The walk that matches types goes on in step** from identical types. -/
theorem sheds (h : t.Sheds p q) (hsame : t.SamePair p p') :
    ∃ q', t.Sheds p' q' ∧ t.SamePair q q' := by
  obtain ⟨s', d'⟩ := p'
  obtain ⟨hs, hd⟩ := hsame
  cases h with
  | pointer hk =>
    obtain ⟨e', hk', he⟩ := exists_pointer_of_identical hd hk
    exact ⟨_, .pointer hk', hs, he⟩
  | names hks hkd hp hnamed =>
    obtain ⟨ks', hks', halike⟩ := exists_kind_of_same hs hks
    obtain ⟨kd', hkd', halike'⟩ := exists_kind_of_same hd hkd
    rw [halike.isSome_declared?, halike'.isSome_declared?] at hnamed
    exact ⟨_, .names hks' hkd' (halike'.pointee?_eq_none hp) hnamed,
      ht.unname hs hks hks', ht.unname hd hkd hkd'⟩

/-- **The walk from both ends goes on in step** from identical types. -/
theorem strips (h : t.Strips p q) (hsame : t.SamePair p p') :
    ∃ q', t.Strips p' q' ∧ t.SamePair q q' := by
  obtain ⟨src, dst⟩ := p
  obtain ⟨src', dst'⟩ := p'
  obtain ⟨s, d⟩ := q
  obtain ⟨hs, hd⟩ := hsame
  obtain ⟨record, hadv⟩ := h
  cases hadv with
  | address hkd =>
    obtain ⟨e', hkd', he⟩ := exists_pointer_of_identical hd hkd
    exact ⟨(src', e'), ⟨_, .address hkd'⟩, hs, he⟩
  | deref hkd hdp hks =>
    obtain ⟨kd', hkd', halike⟩ := exists_kind_of_same hd hkd
    obtain ⟨e', hks', he⟩ := exists_pointer_of_identical hs hks
    exact ⟨(e', dst'), ⟨_, .deref hkd' (halike.pointee?_eq_none hdp) hks'⟩, he, hd⟩
  | name hkd hks hsp =>
    obtain ⟨ks', hks', halike⟩ := exists_kind_of_same hs hks
    obtain ⟨u', hkd', hu⟩ := ht.exists_named_of_same hd hkd
    exact ⟨(src', u'), ⟨_, .name hkd' hks' (halike.pointee?_eq_none hsp)⟩, hs, hu⟩
  | unname hkd hdp hks =>
    obtain ⟨kd', hkd', halike⟩ := exists_kind_of_same hd hkd
    obtain ⟨u', hks', hu⟩ := ht.exists_named_of_same hs hks
    exact ⟨(u', dst'), ⟨_, .unname hkd' (halike.inside?_eq_none hdp) hks'⟩, hu, hd⟩

/-! ## Answers -/

/-- **From identical types two walks answer alike if they do so from types that exist.** A walk
from types that do not exist says what the question whether they fit says: nothing about two
types, and that a type fits itself. -/
theorem inStep_walks {α : Type} {walk : TypeId → TypeId → Lookup α} {R : α → α → Prop} {met : α}
    (hmet : R met met)
    (herror : ∀ a b fault, t.assignable a b = .error fault → walk a b = .error fault)
    (hfits : ∀ a b, t.assignable a b = .ok true → walk a b = .ok met)
    (hhas : t.Has a → t.Has a' → t.Has b → t.Has b' → InStep R (walk a a') (walk b b'))
    (ha : t.Same a b) (ha' : t.Same a' b') : InStep R (walk a a') (walk b b') := by
  have hanswers := (ht.assignable ha ha').eq
  cases hanswer : t.assignable a a' with
  | error fault =>
    rw [herror _ _ _ hanswer, herror _ _ _ (hanswers ▸ hanswer)]
    exact .error fault
  | ok fits =>
    rcases has_of_assignable hanswer with rfl | ⟨hs, hd⟩
    · have hself := assignable_of_identical (identical_self t a)
      exact .of_ok (hfits _ _ hself) (hfits _ _ (hanswers ▸ hself)) hmet
    · exact hhas hs hd ((has_iff_of_same ha).mp hs) ((has_iff_of_same ha').mp hd)

/-- **Identical types feed the same fields, and are fed from the same.** -/
theorem compatible (ha : t.Same a b) (ha' : t.Same a' b') :
    InStep Eq (t.compatible a a') (t.compatible b b') := by
  refine ht.inStep_walks rfl (fun _ _ _ => compatible_of_assignable_error)
    (fun _ _ => compatible_of_assignable) (fun hs hd hs' hd' => ?_) ha ha'
  obtain ⟨r, hr, -⟩ := (ht.groundedness.compatible_safe hs hd).exists_ok
  obtain ⟨r', hr', -⟩ := (ht.groundedness.compatible_safe hs' hd').exists_ok
  refine .of_iff hr hr' ?_
  rw [ht.groundedness.compatible_iff_arrives hs hd, ht.groundedness.compatible_iff_arrives hs' hd']
  exact ⟨ht.arrives (fun _ _ _ => ht.sheds) ha ha',
    ht.arrives (fun _ _ _ => ht.sheds) (identical_symm ha) (identical_symm ha')⟩

/-- **Identical types are converted completely to the same types, and from the same.** The steps
may differ, since they name the entries that the walk comes by. -/
theorem coerce (ha : t.Same a b) (ha' : t.Same a' b') :
    InStep (fun c c' => c.isComplete = c'.isComplete) (t.coerce a a') (t.coerce b b') := by
  refine ht.inStep_walks rfl (fun _ _ _ => coerce_of_assignable_error)
    (fun _ _ => coerce_of_assignable) (fun hs hd hs' hd' => ?_) ha ha'
  obtain ⟨c, hc, hcomplete, -⟩ := ht.groundedness.exists_coerce hs hd
  obtain ⟨c', hc', hcomplete', -⟩ := ht.groundedness.exists_coerce hs' hd'
  refine .of_ok hc hc' (Bool.eq_iff_iff.mpr ?_)
  rw [hcomplete, hcomplete']
  exact ⟨ht.arrives (fun _ _ _ => ht.strips) ha ha',
    ht.arrives (fun _ _ _ => ht.strips) (identical_symm ha) (identical_symm ha')⟩

/-! ## Delegates -/

/-- A mapping function turns the same types into the same. -/
theorem converts (d : MappingSpec) (ha : t.Same a b) (ha' : t.Same a' b') :
    InStep Eq (d.converts t a a') (d.converts t b b') := by
  have hself := identical_self t
  refine (ht.assignable (hself d.destType) ha').bind_eq (fun fits => ?_)
  split
  · exact .refl _
  refine (ht.assignable ha (hself d.sourceType)).bind_eq (fun taken => ?_)
  split
  · exact .refl _
  split
  · exact .refl _
  refine (InStep.refl _).bind_eq (fun pointee => ?_)
  cases pointee with
  | some e => exact ht.assignable ha (hself e)
  | none => exact .refl _

/-- **One delegate is found for all identical types**, the first that turns one into the other. -/
theorem findDelegate (ha : t.Same a b) (ha' : t.Same a' b') :
    InStep Eq (t.findDelegate delegates a a') (t.findDelegate delegates b b') := by
  have hconverts : (fun d : MappingSpec => d.converts t a a') = (fun d => d.converts t b b') :=
    funext (fun d => (ht.converts d ha ha').eq)
  unfold TypeTable.findDelegate
  rw [hconverts]
  exact .refl _

end Coherent

/-- **Identity is an equivalence that every relation respects.** In a coherent table an entry
denotes its own type, and entries that denote one type answer alike, on either side: whether
they are identical to another, or assignable, whether a value of the one feeds a field of the
other, whether the conversion is complete, and which delegate converts. Of types that exist all
of this has an answer. -/
theorem Coherent.identical_congruence (ht : t.Coherent) :
    Equivalence t.Same ∧
    (∀ a b, t.Has a → t.Has b →
      (∃ r, t.identical a b = .ok r) ∧ (∃ r, t.assignable a b = .ok r) ∧
      (∃ r, t.compatible a b = .ok r) ∧ (∃ c, t.coerce a b = .ok c) ∧
      ∀ delegates : List MappingSpec, (∀ d ∈ delegates, d.Typed t) →
        ∃ d, t.findDelegate delegates a b = .ok d) ∧
    ∀ a a' b b', t.Same a a' → t.Same b b' →
      t.identical a b = t.identical a' b' ∧ t.assignable a b = t.assignable a' b' ∧
      t.compatible a b = t.compatible a' b' ∧
      (t.coerce a b).map Conversion.isComplete = (t.coerce a' b').map Conversion.isComplete ∧
      ∀ delegates : List MappingSpec,
        t.findDelegate delegates a b = t.findDelegate delegates a' b' := by
  have hgrounded := ht.groundedness
  refine ⟨⟨identical_self t, identical_symm, identical_trans⟩, fun a b ha hb => ?_,
    fun a a' b b' ha hb => ?_⟩
  · refine ⟨?_, ?_, ?_, ?_, fun delegates hdelegates => ?_⟩
    · exact (hgrounded.identical_safe ha hb).exists_ok.imp (fun _ h => h.1)
    · exact (hgrounded.assignable_safe ha hb).exists_ok.imp (fun _ h => h.1)
    · exact (hgrounded.compatible_safe ha hb).exists_ok.imp (fun _ h => h.1)
    · exact (hgrounded.coerce_safe ha hb).exists_ok.imp (fun _ h => h.1)
    · exact (hgrounded.findDelegate_safe hdelegates ha hb).exists_ok.imp (fun _ h => h.1)
  · refine ⟨(ht.identical ha hb).eq, (ht.assignable ha hb).eq, (ht.compatible ha hb).eq, ?_,
      fun delegates => (ht.findDelegate ha hb).eq⟩
    exact ((ht.coerce ha hb).map (T := Eq) (f := Conversion.isComplete)
      (g := Conversion.isComplete) (fun _ _ h => h)).eq

/-- Whether a table is coherent can be seen entry by entry, given ranks that go down into literals. -/
theorem Coherent.of_rank (rank : TypeId → Nat) (hvalid : t.validate = .ok ())
    (hrank : ∀ i, (hi : i < t.kinds.size) → t.kinds[i].IsBare →
      ∀ part ∈ t.kinds[i].parts, rank part < rank ⟨i⟩)
    (hagreed : ∀ i, (hi : i < t.kinds.size) → ∀ j, (hj : j < t.kinds.size) →
      t.kinds[i].title? = t.kinds[j].title? →
        ∀ u ∈ t.kinds[i].declared?, ∀ v ∈ t.kinds[j].declared?, t.Same u v) : t.Coherent where
  valid := hvalid
  grounded := not_transGen_contains_of_rank rank hrank
  agreed := by
    intro a b name package u v ha hb
    obtain ⟨hi, heq⟩ := Array.getElem?_eq_some_iff.mp ha
    obtain ⟨hj, heq'⟩ := Array.getElem?_eq_some_iff.mp hb
    refine hagreed a.index hi b.index hj ?_ u ?_ v ?_
    · rw [heq, heq']
      rfl
    · rw [heq]
      rfl
    · rw [heq']
      rfl

/-- The types of `type Node struct { Next *Node; Names []string }`, entered twice. -/
def twiceLoaded : TypeTable :=
  ⟨#[.basic .string,
    .named "Node" (some "example.com/demo") ⟨2⟩, .struct [⟨"Next", ⟨3⟩, false⟩, ⟨"Names", ⟨4⟩, false⟩],
    .pointer ⟨1⟩, .slice ⟨0⟩,
    .named "Node" (some "example.com/demo") ⟨6⟩, .struct [⟨"Next", ⟨7⟩, false⟩, ⟨"Names", ⟨8⟩, false⟩],
    .pointer ⟨5⟩, .slice ⟨0⟩]⟩

theorem coherent_twiceLoaded : twiceLoaded.Coherent :=
  .of_rank (fun id => [0, 0, 2, 1, 1, 0, 2, 1, 1].getD id.index 0) rfl (by decide) (by decide)

/-- A node of the one entry feeds a pointer to a node of the other, as it feeds one of its own. -/
theorem identical_congruence_twiceLoaded :
    twiceLoaded.Coherent ∧ twiceLoaded.Same ⟨1⟩ ⟨5⟩ ∧ twiceLoaded.Same ⟨3⟩ ⟨7⟩ ∧
    twiceLoaded.compatible ⟨1⟩ ⟨7⟩ = .ok true ∧
    (twiceLoaded.coerce ⟨1⟩ ⟨7⟩).map Conversion.isComplete = .ok true := by
  have hnode : twiceLoaded.Same ⟨1⟩ ⟨5⟩ := by decide
  have hpointer : twiceLoaded.Same ⟨3⟩ ⟨7⟩ := by decide
  obtain ⟨hequiv, -, hcongr⟩ := coherent_twiceLoaded.identical_congruence
  obtain ⟨-, -, hfeeds, hcomplete, -⟩ := hcongr ⟨1⟩ ⟨1⟩ ⟨3⟩ ⟨7⟩ (hequiv.refl ⟨1⟩) hpointer
  have hfed : twiceLoaded.compatible ⟨1⟩ ⟨3⟩ = .ok true := by decide
  have hsteps : twiceLoaded.coerce ⟨1⟩ ⟨3⟩ = .ok (.coerce [.addressOf] true) := by decide
  rw [hsteps] at hcomplete
  exact ⟨coherent_twiceLoaded, hnode, hpointer, hfeeds.symm.trans hfed, hcomplete.symm⟩

end TypeTable

end Crosswalk

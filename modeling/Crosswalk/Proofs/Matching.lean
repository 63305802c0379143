import Crosswalk.Matching
import Crosswalk.Proofs.Outcome
import Mathlib.Data.List.Nodup
import Mathlib.Order.Basic

/-!
# What a match is

A match that comes to an answer has asked of every destination field that is not
to be skipped which source field feeds it. Its pairs are the fields for which
there is one, its unmatched fields the others, both in the order of the
destination: nothing is lost between the two, and nothing is added.
-/

namespace Crosswalk

namespace Matcher

variable {m : Matcher} {t : TypeTable} {src dst : RecordType} {dests : List RecordField}
  {found : FieldMatch} {dest source : RecordField} {pair : FieldPair}

/-- The destination fields that are not skipped, in order. -/
def remaining (m : Matcher) (dests : List RecordField) : List RecordField :=
  dests.filter (fun dest => !m.skips dest)

/-- The source field that feeds a destination field, where the question has an answer. -/
def feeds? (m : Matcher) (t : TypeTable) (src : RecordType) (dest : RecordField) :
    Option RecordField :=
  match m.findSource t src dest with
  | .ok found => found
  | .error _ => none

theorem feeds?_of_findSource {r : Option RecordField} (h : m.findSource t src dest = .ok r) :
    m.feeds? t src dest = r := by
  unfold feeds?
  rw [h]

theorem remaining_cons_of_skips {rest : List RecordField} (h : m.skips dest = true) :
    m.remaining (dest :: rest) = m.remaining rest :=
  List.filter_cons_of_neg (by rw [h]; exact Bool.false_ne_true)

theorem remaining_cons {rest : List RecordField} (h : m.skips dest = false) :
    m.remaining (dest :: rest) = dest :: m.remaining rest :=
  List.filter_cons_of_pos (by rw [h]; rfl)

/-- **A match is what is found for each field that remains.** -/
theorem matchFields_eq_ok (h : m.matchFields t src dests = .ok found) :
    (∀ dest ∈ m.remaining dests, m.findSource t src dest = .ok (m.feeds? t src dest)) ∧
      found.pairs = (m.remaining dests).filterMap
        (fun dest => (m.feeds? t src dest).map (fun source => ⟨source, dest⟩)) ∧
      found.unmatched = (m.remaining dests).filter (fun dest => (m.feeds? t src dest).isNone) := by
  induction dests generalizing found with
  | nil =>
    obtain rfl := Except.ok.inj h
    exact ⟨fun dest hdest => absurd hdest List.not_mem_nil, rfl, rfl⟩
  | cons dest rest ih =>
    rw [matchFields] at h
    cases hskips : m.skips dest with
    | true =>
      rw [hskips, if_pos rfl] at h
      rw [remaining_cons_of_skips hskips]
      exact ih h
    | false =>
      rw [hskips, if_neg Bool.false_ne_true] at h
      rw [remaining_cons hskips]
      -- the field is fed or not, and the others follow in their order
      obtain ⟨r, hr, h⟩ := bind_eq_ok_iff.mp h
      obtain ⟨others, hothers, h⟩ := bind_eq_ok_iff.mp h
      obtain ⟨hasked, hpairs, hunmatched⟩ := ih hothers
      have hfeeds := feeds?_of_findSource hr
      refine ⟨fun dest' hdest' => ?_, ?_⟩
      · rcases List.mem_cons.mp hdest' with rfl | hdest'
        · rw [hfeeds, hr]
        · exact hasked dest' hdest'
      · cases r with
        | some source =>
          obtain rfl := Except.ok.inj h
          rw [List.filterMap_cons, List.filter_cons, hfeeds]
          exact ⟨congrArg _ hpairs, hunmatched⟩
        | none =>
          obtain rfl := Except.ok.inj h
          rw [List.filterMap_cons, List.filter_cons, hfeeds]
          exact ⟨hpairs, congrArg _ hunmatched⟩

/-- The destination of every pair has been asked about, and its source is the answer. -/
theorem findSource_of_mem_pairs (h : m.matchRecords t src dst = .ok found)
    (hpair : pair ∈ found.pairs) : m.findSource t src pair.dest = .ok (some pair.source) := by
  obtain ⟨hasked, hpairs, -⟩ := matchFields_eq_ok h
  rw [hpairs] at hpair
  obtain ⟨dest, hdest, hfed⟩ := List.mem_filterMap.mp hpair
  obtain ⟨source, hsource, rfl⟩ := Option.map_eq_some_iff.mp hfed
  rw [hasked dest hdest, hsource]

/-- **Without an override only types that fit are paired.** -/
theorem compatible_of_mem_pairs (h : m.matchRecords t src dst = .ok found)
    (hpair : pair ∈ found.pairs) (hno : m.overrides.get? pair.dest.name = none) :
    t.compatible pair.source.type pair.dest.type = .ok true := by
  have hfound := findSource_of_mem_pairs h hpair
  unfold findSource at hfound
  rw [hno] at hfound
  have hfits := (findM?_eq_ok_some hfound).2
  unfold fits at hfits
  split at hfits
  · exact hfits
  · cases hfits

/-! ## Sharing out the fields -/

/-- What remains is what is neither blank nor to be ignored. -/
theorem remaining_eq (m : Matcher) (dests : List RecordField) :
    m.remaining dests = dests.filter (fun f => f.name ≠ "_" ∧ f.name ∉ m.ignored) := by
  unfold remaining
  refine List.filter_congr (fun f _ => ?_)
  unfold skips RecordField.isBlank
  by_cases hblank : f.name = "_"
  · simp [hblank]
  · by_cases hignored : f.name ∈ m.ignored
    · simp [hblank, hignored]
    · simp [hblank, hignored]

end Matcher

end Crosswalk

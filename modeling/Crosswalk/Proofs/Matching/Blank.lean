import Crosswalk.Proofs.Matching.Rule

/-!
# Blank fields

A blank field has no name by which it could be selected, so nothing should be mapped from it or to
it. A match leaves blank destination fields out before it asks what feeds the others, and where it
goes by names it passes over blank source fields, whatever prefixes there are. An override is
taken at its word, however, and that word may be `_`. So a blank field is mapped just when an
override asks for one and there is one (`Matcher.blank_mapped_iff`).
-/

namespace Crosswalk

namespace Matcher

variable {m : Matcher} {t : TypeTable} {src dst : RecordType} {dest source : RecordField}
  {found : FieldMatch} {pair : FieldPair}

theorem isBlank_iff {f : RecordField} : f.isBlank = true ↔ f.name = "_" := decide_eq_true_iff

/-- **By the rule a blank field feeds what an override says it feeds**, and nothing else. -/
theorem Rule.isBlank_iff (h : m.Rule t src dest (some source)) :
    source.isBlank = true ↔ m.overrides.get? dest.name = some "_" := by
  rw [Matcher.isBlank_iff]
  cases h with
  | override ho hr =>
    cases hr with
    | found _ hname => rw [ho, hname, Option.some.injEq]
  | forms ho hr =>
    -- without an override the names decide, and the name of a blank field fits none
    cases hr with
    | found _ hfits =>
      rw [ho]
      exact ⟨fun hblank => absurd hblank hfits.1.1, nofun⟩

/-- What the rule finds is a field of the source. -/
theorem Rule.mem_fields (h : m.Rule t src dest (some source)) : source ∈ src.fields := by
  cases h with
  | override _ hr =>
    obtain ⟨⟨i, hi, -⟩, -⟩ := hr
    exact List.mem_of_getElem? hi
  | forms _ hr =>
    obtain ⟨⟨i, hi, -⟩, -⟩ := hr
    exact List.mem_of_getElem? hi

/-- Where an override asks for a blank field, the first one is found if there is one. -/
theorem exists_findSource_of_blank (ho : m.overrides.get? dest.name = some "_")
    (hsource : source ∈ src.fields) (hblank : source.isBlank = true) :
    ∃ first, m.findSource t src dest = .ok (some first) := by
  have hsome : (src.field "_").isSome = true := by
    unfold RecordType.field
    exact List.find?_isSome.mpr ⟨source, hsource, decide_eq_true (Matcher.isBlank_iff.mp hblank)⟩
  obtain ⟨first, hfirst⟩ := Option.isSome_iff_exists.mp hsome
  refine ⟨first, ?_⟩
  unfold findSource
  rw [ho]
  exact congrArg _ hfirst

/-- What is found for a field that remains is paired with it. -/
theorem mem_pairs_of_findSource (h : m.matchRecords t src dst = .ok found)
    (hdest : dest ∈ m.remaining dst.fields)
    (hfound : m.findSource t src dest = .ok (some source)) : ⟨source, dest⟩ ∈ found.pairs := by
  obtain ⟨-, hpairs, -⟩ := matchFields_eq_ok h
  rw [hpairs]
  exact List.mem_filterMap.mpr ⟨dest, hdest, by rw [feeds?_of_findSource hfound]; rfl⟩

/-- The destination of a pair is one of the fields that remain. -/
theorem dest_mem_remaining (h : m.matchRecords t src dst = .ok found)
    (hpair : pair ∈ found.pairs) : pair.dest ∈ m.remaining dst.fields := by
  obtain ⟨-, hpairs, -⟩ := matchFields_eq_ok h
  rw [hpairs] at hpair
  obtain ⟨dest, hdest, hfed⟩ := List.mem_filterMap.mp hpair
  obtain ⟨source, -, rfl⟩ := Option.map_eq_some_iff.mp hfed
  exact hdest

theorem mem_remaining_iff {dests : List RecordField} : dest ∈ m.remaining dests ↔
    dest ∈ dests ∧ dest.isBlank = false ∧ dest.name ∉ m.ignored := by
  rw [remaining_eq, List.mem_filter, decide_eq_true_iff, ← Bool.not_eq_true, isBlank_iff]

/-- **When a blank field is mapped.** In a match, whatever the types, the records, the prefixes,
the ignored names and the overrides, no destination is blank. The source of a pair is blank just
when there is an override for the destination and it says `_`. So some blank field is mapped
exactly if the source has one and an override that says so is for a field of the destination that
is neither blank nor ignored. -/
theorem blank_mapped_iff (h : m.matchRecords t src dst = .ok found) :
    (∀ pair ∈ found.pairs, pair.dest.isBlank = false ∧
      (pair.source.isBlank = true ↔ m.overrides.get? pair.dest.name = some "_")) ∧
    ((∃ pair ∈ found.pairs, pair.source.isBlank = true ∨ pair.dest.isBlank = true) ↔
      (∃ source ∈ src.fields, source.isBlank = true) ∧
        ∃ dest ∈ dst.fields, dest.isBlank = false ∧ dest.name ∉ m.ignored ∧
          m.overrides.get? dest.name = some "_") := by
  have hrule : ∀ pair ∈ found.pairs, m.Rule t src pair.dest (some pair.source) := fun pair hpair =>
    (findSource_eq_ok_iff.mp (findSource_of_mem_pairs h hpair)).2
  have hpairs : ∀ pair ∈ found.pairs, pair.dest.isBlank = false ∧
      (pair.source.isBlank = true ↔ m.overrides.get? pair.dest.name = some "_") :=
    fun pair hpair => ⟨(mem_remaining_iff.mp (dest_mem_remaining h hpair)).2.1,
      (hrule pair hpair).isBlank_iff⟩
  refine ⟨hpairs, ?_, ?_⟩
  · rintro ⟨pair, hpair, hblank⟩
    obtain ⟨hdest, hiff⟩ := hpairs pair hpair
    have hsource : pair.source.isBlank = true := by
      rw [hdest] at hblank
      exact hblank.resolve_right Bool.false_ne_true
    obtain ⟨hmem, -, hkept⟩ := mem_remaining_iff.mp (dest_mem_remaining h hpair)
    exact ⟨⟨pair.source, (hrule pair hpair).mem_fields, hsource⟩,
      pair.dest, hmem, hdest, hkept, hiff.mp hsource⟩
  · rintro ⟨⟨source, hsource, hblank⟩, dest, hdest, hnamed, hkept, ho⟩
    obtain ⟨first, hfirst⟩ := exists_findSource_of_blank (t := t) ho hsource hblank
    have hpair := mem_pairs_of_findSource h (mem_remaining_iff.mpr ⟨hdest, hnamed, hkept⟩) hfirst
    exact ⟨_, hpair, .inl ((hpairs _ hpair).2.mpr ho)⟩

/-- Two structs with blank fields; what the prefix `Get` leaves of the name `Get_` is blank. -/
def blankTypes : TypeTable := ⟨#[.basic .string,
  TypeTable.plainStruct [("_", ⟨0⟩), ("Mail", ⟨0⟩)],
  TypeTable.plainStruct [("Get_", ⟨0⟩), ("Mail", ⟨0⟩), ("_", ⟨0⟩)]]⟩

/-- The first of them as a record, -/
def blankSource : RecordType := ⟨⟨1⟩, ⟨1⟩, [⟨"_", ⟨0⟩, 0⟩, ⟨"Mail", ⟨0⟩, 1⟩]⟩

/-- and the second. -/
def blankDest : RecordType :=
  ⟨⟨2⟩, ⟨2⟩, [⟨"Get_", ⟨0⟩, 0⟩, ⟨"Mail", ⟨0⟩, 1⟩, ⟨"_", ⟨0⟩, 2⟩]⟩

/-- The matcher that recognises the prefix. -/
def blankMatcher : Matcher := Matcher.empty.recognizePrefixes ["Get"]

/-- That a prefix leaves a blank name maps nothing from a blank field. -/
theorem blankMatcher_maps_no_blank :
    RecordType.resolve blankTypes ⟨1⟩ = .ok (some blankSource) ∧
    RecordType.resolve blankTypes ⟨2⟩ = .ok (some blankDest) ∧
    ∃ found, blankMatcher.matchRecords blankTypes blankSource blankDest = .ok found ∧
      found.pairs ≠ [] ∧
      ¬ ∃ pair ∈ found.pairs, pair.source.isBlank = true ∨ pair.dest.isBlank = true := by
  have hfound : blankMatcher.matchRecords blankTypes blankSource blankDest
      = .ok ⟨[⟨⟨"Mail", ⟨0⟩, 1⟩, ⟨"Mail", ⟨0⟩, 1⟩⟩], [⟨"Get_", ⟨0⟩, 0⟩]⟩ := by decide
  refine ⟨rfl, rfl, _, hfound, List.cons_ne_nil _ _, fun hblank => ?_⟩
  obtain ⟨-, dest, -, -, -, ho⟩ := (blank_mapped_iff hfound).2.mp hblank
  cases ho

/-- **An override maps from a blank field.** -/
theorem blankMatcher_override_maps_blank :
    ∃ found, (blankMatcher.mapField "_" "Get_").matchRecords blankTypes blankSource blankDest
        = .ok found ∧
      ∃ pair ∈ found.pairs, pair.source.isBlank = true ∧ pair.dest.name = "Get_" := by
  have hfound : (blankMatcher.mapField "_" "Get_").matchRecords blankTypes blankSource blankDest
      = .ok ⟨[⟨⟨"_", ⟨0⟩, 0⟩, ⟨"Get_", ⟨0⟩, 0⟩⟩, ⟨⟨"Mail", ⟨0⟩, 1⟩, ⟨"Mail", ⟨0⟩, 1⟩⟩], []⟩ := by
    decide
  exact ⟨_, hfound, _, List.mem_cons_self, rfl, rfl⟩

end Matcher

end Crosswalk

import Crosswalk.Proofs.Matching.Rule

/-!
# What configuration changes

Each way of configuring a matcher acts where it is meant to. Fields that are ignored drop out
of a match, and the others stay what they are. An override is for the fields of one name. More
prefixes may change which source field is found, since they give every name more forms, but
where one was found one still is. And only what has been said counts, not in which order or how
often, except that the last override for a name is the one that holds
(`Matcher.ActsLocally`).

This follows from the rule that fields are matched by, which speaks of one destination field
at a time.
-/

namespace Crosswalk

variable {fronts fronts' : List String} {name form a b : String}

theorem IsForm.mono (h : IsForm fronts name form) (hfronts : ∀ x ∈ fronts, x ∈ fronts') :
    IsForm fronts' name form := by
  cases h with
  | whole => exact .whole
  | rest hmem hfront hform heq => exact .rest (hfronts _ hmem) hfront hform heq

/-- Names that meet still do when there are more prefixes. -/
theorem Meet.mono (h : Meet fronts a b) (hfronts : ∀ x ∈ fronts, x ∈ fronts') :
    Meet fronts' a b := by
  obtain ⟨form, ha, hb⟩ := h
  exact ⟨form, ha.mono hfronts, hb.mono hfronts⟩

theorem shareForm_congr (hfronts : ∀ x, x ∈ fronts ↔ x ∈ fronts') :
    shareForm fronts a b = shareForm fronts' a b := by
  rw [Bool.eq_iff_iff, shareForm_iff, shareForm_iff]
  exact ⟨fun h => h.mono (fun x => (hfronts x).mp), fun h => h.mono (fun x => (hfronts x).mpr)⟩

namespace Matcher

variable {m m' : Matcher} {t : TypeTable} {src dst : RecordType} {dest : RecordField}
  {dests : List RecordField} {found found' : FieldMatch} {r r' : Option RecordField}

/-! ## Matchers that say the same -/

/-- **Matchers that say the same**: they recognise and ignore the same, and have the same
override for each name. -/
structure SaysSame (m m' : Matcher) : Prop where
  /-- The prefixes. -/
  prefixes : ∀ x, x ∈ m.prefixes ↔ x ∈ m'.prefixes
  /-- The ignored names. -/
  ignored : ∀ x, x ∈ m.ignored ↔ x ∈ m'.ignored
  /-- The overrides. -/
  overrides : ∀ name, m.overrides.get? name = m'.overrides.get? name

theorem SaysSame.skips (h : m.SaysSame m') (dest : RecordField) : m.skips dest = m'.skips dest := by
  unfold Matcher.skips
  rw [decide_eq_decide.mpr (h.ignored dest.name)]

theorem SaysSame.findSource (h : m.SaysSame m') (t : TypeTable) (src : RecordType)
    (dest : RecordField) : m.findSource t src dest = m'.findSource t src dest := by
  unfold Matcher.findSource fits
  rw [h.overrides]
  simp only [shareForm_congr h.prefixes]

/-- Matchers that skip the same and find the same match alike. -/
theorem matchFields_congr (hskips : ∀ dest, m.skips dest = m'.skips dest)
    (hfind : ∀ dest, m.findSource t src dest = m'.findSource t src dest) :
    m.matchFields t src dests = m'.matchFields t src dests := by
  induction dests with
  | nil => rfl
  | cons dest dests ih => rw [matchFields, matchFields, hskips, hfind, ih]

/-- **Matchers that say the same match alike.** -/
theorem SaysSame.matchRecords (h : m.SaysSame m') (t : TypeTable) (src dst : RecordType) :
    m.matchRecords t src dst = m'.matchRecords t src dst :=
  matchFields_congr h.skips (h.findSource t src)

/-! ## A match, field by field -/

/-- A search that finds something finds what feeds the field. -/
theorem findSource_eq_ok_iff_feeds? : m.findSource t src dest = .ok r ↔
    (∃ r, m.findSource t src dest = .ok r) ∧ r = m.feeds? t src dest := by
  constructor
  · intro h
    exact ⟨⟨r, h⟩, (feeds?_of_findSource h).symm⟩
  · rintro ⟨⟨r, h⟩, rfl⟩
    rw [feeds?_of_findSource h, h]

theorem matchFields_eq_ok_iff_feeds? : m.matchFields t src dests = .ok found ↔
    (∀ dest ∈ m.remaining dests, ∃ r, m.findSource t src dest = .ok r) ∧
      found.pairs = (m.remaining dests).filterMap
        (fun dest => (m.feeds? t src dest).map (fun source => ⟨source, dest⟩)) ∧
      found.unmatched = (m.remaining dests).filter (fun dest => (m.feeds? t src dest).isNone) :=
  matchFields_eq_ok_iff (fun _ _ => findSource_eq_ok_iff_feeds?)

/-- The pairs of some fields are the pairs that they are in. -/
theorem filterMap_filter_pairs (feeds : RecordField → Option RecordField)
    (keep : RecordField → Bool) (dests : List RecordField) :
    (dests.filter keep).filterMap
        (fun dest => (feeds dest).map (fun source => (⟨source, dest⟩ : FieldPair)))
      = (dests.filterMap (fun dest => (feeds dest).map (fun source => ⟨source, dest⟩))).filter
          (fun pair => keep pair.dest) := by
  rw [List.filterMap_filter, List.filter_filterMap]
  refine List.filterMap_congr (fun dest _ => ?_)
  cases feeds dest with
  | none => simp
  | some source => simp [Option.filter]

/-! ## Ignored fields -/

theorem remaining_ignoreFields (names : List String) :
    (m.ignoreFields names).remaining dests
      = (m.remaining dests).filter (fun dest => dest.name ∉ names) := by
  rw [remaining_eq, remaining_eq, List.filter_filter]
  refine List.filter_congr (fun dest _ => ?_)
  have hmem : dest.name ∈ (m.ignoreFields names).ignored ↔
      dest.name ∈ m.ignored ∨ dest.name ∈ names := OrderedSet.mem_insertAll
  simp only [hmem, not_or, ← Bool.decide_and]
  refine decide_eq_decide.mpr ?_
  tauto

/-- **Fields that are ignored drop out**, and the others stay what they are. -/
theorem matchFields_ignoreFields (names : List String)
    (h : m.matchFields t src dests = .ok found) :
    (m.ignoreFields names).matchFields t src dests = .ok
      ⟨found.pairs.filter (fun pair => pair.dest.name ∉ names),
        found.unmatched.filter (fun dest => dest.name ∉ names)⟩ := by
  obtain ⟨hasked, hpairs, hunmatched⟩ := matchFields_eq_ok_iff_feeds?.mp h
  have hfeeds : (m.ignoreFields names).feeds? t src = m.feeds? t src := rfl
  refine matchFields_eq_ok_iff_feeds?.mpr ⟨fun dest hdest => ?_, ?_, ?_⟩
  · rw [remaining_ignoreFields] at hdest
    exact hasked dest (List.mem_of_mem_filter hdest)
  · rw [remaining_ignoreFields, hpairs, hfeeds]
    exact (filterMap_filter_pairs _ (fun dest => dest.name ∉ names) _).symm
  · rw [remaining_ignoreFields, hunmatched, hfeeds]
    exact List.filter_comm _ _ _

/-! ## Overrides -/

theorem findSource_mapField (source : String) {name : String} (h : dest.name ≠ name) :
    (m.mapField source name).findSource t src dest = m.findSource t src dest := by
  have hget : (m.mapField source name).overrides.get? dest.name = m.overrides.get? dest.name :=
    (OrderedMap.get?_insert _ _ _).trans (if_neg h)
  unfold findSource
  rw [hget]
  rfl

/-- An override needs no answer that was not there before. -/
theorem exists_findSource_mapField (source name : String)
    (h : ∃ r, m.findSource t src dest = .ok r) :
    ∃ r, (m.mapField source name).findSource t src dest = .ok r := by
  by_cases hname : dest.name = name
  · have hget : (m.mapField source name).overrides.get? dest.name = some source :=
      (OrderedMap.get?_insert _ _ _).trans (if_pos hname)
    unfold findSource
    rw [hget]
    exact ⟨_, rfl⟩
  · rwa [findSource_mapField source hname]

/-- **An override changes nothing for fields of other names.** -/
theorem matchFields_mapField (source name : String) (h : m.matchFields t src dests = .ok found) :
    ∃ found', (m.mapField source name).matchFields t src dests = .ok found' ∧
      found'.pairs.filter (fun pair => pair.dest.name ≠ name)
        = found.pairs.filter (fun pair => pair.dest.name ≠ name) ∧
      found'.unmatched.filter (fun dest => dest.name ≠ name)
        = found.unmatched.filter (fun dest => dest.name ≠ name) := by
  obtain ⟨hasked, hpairs, hunmatched⟩ := matchFields_eq_ok_iff_feeds?.mp h
  have hremaining : (m.mapField source name).remaining dests = m.remaining dests := rfl
  have hfeeds : ∀ dest : RecordField, dest.name ≠ name →
      (m.mapField source name).feeds? t src dest = m.feeds? t src dest := by
    intro dest hne
    unfold feeds?
    rw [findSource_mapField source hne]
  obtain ⟨found', h'⟩ := exists_matchFields_iff.mpr
    (fun dest hdest => exists_findSource_mapField source name (hasked dest hdest))
  obtain ⟨-, hpairs', hunmatched'⟩ := matchFields_eq_ok_iff_feeds?.mp h'
  refine ⟨found', h', ?_, ?_⟩
  · rw [hpairs, hpairs', hremaining, ← filterMap_filter_pairs _ (fun dest => dest.name ≠ name),
      ← filterMap_filter_pairs _ (fun dest => dest.name ≠ name)]
    refine List.filterMap_congr (fun dest hdest => ?_)
    rw [hfeeds dest (of_decide_eq_true (List.mem_filter.mp hdest).2)]
  · rw [hunmatched, hunmatched', hremaining, List.filter_filter, List.filter_filter]
    refine List.filter_congr (fun dest _ => ?_)
    by_cases hname : dest.name = name
    · simp [hname]
    · rw [hfeeds dest hname]

/-! ## Prefixes -/

theorem Candidate.recognizePrefixes {source : RecordField} (h : m.Candidate t dest source)
    (fronts : List String) : (m.recognizePrefixes fronts).Candidate t dest source := by
  obtain ⟨⟨hnamed, hmeet⟩, hfits⟩ := h
  refine ⟨⟨hnamed, hmeet.mono (fun x hx => ?_)⟩, hfits⟩
  exact OrderedSet.mem_insertAll.mpr (.inl hx)

/-- **A field that is fed still is when there are more prefixes**, though perhaps by another
field. -/
theorem Rule.recognizePrefixes {source : RecordField} {fronts : List String}
    (h : m.Rule t src dest (some source)) (h' : (m.recognizePrefixes fronts).Rule t src dest r') :
    ∃ source', r' = some source' := by
  cases h with
  | override ho hr =>
    have hrule := (rule_of_override (t := t) ho).mp (.override ho hr)
    have hrule' := (rule_of_override (m := m.recognizePrefixes fronts) ho).mp h'
    exact ⟨source, hrule'.trans hrule.symm⟩
  | forms ho hr =>
    have hr' := (rule_of_forms (m := m.recognizePrefixes fronts) ho).mp h'
    cases hr with
    | found hreached hcandidate =>
      cases hr' with
      | found => exact ⟨_, rfl⟩
      | missing hno =>
        obtain ⟨i, hi, -⟩ := hreached
        exact absurd (hcandidate.recognizePrefixes fronts) (hno _ (List.mem_of_getElem? hi))

/-- **More prefixes leave no field unfed that was fed.** -/
theorem matchFields_recognizePrefixes {fronts : List String} {pair : FieldPair}
    (h : m.matchFields t src dests = .ok found)
    (h' : (m.recognizePrefixes fronts).matchFields t src dests = .ok found')
    (hpair : pair ∈ found.pairs) :
    pair.dest ∉ found'.unmatched ∧ ∃ pair' ∈ found'.pairs, pair'.dest = pair.dest := by
  obtain ⟨hasked, hpairs, -⟩ := matchFields_eq_ok h
  obtain ⟨hasked', hpairs', hunmatched'⟩ := matchFields_eq_ok h'
  rw [hpairs] at hpair
  obtain ⟨dest, hdest, hfed⟩ := List.mem_filterMap.mp hpair
  obtain ⟨source, hsource, rfl⟩ := Option.map_eq_some_iff.mp hfed
  have hdest' : dest ∈ (m.recognizePrefixes fronts).remaining dests := hdest
  obtain ⟨-, hrule⟩ := findSource_eq_ok_iff.mp (hasked dest hdest)
  obtain ⟨-, hrule'⟩ := findSource_eq_ok_iff.mp (hasked' dest hdest')
  rw [hsource] at hrule
  obtain ⟨source', hsource'⟩ := hrule.recognizePrefixes hrule'
  rw [hpairs', hunmatched']
  refine ⟨fun hmem => ?_, ⟨source', dest⟩, List.mem_filterMap.mpr ⟨dest, hdest', ?_⟩, rfl⟩
  · have hnone := (List.mem_filter.mp hmem).2
    rw [hsource'] at hnone
    cases hnone
  · rw [hsource']
    rfl

/-! ## All of it -/

/-- The matcher with one override after another; of each the destination comes first. -/
def mapFields (m : Matcher) (overrides : List (String × String)) : Matcher :=
  { m with overrides := m.overrides.insertEach overrides }

/-- **What is said in another order, or again, says the same**, if the overrides for one name
stay in their order. -/
theorem saysSame_of_reordered {names names' : List String}
    {overrides overrides' : List (String × String)}
    (hfronts : ∀ x, x ∈ fronts ↔ x ∈ fronts') (hnames : ∀ x, x ∈ names ↔ x ∈ names')
    (hoverrides : ∀ name, overrides.filter (fun o => o.1 = name)
      = overrides'.filter (fun o => o.1 = name)) :
    SaysSame (((m.recognizePrefixes fronts).ignoreFields names).mapFields overrides)
      (((m.recognizePrefixes fronts').ignoreFields names').mapFields overrides') where
  prefixes x := OrderedSet.mem_insertAll.trans
    ((or_congr_right (hfronts x)).trans OrderedSet.mem_insertAll.symm)
  ignored x := OrderedSet.mem_insertAll.trans
    ((or_congr_right (hnames x)).trans OrderedSet.mem_insertAll.symm)
  overrides name := OrderedMap.get?_insertEach_congr (hoverrides name) rfl

/-- **Configuration acts locally, and more of it can only feed more.** -/
structure ActsLocally (m : Matcher) (t : TypeTable) (src dst : RecordType) : Prop where
  /-- Names to ignore take the destination fields so named out of a match, and leave the rest as
  it was. -/
  ignoring : ∀ names found, m.matchRecords t src dst = .ok found →
    (m.ignoreFields names).matchRecords t src dst = .ok
      ⟨found.pairs.filter (fun pair => pair.dest.name ∉ names),
        found.unmatched.filter (fun dest => dest.name ∉ names)⟩
  /-- An override changes nothing for destination fields of other names: they are fed by what fed
  them, and stay in a match what and where they were. -/
  overriding : ∀ source name,
    (∀ dest : RecordField, dest.name ≠ name →
      (m.mapField source name).findSource t src dest = m.findSource t src dest) ∧
    ∀ found, m.matchRecords t src dst = .ok found →
      ∃ found', (m.mapField source name).matchRecords t src dst = .ok found' ∧
        found'.pairs.filter (fun pair => pair.dest.name ≠ name)
          = found.pairs.filter (fun pair => pair.dest.name ≠ name) ∧
        found'.unmatched.filter (fun dest => dest.name ≠ name)
          = found.unmatched.filter (fun dest => dest.name ≠ name)
  /-- More prefixes leave no destination field unfed that was fed. -/
  recognizing : ∀ fronts found found', m.matchRecords t src dst = .ok found →
    (m.recognizePrefixes fronts).matchRecords t src dst = .ok found' →
      ∀ pair ∈ found.pairs,
        pair.dest ∉ found'.unmatched ∧ ∃ pair' ∈ found'.pairs, pair'.dest = pair.dest
  /-- The order and the repetition of prefixes and of ignored names do not matter, nor does the
  order of overrides for different names. -/
  reordering : ∀ (fronts fronts' names names' : List String)
    (overrides overrides' : List (String × String)),
    (∀ x, x ∈ fronts ↔ x ∈ fronts') → (∀ x, x ∈ names ↔ x ∈ names') →
    (∀ name, overrides.filter (fun o => o.1 = name) = overrides'.filter (fun o => o.1 = name)) →
      (((m.recognizePrefixes fronts).ignoreFields names).mapFields overrides).matchRecords t src dst
        = (((m.recognizePrefixes fronts').ignoreFields names').mapFields
            overrides').matchRecords t src dst
  /-- Records whose fields' types exist in a valid table without a circle that avoids names are
  matched, whatever the configuration. -/
  answering : t.validate = .ok () → (∀ id, ¬ Relation.TransGen t.Contains id id) →
    (∀ f ∈ src.fields, t.Has f.type) → (∀ f ∈ dst.fields, t.Has f.type) →
      ∃ found, m.matchRecords t src dst = .ok found

theorem actsLocally (m : Matcher) (t : TypeTable) (src dst : RecordType) :
    m.ActsLocally t src dst where
  ignoring _ _ h := matchFields_ignoreFields _ h
  overriding source _ :=
    ⟨fun _ hne => findSource_mapField source hne, fun _ h => matchFields_mapField source _ h⟩
  recognizing _ _ _ h h' _ hpair := matchFields_recognizePrefixes h h' hpair
  reordering _ _ _ _ _ _ hfronts hnames hoverrides :=
    (saysSame_of_reordered hfronts hnames hoverrides).matchRecords t src dst
  answering hvalid hacyclic hsrc hdst :=
    (matchRecords_safe (TypeTable.grounded_of_validate hvalid hacyclic) hsrc hdst).exists_ok.imp
      (fun _ h => h.1)

end Matcher

end Crosswalk

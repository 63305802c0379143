import Crosswalk.Proofs.Coercion.Safe
import Crosswalk.Proofs.Coercion.Unguarded
import Crosswalk.Proofs.Ordered

/-!
# The rule that fields are matched by

Which field feeds which can be said without a walk through lists. Names meet when they have a
form in common, where a form of a name is the name or what a prefix leaves of it (`Meet`). The
source of a destination field is the one its override names, and without an override the first
candidate there is (`Matcher.Rule`). The rule has one answer, which depends on no other
destination field, and the matcher comes to it whenever the types it has to compare can be
compared (`Matcher.matches_by_rule`).
-/

namespace Crosswalk

variable {fronts : List String} {front name form a b : String}

/-! ## Forms of names -/

/-- **The forms of a name.** -/
inductive IsForm (fronts : List String) (name : String) : String → Prop
  /-- The name itself is one. -/
  | whole : IsForm fronts name name
  /-- So is what a prefix leaves of it, where neither is empty. -/
  | rest {front form : String} (hmem : front ∈ fronts) (hfront : front ≠ "") (hform : form ≠ "")
      (h : name = front ++ form) : IsForm fronts name form

/-- **Two names have a form in common.** -/
def Meet (fronts : List String) (a b : String) : Prop :=
  ∃ form, IsForm fronts a form ∧ IsForm fronts b form

theorem Text.stripStart?_eq_some_iff {s rest : String} :
    Text.stripStart? front s = some rest ↔ s = front ++ rest := by
  unfold Text.stripStart?
  rw [Option.map_eq_some_iff]
  constructor
  · rintro ⟨cs, hcs, rfl⟩
    rw [← String.toList_inj, String.toList_append, String.toList_ofList]
    exact Text.afterFront?_eq_some_iff.mp hcs
  · rintro rfl
    exact ⟨rest.toList, Text.afterFront?_eq_some_iff.mpr String.toList_append, String.ofList_toList⟩

theorem strippedForm_eq_some_iff :
    strippedForm front name = some form ↔ front ≠ "" ∧ form ≠ "" ∧ name = front ++ form := by
  unfold strippedForm
  split
  · rename_i h
    exact ⟨nofun, fun hform => absurd h hform.1⟩
  · rename_i h
    rw [Option.filter_eq_some_iff, Text.stripStart?_eq_some_iff, decide_eq_true_iff]
    exact ⟨fun ⟨heq, hform⟩ => ⟨h, hform, heq⟩, fun ⟨_, hform, heq⟩ => ⟨heq, hform⟩⟩

theorem mem_nameForms_iff : form ∈ nameForms fronts name ↔ IsForm fronts name form := by
  unfold nameForms
  rw [OrderedSet.mem_ofList, List.mem_cons, List.mem_filterMap]
  constructor
  · rintro (rfl | ⟨front, hmem, hform⟩)
    · exact .whole
    · obtain ⟨hfront, hform, heq⟩ := strippedForm_eq_some_iff.mp hform
      exact .rest hmem hfront hform heq
  · intro h
    cases h with
    | whole => exact .inl rfl
    | rest hmem hfront hform heq =>
      exact .inr ⟨_, hmem, strippedForm_eq_some_iff.mpr ⟨hfront, hform, heq⟩⟩

theorem shareForm_iff : shareForm fronts a b = true ↔ Meet fronts a b := by
  unfold shareForm Meet
  rw [List.any_eq_true]
  refine exists_congr (fun form => ?_)
  rw [decide_eq_true_iff, mem_nameForms_iff, ← OrderedSet.mem_iff, mem_nameForms_iff]

/-! ## The first of a list -/

section First

variable {α ε : Type} {p : α → Prop} {as : List α} {x y : α} {r r' : Option α}

/-- **A search for a property gets to a member** of a list if none at an earlier place has it. -/
inductive Reached (p : α → Prop) (as : List α) (x : α) : Prop
  /-- At this place it gets there. -/
  | at (i : Nat) (hi : as[i]? = some x) (hbefore : ∀ j < i, ∀ y, as[j]? = some y → ¬ p y)

/-- **The first member with a property**, the one at the least place, or nothing where there is
none. -/
inductive IsFirst (p : α → Prop) (as : List α) : Option α → Prop
  /-- It is there. -/
  | found {x : α} (h : Reached p as x) (hx : p x) : IsFirst p as (some x)
  /-- No member has the property. -/
  | missing (h : ∀ x ∈ as, ¬ p x) : IsFirst p as none

theorem reached_cons_iff : Reached p (x :: as) y ↔ y = x ∨ ¬ p x ∧ Reached p as y := by
  constructor
  · rintro ⟨i, hi, hbefore⟩
    cases i with
    | zero => exact .inl (Option.some.inj hi).symm
    | succ i =>
      exact .inr ⟨hbefore 0 (Nat.succ_pos i) x rfl,
        i, hi, fun j hj z hz => hbefore (j + 1) (Nat.succ_lt_succ hj) z hz⟩
  · rintro (rfl | ⟨hx, i, hi, hbefore⟩)
    · exact ⟨0, rfl, nofun⟩
    · refine ⟨i + 1, hi, fun j hj z hz => ?_⟩
      cases j with
      | zero =>
        obtain rfl := Option.some.inj hz
        exact hx
      | succ j => exact hbefore j (Nat.lt_of_succ_lt_succ hj) z hz

theorem isFirst_cons_of_pos (hx : p x) : IsFirst p (x :: as) r ↔ r = some x := by
  constructor
  · intro h
    cases h with
    | found hy _ =>
      rcases reached_cons_iff.mp hy with rfl | ⟨hno, -⟩
      · rfl
      · exact absurd hx hno
    | missing hno => exact absurd hx (hno x List.mem_cons_self)
  · rintro rfl
    exact .found (reached_cons_iff.mpr (.inl rfl)) hx

theorem isFirst_cons_of_neg (hx : ¬ p x) : IsFirst p (x :: as) r ↔ IsFirst p as r := by
  constructor
  · intro h
    cases h with
    | found hy hpy =>
      rcases reached_cons_iff.mp hy with rfl | ⟨-, hy⟩
      · exact absurd hpy hx
      · exact .found hy hpy
    | missing hno => exact .missing (fun y hy => hno y (List.mem_cons_of_mem _ hy))
  · intro h
    cases h with
    | found hy hpy => exact .found (reached_cons_iff.mpr (.inr ⟨hx, hy⟩)) hpy
    | missing hno => exact .missing (List.forall_mem_cons.mpr ⟨hx, hno⟩)

/-- **There is one first member.** -/
theorem existsUnique_isFirst (p : α → Prop) (as : List α) : ∃! r, IsFirst p as r := by
  induction as with
  | nil =>
    refine ⟨none, .missing nofun, fun r h => ?_⟩
    cases h with
    | found h =>
      obtain ⟨i, hi, -⟩ := h
      cases hi
    | missing => rfl
  | cons x as ih =>
    by_cases hx : p x
    · exact ⟨some x, (isFirst_cons_of_pos hx).mpr rfl, fun r h => (isFirst_cons_of_pos hx).mp h⟩
    · rwa [existsUnique_congr (fun r => isFirst_cons_of_neg hx)]

theorem isFirst_find? (p : α → Prop) [DecidablePred p] (as : List α) :
    IsFirst p as (as.find? (fun x => p x)) := by
  induction as with
  | nil => exact .missing nofun
  | cons x as ih =>
    rw [List.find?_cons]
    by_cases hx : p x
    · rw [decide_eq_true hx]
      exact (isFirst_cons_of_pos hx).mpr rfl
    · rw [decide_eq_false hx]
      exact (isFirst_cons_of_neg hx).mpr ih

/-- **A search finds the first member that is affirmed**, if it has an answer for each that it
gets to. -/
theorem findM?_eq_ok_iff {f : α → Except ε Bool} :
    as.findM? f = .ok r ↔ IsFirst (fun x => f x = .ok true) as r ∧
      ∀ x, Reached (fun x => f x = .ok true) as x → ∃ yes, f x = .ok yes := by
  induction as with
  | nil =>
    constructor
    · intro h
      obtain rfl := Except.ok.inj h
      refine ⟨.missing nofun, ?_⟩
      rintro x ⟨i, hi, -⟩
      cases hi
    · rintro ⟨h, -⟩
      cases h with
      | found h =>
        obtain ⟨i, hi, -⟩ := h
        cases hi
      | missing => rfl
  | cons x as ih =>
    rw [List.findM?]
    cases hx : f x with
    | error e =>
      constructor
      · intro h
        cases h
      · rintro ⟨-, h⟩
        obtain ⟨yes, hyes⟩ := h x (reached_cons_iff.mpr (.inl rfl))
        cases hx.symm.trans hyes
    | ok yes =>
      cases yes with
      | true =>
        rw [isFirst_cons_of_pos (p := fun x => f x = .ok true) hx]
        constructor
        · intro h
          refine ⟨(Except.ok.inj h).symm, fun y hy => ?_⟩
          rcases reached_cons_iff.mp hy with rfl | ⟨hno, -⟩
          · exact ⟨true, hx⟩
          · exact absurd hx hno
        · rintro ⟨rfl, -⟩
          rfl
      | false =>
        have hno : ¬ f x = .ok true := by
          rw [hx]
          exact fun h => Bool.false_ne_true (Except.ok.inj h)
        rw [isFirst_cons_of_neg (p := fun x => f x = .ok true) hno]
        refine ih.trans (and_congr_right' (forall_congr' (fun y => ?_)))
        rw [reached_cons_iff]
        constructor
        · rintro h (rfl | ⟨-, hy⟩)
          · exact ⟨false, hx⟩
          · exact h hy
        · exact fun h hy => h (.inr ⟨hno, hy⟩)

end First

/-! ## The rule -/

namespace Matcher

variable {m : Matcher} {t : TypeTable} {src dst : RecordType} {dest source : RecordField}
  {dests : List RecordField} {found : FieldMatch} {r r' : Option RecordField}

/-- **The name of a source field fits that of a destination field.** -/
def Named (m : Matcher) (dest source : RecordField) : Prop :=
  source.name ≠ "_" ∧ Meet m.prefixes.items source.name dest.name

/-- **A source field that may feed a destination field**: one whose name fits, and whose type is
compatible. -/
def Candidate (m : Matcher) (t : TypeTable) (dest source : RecordField) : Prop :=
  m.Named dest source ∧ t.compatible source.type dest.type = .ok true

/-- **What feeds a destination field.** -/
inductive Rule (m : Matcher) (t : TypeTable) (src : RecordType) (dest : RecordField) :
    Option RecordField → Prop
  /-- With an override, the first source field of that name, whatever its type. -/
  | override {name : String} {r : Option RecordField}
      (h : m.overrides.get? dest.name = some name)
      (hr : IsFirst (fun source => source.name = name) src.fields r) : Rule m t src dest r
  /-- Without one, the first source field that may feed it. -/
  | forms {r : Option RecordField} (h : m.overrides.get? dest.name = none)
      (hr : IsFirst (m.Candidate t dest) src.fields r) : Rule m t src dest r

/-- **The types that have to be compared can be**: without an override, those of the source
fields whose names fit, up to the first candidate. -/
def Comparable (m : Matcher) (t : TypeTable) (src : RecordType) (dest : RecordField) : Prop :=
  m.overrides.get? dest.name = none → ∀ source, Reached (m.Candidate t dest) src.fields source →
    m.Named dest source → ∃ yes, t.compatible source.type dest.type = .ok yes

theorem rule_of_override {name : String} (ho : m.overrides.get? dest.name = some name) :
    m.Rule t src dest r ↔ r = src.field name := by
  have hfirst := isFirst_find? (fun source : RecordField => source.name = name) src.fields
  constructor
  · intro h
    cases h with
    | override ho' hr =>
      obtain rfl := Option.some.inj (ho.symm.trans ho')
      exact (existsUnique_isFirst _ _).unique hr hfirst
    | forms ho' => cases ho.symm.trans ho'
  · rintro rfl
    exact .override ho hfirst

theorem rule_of_forms (ho : m.overrides.get? dest.name = none) :
    m.Rule t src dest r ↔ IsFirst (m.Candidate t dest) src.fields r := by
  refine ⟨fun h => ?_, .forms ho⟩
  cases h with
  | override ho' => cases ho.symm.trans ho'
  | forms _ hr => exact hr

/-- **The rule has one answer.** -/
theorem existsUnique_rule (m : Matcher) (t : TypeTable) (src : RecordType) (dest : RecordField) :
    ∃! r, m.Rule t src dest r := by
  cases ho : m.overrides.get? dest.name with
  | some name =>
    rw [existsUnique_congr (fun r => rule_of_override ho)]
    exact existsUnique_eq
  | none =>
    rw [existsUnique_congr (fun r => rule_of_forms ho)]
    exact existsUnique_isFirst _ _

/-! ## One field -/

theorem named_iff : m.Named dest source ↔
    (!source.isBlank && shareForm m.prefixes.items source.name dest.name) = true := by
  unfold Named RecordField.isBlank
  rw [Bool.and_eq_true, shareForm_iff, Bool.not_eq_true', decide_eq_false_iff_not]

theorem fits_eq_ok_true_iff : m.fits t source dest = .ok true ↔ m.Candidate t dest source := by
  unfold fits Candidate
  rw [named_iff]
  split
  · rename_i h
    exact (and_iff_right h).symm
  · rename_i h
    exact ⟨nofun, fun hc => absurd hc.1 h⟩

theorem exists_fits_iff : (∃ yes, m.fits t source dest = .ok yes) ↔
    (m.Named dest source → ∃ yes, t.compatible source.type dest.type = .ok yes) := by
  unfold fits
  rw [named_iff]
  split
  · rename_i h
    exact ⟨fun hanswer _ => hanswer, fun hanswer => hanswer h⟩
  · rename_i h
    exact ⟨fun _ hnamed => absurd hnamed h, fun _ => ⟨false, rfl⟩⟩

/-- **The source that is found is the one of the rule**, and one is found if the types that have
to be compared can be. -/
theorem findSource_eq_ok_iff :
    m.findSource t src dest = .ok r ↔ m.Comparable t src dest ∧ m.Rule t src dest r := by
  unfold findSource Comparable
  cases ho : m.overrides.get? dest.name with
  | some name =>
    rw [rule_of_override ho]
    exact ⟨fun h => ⟨nofun, (Except.ok.inj h).symm⟩, fun ⟨_, h⟩ => congrArg _ h.symm⟩
  | none =>
    rw [rule_of_forms ho, and_comm, forall_prop_of_true rfl]
    have hfits : (fun source => m.fits t source dest = .ok true) = m.Candidate t dest :=
      funext (fun source => propext fits_eq_ok_true_iff)
    refine findM?_eq_ok_iff.trans ?_
    rw [hfits]
    refine and_congr_right' (forall_congr' (fun source => ?_))
    exact imp_congr_right (fun _ => exists_fits_iff)

/-! ## Records -/

/-- **A match comes to an answer** where each field that is not skipped has one. -/
theorem exists_matchFields_iff : (∃ found, m.matchFields t src dests = .ok found) ↔
    ∀ dest ∈ m.remaining dests, ∃ r, m.findSource t src dest = .ok r := by
  induction dests with
  | nil => exact ⟨fun _ => nofun, fun _ => ⟨_, rfl⟩⟩
  | cons dest rest ih =>
    rw [matchFields]
    cases hskips : m.skips dest with
    | true =>
      rw [if_pos rfl, remaining_cons_of_skips hskips]
      exact ih
    | false =>
      rw [if_neg Bool.false_ne_true, remaining_cons hskips, List.forall_mem_cons, ← ih]
      constructor
      · rintro ⟨found, h⟩
        obtain ⟨r, hr, h⟩ := bind_eq_ok_iff.mp h
        obtain ⟨others, hothers, -⟩ := bind_eq_ok_iff.mp h
        exact ⟨⟨r, hr⟩, others, hothers⟩
      · rintro ⟨⟨r, hr⟩, others, hothers⟩
        rw [hr, hothers]
        cases r with
        | some source => exact ⟨_, rfl⟩
        | none => exact ⟨_, rfl⟩

/-- **A match is what is found for each field that remains**, where something is found if `P` holds
and then it is `answer`. -/
theorem matchFields_eq_ok_iff {P : RecordField → Prop} {answer : RecordField → Option RecordField}
    (hfind : ∀ dest r, m.findSource t src dest = .ok r ↔ P dest ∧ r = answer dest) :
    m.matchFields t src dests = .ok found ↔ (∀ dest ∈ m.remaining dests, P dest) ∧
      found.pairs = (m.remaining dests).filterMap
        (fun dest => (answer dest).map (fun source => ⟨source, dest⟩)) ∧
      found.unmatched = (m.remaining dests).filter (fun dest => (answer dest).isNone) := by
  have hfound : ∀ {found}, m.matchFields t src dests = .ok found →
      found.pairs = (m.remaining dests).filterMap
          (fun dest => (answer dest).map (fun source => ⟨source, dest⟩)) ∧
        found.unmatched = (m.remaining dests).filter (fun dest => (answer dest).isNone) := by
    intro found h
    obtain ⟨hasked, hpairs, hunmatched⟩ := matchFields_eq_ok h
    have heq : ∀ dest ∈ m.remaining dests, m.feeds? t src dest = answer dest :=
      fun dest hdest => ((hfind dest _).mp (hasked dest hdest)).2
    rw [hpairs, hunmatched]
    exact ⟨List.filterMap_congr (fun dest hdest => by rw [heq dest hdest]),
      List.filter_congr (fun dest hdest => by rw [heq dest hdest])⟩
  have hanswers : ∀ dest, (∃ r, m.findSource t src dest = .ok r) ↔ P dest := fun dest =>
    ⟨fun ⟨r, hr⟩ => ((hfind dest r).mp hr).1, fun h => ⟨answer dest, (hfind dest _).mpr ⟨h, rfl⟩⟩⟩
  constructor
  · intro h
    have hasked := exists_matchFields_iff.mp ⟨found, h⟩
    exact ⟨fun dest hdest => (hanswers dest).mp (hasked dest hdest), hfound h⟩
  · rintro ⟨hcan, hpairs, hunmatched⟩
    obtain ⟨⟨pairs, unmatched⟩, h⟩ := exists_matchFields_iff.mpr
      (fun dest hdest => (hanswers dest).mpr (hcan dest hdest))
    obtain ⟨rfl, rfl⟩ := hfound h
    obtain ⟨pairs, unmatched⟩ := found
    obtain rfl := hpairs
    obtain rfl := hunmatched
    exact h

/-- **The matcher implements its rule.** For all source fields there is one answer for each
destination field that the rule gives, whatever other destination fields there are. A search for
the source comes to this answer if the types that it has to compare can be compared. A match
comes to it for each field that is neither blank nor ignored, and says nothing about others. In
a valid table without a circle that avoids names, types that exist can be compared. -/
theorem matches_by_rule (m : Matcher) (t : TypeTable) (src : RecordType) :
    ∃ answer : RecordField → Option RecordField,
      (∀ dest r, m.Rule t src dest r ↔ r = answer dest) ∧
      (∀ dest r, m.findSource t src dest = .ok r ↔ m.Comparable t src dest ∧ r = answer dest) ∧
      (∀ dst : RecordType, m.remaining dst.fields
        = dst.fields.filter (fun dest => dest.name ≠ "_" ∧ dest.name ∉ m.ignored)) ∧
      (∀ dst found, m.matchRecords t src dst = .ok found ↔
        (∀ dest ∈ m.remaining dst.fields, m.Comparable t src dest) ∧
          found.pairs = (m.remaining dst.fields).filterMap
            (fun dest => (answer dest).map (fun source => ⟨source, dest⟩)) ∧
          found.unmatched = (m.remaining dst.fields).filter (fun dest => (answer dest).isNone)) ∧
      (t.validate = .ok () → (∀ id, ¬ Relation.TransGen t.Contains id id) →
        (∀ source ∈ src.fields, t.Has source.type) →
          ∀ dest, t.Has dest.type → m.Comparable t src dest) := by
  choose answer hrule hunique using fun dest => m.existsUnique_rule t src dest
  have hanswer : ∀ dest r, m.Rule t src dest r ↔ r = answer dest := fun dest r =>
    ⟨hunique dest r, fun h => h ▸ hrule dest⟩
  have hfind : ∀ dest r,
      m.findSource t src dest = .ok r ↔ m.Comparable t src dest ∧ r = answer dest :=
    fun dest r => by rw [findSource_eq_ok_iff, hanswer]
  refine ⟨answer, hanswer, hfind, fun dst => m.remaining_eq dst.fields,
    fun dst found => matchFields_eq_ok_iff hfind, fun hvalid hacyclic hsrc dest hdest => ?_⟩
  have hgrounded := TypeTable.grounded_of_validate hvalid hacyclic
  obtain ⟨r, hr, -⟩ := (findSource_safe hgrounded hsrc hdest).exists_ok
  exact ((hfind dest r).mp hr).1

/-- Two basic types. -/
def rowTypes : TypeTable := ⟨#[.basic .string, .basic .int]⟩

/-- A row with a field that fits `Name` by its name and not by its type, before one that fits by
both. -/
def rowSource : RecordType := ⟨⟨0⟩, ⟨0⟩, [⟨"Name", ⟨1⟩, 0⟩, ⟨"DBName", ⟨0⟩, 1⟩, ⟨"Name", ⟨0⟩, 2⟩]⟩

/-- Prefixes that are empty, prefixes of one another, or a whole name. -/
def rowMatcher : Matcher := ⟨.ofList ["", "D", "DB", "Name", "DBName"], .empty, .empty⟩

/-- The field that fits by name alone is passed over, and the first that fits by both is found. -/
theorem matches_by_rule_row :
    rowTypes.validate = .ok () ∧ (∀ id, ¬ Relation.TransGen rowTypes.Contains id id) ∧
    (∀ source ∈ rowSource.fields, rowTypes.Has source.type) ∧ rowTypes.Has ⟨0⟩ ∧
    rowMatcher.findSource rowTypes rowSource ⟨"Name", ⟨0⟩, 0⟩ = .ok (some ⟨"DBName", ⟨0⟩, 1⟩) := by
  have hvalid : rowTypes.validate = .ok () := rfl
  have hacyclic : ∀ id, ¬ Relation.TransGen rowTypes.Contains id id :=
    TypeTable.not_transGen_contains_of_rank (fun _ => 0) (by decide)
  have hsrc : ∀ source ∈ rowSource.fields, rowTypes.Has source.type := by
    simp only [rowSource, List.forall_mem_cons]
    exact ⟨rfl, rfl, rfl, nofun⟩
  have hdest : rowTypes.Has ⟨0⟩ := rfl
  obtain ⟨answer, hrule, hfind, -, -, htotal⟩ := matches_by_rule rowMatcher rowTypes rowSource
  refine ⟨hvalid, hacyclic, hsrc, hdest, (hfind _ _).mpr ⟨htotal hvalid hacyclic hsrc _ hdest, ?_⟩⟩
  refine (hrule _ _).mp (.forms rfl (.found ⟨1, rfl, fun j hj source hsource => ?_⟩ ⟨⟨?_, ?_⟩, ?_⟩))
  · -- the first field is of a type that fits no text
    obtain rfl := Nat.lt_one_iff.mp hj
    obtain rfl := Option.some.inj hsource
    have hno : rowTypes.compatible ⟨1⟩ ⟨0⟩ = .ok false := by decide
    exact fun h => nomatch hno.symm.trans h.2
  · decide
  · exact ⟨"Name", @IsForm.rest _ _ "DB" _ (by decide) (by decide) (by decide) rfl, .whole⟩
  · decide

end Matcher

end Crosswalk

import Crosswalk.Plan.Analysis
import Crosswalk.Proofs.Lists
import Crosswalk.Proofs.Mapping.Registry
import Crosswalk.Proofs.Outcome

/-!
# What a successful analysis has decided

An analysis that comes to an answer has validated its program, and every plan
it answers is the plan of a registered specification. The statements here say
what that means for a plan that goes field by field: which records it is about,
that its fields and its unmatched ones are what the matcher of its specification
finds, and that every field carries the conversion of its types.
-/

namespace Crosswalk

namespace Program

variable {p : Program} {settings : Settings} {a : Analysis} {registry : Registry} {plan : Plan}
  {spec : MappingSpec} {delegates : List MappingSpec} {src dst : RecordType}
  {fields : List PlannedField} {unmatched : List RecordField} {body : PlanBody}

theorem ensureValid_of_valid (hvalid : p.validate = .ok ()) : p.ensureValid = .ok () := by
  unfold ensureValid
  rw [hvalid]
  rfl

/-- **An analysis validates, registers and plans**, in this order. -/
theorem analyze_eq_ok (h : p.analyze settings = .ok a) :
    p.validate = .ok () ∧ p.collect settings = .ok a.registry ∧
      List.Forall₂ (fun spec plan => p.plan a.registry spec = .ok plan) a.registry.specs a.plans := by
  obtain ⟨_, hvalid, h⟩ := bind_eq_ok_iff.mp h
  obtain ⟨registry, hcollect, h⟩ := bind_eq_ok_iff.mp h
  obtain ⟨plans, hplans, h⟩ := bind_eq_ok_iff.mp h
  obtain rfl := Except.ok.inj h
  refine ⟨?_, hcollect, mapM_eq_ok_iff.mp hplans⟩
  have hvalid' := ofExcept_eq_ok_iff.mp hvalid
  cases hv : p.validate with
  | ok u => rfl
  | error e =>
    rw [hv] at hvalid'
    cases hvalid'

/-! ## Collecting -/

/-- **A specification comes from a function that may be a mapping function.** -/
theorem exists_of_mem_specsOf {fs : List Func} {specs : List MappingSpec}
    (h : p.specsOf settings fs = .ok specs) (hspec : spec ∈ specs) :
    ∃ f ∈ fs, p.isCandidate f = true ∧ p.interpret settings f.id = .ok (some spec) := by
  induction fs generalizing specs with
  | nil =>
    obtain rfl := Except.ok.inj h
    cases hspec
  | cons f fs ih =>
    rw [specsOf] at h
    split at h
    · rename_i hcandidate
      obtain ⟨found, hfound, h⟩ := bind_eq_ok_iff.mp h
      obtain ⟨others, hothers, h⟩ := bind_eq_ok_iff.mp h
      obtain rfl := Except.ok.inj h
      rcases List.mem_append.mp hspec with hspec | hspec
      · rw [Option.mem_toList] at hspec
        exact ⟨f, List.mem_cons_self, hcandidate, hspec ▸ hfound⟩
      · obtain ⟨g, hg, h⟩ := ih hothers hspec
        exact ⟨g, List.mem_cons_of_mem _ hg, h⟩
    · obtain ⟨g, hg, h⟩ := ih h hspec
      exact ⟨g, List.mem_cons_of_mem _ hg, h⟩

/-- **A function that may be a mapping function, and is one, has its specification among
them.** -/
theorem mem_specsOf {fs : List Func} {specs : List MappingSpec} {f : Func}
    (h : p.specsOf settings fs = .ok specs) (hf : f ∈ fs) (hcandidate : p.isCandidate f = true)
    (hspec : p.interpret settings f.id = .ok (some spec)) : spec ∈ specs := by
  induction fs generalizing specs with
  | nil => cases hf
  | cons g fs ih =>
    rw [specsOf] at h
    rcases List.mem_cons.mp hf with rfl | hf
    · rw [if_pos hcandidate, hspec, ok_bind] at h
      obtain ⟨others, -, h⟩ := bind_eq_ok_iff.mp h
      obtain rfl := Except.ok.inj h
      exact List.mem_cons_self
    · split at h
      · obtain ⟨found, -, h⟩ := bind_eq_ok_iff.mp h
        obtain ⟨others, hothers, h⟩ := bind_eq_ok_iff.mp h
        obtain rfl := Except.ok.inj h
        exact List.mem_append_right _ (ih hothers hf)
      · exact ih h hf

/-- Where the collecting succeeds, every function that may be a mapping function is read. -/
theorem exists_interpret_of_specsOf {fs : List Func} {specs : List MappingSpec} {f : Func}
    (h : p.specsOf settings fs = .ok specs) (hf : f ∈ fs) (hcandidate : p.isCandidate f = true) :
    ∃ found, p.interpret settings f.id = .ok found := by
  induction fs generalizing specs with
  | nil => cases hf
  | cons g fs ih =>
    rw [specsOf] at h
    rcases List.mem_cons.mp hf with rfl | hf
    · rw [if_pos hcandidate] at h
      obtain ⟨found, hfound, -⟩ := bind_eq_ok_iff.mp h
      exact ⟨found, hfound⟩
    · split at h
      · obtain ⟨found, -, h⟩ := bind_eq_ok_iff.mp h
        obtain ⟨others, hothers, -⟩ := bind_eq_ok_iff.mp h
        exact ih hothers hf
      · exact ih h hf

/-- What stops the collecting is what stops the reading of one function. -/
theorem exists_of_specsOf_eq_error {fs : List Func} {stop : Stop MappingError}
    (h : p.specsOf settings fs = .error stop) :
    ∃ f ∈ fs, p.isCandidate f = true ∧ p.interpret settings f.id = .error stop := by
  induction fs with
  | nil => cases h
  | cons f fs ih =>
    have hrest : p.specsOf settings fs = .error stop →
        ∃ g ∈ f :: fs, p.isCandidate g = true ∧ p.interpret settings g.id = .error stop := by
      intro h
      obtain ⟨g, hg, h⟩ := ih h
      exact ⟨g, List.mem_cons_of_mem _ hg, h⟩
    rw [specsOf] at h
    split at h
    · rename_i hcandidate
      rcases bind_eq_error_iff.mp h with h | ⟨found, -, h⟩
      · exact ⟨f, List.mem_cons_self, hcandidate, h⟩
      · exact hrest ((bind_eq_error_iff.mp h).resolve_right (fun ⟨_, _, h⟩ => nomatch h))
    · exact hrest h

/-- **Collecting succeeds exactly if every function that may be a mapping function can be
read.** -/
theorem exists_collect_iff : (∃ registry, p.collect settings = .ok registry) ↔
    ∀ f ∈ p.functions, p.isCandidate f = true → ∃ found, p.interpret settings f.id = .ok found := by
  constructor
  · rintro ⟨registry, h⟩ f hf hcandidate
    obtain ⟨specs, hspecs, -⟩ := bind_eq_ok_iff.mp h
    exact exists_interpret_of_specsOf hspecs (Array.mem_toList_iff.mpr hf) hcandidate
  · intro hread
    cases hspecs : p.specsOf settings p.functions.toList with
    | ok specs => exact ⟨.ofList specs, bind_eq_ok_iff.mpr ⟨specs, hspecs, rfl⟩⟩
    | error stop =>
      obtain ⟨f, hf, hcandidate, hstop⟩ := exists_of_specsOf_eq_error hspecs
      obtain ⟨found, hfound⟩ := hread f (Array.mem_toList_iff.mp hf) hcandidate
      cases hstop.symm.trans hfound

theorem exists_of_mem_registry (h : p.collect settings = .ok registry)
    (hspec : spec ∈ registry.specs) :
    ∃ f ∈ p.functions, p.isCandidate f = true ∧ p.interpret settings f.id = .ok (some spec) := by
  obtain ⟨specs, hspecs, h⟩ := bind_eq_ok_iff.mp h
  obtain rfl := Except.ok.inj h
  obtain ⟨f, hf, hcandidate, hfound⟩ :=
    exists_of_mem_specsOf hspecs ((List.mergeSort_perm specs _).mem_iff.mp hspec)
  exact ⟨f, Array.mem_toList_iff.mp hf, hcandidate, hfound⟩

theorem mem_registry_of_interpret {f : Func} (h : p.collect settings = .ok registry)
    (hf : f ∈ p.functions) (hcandidate : p.isCandidate f = true)
    (hspec : p.interpret settings f.id = .ok (some spec)) : spec ∈ registry.specs := by
  obtain ⟨specs, hspecs, h⟩ := bind_eq_ok_iff.mp h
  obtain rfl := Except.ok.inj h
  refine (List.mergeSort_perm specs _).mem_iff.mpr ?_
  exact mem_specsOf hspecs (Array.mem_toList_iff.mpr hf) hcandidate hspec

/-- **What stops an analysis of a valid program** stops the reading of a function, or the
planning of a specification that has been read. -/
theorem analyze_eq_error {stop : Stop MappingError} (hvalid : p.validate = .ok ())
    (h : p.analyze settings = .error stop) :
    (∃ f ∈ p.functions, p.isCandidate f = true ∧ p.interpret settings f.id = .error stop) ∨
    ∃ registry spec, p.collect settings = .ok registry ∧ spec ∈ registry.specs ∧
      p.plan registry spec = .error stop := by
  unfold analyze at h
  rw [ensureValid_of_valid hvalid, ok_bind] at h
  rcases bind_eq_error_iff.mp h with h | ⟨registry, hregistry, h⟩
  · have h := (bind_eq_error_iff.mp h).resolve_right (fun ⟨_, _, h⟩ => nomatch h)
    obtain ⟨f, hf, hcandidate, h⟩ := exists_of_specsOf_eq_error h
    exact .inl ⟨f, Array.mem_toList_iff.mp hf, hcandidate, h⟩
  · have h := (bind_eq_error_iff.mp h).resolve_right (fun ⟨_, _, h⟩ => nomatch h)
    obtain ⟨spec, hspec, h⟩ := exists_of_mapM_eq_error h
    exact .inr ⟨registry, spec, hregistry, hspec, h⟩

/-- **An analysis of a valid program succeeds exactly if its functions can be read and its
specifications planned.** -/
theorem exists_analyze_iff (hvalid : p.validate = .ok ()) :
    (∃ a, p.analyze settings = .ok a) ↔ ∃ registry, p.collect settings = .ok registry ∧
      ∀ spec ∈ registry.specs, ∃ plan, p.plan registry spec = .ok plan := by
  constructor
  · rintro ⟨a, h⟩
    obtain ⟨-, hcollect, hplans⟩ := analyze_eq_ok h
    refine ⟨a.registry, hcollect, fun spec hspec => ?_⟩
    obtain ⟨plan, -, hplan⟩ := exists_beside_left hplans hspec
    exact ⟨plan, hplan⟩
  · rintro ⟨registry, hcollect, hplans⟩
    cases h : p.analyze settings with
    | ok a => exact ⟨a, rfl⟩
    | error stop =>
      rcases analyze_eq_error hvalid h with ⟨f, hf, hcandidate, hstop⟩ |
        ⟨_, spec, hsame, hspec, hstop⟩
      · obtain ⟨found, hfound⟩ := exists_collect_iff.mp ⟨registry, hcollect⟩ f hf hcandidate
        cases hstop.symm.trans hfound
      · obtain rfl := Except.ok.inj (hcollect.symm.trans hsame)
        obtain ⟨plan, hplan⟩ := hplans spec hspec
        cases hstop.symm.trans hplan

/-- **An analysis from its parts**, where the specifications are read in the order in which the
registry keeps them. -/
theorem analyze_of_specs {specs : List MappingSpec} {plans : List Plan}
    (hvalid : p.validate = .ok ())
    (hspecs : p.specsOf settings p.functions.toList = .ok specs)
    (hsorted : specs.Pairwise (fun a b => a.comesBefore b = true))
    (hplans : p.planAll (.ofSorted specs) = .ok plans) :
    p.analyze settings = .ok ⟨.ofSorted specs, plans⟩ := by
  have hcollect : p.collect settings = .ok (.ofSorted specs) :=
    bind_eq_ok_iff.mpr ⟨specs, hspecs, Registry.ofList_eq_ofSorted hsorted ▸ rfl⟩
  unfold analyze
  rw [ensureValid_of_valid hvalid, ok_bind, hcollect, ok_bind, hplans]
  rfl

/-! ## Planning -/

/-- A plan is about its specification, and its body is planned with its delegates. -/
theorem plan_eq_ok (h : p.plan registry spec = .ok plan) :
    plan.spec = spec ∧ ∃ delegates, p.delegates registry spec = .ok delegates ∧
      p.planBody spec delegates = .ok plan.body := by
  obtain ⟨delegates, hdelegates, h⟩ := bind_eq_ok_iff.mp h
  obtain ⟨body, hbody, h⟩ := bind_eq_ok_iff.mp h
  obtain rfl := Except.ok.inj h
  exact ⟨rfl, delegates, hdelegates, hbody⟩

/-- **A body that goes field by field** holds what the matcher found, each pair
with its conversion. -/
theorem recordBody_eq_ok
    (h : p.recordBody spec delegates src dst = .ok (.record fields unmatched)) :
    (Matcher.ofSpec spec).matchRecords p.types src dst
        = .ok ⟨fields.map PlannedField.pair, unmatched⟩ ∧
      ∀ field ∈ fields, p.types.fieldConversion delegates field.pair.source.type
        field.pair.dest.type = .ok field.conversion := by
  obtain ⟨found, hfound, h⟩ := bind_eq_ok_iff.mp h
  obtain ⟨fields', hfields, h⟩ := bind_eq_ok_iff.mp h
  obtain ⟨rfl, rfl⟩ := PlanBody.record.inj (Except.ok.inj h)
  have hplanned : List.Forall₂ (fun pair (field : PlannedField) => pair = field.pair ∧
      p.types.fieldConversion delegates field.pair.source.type field.pair.dest.type
        = .ok field.conversion) found.pairs fields' := by
    refine (mapM_eq_ok_iff.mp hfields).imp (fun pair field hfield => ?_)
    obtain ⟨conversion, hconversion, hfield⟩ := bind_eq_ok_iff.mp hfield
    obtain rfl := Except.ok.inj hfield
    exact ⟨rfl, hconversion⟩
  constructor
  · have hpairs := map_eq_map_of_forall₂ (hplanned.imp (fun _ _ hfield => hfield.1))
    rw [List.map_id'] at hpairs
    rw [hfound, ← hpairs]
  · intro field hfield
    obtain ⟨pair, -, -, hconversion⟩ := exists_beside hplanned hfield
    exact hconversion

/-- What is planned field by field is so because both types are those of records. -/
theorem exists_records_of_planBody
    (h : p.planBody spec delegates = .ok (.record fields unmatched)) :
    ∃ src dst, RecordType.resolve p.types spec.sourceType = .ok (some src) ∧
      RecordType.resolve p.types spec.destType = .ok (some dst) ∧
      p.recordBody spec delegates src dst = .ok (.record fields unmatched) := by
  obtain ⟨src, hsrc, hrest⟩ := bind_eq_ok_iff.mp h
  obtain ⟨dst, hdst, hbody⟩ := bind_eq_ok_iff.mp hrest
  rw [liftM_eq_ok_iff] at hsrc hdst
  split at hbody
  · rename_i s d heq
    obtain ⟨rfl, rfl⟩ := Prod.mk.inj heq
    exact ⟨s, d, hsrc, hdst, liftM_eq_ok_iff.mp hbody⟩
  · -- between other types than two records no plan goes field by field
    obtain ⟨sourceElem, -, hbody⟩ := bind_eq_ok_iff.mp hbody
    obtain ⟨destElem, -, hbody⟩ := bind_eq_ok_iff.mp hbody
    split at hbody
    · obtain ⟨conversion, -, hbody⟩ := bind_eq_ok_iff.mp hbody
      cases hbody
    · obtain ⟨source, -, hbody⟩ := bind_eq_ok_iff.mp hbody
      obtain ⟨dest, -, hbody⟩ := bind_eq_ok_iff.mp hbody
      cases hbody

/-- What is planned element by element converts the elements of the slices inside both types. -/
theorem exists_slices_of_planBody {sourceElem destElem : TypeId} {conversion : Conversion}
    (h : p.planBody spec delegates = .ok (.elements sourceElem destElem conversion)) :
    sliceElem p.types spec.sourceType = .ok (some sourceElem) ∧
      sliceElem p.types spec.destType = .ok (some destElem) ∧
      p.types.elementConversion delegates sourceElem destElem = .ok conversion := by
  obtain ⟨src, -, hrest⟩ := bind_eq_ok_iff.mp h
  obtain ⟨dst, -, hbody⟩ := bind_eq_ok_iff.mp hrest
  split at hbody
  · -- between records every plan goes field by field
    obtain ⟨found, -, hbody⟩ := bind_eq_ok_iff.mp (liftM_eq_ok_iff.mp hbody)
    obtain ⟨fields', -, hbody⟩ := bind_eq_ok_iff.mp hbody
    cases hbody
  · obtain ⟨source, hsource, hbody⟩ := bind_eq_ok_iff.mp hbody
    obtain ⟨dest, hdest, hbody⟩ := bind_eq_ok_iff.mp hbody
    rw [liftM_eq_ok_iff] at hsource hdest
    split at hbody
    · rename_i s d heq
      obtain ⟨hs, hd⟩ := Prod.mk.inj heq
      obtain ⟨found, hfound, hbody⟩ := bind_eq_ok_iff.mp hbody
      obtain ⟨rfl, rfl, rfl⟩ := PlanBody.elements.inj (Except.ok.inj hbody)
      exact ⟨hs ▸ hsource, hd ▸ hdest, liftM_eq_ok_iff.mp hfound⟩
    · obtain ⟨source, -, hbody⟩ := bind_eq_ok_iff.mp hbody
      obtain ⟨dest, -, hbody⟩ := bind_eq_ok_iff.mp hbody
      cases hbody

theorem elementConversion_of_planBody {sourceElem destElem : TypeId} {conversion : Conversion}
    (h : p.planBody spec delegates = .ok (.elements sourceElem destElem conversion)) :
    p.types.elementConversion delegates sourceElem destElem = .ok conversion :=
  (exists_slices_of_planBody h).2.2

/-- **Where a plan that goes field by field comes from**: its records are those
of its specification's types, its pairs and its unmatched fields are what the
matcher finds between them, and every pair has the conversion of its types. -/
theorem exists_match_of_mem_plans (h : p.analyze settings = .ok a) (hplan : plan ∈ a.plans)
    (hbody : plan.body = .record fields unmatched) :
    ∃ delegates src dst, RecordType.resolve p.types plan.spec.sourceType = .ok (some src) ∧
      RecordType.resolve p.types plan.spec.destType = .ok (some dst) ∧
      (Matcher.ofSpec plan.spec).matchRecords p.types src dst
        = .ok ⟨fields.map PlannedField.pair, unmatched⟩ ∧
      ∀ field ∈ fields, p.types.fieldConversion delegates field.pair.source.type
        field.pair.dest.type = .ok field.conversion := by
  obtain ⟨-, -, hplans⟩ := analyze_eq_ok h
  obtain ⟨spec, -, hspec⟩ := exists_beside hplans hplan
  obtain ⟨rfl, delegates, -, hplanned⟩ := plan_eq_ok hspec
  rw [hbody] at hplanned
  obtain ⟨src, dst, hsrc, hdst, hrecord⟩ := exists_records_of_planBody hplanned
  exact ⟨delegates, src, dst, hsrc, hdst, recordBody_eq_ok hrecord⟩

end Program

end Crosswalk

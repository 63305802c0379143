import Crosswalk.Proofs.Mapping.Mirror
import Crosswalk.Proofs.Plan.Analysis
import Crosswalk.Proofs.Plan.Registry

/-!
# Planning programs that mirror one another

A planner sees three things of a program: the specification it plans, those it may delegate
to, and the types. Where two registries hold specifications that mirror one another, and the
types cannot be told apart, everything it decides is the same: which fields feed which, how
each is converted, which function a nested value is handed to, and why it refuses.

What is planned is the same *up to* the names of functions and the entries of types, since a
plan contains both.
-/

namespace Crosswalk

variable {ρ : FunctionId → FunctionId} {R : TypeId → TypeId → Prop}
  {E : TypeId → TypeId → Conversion → Conversion → Prop} {t : TypeTable}

/-! ## What is planned -/

/-- Two pairs of fields that agree up to types. -/
structure FieldPair.Copied (R : TypeId → TypeId → Prop) (x y : FieldPair) : Prop where
  /-- The fields that the values come from. -/
  source : x.source.Copied R y.source
  /-- Those that they go to. -/
  dest : x.dest.Copied R y.dest

/-- **The same fields feed the same fields**, up to types. -/
structure FieldMatch.Copied (R : TypeId → TypeId → Prop) (m m' : FieldMatch) : Prop where
  /-- The fields that are fed. -/
  pairs : List.Forall₂ (FieldPair.Copied R) m.pairs m'.pairs
  /-- The fields that nothing feeds. -/
  unmatched : List.Forall₂ (RecordField.Copied R) m.unmatched m'.unmatched

/-- **Two conversions of a value that agree**: both assign, both convert as in `E`, or both
call mapping functions, of which the second is the first renamed. -/
inductive Conversion.Mirrors (ρ : FunctionId → FunctionId) (E : Conversion → Conversion → Prop) :
    Conversion → Conversion → Prop
  | assign : Mirrors ρ E .assign .assign
  | coerce {c c' : Conversion} (h : E c c') : Mirrors ρ E c c'
  | delegate (function : FunctionId) (name : String) (style : DelegateStyle) :
      Mirrors ρ E (.delegate function name style) (.delegate (ρ function) name style)

/-- Two fields that are fed alike. -/
structure PlannedField.Mirrors (ρ : FunctionId → FunctionId) (R : TypeId → TypeId → Prop)
    (E : TypeId → TypeId → Conversion → Conversion → Prop) (x y : PlannedField) : Prop where
  /-- The fields. -/
  pair : x.pair.Copied R y.pair
  /-- How the value is converted. -/
  conversion : Conversion.Mirrors ρ (E x.pair.source.type x.pair.dest.type) x.conversion
    y.conversion

/-- **Two bodies that do the same.** -/
inductive PlanBody.Mirrors (ρ : FunctionId → FunctionId) (R : TypeId → TypeId → Prop)
    (E : TypeId → TypeId → Conversion → Conversion → Prop) : PlanBody → PlanBody → Prop
  | record {fields fields' : List PlannedField} {unmatched unmatched' : List RecordField}
      (hfields : List.Forall₂ (PlannedField.Mirrors ρ R E) fields fields')
      (hunmatched : List.Forall₂ (RecordField.Copied R) unmatched unmatched') :
      Mirrors ρ R E (.record fields unmatched) (.record fields' unmatched')
  | elements {src dst src' dst' : TypeId} {c c' : Conversion} (hsrc : R src src')
      (hdst : R dst dst') (hc : Conversion.Mirrors ρ (E src dst) c c') :
      Mirrors ρ R E (.elements src dst c) (.elements src' dst' c')

/-- **Two plans that come to the same.** -/
structure Plan.Mirrors (ρ : FunctionId → FunctionId) (R : TypeId → TypeId → Prop)
    (E : TypeId → TypeId → Conversion → Conversion → Prop) (x y : Plan) : Prop where
  /-- What is asked for. -/
  spec : x.spec.Mirrors ρ R y.spec
  /-- What is done. -/
  body : x.body.Mirrors ρ R E y.body

/-- **Registries that find the same**, when they are asked for functions and the renamed
functions. -/
def Registry.Mirrors (ρ : FunctionId → FunctionId) (R : TypeId → TypeId → Prop)
    (registry registry' : Registry) : Prop :=
  ∀ id, Option.Rel (MappingSpec.Mirrors ρ R) (registry.get? id) (registry'.get? (ρ id))

/-! ## Matching -/

theorem RecordField.Copied.isBlank {f g : RecordField} (h : f.Copied R g) :
    f.isBlank = g.isBlank := by
  unfold RecordField.isBlank
  rw [h.name]

namespace Matcher

variable {m : Matcher} {src src' : RecordType} {x y x' y' : RecordField}

theorem skips_copied (m : Matcher) (h : x.Copied R y) : m.skips x = m.skips y := by
  unfold skips
  rw [h.isBlank, h.name]

theorem fits_copied (m : Matcher) (ht : t.Indistinct R E) (h : x.Copied R y) (h' : x'.Copied R y') :
    InStep Eq (m.fits t x x') (m.fits t y y') := by
  unfold fits
  rw [h.isBlank, h.name, h'.name]
  split
  · exact ht.compatible h.type h'.type
  · exact .refl _

theorem findSource_copied (m : Matcher) (ht : t.Indistinct R E) (hsrc : src.Copied R src')
    (h : x.Copied R y) :
    InStep (Option.Rel (RecordField.Copied R)) (m.findSource t src x) (m.findSource t src' y) := by
  unfold findSource
  rw [h.name]
  cases m.overrides.get? y.name with
  | none => exact .findM? hsrc.fields (fun _ _ hfield => m.fits_copied ht hfield h)
  | some name =>
    refine .ok (optionRel_find? hsrc.fields (fun f g hfield => ?_))
    rw [hfield.name]

/-- **Copies of fields are fed by copies.** -/
theorem matchFields_copied (m : Matcher) (ht : t.Indistinct R E) (hsrc : src.Copied R src')
    {dsts dsts' : List RecordField} (h : List.Forall₂ (RecordField.Copied R) dsts dsts') :
    InStep (FieldMatch.Copied R) (m.matchFields t src dsts) (m.matchFields t src' dsts') := by
  induction h with
  | nil => exact .ok ⟨.nil, .nil⟩
  | cons hdest _ ih =>
    rw [matchFields, matchFields, m.skips_copied hdest]
    split
    · exact ih
    refine (m.findSource_copied ht hsrc hdest).bind (fun found found' hfound => ?_)
    refine ih.bind (fun others others' hothers => ?_)
    cases hfound with
    | some hsource => exact .ok ⟨.cons ⟨hsource, hdest⟩ hothers.pairs, hothers.unmatched⟩
    | none => exact .ok ⟨hothers.pairs, .cons hdest hothers.unmatched⟩

end Matcher

/-! ## Converting -/

namespace MappingSpec.Mirrors

variable {s s' : MappingSpec}

theorem ofSpec (h : s.Mirrors ρ R s') : Matcher.ofSpec s' = Matcher.ofSpec s := by
  unfold Matcher.ofSpec
  rw [h.recognizedPrefixes, h.ignoredDestFields, h.manualFieldOverrides]

theorem isExpressionLike (h : s.Mirrors ρ R s') : s'.isExpressionLike = s.isExpressionLike := by
  unfold MappingSpec.isExpressionLike
  rw [h.destIsPreconstructed, h.destIsReturned, h.errorIsReturned]

theorem toConversion {C : Conversion → Conversion → Prop} (h : s.Mirrors ρ R s') :
    Conversion.Mirrors ρ C s.toConversion s'.toConversion := by
  unfold MappingSpec.toConversion MappingSpec.style
  rw [h.function, h.name, h.sourceIsReceiver]
  exact .delegate _ _ _

/-- They turn the same types into one another. -/
theorem converts (h : s.Mirrors ρ R s') (ht : t.Indistinct R E) {src src' dst dst' : TypeId}
    (hsrc : R src src') (hdst : R dst dst') :
    InStep Eq (s.converts t src dst) (s'.converts t src' dst') := by
  unfold MappingSpec.converts
  refine (ht.assignable h.destType hdst).bind_eq (fun fits => ?_)
  split
  · exact .refl _
  refine (ht.assignable hsrc h.sourceType).bind_eq (fun taken => ?_)
  split
  · exact .refl _
  rw [h.sourceIsReceiver]
  split
  · exact .refl _
  refine (ht.pointee h.sourceType).bind (fun pointee pointee' hpointee => ?_)
  cases hpointee with
  | none => exact .refl _
  | some hpointee => exact ht.assignable hsrc hpointee

end MappingSpec.Mirrors

namespace TypeTable.Indistinct

variable {ds ds' : List MappingSpec} {src src' dst dst' : TypeId}

theorem findDelegate (ht : t.Indistinct R E) (hds : List.Forall₂ (MappingSpec.Mirrors ρ R) ds ds')
    (hsrc : R src src') (hdst : R dst dst') :
    InStep (Option.Rel (MappingSpec.Mirrors ρ R)) (t.findDelegate ds src dst)
      (t.findDelegate ds' src' dst') :=
  .findM? hds (fun _ _ hd => hd.converts ht hsrc hdst)

theorem fieldConversion (ht : t.Indistinct R E)
    (hds : List.Forall₂ (MappingSpec.Mirrors ρ R) ds ds') (hsrc : R src src') (hdst : R dst dst') :
    InStep (Conversion.Mirrors ρ (E src dst)) (t.fieldConversion ds src dst)
      (t.fieldConversion ds' src' dst') := by
  unfold TypeTable.fieldConversion
  refine (ht.identical hsrc hdst).bind_eq (fun same => ?_)
  split
  · exact .ok .assign
  refine (ht.findDelegate hds hsrc hdst).bind (fun found found' hfound => ?_)
  cases hfound with
  | some hd => exact .ok hd.toConversion
  | none => exact (ht.coerce hsrc hdst).mono (fun _ _ => .coerce)

theorem elementConversion (ht : t.Indistinct R E)
    (hds : List.Forall₂ (MappingSpec.Mirrors ρ R) ds ds') (hsrc : R src src') (hdst : R dst dst') :
    InStep (Conversion.Mirrors ρ (E src dst)) (t.elementConversion ds src dst)
      (t.elementConversion ds' src' dst') := by
  unfold TypeTable.elementConversion
  refine (ht.findDelegate hds hsrc hdst).bind (fun found found' hfound => ?_)
  cases hfound with
  | some hd => exact .ok hd.toConversion
  | none =>
    refine (ht.identical hsrc hdst).bind_eq (fun same => ?_)
    split
    · exact .ok .assign
    · exact (ht.coerce hsrc hdst).mono (fun _ _ => .coerce)

/-- The elements of the slices behind two types are related. -/
theorem sliceElem (ht : t.Indistinct R E) (h : R src src') :
    InStep (Option.Rel R) (Program.sliceElem t src) (Program.sliceElem t src') := by
  refine (ht.sliceShape h).bind (fun slice slice' hslice => ?_)
  cases hslice with
  | none => exact .ok .none
  | some hslice => exact ht.elem hslice

end TypeTable.Indistinct

/-! ## Planning -/

namespace Program.Mirrors

variable {p p' : Program} {registry registry' : Registry} {spec spec' : MappingSpec}
  {ds ds' : List MappingSpec} {src src' dst dst' : RecordType}

theorem describe (h : p.Mirrors ρ R p') (ht : p.types.Indistinct R E) (id : FunctionId) :
    InStep Eq (p.describe id) (p'.describe (ρ id)) := by
  unfold Program.describe
  cases hf : p.function? id with
  | none =>
    rw [(eq_none_iff_of_optionRel (h.functions id)).mp hf, h.fixed id hf]
    exact .refl _
  | some f =>
    obtain ⟨g, hg, hfg⟩ := h.exists_function hf
    rw [hg, h.types]
    exact (hfg.qualifiedName ht).bind_eq (fun name => .refl _)

/-- Functions are refused as delegates for the same reason. -/
theorem unusable {α β : Type} {S : α → β → Prop} (h : p.Mirrors ρ R p')
    (ht : p.types.Indistinct R E) (hspec : spec.Mirrors ρ R spec') (id : FunctionId)
    (reason : String) :
    InStep S (p.unusable spec id reason) (p'.unusable spec' (ρ id) reason) := by
  refine (h.describe ht id).lift.bind_eq (fun name => ?_)
  rw [hspec.qualifiedName]
  exact .fail _

/-- **The same functions may be delegated to.** -/
theorem delegate (h : p.Mirrors ρ R p') (ht : p.types.Indistinct R E)
    (hreg : registry.Mirrors ρ R registry') (hspec : spec.Mirrors ρ R spec') (id : FunctionId) :
    InStep (MappingSpec.Mirrors ρ R) (p.delegate registry spec id)
      (p'.delegate registry' spec' (ρ id)) := by
  unfold Program.delegate
  cases hd : registry.get? id with
  | none =>
    rw [(eq_none_iff_of_optionRel (hreg id)).mp hd]
    exact h.unusable ht hspec id _
  | some d =>
    obtain ⟨d', hd', hmirrors⟩ := exists_right_of_optionRel (hreg id) hd
    rw [hd']
    dsimp only
    rw [hmirrors.isExpressionLike]
    split
    · exact .ok hmirrors
    · exact h.unusable ht hspec id _

theorem delegates (h : p.Mirrors ρ R p') (ht : p.types.Indistinct R E)
    (hreg : registry.Mirrors ρ R registry') (hspec : spec.Mirrors ρ R spec') :
    InStep (List.Forall₂ (MappingSpec.Mirrors ρ R)) (p.delegates registry spec)
      (p'.delegates registry' spec') := by
  unfold Program.delegates
  rw [hspec.delegateMappings]
  refine .mapM (List.forall₂_map_right_iff.mpr (List.forall₂_same.mpr (fun id _ => ?_)))
  exact h.delegate ht hreg hspec id

theorem recordBody (h : p.Mirrors ρ R p') (ht : p.types.Indistinct R E)
    (hspec : spec.Mirrors ρ R spec') (hds : List.Forall₂ (MappingSpec.Mirrors ρ R) ds ds')
    (hsrc : src.Copied R src') (hdst : dst.Copied R dst') :
    InStep (PlanBody.Mirrors ρ R E) (p.recordBody spec ds src dst)
      (p'.recordBody spec' ds' src' dst') := by
  unfold Program.recordBody
  rw [h.types, hspec.ofSpec]
  refine (Matcher.matchFields_copied _ ht hsrc hdst.fields).bind (fun found found' hfound => ?_)
  refine (InStep.mapM (T := PlannedField.Mirrors ρ R E) ?_).map
    (fun _ _ hfields => .record hfields hfound.unmatched)
  refine hfound.pairs.imp (fun x y hpair => ?_)
  exact (ht.fieldConversion hds hpair.source.type hpair.dest.type).map (fun _ _ hc => ⟨hpair, hc⟩)

/-- **Specifications that mirror one another get bodies that do.** -/
theorem planBody (h : p.Mirrors ρ R p') (ht : p.types.Indistinct R E)
    (hspec : spec.Mirrors ρ R spec') (hds : List.Forall₂ (MappingSpec.Mirrors ρ R) ds ds') :
    InStep (PlanBody.Mirrors ρ R E) (p.planBody spec ds) (p'.planBody spec' ds') := by
  unfold Program.planBody
  rw [h.types]
  refine (ht.resolve hspec.sourceType).lift.bind (fun src src' hsrc => ?_)
  refine (ht.resolve hspec.destType).lift.bind (fun dst dst' hdst => ?_)
  cases hsrc <;> cases hdst
  case some.some hsrc _ _ hdst => exact (h.recordBody ht hspec hds hsrc hdst).lift
  -- whichever of the records is missing, what is left are slices
  all_goals
    refine (ht.sliceElem hspec.sourceType).lift.bind (fun src src' hsrc => ?_)
    refine (ht.sliceElem hspec.destType).lift.bind (fun dst dst' hdst => ?_)
    cases hsrc <;> cases hdst
    case some.some hsrc _ _ hdst =>
      exact (ht.elementConversion hds hsrc hdst).lift.map (fun _ _ hc => .elements hsrc hdst hc)
    all_goals
      refine (ht.display hspec.sourceType).lift.bind_eq (fun source => ?_)
      refine (ht.display hspec.destType).lift.bind_eq (fun dest => ?_)
      rw [hspec.qualifiedName]
      exact .fail _

/-- **Specifications that mirror one another get plans that do.** -/
theorem plan (h : p.Mirrors ρ R p') (ht : p.types.Indistinct R E)
    (hreg : registry.Mirrors ρ R registry') (hspec : spec.Mirrors ρ R spec') :
    InStep (Plan.Mirrors ρ R E) (p.plan registry spec) (p'.plan registry' spec') := by
  refine (h.delegates ht hreg hspec).bind (fun ds ds' hds => ?_)
  exact (h.planBody ht hspec hds).map (fun _ _ hbody => ⟨hspec, hbody⟩)

/-- **Specifications that mirror one another in one order get plans that do.** -/
theorem planAll (h : p.Mirrors ρ R p') (ht : p.types.Indistinct R E)
    (hreg : registry.Mirrors ρ R registry')
    (hspecs : List.Forall₂ (MappingSpec.Mirrors ρ R) registry.specs registry'.specs) :
    InStep (List.Forall₂ (Plan.Mirrors ρ R E)) (p.planAll registry) (p'.planAll registry') :=
  .mapM (hspecs.imp (fun _ _ hspec => h.plan ht hreg hspec))

/-! ## Whole programs -/

variable {settings : Settings}

/-- **The registries find the same specifications.** -/
theorem mirrors_registry (h : p.Mirrors ρ R p') (ht : p.types.Indistinct R E)
    (hjudges : p.JudgesAlike settings ρ p') (hp : p.validate = .ok ()) (hp' : p'.validate = .ok ())
    (hcollect : p.collect settings = .ok registry)
    (hcollect' : p'.collect settings = .ok registry') : registry.Mirrors ρ R registry' := by
  intro id
  refine optionRel_of_exists (fun spec hspec => ?_) (fun spec' hspec' => ?_)
  · obtain ⟨f, hf, hcandidate, hread⟩ := (get?_registry_iff hp hcollect).mp hspec
    obtain ⟨g, hg, hfg⟩ := h.exists_function hf
    obtain ⟨_, hread', hfound⟩ := (h.interpret ht hjudges id).exists_right hread
    cases hfound with
    | some hmirrors =>
      exact ⟨_, (get?_registry_iff hp' hcollect').mpr
        ⟨g, hg, h.isCandidate hfg ▸ hcandidate, hread'⟩, hmirrors⟩
  · obtain ⟨g, hg, hcandidate, hread'⟩ := (get?_registry_iff hp' hcollect').mp hspec'
    obtain ⟨f, hf, hfg⟩ := exists_left_of_optionRel (h.functions id) hg
    obtain ⟨_, hread, hfound⟩ := (h.interpret ht hjudges id).exists_left hread'
    cases hfound with
    | some _ =>
      exact ⟨_, (get?_registry_iff hp hcollect).mpr
        ⟨f, hf, h.isCandidate hfg ▸ hcandidate, hread⟩⟩

/-- **Functions that are declared in one order** are read for the same specifications. -/
theorem specsOf (h : p.Mirrors ρ R p') (ht : p.types.Indistinct R E)
    (hjudges : p.JudgesAlike settings ρ p') {fs gs : List Func}
    (hfs : List.Forall₂ (Func.Mirrors ρ R) fs gs) :
    InStep (List.Forall₂ (MappingSpec.Mirrors ρ R)) (p.specsOf settings fs)
      (p'.specsOf settings gs) := by
  induction hfs with
  | nil => exact .ok .nil
  | @cons f g fs gs hfg _ ih =>
    rw [Program.specsOf, Program.specsOf, h.isCandidate hfg, hfg.id]
    split
    · refine (h.interpret ht hjudges f.id).bind (fun found found' hfound => ?_)
      exact ih.map (fun _ _ hrest => List.rel_append (forall₂_toList_of_optionRel hfound) hrest)
    · exact ih

/-- **The specifications can be collected of both programs**, or of neither. -/
theorem collect_iff (h : p.Mirrors ρ R p') (ht : p.types.Indistinct R E)
    (hjudges : p.JudgesAlike settings ρ p') (hp : p.Sound) (hp' : p'.Sound) :
    (∃ registry, p.collect settings = .ok registry) ↔
      ∃ registry', p'.collect settings = .ok registry' := by
  rw [exists_collect_iff, exists_collect_iff]
  constructor
  · intro hread g hg hcandidate
    obtain ⟨id, f, hf, hid, hfg⟩ := h.exists_original (function?_of_mem hp' hg)
    obtain rfl := hp.functionIds id f hf
    rw [← hid]
    refine (h.interpret ht hjudges f.id).exists_ok_iff.mp (hread f (Array.mem_of_getElem? hf) ?_)
    exact h.isCandidate hfg ▸ hcandidate
  · intro hread f hf hcandidate
    obtain ⟨g, hg, hfg⟩ := h.exists_function (function?_of_mem hp hf)
    refine (h.interpret ht hjudges f.id).exists_ok_iff.mpr (hfg.id ▸ hread g ?_ ?_)
    · exact Array.mem_of_getElem? hg
    · exact (h.isCandidate hfg).trans hcandidate

end Program.Mirrors

namespace Registry.Mirrors

variable {registry registry' : Registry} {spec spec' : MappingSpec}

/-- Whatever is registered is mirrored in the other registry, -/
theorem exists_spec (h : registry.Mirrors ρ R registry')
    (hnodup : (registry.specs.map MappingSpec.function).Nodup) (hspec : spec ∈ registry.specs) :
    ∃ spec' ∈ registry'.specs, spec.Mirrors ρ R spec' := by
  have hfound := (get?_eq_some_iff hnodup).mpr ⟨hspec, rfl⟩
  obtain ⟨spec', hspec', hmirrors⟩ := exists_right_of_optionRel (h _) hfound
  exact ⟨spec', mem_of_get? hspec', hmirrors⟩

/-- and mirrors something in the first. -/
theorem exists_original (h : registry.Mirrors ρ R registry') (hρ : Function.Surjective ρ)
    (hnodup : (registry'.specs.map MappingSpec.function).Nodup) (hspec : spec' ∈ registry'.specs) :
    ∃ spec ∈ registry.specs, spec.Mirrors ρ R spec' := by
  obtain ⟨id, hid⟩ := hρ spec'.function
  have hfound := (get?_eq_some_iff hnodup).mpr ⟨hspec, hid.symm⟩
  obtain ⟨spec, hspec, hmirrors⟩ := exists_left_of_optionRel (h id) hfound
  exact ⟨spec, mem_of_get? hspec, hmirrors⟩

end Registry.Mirrors

/-- **Both programs can be analysed, or neither.** -/
theorem Program.Mirrors.analyze_iff {p p' : Program} {settings : Settings} (h : p.Mirrors ρ R p')
    (ht : p.types.Indistinct R E) (hjudges : p.JudgesAlike settings ρ p')
    (hp : p.validate = .ok ()) (hp' : p'.validate = .ok ()) :
    (∃ a, p.analyze settings = .ok a) ↔ ∃ a', p'.analyze settings = .ok a' := by
  have hcollects := h.collect_iff ht hjudges (validate_eq_ok_iff.mp hp) (validate_eq_ok_iff.mp hp')
  rw [exists_analyze_iff hp, exists_analyze_iff hp']
  constructor
  · rintro ⟨registry, hcollect, hplans⟩
    obtain ⟨registry', hcollect'⟩ := hcollects.mp ⟨registry, hcollect⟩
    have hreg := h.mirrors_registry ht hjudges hp hp' hcollect hcollect'
    refine ⟨registry', hcollect', fun spec' hspec' => ?_⟩
    obtain ⟨spec, hspec, hmirrors⟩ :=
      hreg.exists_original h.bijective.surjective (nodup_registry hp' hcollect') hspec'
    exact (h.plan ht hreg hmirrors).exists_ok_iff.mp (hplans spec hspec)
  · rintro ⟨registry', hcollect', hplans⟩
    obtain ⟨registry, hcollect⟩ := hcollects.mpr ⟨registry', hcollect'⟩
    have hreg := h.mirrors_registry ht hjudges hp hp' hcollect hcollect'
    refine ⟨registry, hcollect, fun spec hspec => ?_⟩
    obtain ⟨spec', hspec', hmirrors⟩ := hreg.exists_spec (nodup_registry hp hcollect) hspec
    exact (h.plan ht hreg hmirrors).exists_ok_iff.mpr (hplans spec' hspec')

/-- **Two analyses that come to the same**, in the same order. -/
structure Analysis.Mirrors (ρ : FunctionId → FunctionId) (R : TypeId → TypeId → Prop)
    (E : TypeId → TypeId → Conversion → Conversion → Prop) (a a' : Analysis) : Prop where
  /-- What is asked for. -/
  specs : List.Forall₂ (MappingSpec.Mirrors ρ R) a.registry.specs a'.registry.specs
  /-- What is planned. -/
  plans : List.Forall₂ (Plan.Mirrors ρ R E) a.plans a'.plans

end Crosswalk

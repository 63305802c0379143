import Crosswalk.Proofs.InStep
import Crosswalk.Proofs.Lists
import Crosswalk.Proofs.Mapping.Registry
import Crosswalk.Proofs.Matching.Local
import Crosswalk.Plan.Analysis

/-!
# Specifications that ask the same

What a mapping function asks for is put down in the order in which it was said, and the order
shows in reports. A planner does not look at it: only what has been said of prefixes, ignored
fields and overrides counts. Specifications that differ in nothing else *ask the same*, and get
plans with the same body, provided that what may be delegated to asks the same, too.

Delegates are an exception, since the first one that fits is taken. Specifications that ask the
same list them in one order.
-/

namespace Crosswalk

/-- **Specifications that ask the same**: they agree but for the order in which prefixes, ignored
fields and overrides were said. -/
structure MappingSpec.AsksSame (s s' : MappingSpec) : Prop where
  /-- Everything else is the same. -/
  header : s' = { s with
    recognizedPrefixes := s'.recognizedPrefixes
    ignoredDestFields := s'.ignoredDestFields
    manualFieldOverrides := s'.manualFieldOverrides }
  /-- What is said of fields is the same. -/
  matcher : (Matcher.ofSpec s).SaysSame (Matcher.ofSpec s')

theorem Matcher.SaysSame.refl (m : Matcher) : m.SaysSame m :=
  ⟨fun _ => Iff.rfl, fun _ => Iff.rfl, fun _ => rfl⟩

namespace MappingSpec

variable {s s' : MappingSpec}

theorem AsksSame.refl (s : MappingSpec) : s.AsksSame s := ⟨rfl, .refl _⟩

namespace AsksSame

variable (h : s.AsksSame s')
include h

theorem function : s'.function = s.function := by rw [h.header]

theorem name : s'.name = s.name := by rw [h.header]

theorem qualifiedName : s'.qualifiedName = s.qualifiedName := by rw [h.header]

theorem sourceType : s'.sourceType = s.sourceType := by rw [h.header]

theorem destType : s'.destType = s.destType := by rw [h.header]

theorem delegateMappings : s'.delegateMappings = s.delegateMappings := by rw [h.header]

theorem isExpressionLike : s'.isExpressionLike = s.isExpressionLike := by
  rw [h.header]
  rfl

theorem toConversion : s'.toConversion = s.toConversion := by
  rw [h.header]
  rfl

/-- They turn the same types into one another. -/
theorem converts (t : TypeTable) (src dst : TypeId) :
    s'.converts t src dst = s.converts t src dst := by
  rw [h.header]
  rfl

end AsksSame

end MappingSpec

namespace TypeTable

variable {t : TypeTable} {ds ds' : List MappingSpec} {src dst : TypeId}

theorem findDelegate_of_asksSame (h : List.Forall₂ MappingSpec.AsksSame ds ds') :
    InStep (Option.Rel MappingSpec.AsksSame) (t.findDelegate ds src dst)
      (t.findDelegate ds' src dst) :=
  .findM? h (fun _ _ hd => .of_eq (hd.converts t src dst).symm)

/-- **Fields are converted alike.** -/
theorem fieldConversion_of_asksSame (h : List.Forall₂ MappingSpec.AsksSame ds ds') :
    t.fieldConversion ds' src dst = t.fieldConversion ds src dst := by
  refine (InStep.eq ?_).symm
  unfold fieldConversion
  refine (InStep.refl (t.identical src dst)).bind_eq (fun same => ?_)
  split
  · exact .refl _
  refine (findDelegate_of_asksSame h).bind (fun found found' hfound => ?_)
  cases hfound with
  | some hd => exact .ok hd.toConversion.symm
  | none => exact .refl _

/-- **Elements are converted alike.** -/
theorem elementConversion_of_asksSame (h : List.Forall₂ MappingSpec.AsksSame ds ds') :
    t.elementConversion ds' src dst = t.elementConversion ds src dst := by
  refine (InStep.eq ?_).symm
  unfold elementConversion
  refine (findDelegate_of_asksSame h).bind (fun found found' hfound => ?_)
  cases hfound with
  | some hd => exact .ok hd.toConversion.symm
  | none => exact .refl _

end TypeTable

/-! ## Registries -/

namespace Registry

variable {specs specs' : List MappingSpec} {registry registry' : Registry}

/-- Specifications that ask the same are registered in the same places. -/
theorem forall₂_ofList (h : List.Forall₂ MappingSpec.AsksSame specs specs') :
    List.Forall₂ MappingSpec.AsksSame (ofList specs).specs (ofList specs').specs := by
  refine forall₂_mergeSort (fun a b a' b' hab hab' => ?_) h
  unfold MappingSpec.comesBefore
  rw [hab.name, hab'.name, hab.qualifiedName, hab'.qualifiedName]

theorem optionRel_get? (h : List.Forall₂ MappingSpec.AsksSame registry.specs registry'.specs)
    (id : FunctionId) :
    Option.Rel MappingSpec.AsksSame (registry.get? id) (registry'.get? id) := by
  rw [get?_eq, get?_eq]
  exact optionRel_find? (List.rel_reverse h) (fun _ _ hs => by rw [hs.function])

end Registry

/-! ## Plans -/

/-- **Programs that are planned with alike**: they have the same types, and call functions the
same in messages. -/
structure Program.PlansAlike (p p' : Program) : Prop where
  /-- The types. -/
  types : p'.types = p.types
  /-- What functions are called. -/
  describe : ∀ id, p'.describe id = p.describe id

namespace Program.PlansAlike

variable {p p' : Program} {registry registry' : Registry} {spec spec' : MappingSpec}
  {ds ds' : List MappingSpec}

variable (hp : p.PlansAlike p')
include hp

/-- Functions are refused as delegates for the same reason. -/
theorem unusable {α β : Type} {S : α → β → Prop} (h : spec.AsksSame spec') (id : FunctionId)
    (reason : String) : InStep S (p.unusable spec id reason) (p'.unusable spec' id reason) := by
  unfold Program.unusable
  rw [hp.describe, h.qualifiedName]
  exact (InStep.refl _).bind_eq (fun _ => .fail _)

/-- **The same functions may be delegated to.** -/
theorem delegate (hreg : List.Forall₂ MappingSpec.AsksSame registry.specs registry'.specs)
    (h : spec.AsksSame spec') (id : FunctionId) :
    InStep MappingSpec.AsksSame (p.delegate registry spec id) (p'.delegate registry' spec' id) := by
  unfold Program.delegate
  cases hd : registry.get? id with
  | none =>
    rw [(eq_none_iff_of_optionRel (Registry.optionRel_get? hreg id)).mp hd]
    exact hp.unusable h id _
  | some d =>
    obtain ⟨d', hd', hsame⟩ := exists_right_of_optionRel (Registry.optionRel_get? hreg id) hd
    rw [hd']
    dsimp only
    rw [hsame.isExpressionLike]
    split
    · exact .ok hsame
    · exact hp.unusable h id _

theorem delegates (hreg : List.Forall₂ MappingSpec.AsksSame registry.specs registry'.specs)
    (h : spec.AsksSame spec') : InStep (List.Forall₂ MappingSpec.AsksSame)
      (p.delegates registry spec) (p'.delegates registry' spec') := by
  unfold Program.delegates
  rw [h.delegateMappings]
  exact .mapM (List.forall₂_same.mpr (fun id _ => hp.delegate hreg h id))

/-- **Specifications that ask the same get one body**, from delegates that ask the same. -/
theorem planBody (h : spec.AsksSame spec') (hds : List.Forall₂ MappingSpec.AsksSame ds ds') :
    p'.planBody spec' ds' = p.planBody spec ds := by
  unfold Program.planBody Program.recordBody
  simp only [hp.types, h.sourceType, h.destType, h.qualifiedName,
    h.matcher.matchRecords p.types, TypeTable.fieldConversion_of_asksSame hds,
    TypeTable.elementConversion_of_asksSame hds]

/-- **Specifications that ask the same get plans with the same body.** -/
theorem plan (hreg : List.Forall₂ MappingSpec.AsksSame registry.specs registry'.specs)
    (h : spec.AsksSame spec') :
    InStep (fun x x' => x.spec.AsksSame x'.spec ∧ x'.body = x.body) (p.plan registry spec)
      (p'.plan registry' spec') := by
  refine (hp.delegates hreg h).bind (fun ds ds' hds => ?_)
  rw [hp.planBody h hds]
  exact (InStep.refl _).bind_eq (fun body => .ok ⟨h, rfl⟩)

theorem planAll (hreg : List.Forall₂ MappingSpec.AsksSame registry.specs registry'.specs) :
    InStep (List.Forall₂ (fun x x' => x.spec.AsksSame x'.spec ∧ x'.body = x.body))
      (p.planAll registry) (p'.planAll registry') :=
  .mapM (hreg.imp (fun _ _ h => hp.plan hreg h))

end Program.PlansAlike

end Crosswalk

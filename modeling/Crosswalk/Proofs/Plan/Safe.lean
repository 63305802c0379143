import Crosswalk.Proofs.Mapping.Safe
import Crosswalk.Proofs.Plan.Analysis

/-!
# Safe analyses

The two phases of an analysis are safe one after the other: every specification that is
registered has types that exist, and a plan asks nothing but of these types, of the
fields of their records and of the types of other registered specifications.
-/

namespace Crosswalk

namespace Program

variable {loops : Prop} {p : Program} {settings : Settings} {registry : Registry}
  {spec : MappingSpec} {delegates : List MappingSpec} {src dst : RecordType}

/-- **Specifications whose types exist.** -/
def AllTyped (t : TypeTable) (specs : List MappingSpec) : Prop := ∀ spec ∈ specs, spec.Typed t

/-! ## Collecting -/

theorem Tame.specsOf_safe (hp : p.Tame loops) (settings : Settings) (fs : List Func) :
    (p.specsOf settings fs).Safe loops (AllTyped p.types) := by
  induction fs with
  | nil => exact nofun
  | cons f fs ih =>
    rw [specsOf]
    split
    · refine (hp.interpret_safe settings f.id).bind (fun found hfound => ?_)
      refine ih.bind (fun rest hrest spec hspec => ?_)
      rcases List.mem_append.mp hspec with hspec | hspec
      · exact hfound spec (Option.mem_toList.mp hspec)
      · exact hrest spec hspec
    · exact ih

/-- **Every registered specification has types that exist.** -/
theorem Tame.collect_safe (hp : p.Tame loops) (settings : Settings) :
    (p.collect settings).Safe loops (fun registry => AllTyped p.types registry.specs) := by
  refine (hp.specsOf_safe settings p.functions.toList).bind (fun specs hspecs spec hspec => ?_)
  exact hspecs spec ((List.mergeSort_perm specs _).mem_iff.mp hspec)

/-! ## Planning -/

theorem Tame.unusable_safe {α : Type} {P : α → Prop} (hp : p.Tame loops) (id : FunctionId)
    (reason : String) : (p.unusable spec id reason : Checked MappingError α).Safe loops P := by
  have hdescribe : (p.describe id).Safe loops (fun _ => True) := by
    unfold describe
    split
    · exact (Func.qualifiedName_safe hp.types _).bind (fun _ _ => trivial)
    · exact trivial
  exact hdescribe.lift.bind (fun _ _ => trivial)

theorem Tame.delegates_safe (hp : p.Tame loops) (hregistry : AllTyped p.types registry.specs) :
    (p.delegates registry spec).Safe loops (AllTyped p.types) := by
  refine Ends.mapM (fun id _ => ?_)
  unfold delegate
  split
  · exact hp.unusable_safe id _
  · rename_i d hd
    split
    · exact hregistry d (Registry.mem_of_get? hd)
    · exact hp.unusable_safe id _

theorem Tame.recordBody_safe (hp : p.Tame loops) (hdelegates : AllTyped p.types delegates)
    (hsrc : ∀ f ∈ src.fields, p.types.Has f.type) (hdst : ∀ f ∈ dst.fields, p.types.Has f.type) :
    (p.recordBody spec delegates src dst).Safe loops (fun _ => True) := by
  refine (Matcher.matchRecords_safe hp.types.grounded hsrc hdst).bind (fun found hfound => ?_)
  refine Ends.bind (.mapM (P := fun _ => True) (fun pair hpair => ?_)) (fun _ _ => trivial)
  obtain ⟨hs, hd⟩ := hfound pair hpair
  exact (hp.types.grounded.fieldConversion_safe hdelegates hs hd).bind (fun _ _ => trivial)

theorem sliceElem_safe {t : TypeTable} {id : TypeId} (ht : t.Closed) (hid : t.Has id) :
    (sliceElem t id).Safe loops (fun found => ∀ e ∈ found, t.Has e) := by
  refine (ht.sliceShape_safe hid).bind (fun found hfound => ?_)
  split
  · exact ht.elem_safe (hfound _ rfl)
  · exact nofun

theorem Tame.planBody_safe (hp : p.Tame loops) (hdelegates : AllTyped p.types delegates)
    (hspec : spec.Typed p.types) : (p.planBody spec delegates).Safe loops (fun _ => True) := by
  have ht := hp.types.closed
  refine (ht.resolve_safe hspec.source).lift.bind (fun src hsrc => ?_)
  refine (ht.resolve_safe hspec.dest).lift.bind (fun dst hdst => ?_)
  split
  · rename_i s d heq
    obtain ⟨rfl, rfl⟩ := Prod.mk.inj heq
    exact (hp.recordBody_safe hdelegates (hsrc s rfl) (hdst d rfl)).lift
  refine (sliceElem_safe ht hspec.source).lift.bind (fun src hsrc => ?_)
  refine (sliceElem_safe ht hspec.dest).lift.bind (fun dst hdst => ?_)
  split
  · rename_i s d heq
    obtain ⟨rfl, rfl⟩ := Prod.mk.inj heq
    have hconversion :=
      hp.types.grounded.elementConversion_safe hdelegates (hsrc s rfl) (hdst d rfl)
    exact hconversion.lift.bind (fun _ _ => trivial)
  · refine (hp.types.display_safe _).lift.bind (fun _ _ => ?_)
    exact (hp.types.display_safe _).lift.bind (fun _ _ => trivial)

/-- **Planning is safe**, and a plan is about types that exist. -/
theorem Tame.plan_safe (hp : p.Tame loops) (hregistry : AllTyped p.types registry.specs)
    (hspec : spec.Typed p.types) :
    (p.plan registry spec).Safe loops (fun plan => plan.spec.Typed p.types) := by
  refine (hp.delegates_safe hregistry).bind (fun delegates hdelegates => ?_)
  exact (hp.planBody_safe hdelegates hspec).bind (fun _ _ => hspec)

/-- **An analysis of a tame program is safe.** -/
theorem Tame.analyze_safe (hp : p.Tame loops) (settings : Settings) :
    (p.analyze settings).Safe loops (fun a => ∀ plan ∈ a.plans, plan.spec.Typed p.types) := by
  refine (Checked.Safe.ofExcept (P := fun _ => True) (fun _ _ => trivial)).bind (fun _ _ => ?_)
  refine (hp.collect_safe settings).bind (fun registry hregistry => ?_)
  refine Ends.bind (.mapM (fun spec hspec => ?_)) (fun plans hplans => hplans)
  exact hp.plan_safe hregistry (hregistry spec hspec)

end Program

end Crosswalk

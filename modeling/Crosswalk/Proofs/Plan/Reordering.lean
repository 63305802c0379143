import Crosswalk.Proofs.Mapping.Relisting
import Crosswalk.Proofs.Plan.Analysis

/-!
# The order of configuration calls

A mapping function configures its mapping by calls of markers, in some order. The order matters
where a later call replaces what an earlier one said of a field, and where the first of several
functions is taken for a nested value. It does not matter otherwise
(`configuration_acts_locally`). This is so because a planner only looks at what has been said, and
because what is said by one call does not depend on where the others are listed.

The same holds of a whole program, where several functions may configure their mappings in
another order, and plans may rely on one another as delegates.
-/

namespace Crosswalk

/-- **The mapping functions of the program `p'` configure their mappings in another order** than
those of `p` do, if they do not configure them in the same. -/
structure Program.Reorders (settings : Settings) (p p' : Program) : Prop where
  /-- The package. -/
  package : p'.package = p.package
  /-- The types. -/
  types : p'.types = p.types
  /-- The functions. -/
  functions : ∀ id, Option.Rel
    (fun f f' => f' = f ∨ ∃ r, Reading.ofFunction p settings f = .ok r ∧ r.Reorders f')
    (p.function? id) (p'.function? id)

namespace Program.Reorders

variable {p p' : Program} {settings : Settings} {id : FunctionId} {f : Func}
  {found : Option MappingSpec} {fs fs' : List Func} {specs : List MappingSpec}

variable (h : p.Reorders settings p')
include h

theorem relists : p.Relists p' where
  package := h.package
  types := h.types
  functions id := optionRel_imp (h.functions id) (fun f f' hf => by
    rcases hf with rfl | ⟨r, hr, hreorders⟩
    · exact .refl _
    · obtain ⟨_, _, -, -, rfl⟩ := Reading.exists_of_ofFunction hr
      exact hreorders.relists)

/-- **A function is read for a specification that asks the same**, or is no mapping function as
before. -/
theorem interpret (hp : p.Sound) (hf : p.function? id = some f)
    (hfound : p.interpret settings id = .ok found) :
    ∃ found', p'.interpret settings id = .ok found' ∧
      Option.Rel MappingSpec.AsksSame found found' := by
  obtain ⟨f', hf', hrelated⟩ := exists_right_of_optionRel (h.functions id) hf
  have hrelists : f.Relists f' := by
    obtain ⟨_, heq, hrelists⟩ := exists_right_of_optionRel (h.relists.functions id) hf
    exact Option.some.inj (hf'.symm.trans heq) ▸ hrelists
  have hfsound := hp.functions id f hf
  have hfsound' := h.relists.function_sound hrelists hfsound
  obtain ⟨index, hindex, hlists⟩ := Func.exists_index (fun _ => hfsound.has_of_listed)
  obtain ⟨index', hindex', hlists'⟩ := Func.exists_index (fun _ => hfsound'.has_of_listed)
  -- both functions are read, under one name
  unfold Program.interpret at hfound
  rw [hf] at hfound
  obtain ⟨r, hr, hspec⟩ := bind_eq_ok_iff.mp hfound
  rw [liftM_eq_ok_iff] at hr
  obtain ⟨_, name, heq, hname, rfl⟩ := Reading.exists_of_ofFunction hr
  obtain rfl := Except.ok.inj (hindex.symm.trans heq)
  have hr' : Reading.ofFunction p' settings f' = .ok ⟨settings, ⟨p', f', index'⟩, name⟩ := by
    rw [Reading.ofFunction_eq hindex', hrelists.qualifiedName, h.types, hname]
    rfl
  rw [interpret_eq_spec? hf' hr']
  rcases hrelated with rfl | ⟨r, hr₂, hreorders⟩
  · obtain rfl := Except.ok.inj (hindex.symm.trans hindex')
    have hscope : Scope.Relists [] ⟨p, f', index⟩ ⟨p', f', index⟩ :=
      ⟨h.relists, .refl _, .refl _, nofun, hp, hfsound, hlists⟩
    have hsame := Reading.spec?_of_relists (r := ⟨settings, ⟨p, f', index⟩, name⟩) hscope hlists
      rfl
    refine ⟨found, hsame.trans hspec, ?_⟩
    cases found with
    | none => exact .none
    | some spec => exact .some (.refl spec)
  · obtain rfl := Except.ok.inj (hr.symm.trans hr₂)
    have hscope := hreorders.scope_relists ⟨p', f', index'⟩ h.relists hp hfsound hlists hlists'
    obtain ⟨_, spec', rfl, hspec', hsame⟩ := Reading.spec?_reorder hscope hlists' hreorders hspec
    exact ⟨some spec', hspec', .some hsame⟩

/-- **The specifications that are read ask the same**, one by one. -/
theorem specsOf (hp : p.Sound)
    (hfs : List.Forall₂ (fun f f' => f.Relists f' ∧ p.function? f.id = some f) fs fs')
    (hspecs : p.specsOf settings fs = .ok specs) :
    ∃ specs', p'.specsOf settings fs' = .ok specs' ∧
      List.Forall₂ MappingSpec.AsksSame specs specs' := by
  induction hfs generalizing specs with
  | nil =>
    obtain rfl := Except.ok.inj hspecs
    exact ⟨[], rfl, .nil⟩
  | @cons f f' fs fs' hf _ ih =>
    obtain ⟨hrelists, hf⟩ := hf
    have hid : f'.id = f.id := by rw [hrelists.header]
    rw [Program.specsOf] at hspecs ⊢
    rw [h.relists.isCandidate_eq hrelists, hid]
    split at hspecs
    · rename_i hcandidate
      obtain ⟨found, hfound, hspecs⟩ := bind_eq_ok_iff.mp hspecs
      obtain ⟨rest, hrest, hspecs⟩ := bind_eq_ok_iff.mp hspecs
      obtain rfl := Except.ok.inj hspecs
      obtain ⟨found', hfound', hsame⟩ := h.interpret hp hf hfound
      obtain ⟨rest', hrest', hothers⟩ := ih hrest
      have hall := List.rel_append (forall₂_toList_of_optionRel hsame) hothers
      refine ⟨found'.toList ++ rest', ?_, hall⟩
      rw [if_pos hcandidate, hfound', ok_bind, hrest']
      rfl
    · rename_i hcandidate
      rw [if_neg hcandidate]
      exact ih hspecs

theorem collect {registry : Registry} (hp : p.Sound)
    (hcollect : p.collect settings = .ok registry) :
    ∃ registry', p'.collect settings = .ok registry' ∧
      List.Forall₂ MappingSpec.AsksSame registry.specs registry'.specs := by
  obtain ⟨specs, hspecs, hregistry⟩ := bind_eq_ok_iff.mp hcollect
  obtain rfl := Except.ok.inj hregistry
  have hfunctions : List.Forall₂ Func.Relists p.functions.toList p'.functions.toList := by
    refine forall₂_of_optionRel_getElem? (fun i => ?_)
    rw [Array.getElem?_toList, Array.getElem?_toList]
    exact h.relists.functions ⟨i⟩
  have hplaced := forall₂_imp_mem (fun f hf _ _ hrelists =>
    (⟨hrelists, function?_of_mem hp (Array.mem_toList_iff.mp hf)⟩ :
      Func.Relists f _ ∧ p.function? f.id = some f)) hfunctions
  obtain ⟨specs', hspecs', hsame⟩ := h.specsOf hp hplaced hspecs
  exact ⟨.ofList specs', bind_eq_ok_iff.mpr ⟨specs', hspecs', rfl⟩, Registry.forall₂_ofList hsame⟩

theorem plansAlike : p.PlansAlike p' := ⟨h.types, h.relists.describe_eq⟩

/-- **The plans have the same bodies**, one by one. -/
theorem analyze {a : Analysis} (ha : p.analyze settings = .ok a) :
    ∃ a', p'.analyze settings = .ok a' ∧
      List.Forall₂ (fun plan plan' => plan.spec.AsksSame plan'.spec ∧ plan'.body = plan.body)
        a.plans a'.plans := by
  obtain ⟨hvalid, hcollect, hplans⟩ := analyze_eq_ok ha
  have hp := validate_eq_ok_iff.mp hvalid
  have hvalid' := validate_eq_ok_iff.mpr (h.relists.sound hp)
  obtain ⟨registry', hcollect', hsame⟩ := h.collect hp hcollect
  obtain ⟨plans', hplans', hbodies⟩ :=
    (h.plansAlike.planAll hsame).exists_right (mapM_eq_ok_iff.mpr hplans)
  refine ⟨⟨registry', plans'⟩, ?_, hbodies⟩
  unfold Program.analyze
  rw [ensureValid_of_valid hvalid', ok_bind, hcollect', ok_bind, hplans']
  rfl

end Program.Reorders

/-- **Configuration acts locally, and more of it can only feed more.** So the order of
configuration calls does not matter, as long as those that feed one field, and those that name
functions for nested values, keep theirs: once a mapping has begun, they come to one that is
planned with the same body. And the functions of a program, when they configure their mappings
in another order, are all planned with the bodies that they had. -/
theorem configuration_acts_locally :
    (∀ (m : Matcher) (t : TypeTable) (src dst : RecordType), m.ActsLocally t src dst) ∧
    (∀ (r : Reading) (first spec : MappingSpec) (rest rest' : List (MarkerCall × List ValueId)),
      r.Reordered rest rest' →
      rest.foldlM r.follow (.accumulating first) = .ok (.accumulating spec) →
        ∃ spec', rest'.foldlM r.follow (.accumulating first) = .ok (.accumulating spec') ∧
          ∀ (p : Program) (registry : Registry), InStep (fun plan plan' => plan'.body = plan.body)
            (p.plan registry spec) (p.plan registry spec')) ∧
    ∀ (p p' : Program) (settings : Settings) (a : Analysis), p.analyze settings = .ok a →
      p.Reorders settings p' → ∃ a', p'.analyze settings = .ok a' ∧
        List.Forall₂ (fun plan plan' =>
          plan'.spec.function = plan.spec.function ∧ plan'.body = plan.body) a.plans a'.plans := by
  refine ⟨Matcher.actsLocally, fun r first spec rest rest' h hspec => ?_,
    fun p p' settings a ha h => ?_⟩
  · obtain ⟨spec', hspec', hsame⟩ := h.foldlM hspec
    refine ⟨spec', hspec', fun p registry => ?_⟩
    have hp : p.PlansAlike p := ⟨rfl, fun _ => rfl⟩
    have hregistry : List.Forall₂ MappingSpec.AsksSame registry.specs registry.specs :=
      List.forall₂_same.mpr (fun s _ => .refl s)
    exact (hp.plan hregistry hsame).mono (fun _ _ => And.right)
  · obtain ⟨a', ha', hbodies⟩ := h.analyze ha
    exact ⟨a', ha', hbodies.imp (fun _ _ hplan => ⟨hplan.1.function, hplan.2⟩)⟩

/-! ## Two orders of one mapping -/

/-- The mapping of contacts into cards that feeds two fields of a card: by the instruction 13 the
phone from the name, and by the instruction 20 the street from the mail. It lists its
instructions in the given order. -/
def toFedCard (listing : List Nat) : Func where
  id := ⟨1⟩
  name := "ToCard"
  package := "example.com/cards"
  file := some "cards.go"
  signature := ⟨none, [⟨"contact", ⟨2⟩⟩, ⟨"card", ⟨4⟩⟩], [], false⟩
  params := [⟨0⟩, ⟨1⟩]
  blocks := #[⟨⟨0⟩, listing.map ValueId.mk, none⟩]
  values := #[⟨.parameter 0, some ⟨2⟩, some "contact"⟩, ⟨.parameter 1, some ⟨4⟩, some "card"⟩,
    ⟨.makeInterface ⟨0⟩, some ⟨5⟩, none⟩, ⟨.makeInterface ⟨1⟩, some ⟨5⟩, none⟩,
    ⟨.functionRef ⟨0⟩, some ⟨6⟩, none⟩, ⟨.call ⟨4⟩ [⟨2⟩, ⟨3⟩], none, none⟩,
    ⟨.functionRef ⟨2⟩, some ⟨6⟩, none⟩,
    ⟨.fieldAddr ⟨0⟩ 0, some ⟨7⟩, none⟩, ⟨.unOp .deref ⟨7⟩, some ⟨0⟩, none⟩,
    ⟨.makeInterface ⟨8⟩, some ⟨5⟩, none⟩, ⟨.fieldAddr ⟨1⟩ 0, some ⟨7⟩, none⟩,
    ⟨.unOp .deref ⟨10⟩, some ⟨0⟩, none⟩, ⟨.makeInterface ⟨11⟩, some ⟨5⟩, none⟩,
    ⟨.call ⟨6⟩ [⟨9⟩, ⟨12⟩], none, none⟩,
    ⟨.fieldAddr ⟨0⟩ 1, some ⟨7⟩, none⟩, ⟨.unOp .deref ⟨14⟩, some ⟨0⟩, none⟩,
    ⟨.makeInterface ⟨15⟩, some ⟨5⟩, none⟩, ⟨.fieldAddr ⟨1⟩ 3, some ⟨7⟩, none⟩,
    ⟨.unOp .deref ⟨17⟩, some ⟨0⟩, none⟩, ⟨.makeInterface ⟨18⟩, some ⟨5⟩, none⟩,
    ⟨.call ⟨6⟩ [⟨16⟩, ⟨19⟩], none, none⟩, ⟨.ret [], none, none⟩]
  synthetic := none

/-- The program of the cards with this mapping. -/
def fedProgram (listing : List Nat) : Program where
  package := cardProgram.package
  types := ⟨cardProgram.types.kinds ++ #[.pointer ⟨0⟩]⟩
  functions := #[
    .external ⟨0⟩ "CreateMap" "github.com/paultyng/go-typemapper" ⟨none, [], [], false⟩,
    toFedCard listing,
    .external ⟨2⟩ "MapField" "github.com/paultyng/go-typemapper" ⟨none, [], [], false⟩]

/-- The order in which the source has it: the phone is fed first. -/
def phoneFirst : List Nat := [2, 3, 5, 7, 8, 9, 10, 11, 12, 13, 14, 15, 16, 17, 18, 19, 20, 21]

/-- The order in which the street is fed first. -/
def streetFirst : List Nat := [2, 3, 5, 20, 7, 8, 9, 10, 11, 12, 14, 15, 16, 17, 18, 19, 13, 21]

/-- The call by which the phone is fed. -/
def feedPhone : MarkerCall × List ValueId := (.direct .mapField, [⟨9⟩, ⟨12⟩])

/-- The call by which the street is fed. -/
def feedStreet : MarkerCall × List ValueId := (.direct .mapField, [⟨16⟩, ⟨19⟩])

/-- What the mapping begins with, as far as the two calls look at it. -/
def fedStart : MappingSpec := { (default : MappingSpec) with sourceType := ⟨2⟩, destType := ⟨4⟩ }

/-- The calls feed different fields, so that either may come first. -/
theorem toFedCard_reorders : ∃ r spec,
    Reading.ofFunction (fedProgram phoneFirst) {} (toFedCard phoneFirst) = .ok r ∧
      [feedPhone, feedStreet].foldlM r.follow (.accumulating fedStart)
        = .ok (.accumulating spec) ∧
      r.Reordered [feedPhone, feedStreet] [feedStreet, feedPhone] ∧
      r.Reorders (toFedCard streetFirst) := by
  have hcomputed : answersWith (fun r : Reading => decide (
      r.scope.function = toFedCard phoneFirst ∧
      r.marks = [(.direct .createMap, [⟨2⟩, ⟨3⟩]), feedPhone, feedStreet] ∧
      r.marksOf (toFedCard streetFirst).instructions
        = [(.direct .createMap, [⟨2⟩, ⟨3⟩]), feedStreet, feedPhone] ∧
      answersWith (fun _ => true)
        ([feedPhone, feedStreet].foldlM r.follow (.accumulating fedStart)) = true ∧
      r.fedField? feedPhone = some "Phone" ∧ r.fedField? feedStreet = some "Street" ∧
      (toFedCard streetFirst).instructions.filter (fun id => !r.configures id)
        = (toFedCard phoneFirst).instructions.filter (fun id => !r.configures id) ∧
      ∀ id ∈ (toFedCard phoneFirst).instructions, ∀ w ∈ (toFedCard phoneFirst).value? id,
        ∀ o ∈ w.kind.operands, r.configures o = false))
      (Reading.ofFunction (fedProgram phoneFirst) {} (toFedCard phoneFirst)) = true := by
    decide +kernel
  obtain ⟨r, hr, hdecided⟩ := exists_of_answersWith hcomputed
  obtain ⟨hfunction, hmarks, hmarks', hadded, hphone, hstreet, hothers, hunread⟩ :=
    of_decide_eq_true hdecided
  obtain ⟨_, hspec, -⟩ := exists_of_answersWith hadded
  obtain ⟨additions, -, rfl⟩ := Reading.foldlM_eq_ok_iff.mp hspec
  have hreordered : r.Reordered [feedPhone, feedStreet] [feedStreet, feedPhone] := by
    refine ⟨.swap _ _ _, fun dest => ?_, rfl⟩
    simp only [List.filter_cons, hphone, hstreet, Option.some.injEq, List.filter_nil]
    by_cases h : "Phone" = dest
    · subst h
      decide
    · simp [h]
  refine ⟨r, _, hr, hspec, hreordered, ⟨?_, ?_, ⟨_, _, _, hmarks, hmarks', hreordered⟩, ?_⟩⟩
  · rw [hfunction]
    exact ⟨rfl, by decide +kernel, by decide⟩
  · rw [hfunction]
    exact hothers
  · rw [hfunction]
    exact hunread

theorem fedProgram_reorders : (fedProgram phoneFirst).Reorders {} (fedProgram streetFirst) where
  package := rfl
  types := rfl
  functions id := by
    obtain ⟨r, _, hr, -, -, hreorders⟩ := toFedCard_reorders
    have hfunctions : List.Forall₂ (fun f f' => f' = f ∨
        ∃ r, Reading.ofFunction (fedProgram phoneFirst) {} f = .ok r ∧ r.Reorders f')
        (fedProgram phoneFirst).functions.toList (fedProgram streetFirst).functions.toList :=
      .cons (.inl rfl) (.cons (.inr ⟨r, hr, hreorders⟩) (.cons (.inl rfl) .nil))
    have hfunction := optionRel_getElem? hfunctions id.index
    rwa [Array.getElem?_toList, Array.getElem?_toList] at hfunction

/-- Cards are planned alike, whether the phone or the street is fed first. -/
theorem fedProgram_planned_alike :
    (∃ (r : Reading) (spec spec' : MappingSpec),
      [feedPhone, feedStreet].foldlM r.follow (.accumulating fedStart)
        = .ok (.accumulating spec) ∧
      [feedStreet, feedPhone].foldlM r.follow (.accumulating fedStart)
        = .ok (.accumulating spec')) ∧
    ∃ a a', (fedProgram phoneFirst).analyze {} = .ok a ∧
      (fedProgram streetFirst).analyze {} = .ok a' ∧
      a.plans.map Plan.body = a'.plans.map Plan.body := by
  obtain ⟨-, hcalls, hprograms⟩ := configuration_acts_locally
  obtain ⟨r, spec, -, hspec, hreordered, -⟩ := toFedCard_reorders
  obtain ⟨spec', hspec', -⟩ := hcalls r _ spec _ _ hreordered hspec
  obtain ⟨a, ha, -⟩ := exists_of_answersWith
    (show answersWith (fun _ => true) ((fedProgram phoneFirst).analyze {}) = true by decide +kernel)
  obtain ⟨a', ha', hplans⟩ := hprograms _ _ _ a ha fedProgram_reorders
  refine ⟨⟨r, spec, spec', hspec, hspec'⟩, a, a', ha, ha', ?_⟩
  exact map_eq_map_of_forall₂ (hplans.imp (fun _ _ hplan => hplan.2.symm))

end Crosswalk

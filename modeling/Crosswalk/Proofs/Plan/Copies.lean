import Crosswalk.Proofs.Plan.Accounting
import Crosswalk.Proofs.Plan.Mirror
import Crosswalk.Proofs.Program.Retype

/-!
# Programs that refer to copies

A front end that enters types more than once is free in which entry it refers to, and
different places of a program may refer to different ones. What is made of the program should
not depend on this, and nearly does not.

It depends on it in one place. A field that is to be fed by name must be a field of the
destination, and whether it is one is decided by comparing *positions* of structs. A selection
off a copy of the destination is refused. So it has to be assumed that the two programs take
the same fields for fields of the destination.

Plans are the same up to copies, except where a value cannot be converted and the search for a
conversion runs in a circle. How far it gets before it notices depends on the length of the
circle, and copies may make that longer.
-/

namespace Crosswalk

namespace Program

variable {p p' : Program}

/-- **An analysis is the same whichever copies a program refers to**, if the same fields are
taken for fields of the destination: it stops for the same reason, or finds the same
specifications and the same plans, up to copies. -/
theorem analyze_copies (settings : Settings) (hp : p.validate = .ok ())
    (hgrounded : ∀ id, ¬ Relation.TransGen p.types.Contains id id)
    (h : p.Mirrors id p.types.Copies p') (hjudges : p.JudgesAlike settings id p') :
    InStep (Analysis.Mirrors id p.types.Copies (p.types.Recast p.types.Copies))
      (p.analyze settings) (p'.analyze settings) := by
  have hsound := validate_eq_ok_iff.mp hp
  have hcopying := p.types.copying_copies
  have hp' : p'.validate = .ok () :=
    validate_eq_ok_iff.mpr (h.sound (fun _ _ hab _ => hcopying.has_right hab) hsound)
  have ht := hcopying.indistinct ⟨hsound.types, .inr (hsound.types.shallow hgrounded)⟩
  have hfunctions : List.Forall₂ (Func.Mirrors id p.types.Copies) p.functions.toList
      p'.functions.toList := by
    refine forall₂_of_optionRel_getElem? (fun i => ?_)
    rw [Array.getElem?_toList, Array.getElem?_toList]
    exact h.functions ⟨i⟩
  have hcollect : InStep (fun registry registry' => List.Forall₂
      (MappingSpec.Mirrors id p.types.Copies) registry.specs registry'.specs)
      (p.collect settings) (p'.collect settings) := by
    refine (h.specsOf ht hjudges hfunctions).map (fun specs specs' hspecs => ?_)
    refine forall₂_mergeSort (fun s s' d d' hs hd => ?_) hspecs
    unfold MappingSpec.comesBefore
    rw [hs.name, hs.qualifiedName, hd.name, hd.qualifiedName]
  have hvalid : InStep Eq p.ensureValid p'.ensureValid := by
    unfold ensureValid
    rw [hp, hp']
    exact .refl _
  refine hvalid.bind_eq (fun _ => hcollect.known.bind ?_)
  rintro registry registry' ⟨hspecs, hregistry, hregistry'⟩
  have hreg := h.mirrors_registry ht hjudges hp hp' hregistry hregistry'
  exact (h.planAll ht hreg hspecs).map (fun _ _ hplans => ⟨hspecs, hplans⟩)

/-! ## A selection off a copy -/

/-- A program with a mapping of contacts into cards that feeds one field by name. The card is
put into a place of its own and read from there twice: once to call `CreateMap(contact, card)`,
and once to call `MapField(contact.Name, card.Phone)`. The types of the contact and of the card
are in the table a second time. -/
def aliasProgram : Program where
  package := cardProgram.package
  types := ⟨cardProgram.types.kinds ++ #[.pointer ⟨4⟩, .pointer ⟨0⟩,
    TypeTable.plainStruct [("Phone", ⟨0⟩), ("_", ⟨0⟩), ("Mail", ⟨0⟩), ("Street", ⟨0⟩)],
    .pointer ⟨9⟩, .pointer ⟨1⟩]⟩
  functions := #[
    .external ⟨0⟩ "CreateMap" "github.com/paultyng/go-typemapper" ⟨none, [], [], false⟩,
    { id := ⟨1⟩
      name := "ToCard"
      package := "example.com/cards"
      file := some "cards.go"
      signature := ⟨none, [⟨"contact", ⟨2⟩⟩, ⟨"card", ⟨4⟩⟩], [], false⟩
      params := [⟨0⟩, ⟨1⟩]
      blocks := #[⟨⟨0⟩, [⟨2⟩, ⟨3⟩, ⟨4⟩, ⟨5⟩, ⟨6⟩, ⟨8⟩, ⟨9⟩, ⟨10⟩, ⟨11⟩, ⟨12⟩, ⟨13⟩, ⟨14⟩, ⟨15⟩,
        ⟨17⟩, ⟨18⟩], none⟩]
      values := #[⟨.parameter 0, some ⟨2⟩, some "contact"⟩, ⟨.parameter 1, some ⟨4⟩, some "card"⟩,
        ⟨.alloc false, some ⟨7⟩, some "card"⟩, ⟨.store ⟨2⟩ ⟨1⟩, none, none⟩,
        ⟨.unOp .deref ⟨2⟩, some ⟨4⟩, none⟩, ⟨.makeInterface ⟨0⟩, some ⟨5⟩, none⟩,
        ⟨.makeInterface ⟨4⟩, some ⟨5⟩, none⟩, ⟨.functionRef ⟨0⟩, some ⟨6⟩, none⟩,
        ⟨.call ⟨7⟩ [⟨5⟩, ⟨6⟩], none, none⟩, ⟨.fieldAddr ⟨0⟩ 0, some ⟨8⟩, none⟩,
        ⟨.unOp .deref ⟨9⟩, some ⟨0⟩, none⟩, ⟨.makeInterface ⟨10⟩, some ⟨5⟩, none⟩,
        ⟨.unOp .deref ⟨2⟩, some ⟨4⟩, none⟩, ⟨.fieldAddr ⟨12⟩ 0, some ⟨8⟩, none⟩,
        ⟨.unOp .deref ⟨13⟩, some ⟨0⟩, none⟩, ⟨.makeInterface ⟨14⟩, some ⟨5⟩, none⟩,
        ⟨.functionRef ⟨2⟩, some ⟨6⟩, none⟩, ⟨.call ⟨16⟩ [⟨11⟩, ⟨15⟩], none, none⟩,
        ⟨.ret [], none, none⟩]
      synthetic := none },
    .external ⟨2⟩ "MapField" "github.com/paultyng/go-typemapper" ⟨none, [], [], false⟩]

theorem aliasProgram_valid : aliasProgram.validate = .ok () := by decide +kernel

/-- No type of the program is mentioned before its parts. -/
theorem aliasProgram_grounded (id : TypeId) :
    ¬ Relation.TransGen aliasProgram.types.Contains id id := by
  refine not_transGen_of_lt TypeId.index (fun a b hab => ?_) id
  obtain ⟨k, hk, -, hb⟩ := hab
  have hall : ∀ entry ∈ aliasProgram.types.kinds.toList.zipIdx,
      ∀ part ∈ entry.1.parts, part.index < entry.2 := by decide
  refine hall (k, a.index) (List.mem_zipIdx_iff_getElem?.mpr ?_) b hb
  rw [Array.getElem?_toList]
  exact hk

/-- The table has the type of a contact and that of a card twice. -/
theorem aliasProgram_copies : aliasProgram.types.Copies ⟨2⟩ ⟨11⟩ ∧
    aliasProgram.types.Copies ⟨4⟩ ⟨10⟩ := by
  have hclosed := (validate_eq_ok_iff.mp aliasProgram_valid).types
  have hself : ∀ i, i < 12 → aliasProgram.types.Copies ⟨i⟩ ⟨i⟩ :=
    fun i hi => hclosed.copies_refl (TypeTable.has_iff_lt.mpr hi)
  have hcard : aliasProgram.types.Copies ⟨3⟩ ⟨9⟩ := by
    refine TypeTable.copies_of_copied rfl rfl (.refl (fun part hpart => ?_))
    obtain rfl : part = ⟨0⟩ := by
      revert part
      decide
    exact hself 0 (by decide)
  exact ⟨TypeTable.copies_of_copied rfl rfl (.pointer (hself 1 (by decide))),
    TypeTable.copies_of_copied rfl rfl (.pointer hcard)⟩

/-- The program mirrors itself with another type for the contact, -/
theorem aliasProgram_mirrors_contact :
    aliasProgram.Mirrors id aliasProgram.types.Copies (aliasProgram.retype ⟨1⟩ ⟨0⟩ ⟨11⟩) := by
  refine mirrors_retype (validate_eq_ok_iff.mp aliasProgram_valid) (fun f w a hf hw ha => ?_)
  obtain rfl := Option.some.inj hf
  obtain rfl := Option.some.inj hw
  obtain rfl := Option.some.inj ha
  exact aliasProgram_copies.1

/-- and with another type for the card whose phone is selected. -/
theorem aliasProgram_mirrors_card :
    aliasProgram.Mirrors id aliasProgram.types.Copies (aliasProgram.retype ⟨1⟩ ⟨12⟩ ⟨10⟩) := by
  refine mirrors_retype (validate_eq_ok_iff.mp aliasProgram_valid) (fun f w a hf hw ha => ?_)
  obtain rfl := Option.some.inj hf
  obtain rfl := Option.some.inj hw
  obtain rfl := Option.some.inj ha
  exact aliasProgram_copies.2

/-- The function begins a mapping to a card, and then feeds the phone of that card. -/
def FeedsPhone (r : Reading) : Prop :=
  r.marks = [(.direct .createMap, [⟨5⟩, ⟨6⟩]), (.direct .mapField, [⟨11⟩, ⟨15⟩])] ∧
  r.scope.binding ⟨6⟩ = .ok ⟨some "card", ⟨4⟩, false, .parameter 1⟩ ∧
  r.scope.selector ⟨15⟩ = .ok ⟨⟨3⟩, ⟨"Phone", ⟨0⟩, 0⟩⟩ ∧
  r.types.peel ⟨4⟩ = .ok ⟨[.pointer], ⟨3⟩⟩

instance (r : Reading) : Decidable (FeedsPhone r) := inferInstanceAs (Decidable (_ ∧ _))

/-- Whichever of the types is taken for the contact, the phone is a field of the card. -/
theorem aliasProgram_judgesAlike :
    aliasProgram.JudgesAlike {} id (aliasProgram.retype ⟨1⟩ ⟨0⟩ ⟨11⟩) := by
  have hfeeds : ∀ {p f r}, answersWith (fun r => FeedsPhone r) (Reading.ofFunction p {} f) = true →
      Reading.ofFunction p {} f = .ok r → FeedsPhone r := by
    intro p f r h hr
    rw [hr] at h
    exact of_decide_eq_true h
  rintro ⟨i⟩ f g r r' hf hg hr hr' a b dest dest' hmark hb hb' x y hxy
  match i, hf, hg with
  | 1, hf, hg =>
    obtain rfl := Option.some.inj hf
    obtain rfl := Option.some.inj hg
    obtain ⟨hmarks, hcard, hphone, hpeel⟩ := hfeeds (by decide +kernel) hr
    obtain ⟨-, hcard', hphone', hpeel'⟩ := hfeeds (by decide +kernel) hr'
    rw [hmarks] at hmark hxy
    obtain ⟨rfl, rfl⟩ : a = ⟨5⟩ ∧ b = ⟨6⟩ := by simpa using hmark
    obtain ⟨rfl, rfl⟩ : x = ⟨11⟩ ∧ y = ⟨15⟩ := by simpa using hxy
    obtain rfl := Except.ok.inj (hcard.symm.trans hb)
    obtain rfl := Except.ok.inj (hcard'.symm.trans hb')
    exact iff_of_true ⟨_, _, hphone, hpeel⟩ ⟨_, _, hphone', hpeel'⟩
  -- the two markers have no body
  | 0, hf, hg =>
    obtain rfl := Option.some.inj hf
    rw [Reading.marks, Reading.function_of_ofFunction hr] at hmark
    cases hmark
  | 2, hf, hg =>
    obtain rfl := Option.some.inj hf
    rw [Reading.marks, Reading.function_of_ofFunction hr] at hmark
    cases hmark
  | n + 3, hf, hg => cases hf

/-- The mapping is planned the same when the contact is of the other type. -/
theorem aliasProgram_analyze_copies : aliasProgram.validate = .ok () ∧
    aliasProgram.types.Copies ⟨2⟩ ⟨11⟩ ∧
    ∃ a a', aliasProgram.analyze {} = .ok a ∧
      (aliasProgram.retype ⟨1⟩ ⟨0⟩ ⟨11⟩).analyze {} = .ok a' ∧
      a.registry.specs.map MappingSpec.sourceType = [⟨2⟩] ∧
      a'.registry.specs.map MappingSpec.sourceType = [⟨11⟩] ∧
      a.Mirrors id aliasProgram.types.Copies
        (aliasProgram.types.Recast aliasProgram.types.Copies) a' := by
  have hsources : ∀ (p : Program) (source : TypeId),
      answersWith (fun a : Analysis => a.registry.specs.map MappingSpec.sourceType = [source])
        (p.analyze {}) = true →
      ∃ a, p.analyze {} = .ok a ∧ a.registry.specs.map MappingSpec.sourceType = [source] := by
    intro p source h
    obtain ⟨a, ha, hsource⟩ := exists_of_answersWith h
    exact ⟨a, ha, of_decide_eq_true hsource⟩
  obtain ⟨a, ha, hsource⟩ :=
    hsources aliasProgram ⟨2⟩ (by decide +kernel)
  obtain ⟨a', ha', hsource'⟩ :=
    hsources (aliasProgram.retype ⟨1⟩ ⟨0⟩ ⟨11⟩) ⟨11⟩ (by decide +kernel)
  have hanalyses := analyze_copies {} aliasProgram_valid aliasProgram_grounded
    aliasProgram_mirrors_contact aliasProgram_judgesAlike
  exact ⟨aliasProgram_valid, aliasProgram_copies.1, a, a', ha, ha', hsource, hsource',
    hanalyses.answer ha ha'⟩

/-- **A selection off a copy of the destination is refused.** The program is analysed without
complaint. With the type of one value, the card that is read to select its phone, replaced by
the copy that the table has of it, the very selection counts as one off another record. -/
theorem aliasProgram_refuses_copy : aliasProgram.validate = .ok () ∧
    (∀ id, ¬ Relation.TransGen aliasProgram.types.Contains id id) ∧
    aliasProgram.Mirrors id aliasProgram.types.Copies (aliasProgram.retype ⟨1⟩ ⟨12⟩ ⟨10⟩) ∧
    (∃ a, aliasProgram.analyze {} = .ok a) ∧
    (aliasProgram.retype ⟨1⟩ ⟨12⟩ ⟨10⟩).analyze {}
      = .error (.cause (.malformedArgument "cards.ToCard" "MapField" 1
        "expected a field of the destination, found field `Phone` of another record")) := by
  refine ⟨aliasProgram_valid, aliasProgram_grounded, aliasProgram_mirrors_card, ?_, ?_⟩
  · obtain ⟨a, ha, -⟩ := exists_of_answersWith
      (show answersWith (fun _ => true) (aliasProgram.analyze {}) = true by decide +kernel)
    exact ⟨a, ha⟩
  · decide +kernel

end Program

end Crosswalk

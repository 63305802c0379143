import Crosswalk.Proofs.Coercion.Meeting
import Crosswalk.Proofs.Matching
import Crosswalk.Proofs.Ordered
import Crosswalk.Proofs.Plan.Analysis

/-!
# Which coercions may be incomplete

Fields are paired by name and type, or by an override. Of the types that the
matcher pairs by itself it has found out that the one may feed the other, and
then their coercion is complete. An override is taken at its word, so a coercion
that is not complete shows that somebody asked for the pair by name.
-/

namespace Crosswalk

namespace TypeTable

variable {t : TypeTable} {src dst : TypeId} {steps : List CoercionStep}

theorem WellFormed.coerce_of_compatible (ht : t.WellFormed) (h : t.compatible src dst = .ok true) :
    t.coerce src dst = .ok .assign ∨ ∃ steps, t.coerce src dst = .ok (.coerce steps true) := by
  obtain ⟨c, hc, hcomplete⟩ := ht.exists_coercion_of_compatible h
  have hcoerce : t.coerce src dst = .ok c.toConversion := by
    unfold coerce
    rw [hc]
    rfl
  rw [hcoerce]
  unfold Coercion.toConversion
  split
  · exact .inl rfl
  · exact .inr ⟨c.steps, hcomplete ▸ rfl⟩

/-- An incomplete conversion of a field is the coercion of its types. -/
theorem coerce_of_fieldConversion {delegates : List MappingSpec}
    (h : t.fieldConversion delegates src dst = .ok (.coerce steps false)) :
    t.coerce src dst = .ok (.coerce steps false) := by
  obtain ⟨same, -, h⟩ := bind_eq_ok_iff.mp h
  cases same with
  | true => cases h
  | false =>
    obtain ⟨found, -, h⟩ := bind_eq_ok_iff.mp h
    cases found with
    | some delegate => cases h
    | none => exact h

/-- **The matcher and the coercions agree.** In a well-formed table what may feed a
type is coerced to it completely; so in whatever is planned over the table, a
field whose coercion is incomplete is one that an override names. -/
theorem WellFormed.complete_unless_overridden (ht : t.WellFormed) :
    (∀ src dst, t.compatible src dst = .ok true →
      t.coerce src dst = .ok .assign ∨ ∃ steps, t.coerce src dst = .ok (.coerce steps true)) ∧
    ∀ (p : Program) (settings : Settings) (a : Analysis), p.types = t →
      p.analyze settings = .ok a → ∀ plan ∈ a.plans, ∀ fields unmatched,
        plan.body = .record fields unmatched → ∀ field ∈ fields, ∀ steps,
          field.conversion = .coerce steps false →
            field.pair.dest.name ∈ plan.spec.manualFieldOverrides.keys := by
  refine ⟨fun src dst h => ht.coerce_of_compatible h, ?_⟩
  intro p settings a hp ha plan hplan fields unmatched hbody field hfield steps hsteps
  obtain ⟨delegates, src, dst, -, -, hmatch, hconversions⟩ :=
    Program.exists_match_of_mem_plans ha hplan hbody
  by_contra hno
  have hpair := List.mem_map_of_mem (f := PlannedField.pair) hfield
  have hfeeds := Matcher.compatible_of_mem_pairs hmatch hpair (OrderedMap.get?_eq_none_iff.mpr hno)
  have hconversion := hconversions field hfield
  rw [hsteps] at hconversion
  have hcoerce := coerce_of_fieldConversion hconversion
  rw [hp] at hcoerce hfeeds
  rcases ht.coerce_of_compatible hfeeds with h | ⟨steps', h⟩
  · cases hcoerce.symm.trans h
  · cases hcoerce.symm.trans h

end TypeTable

namespace Program

/-- A mapping of contacts into cards that feeds the years of a card, a string, from the age of the
contact, a number: it calls `CreateMap(contact, card)`, and then `MapField(contact.Age,
card.Years)`. The mail of a card is of a type `Address`, where `type Address string`. -/
def ageProgram : Program where
  package := "example.com/cards"
  types := ⟨#[.basic .string,
    .basic .int,
    .named "Address" (some "example.com/cards") ⟨0⟩,
    TypeTable.plainStruct [("Mail", ⟨0⟩), ("Age", ⟨1⟩)],
    .pointer ⟨3⟩,
    TypeTable.plainStruct [("Mail", ⟨2⟩), ("Years", ⟨0⟩)],
    .pointer ⟨5⟩,
    .interface [],
    .signature [] [] false,
    .pointer ⟨1⟩,
    .pointer ⟨0⟩]⟩
  functions := #[
    .external ⟨0⟩ "CreateMap" "github.com/paultyng/go-typemapper" ⟨none, [], [], false⟩,
    { id := ⟨1⟩
      name := "ToCard"
      package := "example.com/cards"
      file := some "cards.go"
      signature := ⟨none, [⟨"contact", ⟨4⟩⟩, ⟨"card", ⟨6⟩⟩], [], false⟩
      params := [⟨0⟩, ⟨1⟩]
      blocks := #[⟨⟨0⟩, [⟨2⟩, ⟨3⟩, ⟨5⟩, ⟨6⟩, ⟨7⟩, ⟨8⟩, ⟨9⟩, ⟨10⟩, ⟨11⟩, ⟨13⟩, ⟨14⟩], none⟩]
      values := #[⟨.parameter 0, some ⟨4⟩, some "contact"⟩, ⟨.parameter 1, some ⟨6⟩, some "card"⟩,
        ⟨.makeInterface ⟨0⟩, some ⟨7⟩, none⟩, ⟨.makeInterface ⟨1⟩, some ⟨7⟩, none⟩,
        ⟨.functionRef ⟨0⟩, some ⟨8⟩, none⟩, ⟨.call ⟨4⟩ [⟨2⟩, ⟨3⟩], none, none⟩,
        ⟨.fieldAddr ⟨0⟩ 1, some ⟨9⟩, none⟩, ⟨.unOp .deref ⟨6⟩, some ⟨1⟩, none⟩,
        ⟨.makeInterface ⟨7⟩, some ⟨7⟩, none⟩, ⟨.fieldAddr ⟨1⟩ 1, some ⟨10⟩, none⟩,
        ⟨.unOp .deref ⟨9⟩, some ⟨0⟩, none⟩, ⟨.makeInterface ⟨10⟩, some ⟨7⟩, none⟩,
        ⟨.functionRef ⟨2⟩, some ⟨8⟩, none⟩, ⟨.call ⟨12⟩ [⟨8⟩, ⟨11⟩], none, none⟩,
        ⟨.ret [], none, none⟩]
      synthetic := none },
    .external ⟨2⟩ "MapField" "github.com/paultyng/go-typemapper" ⟨none, [], [], false⟩]

/-- What is planned for the years. -/
def plannedYears : PlannedField :=
  ⟨⟨⟨"Age", ⟨1⟩, 1⟩, ⟨"Years", ⟨0⟩, 1⟩⟩, .coerce [] false⟩

/-- The mail is fed by itself, and its coercion is complete. That of the age is not: it is fed
because an override says so. -/
theorem ageProgram_complete_unless_overridden : ageProgram.types.WellFormed ∧
    ageProgram.types.compatible ⟨0⟩ ⟨2⟩ = .ok true ∧
    (ageProgram.types.coerce ⟨0⟩ ⟨2⟩ = .ok .assign ∨
      ∃ steps, ageProgram.types.coerce ⟨0⟩ ⟨2⟩ = .ok (.coerce steps true)) ∧
    ∃ a plan fields unmatched, ageProgram.analyze {} = .ok a ∧ plan ∈ a.plans ∧
      plan.body = .record fields unmatched ∧ plannedYears ∈ fields ∧
      "Years" ∈ plan.spec.manualFieldOverrides.keys := by
  have hwell : ageProgram.types.WellFormed :=
    TypeTable.wellFormed_of_descending (by decide) (by decide) (by decide)
  have hfeeds : ageProgram.types.compatible ⟨0⟩ ⟨2⟩ = .ok true := by decide +kernel
  obtain ⟨hcomplete, hoverridden⟩ := hwell.complete_unless_overridden
  have hplanned : answersWith (fun a : Analysis => a.plans.map Plan.body =
        [.record [⟨⟨⟨"Mail", ⟨0⟩, 0⟩, ⟨"Mail", ⟨2⟩, 0⟩⟩, .coerce [.convert ⟨2⟩] true⟩,
          plannedYears] []])
      (ageProgram.analyze {}) = true := by decide +kernel
  obtain ⟨a, ha, hbodies⟩ := exists_of_answersWith hplanned
  obtain ⟨plan, hplan, hbody⟩ : ∃ plan ∈ a.plans, plan.body = _ :=
    List.mem_map.mp (of_decide_eq_true hbodies ▸ List.mem_cons_self)
  refine ⟨hwell, hfeeds, hcomplete _ _ hfeeds, a, plan, _, _, ha, hplan, hbody,
    List.mem_cons_of_mem _ List.mem_cons_self, ?_⟩
  exact hoverridden ageProgram {} a rfl ha plan hplan _ _ hbody plannedYears
    (List.mem_cons_of_mem _ List.mem_cons_self) [] rfl

end Program

end Crosswalk

import Crosswalk.Proofs.Command.Check
import Crosswalk.Proofs.Matching
import Crosswalk.Proofs.Ordered
import Crosswalk.Proofs.Plan.Analysis
import Crosswalk.Proofs.Record
import Crosswalk.Proofs.Source.Emission
import Crosswalk.Proofs.Source.Printed

/-!
# Every destination field is accounted for

A field of a destination record is either fed or reported. What the matcher says
of it goes into the plan, from the plan into the generated function and into its
test, and, as a number, into the answer of a check. None of these loses a field,
and none of them counts one twice.

Functions and tests are told apart by their place: the file of a stem holds
those of its plans, in the order of the plans.
-/

namespace Crosswalk

namespace Emitter

variable {e : Emitter} {spec : MappingSpec} {plan : Plan} {plans : List Plan}
  {fields : List PlannedField} {unmatched : List RecordField} {decl : FunctionDecl}
  {files own : List GeneratedFile} {source test : SourceFile} {stem : String}

theorem nodup_stems (plans : List Plan) : (stems plans).Nodup :=
  (List.mergeSort_perm _ _).nodup_iff.mpr (OrderedSet.ofList _).nodup

theorem stem_mem_stems (h : plan ∈ plans) : plan.spec.stem ∈ stems plans := by
  refine (List.mergeSort_perm _ _).mem_iff.mpr ?_
  exact OrderedSet.mem_ofList.mpr (List.mem_map_of_mem h)

/-- Each plan has two files, which hold the functions and the tests of all plans with its
stem. -/
theorem exists_files_of_mem_plans (h : e.emit plans = .ok files) (hplan : plan ∈ plans) :
    ∃ source test, e.sourceFile (ofStem plans plan.spec.stem) = .ok source ∧
      e.testFile (ofStem plans plan.spec.stem) = .ok test ∧
      ⟨plan.spec.stem ++ "." ++ e.output.suffix ++ ".go", source⟩ ∈ files ∧
      ⟨plan.spec.stem ++ "." ++ e.output.suffix ++ "_test.go", test⟩ ∈ files := by
  obtain ⟨ofStems, hstems, hperm⟩ := emit_eq_ok h
  obtain ⟨own, hown, hfiles⟩ := exists_beside_left hstems (stem_mem_stems hplan)
  obtain ⟨source, test, hsource, htest, rfl⟩ := stemFiles_eq_ok hfiles
  refine ⟨source, test, hsource, htest, hperm.mem_iff.mpr ?_, hperm.mem_iff.mpr ?_⟩
  · exact List.mem_flatten.mpr ⟨_, hown, List.mem_cons_self⟩
  · exact List.mem_flatten.mpr ⟨_, hown, List.mem_cons_of_mem _ List.mem_cons_self⟩

end Emitter

/-- A program with a mapping of contacts into cards. Of a card one field is blank, one is fed,
and two are not. -/
def cardProgram : Program where
  package := "example.com/cards"
  types := ⟨#[.basic .string,
    TypeTable.plainStruct [("Name", ⟨0⟩), ("Mail", ⟨0⟩)],
    .pointer ⟨1⟩,
    TypeTable.plainStruct [("Phone", ⟨0⟩), ("_", ⟨0⟩), ("Mail", ⟨0⟩), ("Street", ⟨0⟩)],
    .pointer ⟨3⟩,
    .interface [],
    .signature [] [] false]⟩
  functions := #[
    .external ⟨0⟩ "CreateMap" "github.com/paultyng/go-typemapper" ⟨none, [], [], false⟩,
    { id := ⟨1⟩
      name := "ToCard"
      package := "example.com/cards"
      file := some "cards.go"
      signature := ⟨none, [⟨"contact", ⟨2⟩⟩, ⟨"card", ⟨4⟩⟩], [], false⟩
      params := [⟨0⟩, ⟨1⟩]
      blocks := #[⟨⟨0⟩, [⟨2⟩, ⟨3⟩, ⟨5⟩, ⟨6⟩], none⟩]
      values := #[⟨.parameter 0, some ⟨2⟩, some "contact"⟩, ⟨.parameter 1, some ⟨4⟩, some "card"⟩,
        ⟨.makeInterface ⟨0⟩, some ⟨5⟩, none⟩, ⟨.makeInterface ⟨1⟩, some ⟨5⟩, none⟩,
        ⟨.functionRef ⟨0⟩, some ⟨6⟩, none⟩, ⟨.call ⟨4⟩ [⟨2⟩, ⟨3⟩], none, none⟩,
        ⟨.ret [], none, none⟩]
      synthetic := none }]

end Crosswalk

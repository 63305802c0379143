import Crosswalk.Proofs.Plan.Accounting
import Crosswalk.Proofs.Source.Qualified
import Crosswalk.Proofs.Source.Written

/-!
# The imports of a file

A file that imports a package it does not name is rejected, and so is one that names a package
it does not import. A generated file does neither (`Emitter.emit_imports`): the packages that
its text imports are those of the foreign named types that are spelled in its functions, and
each of these types stands there under the name that its package is imported by. No name is
given twice.

The file of the tests imports the package that tests are written with, and each test is passed
a value of a type of that package.
-/

namespace Crosswalk

variable {part text : String}

/-! ## Texts that stay where they are -/

theorem occurs_parenthesize (needed : Bool) (text : String) :
    Occurs text (Expr.parenthesize needed text) := by
  cases needed with
  | false => exact .refl text
  | true => exact ((Occurs.refl text).append_left "(").append_right ")"

/-- The text stands in what a lowered conversion defines or answers. -/
def Lowered.Holds (l : Lowered) (part : String) : Prop :=
  (∃ temp ∈ l.temps, Occurs part temp.value.text) ∨ Occurs part l.expr.text

/-- What stands in an expression stands in what is written around it. -/
theorem Lowered.Holds.around {l : Lowered} (h : l.Holds part) {expr : Expr}
    (haround : Occurs l.expr.text expr.text) : ({ l with expr := expr } : Lowered).Holds part :=
  h.imp id (fun h => h.trans haround)

namespace TypeTable

variable {t : TypeTable} {σ : TypeId → String} {l : Lowered × Nat} {step : CoercionStep}
  {steps : List CoercionStep} {conversion : Conversion} {id : TypeId}

theorem holds_wrapStep (h : l.1.Holds part) : (t.wrapStep σ l step).1.Holds part := by
  cases step with
  | addressOf =>
    unfold wrapStep
    by_cases haddressable : l.1.expr.isAddressable = true
    · rw [if_pos haddressable]
      exact h.around ((Occurs.refl _).append_left "&")
    · -- the expression is now the value of a temporary variable
      rw [if_neg haddressable]
      rcases h with ⟨temp, htemp, hocc⟩ | hocc
      · exact .inl ⟨temp, List.mem_append_left _ htemp, hocc⟩
      · exact .inl ⟨_, List.mem_append_right _ List.mem_cons_self, hocc⟩
  | deref => exact h.around ((occurs_parenthesize _ _).append_left "*")
  | convert type => exact h.around (((Occurs.refl _).append_left _).append_right ")")

theorem holds_wrapStep_of_mem (h : id ∈ step.type?) : (t.wrapStep σ l step).1.Holds (σ id) := by
  cases step with
  | addressOf => cases h
  | deref => cases h
  | convert type =>
    obtain rfl := Option.some.inj h
    exact .inr (((occurs_parenthesize _ _).append_right _).append_right _ |>.append_right _)

theorem holds_wrapSteps (h : l.1.Holds part) :
    (steps.foldl (t.wrapStep σ) l).1.Holds part := by
  induction steps generalizing l with
  | nil => exact h
  | cons step steps ih => exact ih (holds_wrapStep h)

/-- **The types that a conversion spells stand in what it is lowered to.** -/
theorem holds_wrap {source : Expr} {n : Nat} (h : id ∈ conversion.types) :
    (t.wrap σ conversion source n).1.Holds (σ id) := by
  cases conversion with
  | assign => cases h
  | delegate function name style => cases h
  | coerce steps complete =>
    obtain ⟨step, hstep, hid⟩ := List.mem_filterMap.mp h
    obtain ⟨before, after, rfl⟩ := List.append_of_mem hstep
    show ((before ++ step :: after).foldl (t.wrapStep σ) (⟨[], source⟩, n)).1.Holds (σ id)
    rw [List.foldl_append, List.foldl_cons]
    exact holds_wrapSteps (holds_wrapStep_of_mem hid)

end TypeTable

/-! ## Texts in functions -/

namespace FunctionDecl

variable {f : FunctionDecl} {p : Parameter} {r : String} {s : SimpleStatement}

/-- The text stands in a line of the function. -/
def Shows (f : FunctionDecl) (part : String) : Prop := ∃ line ∈ f.lines, Occurs part line.text

theorem shows_of_head (h : Occurs part f.head) : f.Shows part := by
  refine ⟨⟨0, f.head ++ " \x7b"⟩, ?_, h.append_right _⟩
  rw [lines_eq]
  exact List.mem_cons_self

theorem shows_of_receiver (h : f.receiver = some p) : f.Shows p.type := by
  refine shows_of_head ?_
  unfold head
  rw [h]
  refine Occurs.append_right (.append_right (.append_right (.append_right (.append_right
    (.append_left ?_ _) _) _) _) _) _
  exact (((Occurs.refl p.type).append_left _).append_left "(").append_right ") "

theorem shows_of_param (h : p ∈ f.params) : f.Shows p.type := by
  have htext : Occurs p.type p.text := (Occurs.refl p.type).append_left _
  refine shows_of_head (.append_right (.append_right (.append_left ?_ _) _) _)
  exact htext.of_mem (List.mem_map_of_mem h)

theorem occurs_resultText {results : List String} (h : r ∈ results) :
    Occurs r (resultText results) := by
  unfold resultText
  split
  · cases h
  · obtain rfl := List.mem_singleton.mp h
    exact (Occurs.refl r).append_left " "
  · exact (((Occurs.refl r).of_mem h).append_left _).append_right _

theorem shows_of_result (h : r ∈ f.results) : f.Shows r :=
  shows_of_head ((occurs_resultText h).append_left _)

theorem shows_of_simple (hs : s ∈ f.simples) (h : Occurs part s.text) : f.Shows part := by
  obtain ⟨statement, hstatement, hs⟩ := List.mem_flatMap.mp hs
  have hline : ∃ line ∈ statement.linesAt 1, line.text = s.text := by
    cases statement with
    | simple s' =>
      obtain rfl := List.mem_singleton.mp hs
      exact ⟨_, List.mem_cons_self, rfl⟩
    | whenNil name body | forEach item source body =>
      refine ⟨⟨2, s.text⟩, List.mem_cons_of_mem _ (List.mem_append_left _ ?_), rfl⟩
      exact List.mem_map_of_mem hs
  obtain ⟨line, hline, htext⟩ := hline
  refine ⟨line, ?_, htext ▸ h⟩
  rw [lines_eq]
  exact List.mem_cons_of_mem _ (List.mem_append_left _
    (List.mem_flatMap.mpr ⟨statement, hstatement, hline⟩))

end FunctionDecl

namespace Emitter

variable {e : Emitter} {σ : TypeId → String} {spec : MappingSpec} {plan : Plan} {id : TypeId}
  {l : Lowered} {f : PlannedField}

/-- A type of the head stands in it. -/
theorem shows_of_mem_headTypes (h : id ∈ headTypes plan.spec) :
    (e.written σ plan).Shows (σ id) := by
  rcases List.mem_cons.mp h with rfl | h
  · cases hreceiver : plan.spec.sourceIsReceiver with
    | true =>
      have hsome : (e.written σ plan).receiver
          = some ⟨plan.spec.sourceBinding, σ plan.spec.sourceType⟩ := if_pos hreceiver
      exact FunctionDecl.shows_of_receiver hsome
    | false =>
      have hparam : (⟨plan.spec.sourceBinding, σ plan.spec.sourceType⟩ : Parameter)
          ∈ (e.written σ plan).params := by simp [written, headOf, hreceiver]
      exact FunctionDecl.shows_of_param hparam
  · split at h
    · cases h
    · rename_i hspelled
      obtain rfl := List.mem_singleton.mp h
      cases hmade : plan.spec.destIsPreconstructed with
      | false =>
        have hparam : (⟨plan.spec.destBinding, σ plan.spec.destType⟩ : Parameter)
            ∈ (e.written σ plan).params := by simp [written, headOf, hmade]
        exact FunctionDecl.shows_of_param hparam
      | true =>
        have hreturned : plan.spec.destIsReturned = true := by simpa [hmade] using hspelled
        have hresult : σ plan.spec.destType ∈ (e.written σ plan).results := by
          simp [written, headOf, hreturned]
        exact FunctionDecl.shows_of_result hresult

/-- What a lowered conversion holds stands in the statements it becomes. -/
theorem exists_simple_of_holds {last : SimpleStatement} (h : l.Holds part)
    (hlast : Occurs l.expr.text last.text) :
    ∃ s ∈ tempStatements l ++ [last], Occurs part s.text := by
  rcases h with ⟨temp, htemp, hocc⟩ | hocc
  · refine ⟨.define (Expr.tempName temp.index) temp.value.text, ?_, hocc.append_left _⟩
    exact List.mem_append_left _ (List.mem_map_of_mem htemp)
  · exact ⟨last, List.mem_append_right _ List.mem_cons_self, hocc.trans hlast⟩

theorem exists_appended_of_holds (spec : MappingSpec) (h : l.Holds part) :
    ∃ s ∈ appended spec l, Occurs part s.text :=
  exists_simple_of_holds h ((((Occurs.refl _).append_left _).append_right ")").append_left _)

theorem shows_of_mem_writtenBody {s : SimpleStatement}
    (hs : s ∈ (e.writtenBody σ plan).flatMap Statement.simples) (h : Occurs part s.text) :
    (e.written σ plan).Shows part := by
  refine FunctionDecl.shows_of_simple ?_ h
  show s ∈ (e.writtenBody σ plan ++ lastReturn plan.spec).flatMap Statement.simples
  rw [List.flatMap_append]
  exact List.mem_append_left _ hs

/-- A type that makes the destination stands in the statement that does. -/
theorem shows_of_mem_preparedTypes (h : id ∈ e.preparedTypes plan) :
    (e.written σ plan).Shows (σ id) := by
  unfold preparedTypes at h
  split at h
  · rename_i hmade
    cases hplan : plan.body with
    | record fields unmatched =>
      rw [hplan] at h
      obtain rfl := List.mem_singleton.mp h
      have hprepared : ∃ s, Statement.simple s ∈ e.prepared σ plan.spec ∧
          Occurs (σ ((e.pointee? plan.spec).getD plan.spec.destType)) s.text := by
        unfold prepared
        rw [hmade]
        cases e.pointee? plan.spec with
        | none => exact ⟨_, List.mem_cons_self, ((Occurs.refl _).append_right _).append_left _⟩
        | some pointee =>
          refine ⟨_, List.mem_cons_self, .append_left ?_ _⟩
          exact ((Occurs.refl _).append_left _).append_right _
      obtain ⟨s, hs, hocc⟩ := hprepared
      refine shows_of_mem_writtenBody
        (List.mem_flatMap.mpr ⟨.simple s, ?_, List.mem_cons_self⟩) hocc
      rw [writtenBody, hplan]
      exact List.mem_append_left _ (List.mem_append_left _ hs)
    | elements sourceElem destElem conversion =>
      rw [hplan] at h
      obtain rfl := List.mem_singleton.mp h
      have hocc : Occurs (σ plan.spec.destType) (started σ plan.spec).text := by
        rw [started, if_pos hmade]
        exact (Occurs.refl _).append_left _
      refine shows_of_mem_writtenBody ?_ hocc
      rw [writtenBody, hplan]
      exact List.mem_cons_self
  · cases h

/-- **Each block holds what its field's conversion holds.** -/
theorem exists_block_of_mem {fields : List PlannedField} {sourceOf : PlannedField → Expr} {n : Nat}
    (h : f ∈ fields) (hid : id ∈ f.conversion.types) :
    ∃ block ∈ List.zipWith (blockOf spec) fields
        (e.types.wrapAll σ (fields.map (fun f => (f.conversion, sourceOf f))) n),
      ∃ s ∈ block.flatMap Statement.simples, Occurs (σ id) s.text := by
  induction fields generalizing n with
  | nil => cases h
  | cons g fields ih =>
    rw [List.map_cons, TypeTable.wrapAll, List.zipWith_cons_cons]
    rcases List.mem_cons.mp h with rfl | h
    · refine ⟨_, List.mem_cons_self, ?_⟩
      rw [simples_blockOf]
      exact exists_simple_of_holds (TypeTable.holds_wrap hid) ((Occurs.refl _).append_left _)
    · obtain ⟨block, hblock, hs⟩ := ih h
      exact ⟨block, List.mem_cons_of_mem _ hblock, hs⟩

/-- A type that a conversion spells stands in the statements of the conversion. -/
theorem shows_of_mem_conversions (h : id ∈ plan.conversions.flatMap (fun c => c.1.types)) :
    (e.written σ plan).Shows (σ id) := by
  unfold Plan.conversions at h
  cases hplan : plan.body with
  | record fields unmatched =>
    rw [hplan, List.flatMap_map] at h
    obtain ⟨f, hf, hid⟩ := List.mem_flatMap.mp h
    obtain ⟨block, hblock, s, hs, hocc⟩ := exists_block_of_mem (e := e) hf hid
    refine shows_of_mem_writtenBody ?_ hocc
    obtain ⟨statement, hstatement, hs⟩ := List.mem_flatMap.mp hs
    refine List.mem_flatMap.mpr ⟨statement, ?_, hs⟩
    rw [writtenBody_of_record hplan]
    exact List.mem_append_left _
      (List.mem_append_right _ (List.mem_flatten.mpr ⟨block, hblock, hstatement⟩))
  | elements sourceElem destElem conversion =>
    rw [hplan, List.flatMap_singleton] at h
    have hholds : (e.types.wrap σ conversion (.value (itemName plan.spec)) 0).1.Holds (σ id) :=
      TypeTable.holds_wrap h
    obtain ⟨s, hs, hocc⟩ := exists_appended_of_holds plan.spec hholds
    refine shows_of_mem_writtenBody ?_ hocc
    rw [writtenBody_of_elements hplan]
    exact List.mem_cons_of_mem _ (List.mem_append_left [] hs)

/-- **Each type that is spelled in a function stands in a line of it.** -/
theorem shows_of_mem_spelledTypes (h : id ∈ e.spelledTypes plan) :
    (e.written σ plan).Shows (σ id) := by
  rcases List.mem_append.mp h with h | h
  · exact shows_of_mem_headTypes h
  · rcases List.mem_append.mp h with h | h
    · exact shows_of_mem_preparedTypes h
    · exact shows_of_mem_conversions h

/-! ## Files -/

variable {plans : List Plan} {decls : List FunctionDecl} {names names' : Names}
  {source test : SourceFile} {files : List GeneratedFile}

/-- **Functions one after another** are each what its types make of it, and import the packages
of all of these. -/
theorem functions_eq_written (hσ : e.SpelledBy σ)
    (h : plans.mapM e.function names = .ok decls names') :
    decls = plans.map (e.written σ) ∧ e.Adds σ (plans.flatMap e.spelledTypes) names names' := by
  induction plans generalizing names decls with
  | nil =>
    rw [List.mapM_nil] at h
    obtain ⟨rfl, rfl⟩ := Writing.pure_eq_ok_iff.mp h
    exact ⟨rfl, .nothing rfl⟩
  | cons plan plans ih =>
    rw [List.mapM_cons] at h
    obtain ⟨decl, between, hdecl, h⟩ := Writing.bind_eq_ok_iff.mp h
    obtain ⟨rest, between', hrest, h⟩ := Writing.bind_eq_ok_iff.mp h
    obtain ⟨rfl, rfl⟩ := Writing.pure_eq_ok_iff.mp h
    obtain ⟨rfl, hfirst⟩ := function_eq_written hσ hdecl
    obtain ⟨rfl, hadds⟩ := ih hrest
    exact ⟨rfl, hfirst.append hadds⟩

/-- **A foreign named type is spelled in the function of a plan.** -/
def Mentions (e : Emitter) (plan : Plan) (package name : String) : Prop :=
  ∃ id ∈ e.spelledTypes plan, e.types.Mentions e.home id package name

end Emitter

/-- **The import declaration gives the package a name**: it says the name, or leaves it out and
the package goes by the last segment of its path. -/
def Imports.Binds (declaration package name : String) : Prop :=
  declaration = name ++ " \"" ++ package ++ "\"" ∨
    declaration = "\"" ++ package ++ "\"" ∧ Text.lastSegment package = name

theorem Imports.binds_spec (package : String) :
    Binds (spec package) package (packageAlias package) := by
  unfold spec
  dsimp only
  split
  · exact .inr ⟨rfl, ‹_›⟩
  · refine .inl ?_
    simp only [String.append_assoc]
    rfl

/-- An import declaration says something of every package. -/
theorem Imports.Binds.ne_empty {declaration package name : String}
    (h : Binds declaration package name) : declaration ≠ "" := by
  rcases h with rfl | ⟨rfl, -⟩ <;> simp

namespace Emitter

variable {e : Emitter} {σ : TypeId → String} {plan : Plan} {plans : List Plan} {stem : String}
  {source test : SourceFile} {decl : FunctionDecl} {files : List GeneratedFile}

/-- **The file imports just what its functions name.** It holds the functions of the plans, with
types spelled by `σ`, and it imports `packages`. -/
structure ImportsExactly (e : Emitter) (σ : TypeId → String) (plans : List Plan)
    (packages : List String) (file : GeneratedFile) : Prop where
  /-- Each plan has its function. -/
  decls : file.source.decls = plans.map (e.written σ)
  /-- In the text of the file these functions follow an import declaration, which gives the
  packages their names. -/
  printed : ∃ declarations, file.LaidOut declarations (plans.map (e.written σ)) ∧
    List.Forall₂ (fun declaration package =>
      Imports.Binds declaration package (packageAlias package)) declarations packages
  /-- The types spelled in it stand there, as they are spelled. -/
  shown : ∀ plan ∈ plans, ∀ id ∈ e.spelledTypes plan,
    e.Spelled id (σ id) ∧ (e.written σ plan).Shows (σ id)
  /-- No others are: however they were spelled, the function would be the same. -/
  only : ∀ plan ∈ plans, ∀ τ, (∀ id ∈ e.spelledTypes plan, τ id = σ id) →
    e.written τ plan = e.written σ plan
  /-- No package is missing, and none is unused. -/
  mem : ∀ package, package ∈ packages ↔ ∃ plan ∈ plans, ∃ name, e.Mentions plan package name
  /-- A foreign type stands in a spelling under the name of its package, -/
  named : ∀ plan ∈ plans, ∀ id ∈ e.spelledTypes plan, ∀ package name,
    e.types.Mentions e.home id package name → Occurs (qualified package name) (σ id)
  /-- and wherever it stands: besides those that are mentioned, no foreign type is written. -/
  always : ∀ plan ∈ plans, ∀ id ∈ e.spelledTypes plan, ∀ write,
    (∀ package name, e.types.Mentions e.home id package name →
      write package name = qualified package name) → e.types.spelling e.home write id = some (σ id)
  /-- No two packages go by one name. -/
  apart : packages.Pairwise (fun p q => packageAlias p ≠ packageAlias q)

namespace Spelled

variable {id : TypeId} {text package name : String}

/-- What is mentioned in a type stands in its spelling. -/
theorem occurs (h : e.Spelled id text) (hm : e.types.Mentions e.home id package name) :
    Occurs (qualified package name) text := by
  obtain ⟨names, names', h⟩ := h
  obtain ⟨text', htext', hocc⟩ := (TypeTable.spellTo_eq_ok h).occurs id rfl package name hm
  obtain rfl := List.mem_singleton.mp htext'
  exact hocc

/-- A type is spelled by whatever writes what it mentions by the names of its packages. -/
theorem spelling_eq {write : String → String → String} (h : e.Spelled id text)
    (hwrite : ∀ package name, e.types.Mentions e.home id package name →
      write package name = qualified package name) :
    e.types.spelling e.home write id = some text := by
  obtain ⟨names, names', h⟩ := h
  exact (TypeTable.spelling_congr hwrite).trans (TypeTable.spelling_of_spell h)

end Spelled

theorem importsExactly_of_sourceFile (hσ : e.SpelledBy σ) (h : e.sourceFile plans = .ok source)
    (name : String) : ∃ packages, e.ImportsExactly σ plans packages ⟨name, source⟩ := by
  unfold sourceFile at h
  split at h
  · rename_i decls names hdecls
    obtain rfl := Except.ok.inj h
    obtain ⟨rfl, hadds⟩ := functions_eq_written hσ hdecls
    have hspelled : ∀ plan ∈ plans, ∀ id ∈ e.spelledTypes plan, e.Spelled id (σ id) :=
      fun plan hplan id hid => hadds.spelled id (List.mem_flatMap.mpr ⟨plan, hplan, hid⟩)
    have hbinds : List.Forall₂ (fun declaration package =>
        Imports.Binds declaration package (packageAlias package))
        names.imports.specs names.imports.paths := by
      refine List.forall₂_map_left_iff.mpr (List.forall₂_same.mpr (fun package _ => ?_))
      exact Imports.binds_spec package
    have hsaid : ∀ declaration ∈ names.imports.specs, declaration ≠ "" := by
      intro declaration hmem
      obtain ⟨package, -, hbinds⟩ := exists_beside_left hbinds hmem
      exact hbinds.ne_empty
    have hlaid := GeneratedFile.laidOut
      ⟨name, e.file names.imports.specs (plans.map (e.written σ))⟩ hsaid
    refine ⟨names.imports.paths, rfl, ⟨_, hlaid, hbinds⟩, ?_, ?_, ?_, ?_, ?_, ?_⟩
    · exact fun plan hplan id hid => ⟨hspelled plan hplan id hid, shows_of_mem_spelledTypes hid⟩
    · exact fun plan _ τ hτ => written_congr hτ
    · intro package
      refine (hadds.imports.mem package).trans ⟨?_, ?_⟩
      · rintro (h | ⟨id, hid, name, hm⟩)
        · cases h
        · obtain ⟨plan, hplan, hid⟩ := List.mem_flatMap.mp hid
          exact ⟨plan, hplan, name, id, hid, hm⟩
      · rintro ⟨plan, hplan, name, id, hid, hm⟩
        exact .inr ⟨id, List.mem_flatMap.mpr ⟨plan, hplan, hid⟩, name, hm⟩
    · exact fun plan hplan id hid package name hm => (hspelled plan hplan id hid).occurs hm
    · exact fun plan hplan id hid write hwrite => (hspelled plan hplan id hid).spelling_eq hwrite
    · exact hadds.imports.apart .nil
  · cases h

/-- **The file imports just the package that tests are written with.** It holds the tests of the
plans, and each of them names the package. -/
structure ImportsTesting (plans : List Plan) (file : GeneratedFile) : Prop where
  /-- There are tests. -/
  ne_nil : plans ≠ []
  /-- Each is passed a value of a type of the package. -/
  decls : List.Forall₂ (fun plan decl => ∃ name,
    decl = ⟨none, name, [⟨"t", "*testing.T"⟩], [], testBody plan⟩) plans file.source.decls
  /-- In the text of the file the tests follow an import declaration, which gives the package the
  name by which it is named, and says nothing else. -/
  printed : ∃ declaration, file.LaidOut [declaration] file.source.decls ∧
    Imports.Binds declaration "testing" "testing"

theorem ofStem_ne_nil (h : stem ∈ stems plans) : ofStem plans stem ≠ [] := by
  have hmem : stem ∈ plans.map (fun p => p.spec.stem) :=
    OrderedSet.mem_ofList.mp ((List.mergeSort_perm _ _).mem_iff.mp h)
  obtain ⟨plan, hplan, rfl⟩ := List.mem_map.mp hmem
  exact List.ne_nil_of_mem (List.mem_filter.mpr ⟨hplan, decide_eq_true rfl⟩)

theorem importsTesting_of_testFile (hsome : plans ≠ []) (h : e.testFile plans = .ok test)
    (name : String) : ImportsTesting plans ⟨name, test⟩ := by
  have himports : test.imports = ["\"testing\""] := by
    obtain ⟨decls, -, h⟩ := bind_eq_ok_iff.mp h
    obtain rfl := Except.ok.inj h
    rfl
  have hsaid : ∀ declaration ∈ test.imports, declaration ≠ "" := by
    rw [himports]
    decide
  have hlaid := GeneratedFile.laidOut ⟨name, test⟩ hsaid
  refine ⟨hsome, (testFile_eq_ok h).imp (fun plan decl hdecl => ?_), "\"testing\"",
    himports ▸ hlaid, .inr ⟨rfl, by decide⟩⟩
  obtain ⟨name, -, hdecl⟩ := bind_eq_ok_iff.mp hdecl
  exact ⟨name, (Except.ok.inj hdecl).symm⟩

/-- **No file has an unused or a missing import.** A file holds the functions or the tests of the
plans with one stem. If it holds the functions, the import declaration in its text has a package
just when a foreign named type of that package is spelled in one of them; the type then stands
under the name by which the package is imported, and no two packages have one name. If it holds
the tests, the import declaration has the package that tests are written with, which each of them
names. -/
theorem emit_imports (h : e.emit plans = .ok files) :
    ∃ σ, e.SpelledBy σ ∧ ∀ file ∈ files, ∃ stem ∈ stems plans,
      (file.name = stem ++ "." ++ e.output.suffix ++ ".go" ∧
        ∃ packages, e.ImportsExactly σ (ofStem plans stem) packages file) ∨
      (file.name = stem ++ "." ++ e.output.suffix ++ "_test.go" ∧
        ImportsTesting (ofStem plans stem) file) := by
  obtain ⟨σ, hσ⟩ := exists_spelledBy e
  refine ⟨σ, hσ, fun file hfile => ?_⟩
  obtain ⟨ofStems, hstems, hperm⟩ := emit_eq_ok h
  obtain ⟨own, hown, hfile⟩ := List.mem_flatten.mp (hperm.mem_iff.mp hfile)
  obtain ⟨stem, hstem, hfiles⟩ := exists_beside hstems hown
  obtain ⟨source, test, hsource, htest, rfl⟩ := stemFiles_eq_ok hfiles
  refine ⟨stem, hstem, ?_⟩
  rcases List.mem_cons.mp hfile with rfl | hfile
  · exact .inl ⟨rfl, importsExactly_of_sourceFile hσ hsource _⟩
  · obtain rfl := List.mem_singleton.mp hfile
    exact .inr ⟨rfl, importsTesting_of_testFile (ofStem_ne_nil hstem) htest _⟩

/-- Addresses are strings that are declared in a package whose path is no identifier. -/
def letterTypes : TypeTable where
  kinds := #[.basic .string, .named "Address" (some "example.com/go-mail") ⟨0⟩, .slice ⟨0⟩,
    .slice ⟨1⟩]

/-- The mapping of one slice into another, which it makes and returns. -/
def letterSpec (name : String) (source dest : TypeId) : MappingSpec where
  function := ⟨0⟩
  name := name
  qualifiedName := "letters." ++ name
  file := some "letters.go"
  sourceType := source
  destType := dest
  sourceBinding := "src"
  destBinding := "dst"
  sourceIsReceiver := false
  destIsPreconstructed := true
  destIsReturned := true
  errorIsReturned := false
  recognizedPrefixes := .empty
  ignoredDestFields := .empty
  manualFieldOverrides := .empty
  delegateMappings := .empty

/-- Strings become addresses, and addresses strings. -/
def letterPlans : List Plan :=
  [⟨letterSpec "ToAddresses" ⟨2⟩ ⟨3⟩, .elements ⟨0⟩ ⟨1⟩ (.coerce [.convert ⟨1⟩] true)⟩,
    ⟨letterSpec "ToStrings" ⟨3⟩ ⟨2⟩, .elements ⟨1⟩ ⟨0⟩ (.coerce [.convert ⟨0⟩] true)⟩]

/-- The file of both mappings imports the package of addresses, under a name that is no part of
its path. -/
theorem letterPlans_emit_imports : ∃ files, (Emitter.new letterTypes "example.com/letters" {}).emit
    letterPlans = .ok files ∧ ∃ file ∈ files, ∃ σ packages,
      (Emitter.new letterTypes "example.com/letters" {}).ImportsExactly σ letterPlans packages
        file ∧ "example.com/go-mail" ∈ packages ∧
      Occurs "\nimport go_mail \"example.com/go-mail\"\n" file.contents := by
  have hcomputed : answersWith (fun _ => true)
      ((Emitter.new letterTypes "example.com/letters" {}).emit letterPlans) = true := by
    decide +kernel
  obtain ⟨files, hfiles, -⟩ := exists_of_answersWith hcomputed
  obtain ⟨σ, -, hall⟩ := emit_imports hfiles
  obtain ⟨source, -, hsource, -, hfile, -⟩ := exists_files_of_mem_plans hfiles List.mem_cons_self
  have hown : (letterSpec "ToAddresses" ⟨2⟩ ⟨3⟩).stem = "letters" := by decide +kernel
  have hstems : stems letterPlans = ["letters"] := by decide +kernel
  have hsuffix : "letters" ++ "." ++ "generated" ++ ".go"
      ≠ "letters" ++ "." ++ "generated" ++ "_test.go" := by decide +kernel
  rw [hown] at hfile
  obtain ⟨stem, hstem, hkind⟩ := hall _ hfile
  obtain rfl := List.mem_singleton.mp (hstems ▸ hstem)
  rcases hkind with ⟨-, packages, hexact⟩ | ⟨htest, -⟩
  · refine ⟨files, hfiles, _, hfile, σ, packages, hexact, (hexact.mem _).mpr ?_, ?_⟩
    · exact ⟨_, List.mem_cons_self, "Address", ⟨1⟩, by decide, ⟨1⟩, .refl, by decide, ⟨0⟩, rfl⟩
    · have hmade : answersWith (fun source => decide
          (SourceFile.imports source = ["go_mail \"example.com/go-mail\""]))
          ((Emitter.new letterTypes "example.com/letters" {}).sourceFile (ofStem letterPlans
            (letterSpec "ToAddresses" ⟨2⟩ ⟨3⟩).stem)) = true := by decide +kernel
      obtain ⟨source', hsource', himports⟩ := exists_of_answersWith hmade
      obtain rfl := Except.ok.inj (hsource.symm.trans hsource')
      obtain ⟨block, hblock, htext⟩ := GeneratedFile.laidOut
        ⟨"letters.generated.go", source⟩ (by rw [of_decide_eq_true himports]; decide)
      rw [of_decide_eq_true himports] at hblock
      cases hblock with
      | alone => exact ⟨_, _, htext⟩
      | several h => exact absurd h (by decide)
  · exact absurd htest hsuffix

end Emitter

end Crosswalk

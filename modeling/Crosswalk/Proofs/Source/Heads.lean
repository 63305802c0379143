import Crosswalk.Proofs.Mapping.Protocol
import Crosswalk.Proofs.Source.Safe

/-!
# The heads of generated functions

A generated function stands in for the mapping function it was made from: no build sees both.
Its head, however, is not copied. It is put together from the specification, which knows of
one source, one destination and at most two results, by the names and at the types at which
they were handed to the marker.

What the two heads always have in common is said here, and when they are the same
(`Emitter.HeadFor.declares_iff`). Heads are compared as they are written, so it matters that a
type has one spelling, whatever has been written before it.
-/

namespace Crosswalk

/-! ## Settled writing -/

/-- **Writing whose answer does not depend on the names that are used up**, and is as in
`P`. -/
def Writing.Settled {α : Type} (P : α → Prop) (x : Writing α) : Prop :=
  ∀ names names' other other' a b, x names = .ok a names' → x other = .ok b other' →
    a = b ∧ P a

namespace Writing.Settled

theorem stepwise : Stepwise (fun P x => Settled P x) where
  pure := by
    intro α P a h names names' other other' b c hb hc
    obtain ⟨rfl, -⟩ := pure_eq_ok_iff.mp hb
    exact ⟨(pure_eq_ok_iff.mp hc).1, h⟩
  bind := by
    intro α β P Q x f h hf names names' other other' c d hc hd
    obtain ⟨a, between, ha, hc⟩ := bind_eq_ok_iff.mp hc
    obtain ⟨b, between', hb, hd⟩ := bind_eq_ok_iff.mp hd
    obtain ⟨rfl, hP⟩ := h _ _ _ _ a b ha hb
    exact hf a hP _ _ _ _ c d hc hd

theorem of_lookup {α : Type} {P : α → Prop} {x : Lookup α} (h : ∀ a, x = .ok a → P a) :
    Settled P (liftM x : Writing α) := by
  intro names names' other other' a b ha hb
  cases x with
  | ok c =>
    obtain ⟨rfl, -⟩ := EStateM.Result.ok.inj ha
    exact ⟨(EStateM.Result.ok.inj hb).1, h _ rfl⟩
  | error f => cases ha

theorem fail {α : Type} {P : α → Prop} (e : EmitError) : Settled P (Writing.fail e : Writing α) :=
  fun _ _ _ _ _ _ h => nomatch h

theorem importPackage (path : String) : Settled (fun _ => True) (Writing.importPackage path) := by
  intro names names' other other' a b ha hb
  unfold Writing.importPackage at ha hb
  split at ha
  · obtain ⟨rfl, -⟩ := EStateM.Result.ok.inj ha
    split at hb
    · exact ⟨(EStateM.Result.ok.inj hb).1, trivial⟩
    · cases hb
  · cases ha

end Writing.Settled

/-- **A type is spelled one way** in the files of a package. -/
theorem TypeTable.spellTo_settled (t : TypeTable) (home : String) (n : Nat) (id : TypeId) :
    Writing.Settled (fun _ => True) (t.spellTo home n id) := by
  induction n generalizing id with
  | zero => exact fun _ _ _ _ _ _ h => nomatch h
  | succ n ih =>
    have hunsupported : Writing.Settled (fun _ => True) (t.unsupported id : Writing String) :=
      Writing.Settled.stepwise.bind (.of_lookup (P := fun _ => True) (fun _ _ => trivial))
        (fun _ _ => .fail _)
    exact Writing.Settled.stepwise.spellTo_succ hunsupported Writing.Settled.importPackage
      (fun b _ => ih b) (fun _ _ _ _ _ => .of_lookup (fun _ he => he))

namespace Emitter

variable {e : Emitter} {id a b : TypeId} {text text' : String} {spec : MappingSpec} {plan : Plan}
  {decl : FunctionDecl} {s : Signature}

/-- **The spelling of a type in generated files.** -/
def Spelled (e : Emitter) (id : TypeId) (text : String) : Prop :=
  ∃ names names', e.spell id names = .ok text names'

/-- Two types have the same spelling. -/
def SpelledAlike (e : Emitter) (a b : TypeId) : Prop := ∃ text, e.Spelled a text ∧ e.Spelled b text

theorem Spelled.unique (h : e.Spelled id text) (h' : e.Spelled id text') : text = text' := by
  obtain ⟨names, names', h⟩ := h
  obtain ⟨other, other', h'⟩ := h'
  exact (e.types.spellTo_settled e.home _ id _ _ _ _ text text' h h').1

theorem Spelled.iff_alike (h : e.Spelled b text) : e.Spelled a text ↔ e.SpelledAlike a b := by
  constructor
  · exact fun ha => ⟨text, ha, h⟩
  · rintro ⟨text', ha, hb⟩
    exact hb.unique h ▸ ha

/-- The predeclared type of errors is spelled by its name. -/
theorem spelled_of_isError (h : e.types.isError id = .ok true) : e.Spelled id "error" := by
  obtain ⟨k, hk, h⟩ := bind_eq_ok_iff.mp h
  rw [TypeTable.kind_eq_ok_iff] at hk
  split at h
  · rename_i name underlying
    obtain rfl := of_decide_eq_true (Except.ok.inj h)
    refine ⟨.empty, .empty, ?_⟩
    unfold spell TypeTable.spell
    rw [TypeTable.spellTo, hk]
    rfl
  · cases h

/-! ## Heads and signatures -/

/-- What is written for a parameter has its name and spells its type. -/
def Writes (e : Emitter) (declared : Param) (written : Parameter) : Prop :=
  written.name = declared.name ∧ e.Spelled declared.type written.type

/-- Two parameters are written alike. -/
def WrittenAlike (e : Emitter) (declared said : Param) : Prop :=
  said.name = declared.name ∧ e.SpelledAlike declared.type said.type

/-- **A head declares what a signature says**: the same receiver, the same parameters in the
same order, and the same results. -/
structure Declares (e : Emitter) (s : Signature) (decl : FunctionDecl) : Prop where
  /-- The receiver. -/
  receiver : List.Forall₂ e.Writes s.receiver.toList decl.receiver.toList
  /-- The parameters. -/
  params : List.Forall₂ e.Writes s.params decl.params
  /-- The results. -/
  results : List.Forall₂ e.Spelled s.results decl.results

/-- The source as a parameter. -/
def sourceParam (spec : MappingSpec) : Param := ⟨spec.sourceBinding, spec.sourceType⟩

/-- The destination as a parameter. -/
def destParam (spec : MappingSpec) : Param := ⟨spec.destBinding, spec.destType⟩

/-- The receiver that a specification asks for: the source, if the function is a method. -/
def receiverOf (spec : MappingSpec) : List Param :=
  if spec.sourceIsReceiver then [sourceParam spec] else []

/-- The parameters that a specification asks for: the source, unless it is the receiver, and
the destination, unless the function makes it. -/
def paramsOf (spec : MappingSpec) : List Param :=
  (if spec.sourceIsReceiver then [] else [sourceParam spec])
    ++ (if spec.destIsPreconstructed then [] else [destParam spec])

/-- **The head that a specification asks for.** -/
structure HeadFor (e : Emitter) (spec : MappingSpec) (decl : FunctionDecl) : Prop where
  /-- The name. -/
  name : decl.name = spec.name
  /-- The receiver. -/
  receiver : List.Forall₂ e.Writes (receiverOf spec) decl.receiver.toList
  /-- The parameters. -/
  params : List.Forall₂ e.Writes (paramsOf spec) decl.params
  /-- The results: the destination, if it is returned, and then an error, if there may be
  one. -/
  results : ∃ text, e.Spelled spec.destType text ∧
    decl.results = (if spec.destIsReturned then [text] else [])
      ++ (if spec.errorIsReturned then ["error"] else [])

/-- **A signature says what a specification asks for**, as far as one can tell from how it is
written. -/
structure Agrees (e : Emitter) (s : Signature) (spec : MappingSpec) : Prop where
  /-- Its receiver is the source. -/
  receiver : List.Forall₂ e.WrittenAlike s.receiver.toList (receiverOf spec)
  /-- Its parameters are the source and the destination. -/
  params : List.Forall₂ e.WrittenAlike s.params (paramsOf spec)
  /-- The result that is not an error is the destination. -/
  result : spec.destIsReturned = true → ∀ d ∈ s.results.head?, e.SpelledAlike d spec.destType

/-- **The head of a generated function** is the one its specification asks for. -/
theorem headFor_of_function {names names' : Names} (h : e.function plan names = .ok decl names') :
    e.HeadFor plan.spec decl := by
  obtain ⟨_, between₁, -, h⟩ := Writing.bind_eq_ok_iff.mp h
  obtain ⟨sourceText, between₂, hsource, h⟩ := Writing.bind_eq_ok_iff.mp h
  obtain ⟨destText, between₃, hdest, h⟩ := Writing.bind_eq_ok_iff.mp h
  have hsource : e.Writes (sourceParam plan.spec) ⟨plan.spec.sourceBinding, sourceText⟩ :=
    ⟨rfl, _, _, hsource⟩
  have hdest : e.Writes (destParam plan.spec) ⟨plan.spec.destBinding, destText⟩ :=
    ⟨rfl, _, _, hdest⟩
  -- whatever the body is, the head around it is the same
  obtain ⟨body, rfl⟩ : ∃ body,
      decl = { headOf plan.spec sourceText destText with body := body } := by
    cases hbody : plan.body with
    | record fields unmatched =>
      rw [hbody] at h
      obtain ⟨body, between₄, -, h⟩ := Writing.bind_eq_ok_iff.mp h
      exact ⟨_, (Writing.pure_eq_ok_iff.mp h).1.symm⟩
    | elements sourceElem destElem conversion =>
      rw [hbody] at h
      obtain ⟨body, between₄, -, h⟩ := Writing.bind_eq_ok_iff.mp h
      exact ⟨_, (Writing.pure_eq_ok_iff.mp h).1.symm⟩
  refine ⟨rfl, ?_, ?_, destText, hdest.2, rfl⟩
  · unfold receiverOf
    show List.Forall₂ e.Writes _ (if plan.spec.sourceIsReceiver then some _ else none).toList
    cases plan.spec.sourceIsReceiver with
    | true => exact .cons hsource .nil
    | false => exact .nil
  · unfold paramsOf
    refine List.rel_append ?_ ?_
    · cases plan.spec.sourceIsReceiver with
      | true => exact .nil
      | false => exact .cons hsource .nil
    · cases plan.spec.destIsPreconstructed with
      | true => exact .nil
      | false => exact .cons hdest .nil

theorem Writes.iff_alike {declared said : Param} {written : Parameter} (h : e.Writes said written) :
    e.Writes declared written ↔ e.WrittenAlike declared said := by
  unfold Writes WrittenAlike
  rw [h.1, h.2.iff_alike]

/-- What is written for some parameters is written for others if they are written alike. -/
theorem forall₂_writes_iff {declared said : List Param} {written : List Parameter}
    (h : List.Forall₂ e.Writes said written) :
    List.Forall₂ e.Writes declared written ↔ List.Forall₂ e.WrittenAlike declared said := by
  induction h generalizing declared with
  | nil => rw [List.forall₂_nil_right_iff, List.forall₂_nil_right_iff]
  | cons hsaid _ ih =>
    rw [List.forall₂_cons_right_iff, List.forall₂_cons_right_iff]
    simp only [hsaid.iff_alike, ih]

/-- What is written for results that were taken for what they are spells them, but for the
type of the destination. -/
theorem forall₂_spelled_iff {results : List TypeId} {returned fails : Bool}
    (hgives : e.types.Gives results returned fails) (htext : e.Spelled b text) :
    List.Forall₂ e.Spelled results
        ((if returned then [text] else []) ++ (if fails then ["error"] else [])) ↔
      (returned = true → ∀ d ∈ results.head?, e.SpelledAlike d b) := by
  cases hgives with
  | nothing => simp
  | error he => simp [spelled_of_isError he]
  | dest hd => simp [htext.iff_alike]
  | both he => simp [htext.iff_alike, spelled_of_isError he]

/-- **The head of a generated function is the declared one exactly when the declared one says
what the specification asks for**, provided that the results were taken for what they are. -/
theorem HeadFor.declares_iff (h : e.HeadFor spec decl)
    (hgives : e.types.Gives s.results spec.destIsReturned spec.errorIsReturned) :
    e.Declares s decl ↔ e.Agrees s spec := by
  obtain ⟨text, htext, hresults⟩ := h.results
  have hspelled := forall₂_spelled_iff hgives htext
  rw [← hresults] at hspelled
  constructor
  · intro hdeclares
    exact ⟨(forall₂_writes_iff h.receiver).mp hdeclares.receiver,
      (forall₂_writes_iff h.params).mp hdeclares.params, hspelled.mp hdeclares.results⟩
  · intro hagrees
    exact ⟨(forall₂_writes_iff h.receiver).mpr hagrees.receiver,
      (forall₂_writes_iff h.params).mpr hagrees.params, hspelled.mpr hagrees.result⟩

/-- A signature that says to the letter what the specification asks for agrees with it. -/
theorem HeadFor.agrees (h : e.HeadFor spec decl) (hreceiver : s.receiver.toList = receiverOf spec)
    (hparams : s.params = paramsOf spec)
    (hresult : spec.destIsReturned = true → ∀ d ∈ s.results.head?, d = spec.destType) :
    e.Agrees s spec := by
  obtain ⟨text, htext, -⟩ := h.results
  refine ⟨hreceiver ▸ (forall₂_writes_iff h.receiver).mp h.receiver,
    hparams ▸ (forall₂_writes_iff h.params).mp h.params, fun hreturned d hd => ?_⟩
  rw [hresult hreturned d hd]
  exact ⟨text, htext, htext⟩

end Emitter

namespace Program

variable {p : Program} {settings : Settings} {a : Analysis} {output : OutputSettings}
  {packageName : Option String} {files : List GeneratedFile}

/-- What a specification that was read says of the declared head. -/
theorem exists_function_of_interpret {id : FunctionId} {spec : MappingSpec}
    (h : p.validate = .ok ()) (hspec : p.interpret settings id = .ok (some spec)) :
    ∃ f, p.function? id = some f ∧ spec.name = f.name ∧ spec.file = f.file ∧
      spec.sourceIsReceiver = f.isMethod ∧ p.types.Gives f.signature.results spec.destIsReturned spec.errorIsReturned := by
  obtain ⟨f, r, hf, -, hprogram, hfunction, haccepts⟩ := exists_accepts_of_interpret h hspec
  cases haccepts with
  | mk hopens hfirst hrest hshown =>
    obtain ⟨hs, hd, hgives⟩ := hfirst
    rw [Reading.foldl_apply_eq]
    refine ⟨f, hf, congrArg Func.name hfunction, congrArg Func.file hfunction,
      congrArg Func.isMethod hfunction, ?_⟩
    rw [← hfunction, ← hprogram]
    exact hgives

/-- **The heads of generated functions follow the specifications.** Every mapping function has
a plan, whose stem is that of the file the function is declared in. In the text of the file of
that stem stands, plan by plan, a function, its head on a line of its own, with the name of the
declared one, with a receiver if that has one, and with as many results, an error last if that
has one. Otherwise its head is the one that the specification asks for, and this is the
declared one exactly when the declared one says nothing else. -/
theorem heads_follow_specifications (ha : p.analyze settings = .ok a)
    (hfiles : (p.emitter output packageName).emit a.plans = .ok files) :
    (∀ f ∈ p.functions, p.isCandidate f = true → ∀ spec,
      p.interpret settings f.id = .ok (some spec) → ∃ plan ∈ a.plans, plan.spec = spec) ∧
    ∀ plan ∈ a.plans, ∃ source,
      ⟨plan.spec.stem ++ "." ++ output.suffix ++ ".go", source⟩ ∈ files ∧
      List.Forall₂ (fun own decl => ∃ f ∈ p.functions, p.isCandidate f = true ∧
          p.interpret settings f.id = .ok (some own.spec) ∧ own.spec.file = f.file ∧
          decl.StandsIn source.render ∧ decl.name = f.name ∧
          own.spec.sourceIsReceiver = f.isMethod ∧
          p.types.Gives f.signature.results own.spec.destIsReturned own.spec.errorIsReturned ∧
          (p.emitter output packageName).HeadFor own.spec decl ∧
          ((p.emitter output packageName).Declares f.signature decl ↔
            (p.emitter output packageName).Agrees f.signature own.spec))
        (Emitter.ofStem a.plans plan.spec.stem) source.decls := by
  obtain ⟨hvalid, hcollect, hplans⟩ := analyze_eq_ok ha
  have hplanned : ∀ plan ∈ a.plans, plan.spec ∈ a.registry.specs := by
    intro plan hplan
    obtain ⟨spec, hspec, hmade⟩ := exists_beside hplans hplan
    exact (plan_eq_ok hmade).1 ▸ hspec
  constructor
  · intro f hf hcandidate spec hspec
    obtain ⟨plan, hplan, hmade⟩ :=
      exists_beside_left hplans (mem_registry_of_interpret hcollect hf hcandidate hspec)
    exact ⟨plan, hplan, (plan_eq_ok hmade).1⟩
  · intro plan hplan
    obtain ⟨source, test, hsource, -, hmem, -⟩ := Emitter.exists_files_of_mem_plans hfiles hplan
    refine ⟨source, hmem, ?_⟩
    refine forall₂_imp_mem (fun own hown decl hmem hdecl => ?_) (Emitter.sourceFile_eq_ok hsource)
    obtain ⟨names, names', hdecl⟩ := hdecl
    have hhead := Emitter.headFor_of_function hdecl
    obtain ⟨f, hf, hcandidate, hspec⟩ :=
      exists_of_mem_registry hcollect (hplanned own (List.mem_of_mem_filter hown))
    obtain ⟨g, hg, hname, hdeclared, hreceiver, hgives⟩ := exists_function_of_interpret hvalid hspec
    obtain rfl := Option.some.inj
      ((function?_of_mem (validate_eq_ok_iff.mp hvalid) hf).symm.trans hg)
    exact ⟨f, hf, hcandidate, hspec, hdeclared, SourceFile.standsIn_render hmem,
      hhead.name.trans hname, hreceiver, hgives, hhead,
      hhead.declares_iff hgives⟩

/-- The function that maps contacts into cards keeps its head. -/
theorem cardProgram_head_kept : ∃ a files source decl f, cardProgram.analyze {} = .ok a ∧
    (cardProgram.emitter {}).emit a.plans = .ok files ∧
    ⟨"cards.generated.go", source⟩ ∈ files ∧ decl ∈ source.decls ∧ decl.StandsIn source.render ∧
    cardProgram.function? ⟨1⟩ = some f ∧ decl.name = f.name ∧
    (cardProgram.emitter {}).Declares f.signature decl := by
  have hemitted : answersWith (fun a => answersWith (fun _ => true)
      ((cardProgram.emitter {}).emit a.plans)) (cardProgram.analyze {}) = true := by decide +kernel
  have hread : answersWith (Option.any (fun spec => decide (spec.stem = "cards" ∧
        Emitter.receiverOf spec = [] ∧
        Emitter.paramsOf spec = [⟨"contact", ⟨2⟩⟩, ⟨"card", ⟨4⟩⟩] ∧ spec.destIsReturned = false)))
      (cardProgram.interpret {} ⟨1⟩) = true := by decide +kernel
  obtain ⟨a, ha, hemitted⟩ := exists_of_answersWith hemitted
  obtain ⟨files, hfiles, -⟩ := exists_of_answersWith hemitted
  obtain ⟨found, hfound, hany⟩ := exists_of_answersWith hread
  obtain ⟨spec, rfl, hspec⟩ := (Option.any_eq_true _ _).mp hany
  obtain ⟨hstem, hreceiver, hparams, hreturned⟩ := of_decide_eq_true hspec
  obtain ⟨hplanned, hheads⟩ := heads_follow_specifications ha hfiles
  obtain ⟨plan, hplan, rfl⟩ :=
    hplanned _ (Array.getElem_mem (i := 1) (by decide)) (by decide) spec hfound
  obtain ⟨source, hsource, hdecls⟩ := hheads plan hplan
  obtain ⟨decl, hdecl, f, hf, hcandidate, -, -, hstands, hname, -, -, hhead, hiff⟩ :=
    exists_beside_left hdecls (List.mem_filter.mpr ⟨hplan, decide_eq_true rfl⟩)
  -- no other function of the program may be a mapping function
  have honly : ∀ f ∈ cardProgram.functions.toList, cardProgram.isCandidate f = true →
      f = cardProgram.functions[1] := by decide
  obtain rfl := honly f (Array.mem_toList_iff.mpr hf) hcandidate
  refine ⟨a, files, source, decl, _, ha, hfiles, ?_, hdecl, hstands, rfl, hname, hiff.mpr ?_⟩
  · rw [hstem] at hsource
    exact hsource
  · refine hhead.agrees hreceiver.symm hparams.symm (fun h => ?_)
    cases h.symm.trans hreturned

/-- The program of the cards with a mapping that may be told to be strict. -/
def strictProgram : Program where
  package := cardProgram.package
  types := ⟨cardProgram.types.kinds.push (.basic .bool)⟩
  functions := #[
    .external ⟨0⟩ "CreateMap" "github.com/paultyng/go-typemapper" ⟨none, [], [], false⟩,
    { id := ⟨1⟩
      name := "ToCard"
      package := "example.com/cards"
      file := some "cards.go"
      signature := ⟨none, [⟨"contact", ⟨2⟩⟩, ⟨"card", ⟨4⟩⟩, ⟨"strict", ⟨7⟩⟩], [], false⟩
      params := [⟨0⟩, ⟨1⟩, ⟨2⟩]
      blocks := #[⟨⟨0⟩, [⟨3⟩, ⟨4⟩, ⟨6⟩, ⟨7⟩], none⟩]
      values := #[⟨.parameter 0, some ⟨2⟩, some "contact"⟩, ⟨.parameter 1, some ⟨4⟩, some "card"⟩,
        ⟨.parameter 2, some ⟨7⟩, some "strict"⟩, ⟨.makeInterface ⟨0⟩, some ⟨5⟩, none⟩,
        ⟨.makeInterface ⟨1⟩, some ⟨5⟩, none⟩, ⟨.functionRef ⟨0⟩, some ⟨6⟩, none⟩,
        ⟨.call ⟨5⟩ [⟨3⟩, ⟨4⟩], none, none⟩, ⟨.ret [], none, none⟩]
      synthetic := none }]

/-- **A parameter that is neither source nor destination is lost**: what is generated for the
strict mapping does not declare it. -/
theorem strictProgram_head_lost : ∃ a files source f spec, strictProgram.analyze {} = .ok a ∧
    (strictProgram.emitter {}).emit a.plans = .ok files ∧ strictProgram.function? ⟨1⟩ = some f ∧
    strictProgram.isCandidate f = true ∧ strictProgram.interpret {} f.id = .ok (some spec) ∧
    spec.stem = "cards" ∧ ⟨"cards.generated.go", source⟩ ∈ files ∧
    ∀ decl ∈ source.decls, ¬ (strictProgram.emitter {}).Declares f.signature decl := by
  have hemitted : answersWith (fun a => answersWith (fun _ => true)
        ((strictProgram.emitter {}).emit a.plans) && decide (a.plans ≠ [] ∧ ∀ plan ∈ a.plans,
          plan.spec.stem = "cards" ∧ (Emitter.paramsOf plan.spec).length = 2))
      (strictProgram.analyze {}) = true := by decide +kernel
  have hread : answersWith (Option.any (fun spec => decide (spec.stem = "cards")))
      (strictProgram.interpret {} ⟨1⟩) = true := by decide +kernel
  obtain ⟨a, ha, hemitted⟩ := exists_of_answersWith hemitted
  obtain ⟨hemitted, hplans⟩ := Bool.and_eq_true_iff.mp hemitted
  obtain ⟨files, hfiles, -⟩ := exists_of_answersWith hemitted
  obtain ⟨hsome, hall⟩ := of_decide_eq_true hplans
  obtain ⟨found, hfound, hany⟩ := exists_of_answersWith hread
  obtain ⟨spec, rfl, hspec⟩ := (Option.any_eq_true _ _).mp hany
  obtain ⟨plan, hplan⟩ := List.exists_mem_of_ne_nil _ hsome
  obtain ⟨source, -, hsource, -, hmem, -⟩ := Emitter.exists_files_of_mem_plans hfiles hplan
  rw [(hall plan hplan).1] at hmem
  refine ⟨a, files, source, _, spec, ha, hfiles, rfl, rfl, hfound, of_decide_eq_true hspec, hmem,
    fun decl hdecl h => ?_⟩
  obtain ⟨own, hown, names, names', hwritten⟩ :=
    exists_beside (Emitter.sourceFile_eq_ok hsource) hdecl
  -- three parameters are declared, and two are written
  have hlength := (hall own (List.mem_of_mem_filter hown)).2
  have hhead := Emitter.headFor_of_function hwritten
  cases h.params.length_eq.trans (hhead.params.length_eq.symm.trans hlength)

end Program

end Crosswalk

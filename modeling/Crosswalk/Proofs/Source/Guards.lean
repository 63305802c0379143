import Crosswalk.Proofs.Source.Capture

/-!
# Destinations that are `nil`

Before it feeds the fields of a record, a generated function makes sure that there is a record
to write to: a destination of its own is made with `new`, and one that is passed as `nil` is left
alone. Whether the destination is a pointer is asked of its type as it stands. A mapping is
accepted, though, whatever names stand around the pointer. So a destination that is a pointer is
guarded just when its type has no name of its own (`Emitter.pointer_destination_guarded_iff`).
-/

namespace Crosswalk

/-! ## Guards -/

/-- **A statement by which the destination is no `nil` afterwards**: it makes the destination, or
it ends the function if that is `nil`. -/
inductive Statement.Guards (dest : String) : Statement → Prop
  /-- Something new that the destination points to. -/
  | makes (type : String) : Guards dest (.simple (.define dest ("new(" ++ type ++ ")")))
  /-- A return. -/
  | leaves (values : List String) : Guards dest (.whenNil dest [.ret values])

/-- A composite literal is nothing that is made with `new`. -/
theorem Statement.not_guards_literal {dest text : String} :
    ¬ (Statement.simple (.define dest (text ++ "\x7b\x7d"))).Guards dest := by
  generalize htext : text ++ "\x7b\x7d" = value
  rintro ⟨type⟩
  -- one ends in a brace, the other in a parenthesis
  have hlast := congrArg (fun value => value.toList.getLast?) htext
  rw [String.toList_append, String.toList_append, List.getLast?_append, List.getLast?_append]
    at hlast
  cases hlast

/-! ## Names around a pointer -/

namespace TypeTable

variable {t : TypeTable} {id : TypeId} {peeled : Peeled}

/-- **Names are taken off only where there are some.** -/
theorem eq_or_exists_named_of_peelNames (h : t.peelNames id = .ok peeled) :
    peeled = ⟨[], id⟩ ∨
      peeled.layers ≠ [] ∧ ∃ name package u, t.kind? id = some (.named name package u) := by
  unfold peelNames at h
  rw [peelNamesUpTo] at h
  obtain ⟨k, hk, h⟩ := bind_eq_ok_iff.mp h
  rw [kind_eq_ok_iff] at hk
  cases k with
  | named name package u =>
    obtain ⟨inner, -, h⟩ := bind_eq_ok_iff.mp h
    obtain rfl := Except.ok.inj h
    exact .inr ⟨List.cons_ne_nil _ _, name, package, u, hk⟩
  | _ => exact .inl (Except.ok.inj h).symm

end TypeTable

namespace Emitter

variable {e : Emitter} {σ : TypeId → String} {spec : MappingSpec} {plan : Plan}
  {plans : List Plan} {files : List GeneratedFile} {pointee : TypeId}

/-! ## What stands before the fields -/

/-- A pointer is guarded, -/
theorem prepared_of_pointer (h : e.types.kind? spec.destType = some (.pointer pointee)) :
    ∃ s, e.prepared σ spec = [s] ∧ s.Guards spec.destBinding := by
  have hpointee : e.pointee? spec = some pointee := by
    rw [pointee?, h]
    rfl
  unfold prepared
  rw [hpointee]
  cases spec.destIsPreconstructed with
  | true => exact ⟨_, rfl, .makes _⟩
  | false => exact ⟨_, rfl, .leaves _⟩

/-- and a name is not, whatever it is a name for: a destination of its own is given as a
literal, and one that is passed is taken as it is. -/
theorem prepared_of_named {name : String} {package : Option String} {u : TypeId}
    (h : e.types.kind? spec.destType = some (.named name package u)) :
    e.prepared σ spec = if spec.destIsPreconstructed then
      [.simple (.define spec.destBinding (σ spec.destType ++ "\x7b\x7d"))] else [] := by
  have hpointee : e.pointee? spec = none := by
    rw [pointee?, h]
    rfl
  unfold prepared
  rw [hpointee]
  cases spec.destIsPreconstructed <;> rfl

/-- Nothing is stored before the fields are fed. -/
theorem quiet_prepared : Quiet (e.prepared σ spec) := by
  unfold prepared
  cases spec.destIsPreconstructed with
  | true => cases e.pointee? spec <;> exact quiet_singleton ⟨rfl, rfl⟩
  | false =>
    cases e.pointee? spec with
    | none => exact quiet_nil
    | some pointee => exact quiet_whenNil spec

theorem feeds_blockOf (f : PlannedField) (l : Lowered) : Feeds spec f (blockOf spec f l) :=
  ⟨_, _, quiet_tempStatements l, rfl⟩

/-- **The fields are fed one after another.** -/
theorem forall₂_feeds (fields : List PlannedField) (sourceOf : PlannedField → Expr) (n : Nat) :
    List.Forall₂ (Feeds spec) fields (List.zipWith (blockOf spec) fields
      (e.types.wrapAll σ (fields.map (fun f => (f.conversion, sourceOf f))) n)) := by
  induction fields generalizing n with
  | nil => exact .nil
  | cons f fields ih => exact .cons (feeds_blockOf f _) (ih _)

/-- **When a pointer is guarded before it is written through.** Take a plan for the fields of a
record, in an emission that succeeds, whose destination is a pointer once names are taken off.
The function that is emitted for it stands in the text of its file and feeds the fields one after
another, and nothing before the first of them stores anything. There the destination is made with `new`, or the function ends if
it is `nil`, just when there are no names to be taken off. If there are, then nothing at all
stands before the fields, unless the function makes the destination, as a literal. -/
theorem pointer_destination_guarded_iff {fields : List PlannedField}
    {unmatched : List RecordField} {peeled : Peeled} (h : e.emit plans = .ok files)
    (hplan : plan ∈ plans) (hbody : plan.body = .record fields unmatched)
    (hpeel : e.types.peelNames plan.spec.destType = .ok peeled)
    (hpointer : e.types.kind? peeled.shape = some (.pointer pointee)) :
    ∃ σ source before blocks, e.SpelledBy σ ∧
      ⟨plan.spec.stem ++ "." ++ e.output.suffix ++ ".go", source⟩ ∈ files ∧
      e.written σ plan ∈ source.decls ∧ (e.written σ plan).StandsIn source.render ∧
      (e.written σ plan).body = before ++ blocks.flatten ++ unmatched.map noMatch
        ++ lastReturn plan.spec ∧
      Quiet before ∧ List.Forall₂ (Feeds plan.spec) fields blocks ∧
      ((∃ s ∈ before, s.Guards plan.spec.destBinding) ↔ peeled.layers = []) ∧
      (peeled.layers ≠ [] → before = if plan.spec.destIsPreconstructed then
        [.simple (.define plan.spec.destBinding (σ plan.spec.destType ++ "\x7b\x7d"))]
        else []) := by
  obtain ⟨σ, source, hσ, hfile, hdecl⟩ := exists_written_of_mem h hplan
  refine ⟨σ, source, e.prepared σ plan.spec, _, hσ, hfile, hdecl,
    SourceFile.standsIn_render hdecl, congrArg (· ++ lastReturn plan.spec) (writtenBody_of_record hbody), quiet_prepared,
    forall₂_feeds fields _ 0, ?_⟩
  rcases TypeTable.eq_or_exists_named_of_peelNames hpeel with rfl | ⟨hlayers, name, package, u, hk⟩
  · -- the pointer is the type itself
    obtain ⟨s, hprepared, hguards⟩ := prepared_of_pointer (σ := σ) hpointer
    rw [hprepared]
    exact ⟨⟨fun _ => rfl, fun _ => ⟨s, List.mem_singleton_self s, hguards⟩⟩,
      fun hne => absurd rfl hne⟩
  · have hprepared := prepared_of_named (σ := σ) hk
    have hnone : ∀ s ∈ e.prepared σ plan.spec, ¬ s.Guards plan.spec.destBinding := by
      rw [hprepared]
      split
      · exact List.forall_mem_singleton.mpr Statement.not_guards_literal
      · exact nofun
    exact ⟨⟨fun ⟨s, hs, hguards⟩ => absurd hguards (hnone s hs),
      fun hnil => absurd hnil hlayers⟩, fun _ => hprepared⟩

end Emitter

namespace Program

/-- A function of two parameters that maps one into the other. -/
def cardMapping (id : FunctionId) (name : String) (destType : TypeId) : Func where
  id := id
  name := name
  package := "example.com/cards"
  file := some "cards.go"
  signature := ⟨none, [⟨"contact", ⟨3⟩⟩, ⟨"card", destType⟩], [], false⟩
  params := [⟨0⟩, ⟨1⟩]
  blocks := #[⟨⟨0⟩, [⟨2⟩, ⟨3⟩, ⟨5⟩, ⟨6⟩], none⟩]
  values := #[⟨.parameter 0, some ⟨3⟩, some "contact"⟩, ⟨.parameter 1, some destType, some "card"⟩,
    ⟨.makeInterface ⟨0⟩, some ⟨7⟩, none⟩, ⟨.makeInterface ⟨1⟩, some ⟨7⟩, none⟩,
    ⟨.functionRef ⟨0⟩, some ⟨8⟩, none⟩, ⟨.call ⟨4⟩ [⟨2⟩, ⟨3⟩], none, none⟩,
    ⟨.ret [], none, none⟩]
  synthetic := none

/-- Contacts are mapped into cards twice: once by way of a `*Card`, and once by way of a
`Handle`, where `type Handle *Card`. -/
def handleProgram : Program where
  package := "example.com/cards"
  types := ⟨#[.basic .string,
    TypeTable.plainStruct [("Mail", ⟨0⟩)],
    .named "Contact" (some "example.com/cards") ⟨1⟩,
    .pointer ⟨2⟩,
    .named "Card" (some "example.com/cards") ⟨1⟩,
    .pointer ⟨4⟩,
    .named "Handle" (some "example.com/cards") ⟨5⟩,
    .interface [],
    .signature [] [] false]⟩
  functions := #[
    .external ⟨0⟩ "CreateMap" "github.com/paultyng/go-typemapper" ⟨none, [], [], false⟩,
    cardMapping ⟨1⟩ "ToCard" ⟨5⟩,
    cardMapping ⟨2⟩ "ToHandle" ⟨6⟩]

/-- What such a function asks for, and what is planned for it. -/
def cardPlan (id : FunctionId) (name : String) (destType : TypeId) : Plan where
  spec :=
    { function := id
      name := name
      qualifiedName := "cards." ++ name
      file := some "cards.go"
      sourceType := ⟨3⟩
      destType := destType
      sourceBinding := "contact"
      destBinding := "card"
      sourceIsReceiver := false
      destIsPreconstructed := false
      destIsReturned := false
      errorIsReturned := false
      recognizedPrefixes := .empty
      ignoredDestFields := .empty
      manualFieldOverrides := .empty
      delegateMappings := .empty }
  body := .record [⟨⟨⟨"Mail", ⟨0⟩, 0⟩, ⟨"Mail", ⟨0⟩, 0⟩⟩, .assign⟩] []

/-- What is planned for the program of the handles. -/
def handlePlans : List Plan := [cardPlan ⟨1⟩ "ToCard" ⟨5⟩, cardPlan ⟨2⟩ "ToHandle" ⟨6⟩]

theorem handleProgram_analyze :
    handleProgram.analyze {} = .ok ⟨.ofSorted (handlePlans.map Plan.spec), handlePlans⟩ :=
  analyze_of_specs (by decide +kernel) (by decide +kernel) (by decide +kernel) (by decide +kernel)

theorem handleProgram_emits : ∃ files,
    (handleProgram.emitter {}).emit handlePlans = .ok files := by
  have hemitted : answersWith (fun _ => true)
      ((handleProgram.emitter {}).emit handlePlans) = true := by decide +kernel
  obtain ⟨files, hfiles, -⟩ := exists_of_answersWith hemitted
  exact ⟨files, hfiles⟩

/-- A card that is passed as `nil` is not written to. -/
theorem handleProgram_card_guarded : ∃ files source decl before rest s,
    (handleProgram.emitter {}).emit handlePlans = .ok files ∧
    ⟨"cards.generated.go", source⟩ ∈ files ∧ decl ∈ source.decls ∧
    decl.StandsIn source.render ∧ decl.body = before ++ rest ∧ Emitter.Quiet before ∧ s ∈ before ∧ s.Guards "card" := by
  obtain ⟨files, hfiles⟩ := handleProgram_emits
  have hplan : cardPlan ⟨1⟩ "ToCard" ⟨5⟩ ∈ handlePlans := List.mem_cons_self
  have hstem : (cardPlan ⟨1⟩ "ToCard" ⟨5⟩).spec.stem = "cards" := by decide +kernel
  have hpeel : handleProgram.types.peelNames ⟨5⟩ = .ok ⟨[], ⟨5⟩⟩ := rfl
  have hpointer : handleProgram.types.kind? ⟨5⟩ = some (.pointer ⟨4⟩) := rfl
  obtain ⟨σ, source, before, blocks, -, hfile, hdecl, hstands, hbody, hquiet, -, hiff, -⟩ :=
    Emitter.pointer_destination_guarded_iff hfiles hplan rfl hpeel hpointer
  rw [hstem] at hfile
  obtain ⟨s, hs, hguards⟩ := hiff.mpr rfl
  rw [List.append_assoc, List.append_assoc] at hbody
  exact ⟨files, source, _, before, _, s, hfiles, hfile, hdecl, hstands, hbody, hquiet, hs,
    hguards⟩

/-- **A handle that is passed as `nil` is written through**: that a handle is a pointer is enough
for the mapping to be accepted, and the function does nothing but feed the field. -/
theorem handleProgram_handle_unguarded : ∃ a plan files source decl,
    handleProgram.analyze {} = .ok a ∧ plan ∈ a.plans ∧
    handleProgram.types.isReferenceShaped plan.spec.destType = .ok true ∧
    handleProgram.types.peelNames plan.spec.destType = .ok ⟨[.named ⟨6⟩], ⟨5⟩⟩ ∧
    handleProgram.types.kind? ⟨5⟩ = some (.pointer ⟨4⟩) ∧
    (handleProgram.emitter {}).emit a.plans = .ok files ∧
    ⟨"cards.generated.go", source⟩ ∈ files ∧ decl ∈ source.decls ∧
    decl.name = plan.spec.name ∧
    decl.body = [.simple (.assign "card.Mail" "contact.Mail")] := by
  obtain ⟨files, hfiles⟩ := handleProgram_emits
  have hplan : cardPlan ⟨2⟩ "ToHandle" ⟨6⟩ ∈ handlePlans :=
    List.mem_cons_of_mem _ List.mem_cons_self
  have hstem : (cardPlan ⟨2⟩ "ToHandle" ⟨6⟩).spec.stem = "cards" := by decide +kernel
  obtain ⟨σ, source, -, hfile, hdecl⟩ := Emitter.exists_written_of_mem hfiles hplan
  rw [hstem] at hfile
  exact ⟨_, cardPlan ⟨2⟩ "ToHandle" ⟨6⟩, files, source, _, handleProgram_analyze, hplan, rfl, rfl,
    rfl, hfiles, hfile, hdecl, rfl, rfl⟩

end Program

end Crosswalk

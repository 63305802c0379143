import Crosswalk.Proofs.Coercion.Safe
import Crosswalk.Proofs.Source.Writing
import Crosswalk.Source.Emission

/-!
# Safe writing

Spelling a type goes the way of showing it, and ends where that ends. All else that is
asked of a plan while it is written is asked about the types of its specification.
-/

namespace Crosswalk

variable {loops : Prop}

/-! ## Step by step -/

/-- **What may be said of writing step by step.** `S P x` says something of `x`, and that all
it answers is as in `P`. -/
structure Writing.Stepwise (S : {α : Type} → (α → Prop) → Writing α → Prop) : Prop where
  /-- It may be said of an answer. -/
  pure : ∀ {α : Type} {P : α → Prop} {a : α}, P a → S P (Pure.pure a)
  /-- It may be said of one step after another. -/
  bind : ∀ {α β : Type} {P : α → Prop} {Q : β → Prop} {x : Writing α} {f : α → Writing β},
    S P x → (∀ a, P a → S Q (f a)) → S Q (x >>= f)

namespace Writing.Stepwise

variable {S : {α : Type} → (α → Prop) → Writing α → Prop}

/-- Every member of a list in turn. -/
theorem mapM (hS : Stepwise S) {α β : Type} {f : β → Writing α} {bs : List β}
    (h : ∀ b ∈ bs, S (fun _ => True) (f b)) : S (fun _ => True) (bs.mapM f) := by
  induction bs with
  | nil => exact hS.pure trivial
  | cons b bs ih =>
    rw [List.mapM_cons]
    refine hS.bind (h b List.mem_cons_self) (fun _ _ => ?_)
    exact hS.bind (ih (fun b' hb' => h b' (List.mem_cons_of_mem b hb')))
      (fun _ _ => hS.pure trivial)

/-- **Parameters are spelled one by one**, the last of a variadic function by what it takes any
number of. -/
theorem spellParams (hS : Stepwise S) {t : TypeTable} {spell : TypeId → Writing String}
    {variadic : Bool} {params : List TypeId}
    (hspell : ∀ b, t.ShownParam variadic params b → S (fun _ => True) (spell b))
    (hrest : variadic = true → ∀ p, params.getLast? = some p →
      S (fun e => t.restElem p = .ok e) (liftM (t.restElem p))) :
    S (fun _ => True)
      (Crosswalk.spellParams spell (fun p => liftM (t.restElem p)) variadic params) := by
  induction params with
  | nil => exact hS.pure trivial
  | cons p params ih =>
    cases params with
    | nil =>
      rw [Crosswalk.spellParams]
      split
      · rename_i hvariadic
        refine hS.bind (hrest hvariadic p rfl) (fun e he => ?_)
        have hshown : t.ShownParam variadic [p] e := by simp [TypeTable.ShownParam, hvariadic, he]
        exact hS.bind (hspell e hshown) (fun _ _ => hS.pure trivial)
      · rename_i hplain
        have hshown : t.ShownParam variadic [p] p := by simp [TypeTable.ShownParam, hplain]
        exact hS.bind (hspell p hshown) (fun _ _ => hS.pure trivial)
    | cons q params =>
      refine hS.bind (hspell p (TypeTable.shownParam_cons_cons.mpr (.inl rfl))) (fun _ _ => ?_)
      refine hS.bind (ih (fun b hb => hspell b (TypeTable.shownParam_cons_cons.mpr (.inr hb))) ?_)
        (fun _ _ => hS.pure trivial)
      exact fun hvariadic p hp => hrest hvariadic p (by rw [List.getLast?_cons_cons, hp])

/-- **Spelling one layer of a type** puts together the spellings of what is inside. -/
theorem spellTo_succ (hS : Stepwise S) {t : TypeTable} {home : String} {n : Nat} {id : TypeId}
    (hunsupported : S (fun _ => True) (t.unsupported id : Writing String))
    (himport : ∀ path, S (fun _ => True) (importPackage path))
    (hparts : ∀ b, t.Shows id b → S (fun _ => True) (t.spellTo home n b))
    (hrest : ∀ params results p, t.kind? id = some (.signature params results true) →
      params.getLast? = some p →
        S (fun e => t.restElem p = .ok e) (liftM (t.restElem p))) :
    S (fun _ => True) (t.spellTo home (n + 1) id) := by
  unfold TypeTable.spellTo
  cases hk : t.kind? id with
  | none => exact hunsupported
  | some k =>
    have hpart : ∀ b, t.ShownIn k b → S (fun _ => True) (t.spellTo home n b) :=
      fun b hb => hparts b ⟨k, hk, hb⟩
    cases k with
    | basic b =>
      cases b with
      | untypedNil => exact hunsupported
      | _ => exact hS.pure trivial
    | named name package underlying =>
      cases package with
      | none => exact hS.pure trivial
      | some package =>
        dsimp only
        split
        · exact hS.pure trivial
        · exact hS.bind (himport package) (fun _ _ => hS.pure trivial)
    | pointer elem | slice elem | array elem length =>
      exact hS.bind (hpart elem List.mem_cons_self) (fun _ _ => hS.pure trivial)
    | map key value =>
      refine hS.bind (hpart key List.mem_cons_self) (fun _ _ => ?_)
      exact hS.bind (hpart value (List.mem_cons_of_mem _ List.mem_cons_self))
        (fun _ _ => hS.pure trivial)
    | struct fields =>
      refine hS.bind (hS.mapM (fun f hf => ?_)) (fun _ _ => hS.pure trivial)
      exact hS.bind (hpart f.type (List.mem_map_of_mem hf)) (fun _ _ => hS.pure trivial)
    | interface methods =>
      dsimp only
      split
      · exact hS.pure trivial
      · exact hunsupported
    | signature params results variadic =>
      refine hS.bind (hS.spellParams (fun b hb => hpart b (.inl hb)) ?_) (fun _ _ => ?_)
      · rintro rfl p hp
        exact hrest params results p hk hp
      · refine hS.bind (hS.mapM (fun r hr => ?_)) (fun _ _ => hS.pure trivial)
        exact hpart r (.inr hr)
    | tuple elems => exact hunsupported

end Writing.Stepwise

/-- **How writing may end**, whatever names are used up: with an answer as in `P`, or with a stop
that is excused. -/
def Writing.Ends {α : Type} (excused : Stop EmitError → Prop) (P : α → Prop) (x : Writing α) :
    Prop :=
  ∀ names, match x names with
    | .ok a _ => P a
    | .error stop _ => excused stop

namespace Writing.Ends

variable {α β : Type} {P : α → Prop} {Q : β → Prop} {x : Writing α}
  {excused : Stop EmitError → Prop}

/-- One step after another. -/
theorem bind {f : α → Writing β} (h : x.Ends excused P)
    (hf : ∀ a, P a → (f a).Ends excused Q) : (x >>= f).Ends excused Q := by
  intro names
  have hx := h names
  show match EStateM.bind x f names with
    | .ok b _ => Q b
    | .error stop _ => excused stop
  unfold EStateM.bind
  cases hrun : x names with
  | ok a between =>
    rw [hrun] at hx
    exact hf a hx between
  | error stop between =>
    rw [hrun] at hx
    exact hx

theorem pure {a : α} (h : P a) : (Pure.pure a : Writing α).Ends excused P := fun _ => h

theorem of_lookup {x : Lookup α} (h : Crosswalk.Ends (fun f => excused (.fault f)) P x) :
    (liftM x : Writing α).Ends excused P := by
  intro names
  cases x with
  | ok a => exact h
  | error f => exact h

theorem stepwise : Stepwise (fun P x => Writing.Ends excused P x) := ⟨pure, bind⟩

end Writing.Ends

/-! ## Safely -/

/-- **Writing that does not fault, but for loops**, whatever names are used up. -/
def Writing.Safe {α : Type} (loops : Prop) (P : α → Prop) (x : Writing α) : Prop :=
  ∀ names, match x names with
    | .ok a _ => P a
    | .error stop _ => stop.Excused loops

namespace Writing.Safe

variable {α β : Type} {P : α → Prop} {Q : β → Prop} {x : Writing α}

/-- One step after another. -/
theorem bind {f : α → Writing β} (h : x.Safe loops P) (hf : ∀ a, P a → (f a).Safe loops Q) :
    (x >>= f).Safe loops Q :=
  Writing.Ends.bind h hf

theorem pure {a : α} (h : P a) : (Pure.pure a : Writing α).Safe loops P := fun _ => h

theorem fail (e : EmitError) : (Writing.fail e : Writing α).Safe loops P := fun _ => trivial

/-- A safe lookup is safe in writing. -/
theorem of_lookup {x : Lookup α} (h : x.Safe loops P) : (liftM x : Writing α).Safe loops P :=
  Writing.Ends.of_lookup h

theorem stepwise : Stepwise (fun P x => Writing.Safe loops P x) := ⟨pure, bind⟩

/-- Every member of a list in turn. -/
theorem mapM {f : β → Writing α} {bs : List β} (h : ∀ b ∈ bs, (f b).Safe loops (fun _ => True)) :
    (bs.mapM f).Safe loops (fun _ => True) :=
  stepwise.mapM h

end Writing.Safe

theorem Writing.importPackage_safe (path : String) :
    (importPackage path).Safe loops (fun _ => True) := by
  intro names
  unfold importPackage
  cases names.imports.add path <;> exact trivial

namespace TypeTable

variable {t : TypeTable} {id : TypeId} {n : Nat} {home : String}

theorem Tame.unsupported_safe (ht : t.Tame loops) {α : Type} {P : α → Prop} (id : TypeId) :
    (t.unsupported id : Writing α).Safe loops P :=
  (Writing.Safe.of_lookup (ht.display_safe id)).bind (fun _ _ => .fail _)

/-- **Spelling a type** follows no position past the end. One that is past the end itself
has no spelling. -/
theorem Tame.spellTo_safe (ht : t.Tame loops) (h : loops ∨ Within t.Unfolds n id) :
    (t.spellTo home n id).Safe loops (fun _ => True) := by
  induction n generalizing id with
  | zero => exact fun _ => h.resolve_right not_false
  | succ n ih =>
    refine Writing.Safe.stepwise.spellTo_succ (ht.unsupported_safe id) Writing.importPackage_safe
      (fun b hb => ih (h.imp_right (fun h => h b (.of_shows hb))))
      (fun params results p hk hp => ?_)
    exact .of_lookup ((ht.closed.restElem_safe hk hp).known.mono (fun _ => And.left))

theorem Tame.spell_safe (ht : t.Tame loops) (home : String) (id : TypeId) :
    (t.spell home id).Safe loops (fun _ => True) :=
  ht.spellTo_safe (ht.within id)

/-! ## Expressions -/

theorem Tame.lowerSteps_safe (ht : t.Tame loops) {steps : List CoercionStep} {l : Lowered} :
    (t.lowerSteps home steps l).Safe loops (fun _ => True) := by
  induction steps generalizing l with
  | nil => exact .pure trivial
  | cons step steps ih =>
    have hstep : (t.lowerStep home l step).Safe loops (fun _ => True) := by
      cases step with
      | addressOf =>
        dsimp only [lowerStep]
        split
        · exact .pure trivial
        · exact fun _ => trivial
      | deref => exact .pure trivial
      | convert type => exact (ht.spell_safe home type).bind (fun _ _ => .pure trivial)
    exact hstep.bind (fun _ _ => ih)

theorem Tame.lower_safe (ht : t.Tame loops) (conversion : Conversion) (source : Expr) :
    (t.lower home conversion source).Safe loops (fun _ => True) := by
  unfold lower
  split
  · exact .pure trivial
  · exact ht.lowerSteps_safe
  · exact .pure trivial
  · exact .pure trivial

end TypeTable

namespace Emitter

variable {e : Emitter} {spec : MappingSpec} {plan : Plan} {plans : List Plan}

/-! ## Functions -/

theorem prepareRecord_safe (ht : e.types.Tame loops) (hspec : spec.Typed e.types)
    (destType : String) : (e.prepareRecord spec destType).Safe loops (fun _ => True) := by
  refine (Writing.Safe.of_lookup (ht.closed.pointee_safe hspec.dest)).bind (fun found _ => ?_)
  split
  · exact (ht.spell_safe e.home _).bind (fun _ _ => .pure trivial)
  · exact .pure trivial
  · exact .pure trivial
  · exact .pure trivial

theorem recordStatements_safe (ht : e.types.Tame loops) (hspec : spec.Typed e.types)
    (destType : String) (fields : List PlannedField) (unmatched : List RecordField) :
    (e.recordStatements spec destType fields unmatched).Safe loops (fun _ => True) := by
  refine (prepareRecord_safe ht hspec destType).bind (fun _ _ => ?_)
  refine (Writing.Safe.mapM (fun f _ => ?_)).bind (fun _ _ => .pure trivial)
  exact (ht.lower_safe _ _).bind (fun _ _ => .pure trivial)

theorem elementStatements_safe (ht : e.types.Tame loops) (hspec : spec.Typed e.types)
    (destType : String) (conversion : Conversion) :
    (e.elementStatements spec destType conversion).Safe loops (fun _ => True) := by
  refine (Writing.Safe.of_lookup (ht.closed.underlying_safe hspec.dest)).bind (fun u _ => ?_)
  split
  · exact (ht.lower_safe _ _).bind (fun _ _ => .pure trivial)
  · exact (Writing.Safe.of_lookup (ht.display_safe _)).bind (fun _ _ => .fail _)

/-- **Writing the function of a plan is safe.** -/
theorem function_safe (ht : e.types.Tame loops) (hplan : plan.spec.Typed e.types) :
    (e.function plan).Safe loops (fun _ => True) := by
  have hnew : Writing.newFunction.Safe loops (fun _ => True) := fun _ => trivial
  refine hnew.bind (fun _ _ => ?_)
  refine (ht.spell_safe e.home _).bind (fun sourceType _ => ?_)
  refine (ht.spell_safe e.home _).bind (fun destType _ => ?_)
  cases plan.body with
  | record fields unmatched =>
    exact (recordStatements_safe ht hplan destType fields unmatched).bind
      (fun _ _ => .pure trivial)
  | elements _ _ conversion =>
    exact (elementStatements_safe ht hplan destType conversion).bind (fun _ _ => .pure trivial)

/-! ## Files -/

theorem testName_safe (ht : e.types.Tame loops) (hspec : spec.Typed e.types) :
    (e.testName spec).Safe loops (fun _ => True) := by
  unfold testName
  split
  · refine (ht.closed.deref_safe hspec.source).bind (fun _ _ => ?_)
    split <;> exact trivial
  · exact trivial

theorem sourceFile_safe (ht : e.types.Tame loops)
    (hplans : ∀ plan ∈ plans, plan.spec.Typed e.types) :
    (e.sourceFile plans).Safe loops (fun _ => True) := by
  have hwritten : (plans.mapM e.function).Safe loops (fun _ => True) :=
    .mapM (fun plan hplan => function_safe ht (hplans plan hplan))
  have hrun := hwritten Names.empty
  unfold sourceFile EStateM.run
  cases hresult : (plans.mapM e.function) Names.empty with
  | ok decls names => exact trivial
  | error stop names =>
    rw [hresult] at hrun
    exact hrun

/-- **Emitting plans is safe**, if the types of their specifications exist. -/
theorem emit_safe (ht : e.types.Tame loops) (hplans : ∀ plan ∈ plans, plan.spec.Typed e.types) :
    (e.emit plans).Safe loops (fun _ => True) := by
  refine Ends.bind (.mapM (P := fun _ => True) (fun stem _ => ?_)) (fun _ _ => trivial)
  have hown : ∀ plan ∈ plans.filter (fun p => p.spec.stem = stem), plan.spec.Typed e.types :=
    fun plan hplan => hplans plan (List.mem_of_mem_filter hplan)
  refine (sourceFile_safe ht hown).bind (fun source _ => ?_)
  refine Ends.bind (Lookup.Safe.lift (P := fun _ => True) ?_) (fun _ _ => trivial)
  refine Ends.bind (.mapM (P := fun _ => True) (fun plan hplan => ?_)) (fun _ _ => trivial)
  exact (testName_safe ht (hown plan hplan)).bind (fun _ _ => trivial)

end Emitter

end Crosswalk

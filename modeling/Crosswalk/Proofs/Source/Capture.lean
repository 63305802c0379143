import Crosswalk.Proofs.Source.Imports

/-!
# The names of variables in a function

A generated function binds four kinds of names. The source and the destination are called what
the mapping function calls them, the variable that runs through a slice is `x`, or `item` if the
source is `x` already, and temporary variables are numbered. Two of these ways of naming look at
no other name, and the third looks at the source alone. So the range variable is never the source
and no temporary variable has the name of another one or of the range variable, but each of the
other clashes can happen: a function has none just when its source and its destination are no
names of temporary variables, its destination is not the range variable, and nothing that is
bound is also the name of a package or of a function that the body refers to
(`Emitter.names_apart_iff`).
-/

namespace Crosswalk

/-! ## What is bound -/

/-- The name that a statement binds. -/
def SimpleStatement.bound? : SimpleStatement → Option String
  | .define name _ => some name
  | .declare name _ => some name
  | _ => none

/-- The names that a statement binds, within it and after it. -/
def Statement.bound : Statement → List String
  | .simple s => s.bound?.toList
  | .whenNil _ body => body.filterMap SimpleStatement.bound?
  | .forEach item _ body => item :: body.filterMap SimpleStatement.bound?

/-- **The names that a function binds**, in order. -/
def FunctionDecl.bound (f : FunctionDecl) : List String :=
  (f.receiver.toList ++ f.params).map Parameter.name ++ f.body.flatMap Statement.bound

/-! ## What is put into temporary variables -/

/-- How many temporary variables the steps of a coercion take, when the first is or is not
around something stored: one for each address that is taken of something stored nowhere. -/
def spillsOf : List CoercionStep → Bool → Nat
  | [], _ => 0
  | .addressOf :: rest, true => spillsOf rest false
  | .addressOf :: rest, false => spillsOf rest false + 1
  | .deref :: rest, _ => spillsOf rest true
  | .convert _ :: rest, _ => spillsOf rest false

/-- How many temporary variables a conversion takes. -/
def Conversion.spills : Conversion → Expr → Nat
  | .coerce steps _, source => spillsOf steps source.isAddressable
  | _, _ => 0

namespace Plan

variable (plan : Plan)

/-- The variable that runs through the source, if one does. -/
def rangeVariables : List String :=
  match plan.body with
  | .record .. => []
  | .elements .. => [Emitter.itemName plan.spec]

/-- **The temporary variables of a function**: they are numbered from zero. -/
def temporaries : List String :=
  (List.range (plan.conversions.map (fun c => c.1.spills c.2)).sum).map Expr.tempName

/-- The names of the functions that the body calls. -/
def delegates : List String :=
  plan.conversions.filterMap (fun c =>
    match c.1 with
    | .delegate _ name _ => some name
    | _ => none)

end Plan

/-- The names of a lowered conversion's temporary variables. -/
def Lowered.names (l : Lowered) : List String := l.temps.map (fun temp => Expr.tempName temp.index)

namespace TypeTable

variable {t : TypeTable} {σ : TypeId → String} {l : Lowered × Nat} {steps : List CoercionStep}

/-- Each step that takes the address of something stored nowhere numbers one variable more. -/
theorem names_wrapSteps :
    (steps.foldl (t.wrapStep σ) l).1.names
        = l.1.names ++ (List.range' l.2 (spillsOf steps l.1.expr.isAddressable)).map Expr.tempName ∧
      (steps.foldl (t.wrapStep σ) l).2 = l.2 + spillsOf steps l.1.expr.isAddressable := by
  induction steps generalizing l with
  | nil => simp [spillsOf]
  | cons step steps ih =>
    rw [List.foldl_cons]
    obtain ⟨hnames, hnext⟩ := ih (l := t.wrapStep σ l step)
    rw [hnames, hnext]
    cases step with
    | deref => exact ⟨rfl, rfl⟩
    | convert type => exact ⟨rfl, rfl⟩
    | addressOf =>
      unfold wrapStep
      by_cases haddressable : l.1.expr.isAddressable = true
      · rw [if_pos haddressable, haddressable]
        exact ⟨rfl, rfl⟩
      · rw [if_neg haddressable, Bool.eq_false_iff.mpr haddressable]
        show (l.1.temps ++ [(⟨l.2, l.1.expr⟩ : Temp)]).map _
            ++ (List.range' (l.2 + 1) (spillsOf steps false)).map _ = _ ∧
          l.2 + 1 + spillsOf steps false = _
        rw [spillsOf, List.range'_succ, List.map_append, List.append_assoc]
        exact ⟨rfl, by omega⟩

theorem names_wrap (conversion : Conversion) (source : Expr) (n : Nat) :
    (t.wrap σ conversion source n).1.names
        = (List.range' n (conversion.spills source)).map Expr.tempName ∧
      (t.wrap σ conversion source n).2 = n + conversion.spills source := by
  cases conversion with
  | assign => exact ⟨rfl, rfl⟩
  | coerce steps complete => exact names_wrapSteps (l := (⟨[], source⟩, n))
  | delegate function name style => cases style <;> exact ⟨rfl, rfl⟩

/-- **Temporary variables are numbered through** from one conversion to the next. -/
theorem names_wrapAll (conversions : List (Conversion × Expr)) (n : Nat) :
    (t.wrapAll σ conversions n).flatMap Lowered.names
      = (List.range' n (conversions.map (fun c => c.1.spills c.2)).sum).map Expr.tempName := by
  induction conversions generalizing n with
  | nil => rfl
  | cons c conversions ih =>
    obtain ⟨hnames, hnext⟩ := names_wrap (t := t) (σ := σ) c.1 c.2 n
    rw [wrapAll, List.flatMap_cons, hnames, ih, hnext, List.map_cons, List.sum_cons,
      ← List.map_append, List.range'_append_1]

end TypeTable

namespace Emitter

variable {e : Emitter} {σ : TypeId → String} {spec : MappingSpec} {plan : Plan} {l : Lowered}
  {f : PlannedField}

theorem bound_tempStatements (l : Lowered) :
    (tempStatements l).filterMap SimpleStatement.bound? = l.names := by
  unfold tempStatements Lowered.names
  rw [List.filterMap_map]
  exact congrFun List.filterMap_eq_map l.temps

theorem bound_map_simple (ss : List SimpleStatement) :
    (ss.map Statement.simple).flatMap Statement.bound = ss.filterMap SimpleStatement.bound? := by
  rw [List.flatMap_map, List.filterMap_eq_flatMap_toList]
  rfl

theorem bound_blockOf : (blockOf spec f l).flatMap Statement.bound = l.names := by
  rw [blockOf, List.flatMap_append, bound_map_simple, bound_tempStatements]
  exact List.append_nil _

theorem bound_appended : (appended spec l).filterMap SimpleStatement.bound? = l.names := by
  rw [appended, List.filterMap_append, bound_tempStatements]
  exact List.append_nil _

theorem bound_blocks {fields : List PlannedField} {sourceOf : PlannedField → Expr} {n : Nat} :
    (List.zipWith (blockOf spec) fields
        (e.types.wrapAll σ (fields.map (fun f => (f.conversion, sourceOf f))) n)).flatten.flatMap
          Statement.bound
      = (e.types.wrapAll σ (fields.map (fun f => (f.conversion, sourceOf f))) n).flatMap
          Lowered.names := by
  induction fields generalizing n with
  | nil => rfl
  | cons f fields ih =>
    rw [List.map_cons, TypeTable.wrapAll, List.zipWith_cons_cons, List.flatten_cons,
      List.flatMap_append, List.flatMap_cons, bound_blockOf, ih]

theorem bound_noMatch (unmatched : List RecordField) :
    (unmatched.map noMatch).flatMap Statement.bound = [] := by
  rw [List.flatMap_map]
  exact List.flatMap_eq_nil_iff.mpr (fun _ _ => rfl)

theorem bound_lastReturn (spec : MappingSpec) : (lastReturn spec).flatMap Statement.bound = [] := by
  unfold lastReturn
  split <;> rfl

/-- The destination is bound in the body if the function makes it. -/
theorem bound_prepared : (e.prepared σ spec).flatMap Statement.bound
    = if spec.destIsPreconstructed then [spec.destBinding] else [] := by
  unfold prepared
  cases spec.destIsPreconstructed <;> cases e.pointee? spec <;> rfl

theorem bound_started : (Statement.simple (started σ spec)).bound
    = if spec.destIsPreconstructed then [spec.destBinding] else [] := by
  unfold started
  cases spec.destIsPreconstructed <;> rfl

/-- What the body binds. -/
theorem bound_writtenBody : (e.writtenBody σ plan).flatMap Statement.bound
    = (if plan.spec.destIsPreconstructed then [plan.spec.destBinding] else [])
      ++ (plan.rangeVariables ++ plan.temporaries) := by
  have htemps : (e.lowered σ plan).flatMap Lowered.names = plan.temporaries := by
    rw [lowered, TypeTable.names_wrapAll, Plan.temporaries, List.range_eq_range']
  cases hplan : plan.body with
  | record fields unmatched =>
    rw [lowered, Plan.conversions, hplan] at htemps
    rw [writtenBody_of_record hplan, List.flatMap_append, List.flatMap_append, bound_prepared,
      bound_blocks, htemps, bound_noMatch, List.append_nil, Plan.rangeVariables, hplan]
    rfl
  | elements sourceElem destElem conversion =>
    rw [lowered, Plan.conversions, hplan, TypeTable.wrapAll, List.flatMap_cons,
      TypeTable.wrapAll, List.flatMap_nil, List.append_nil] at htemps
    rw [writtenBody_of_elements hplan, List.flatMap_cons, bound_started, Plan.rangeVariables, hplan]
    show _ ++ (itemName plan.spec :: (appended plan.spec _).filterMap SimpleStatement.bound? ++ [])
      = _
    rw [bound_appended, List.append_nil, htemps]
    rfl

/-- **The names that the function of a plan binds.** -/
theorem bound_written : (e.written σ plan).bound = plan.spec.sourceBinding :: plan.spec.destBinding
    :: (plan.rangeVariables ++ plan.temporaries) := by
  unfold FunctionDecl.bound
  have hbody : (e.written σ plan).body.flatMap Statement.bound
      = (if plan.spec.destIsPreconstructed then [plan.spec.destBinding] else [])
        ++ (plan.rangeVariables ++ plan.temporaries) := by
    show (e.writtenBody σ plan ++ lastReturn plan.spec).flatMap Statement.bound = _
    rw [List.flatMap_append, bound_writtenBody, bound_lastReturn, List.append_nil]
  rw [hbody]
  unfold written headOf
  cases plan.spec.sourceIsReceiver <;> cases plan.spec.destIsPreconstructed <;> rfl

end Emitter

/-! ## What is apart -/

theorem Expr.tempName_injective {i j : Nat} (h : tempName i = tempName j) : i = j := by
  have hrepr : String.ofList (Nat.toDigits 10 i) = String.ofList (Nat.toDigits 10 j) :=
    (String.append_right_inj "tmp").mp h
  rw [← Nat.ofDigitChars_ten_toDigits (n := i), String.ofList_injective hrepr,
    Nat.ofDigitChars_ten_toDigits]

namespace Plan

variable (plan : Plan)

/-- The range variable is not the source. -/
theorem sourceBinding_not_mem_rangeVariables : plan.spec.sourceBinding ∉ plan.rangeVariables := by
  unfold rangeVariables
  cases plan.body with
  | record fields unmatched => exact List.not_mem_nil
  | elements sourceElem destElem conversion =>
    rw [List.mem_singleton, Emitter.itemName]
    split
    · rename_i hsource
      rw [hsource]
      decide
    · assumption

theorem nodup_temporaries : plan.temporaries.Nodup :=
  List.nodup_range.map (fun _ _ h => Expr.tempName_injective h)

/-- The range variable is no temporary variable. -/
theorem disjoint_rangeVariables_temporaries :
    ∀ name ∈ plan.rangeVariables, name ∉ plan.temporaries := by
  intro name hname htemp
  obtain ⟨i, -, rfl⟩ := List.mem_map.mp htemp
  unfold rangeVariables at hname
  cases hplan : plan.body with
  | record fields unmatched =>
    rw [hplan] at hname
    cases hname
  | elements sourceElem destElem conversion =>
    rw [hplan, List.mem_singleton, Emitter.itemName] at hname
    have hlist := congrArg String.toList hname
    split at hlist <;> simp [Expr.tempName] at hlist

theorem nodup_rangeVariables : plan.rangeVariables.Nodup := by
  unfold rangeVariables
  cases plan.body <;> simp

/-- **When the names that are bound are distinct**, if the source and the destination are. -/
theorem nodup_bound_iff (hne : plan.spec.sourceBinding ≠ plan.spec.destBinding) :
    (plan.spec.sourceBinding :: plan.spec.destBinding
        :: (plan.rangeVariables ++ plan.temporaries)).Nodup ↔
      plan.spec.destBinding ∉ plan.rangeVariables ∧
        plan.spec.sourceBinding ∉ plan.temporaries ∧ plan.spec.destBinding ∉ plan.temporaries := by
  have hown : (plan.rangeVariables ++ plan.temporaries).Nodup := by
    refine List.nodup_append.mpr ⟨plan.nodup_rangeVariables, plan.nodup_temporaries, ?_⟩
    rintro name hname temp htemp rfl
    exact plan.disjoint_rangeVariables_temporaries name hname htemp
  have hsource := plan.sourceBinding_not_mem_rangeVariables
  simp only [List.nodup_cons, List.mem_cons, List.mem_append, hne, hsource, false_or, hown,
    and_true, not_or]
  tauto

end Plan

namespace Emitter

variable {e : Emitter} {plan : Plan} {plans : List Plan} {files : List GeneratedFile}

/-- **The name stands for something else in the body** of the function of a plan: for a package,
of which a type is spelled there, or for a function that is called. -/
def Refers (e : Emitter) (plan : Plan) (name : String) : Prop :=
  name ∈ plan.delegates ∨ ∃ id ∈ e.bodyTypes plan, ∃ package type,
    e.types.Mentions e.home id package type ∧ packageAlias package = name

/-- **No name captures another** in the function of a plan. -/
structure NamesApart (e : Emitter) (plan : Plan) (decl : FunctionDecl) : Prop where
  /-- No name is bound twice. -/
  distinct : decl.bound.Nodup
  /-- No name that is bound stands for something else. -/
  free : ∀ name ∈ decl.bound, ¬ e.Refers plan name

/-- Each plan has its function in the file of its stem. -/
theorem exists_written_of_mem (h : e.emit plans = .ok files) (hplan : plan ∈ plans) :
    ∃ σ source, e.SpelledBy σ ∧
      ⟨plan.spec.stem ++ "." ++ e.output.suffix ++ ".go", source⟩ ∈ files ∧
      e.written σ plan ∈ source.decls := by
  obtain ⟨σ, hσ⟩ := exists_spelledBy e
  obtain ⟨source, -, hsource, -, hfile, -⟩ := exists_files_of_mem_plans h hplan
  obtain ⟨packages, hexact⟩ := importsExactly_of_sourceFile hσ hsource plan.spec.stem
  refine ⟨σ, source, hσ, hfile, ?_⟩
  rw [hexact.decls]
  exact List.mem_map_of_mem (List.mem_filter.mpr ⟨hplan, decide_eq_true rfl⟩)

/-- **When no name captures another.** The function that is emitted for a plan binds the source,
the destination, the range variable if there is one, and the temporary variables, in this order.
If source and destination are distinct, these names are distinct from each other and from all
packages and functions that the body refers to just when the destination is not the range
variable, neither the source nor the destination is a temporary variable, and none of the names
is one that the body refers to. That the range variable is not the source, and that temporary
variables are distinct from each other and from the range variable, goes without saying. -/
theorem names_apart_iff (h : e.emit plans = .ok files) (hplan : plan ∈ plans)
    (hne : plan.spec.sourceBinding ≠ plan.spec.destBinding) :
    ∃ σ source, e.SpelledBy σ ∧
      ⟨plan.spec.stem ++ "." ++ e.output.suffix ++ ".go", source⟩ ∈ files ∧
      e.written σ plan ∈ source.decls ∧
      (e.written σ plan).bound = plan.spec.sourceBinding :: plan.spec.destBinding
        :: (plan.rangeVariables ++ plan.temporaries) ∧
      (e.NamesApart plan (e.written σ plan) ↔
        plan.spec.destBinding ∉ plan.rangeVariables ∧
        plan.spec.sourceBinding ∉ plan.temporaries ∧ plan.spec.destBinding ∉ plan.temporaries ∧
        ∀ name ∈ plan.spec.sourceBinding :: plan.spec.destBinding
          :: (plan.rangeVariables ++ plan.temporaries), ¬ e.Refers plan name) := by
  obtain ⟨σ, source, hσ, hfile, hdecl⟩ := exists_written_of_mem h hplan
  refine ⟨σ, source, hσ, hfile, hdecl, bound_written, ?_⟩
  have hnodup := plan.nodup_bound_iff hne
  constructor
  · rintro ⟨hdistinct, hfree⟩
    rw [bound_written] at hdistinct hfree
    obtain ⟨hrange, hsource, hdest⟩ := hnodup.mp hdistinct
    exact ⟨hrange, hsource, hdest, hfree⟩
  · rintro ⟨hrange, hsource, hdest, hfree⟩
    rw [← bound_written (e := e) (σ := σ)] at hnodup hfree
    exact ⟨hnodup.mpr ⟨hrange, hsource, hdest⟩, hfree⟩

/-- The mapping of strings to addresses refers to the package of addresses only. -/
theorem letterPlans_refers {name : String}
    (h : (Emitter.new letterTypes "example.com/letters" {}).Refers (letterPlans.head (by decide))
      name) : name = "go_mail" := by
  have hpackage : ∀ id, id = ⟨3⟩ ∨ id = ⟨1⟩ → ∀ package type,
      letterTypes.Mentions "example.com/letters" id package type →
        package = "example.com/go-mail" := by
    have hnamed : ∀ package type, letterTypes.Mentions "example.com/letters" ⟨1⟩ package type →
        package = "example.com/go-mail" := by
      intro package type hm
      obtain ⟨-, hpackage, -⟩ := (TypeTable.mentions_iff_of_named rfl).mp hm
      exact (Option.some.inj hpackage).symm
    rintro id (rfl | rfl) package type hm
    · obtain ⟨b, hb, hm⟩ := (TypeTable.mentions_iff_of_isBare rfl rfl).mp hm
      obtain rfl := List.mem_singleton.mp hb
      exact hnamed package type hm
    · exact hnamed package type hm
  rcases h with h | ⟨id, hid, package, type, hm, rfl⟩
  · cases h
  · have hids : id = ⟨3⟩ ∨ id = ⟨1⟩ := by
      have hlist : (Emitter.new letterTypes "example.com/letters" {}).bodyTypes
          (letterPlans.head (by decide)) = [⟨3⟩, ⟨1⟩] := rfl
      rw [hlist] at hid
      simpa using hid
    rw [hpackage id hids package type hm]
    decide +kernel

/-- In the mapping of strings to addresses no name captures another. -/
theorem letterPlans_names_apart : ∃ files σ source,
    (Emitter.new letterTypes "example.com/letters" {}).emit letterPlans = .ok files ∧
    ⟨"letters.generated.go", source⟩ ∈ files ∧
    (Emitter.new letterTypes "example.com/letters" {}).written σ (letterPlans.head (by decide))
      ∈ source.decls ∧
    (Emitter.new letterTypes "example.com/letters" {}).NamesApart (letterPlans.head (by decide))
      ((Emitter.new letterTypes "example.com/letters" {}).written σ
        (letterPlans.head (by decide))) := by
  have hcomputed : answersWith (fun _ => true)
      ((Emitter.new letterTypes "example.com/letters" {}).emit letterPlans) = true := by
    decide +kernel
  obtain ⟨files, hfiles, -⟩ := exists_of_answersWith hcomputed
  have hstem : (letterPlans.head (by decide)).spec.stem = "letters" := by decide +kernel
  obtain ⟨σ, source, -, hfile, hdecl, -, hiff⟩ :=
    names_apart_iff hfiles (List.head_mem (by decide)) (by decide)
  rw [hstem] at hfile
  refine ⟨files, σ, source, hfiles, hfile, hdecl, hiff.mpr ⟨by decide, by decide, by decide, ?_⟩⟩
  intro name hname hrefers
  rw [letterPlans_refers hrefers] at hname
  exact absurd hname (by decide)

/-- Strings are copied to a destination that has the name of the range variable. -/
def capturedPlan : Plan :=
  ⟨{ letterSpec "Copy" ⟨2⟩ ⟨2⟩ with
      destBinding := "x", destIsPreconstructed := false, destIsReturned := false },
    .elements ⟨0⟩ ⟨0⟩ .assign⟩

/-- The range variable captures the destination: what is appended to is the element. -/
theorem capturedPlan_not_names_apart : ∃ files σ source,
    (Emitter.new letterTypes "example.com/letters" {}).emit [capturedPlan] = .ok files ∧
    capturedPlan.spec.sourceBinding ≠ capturedPlan.spec.destBinding ∧
    ⟨"letters.generated.go", source⟩ ∈ files ∧
    (Emitter.new letterTypes "example.com/letters" {}).written σ capturedPlan ∈ source.decls ∧
    ((Emitter.new letterTypes "example.com/letters" {}).written σ capturedPlan).bound
      = ["src", "x", "x"] ∧
    ¬ (Emitter.new letterTypes "example.com/letters" {}).NamesApart capturedPlan
      ((Emitter.new letterTypes "example.com/letters" {}).written σ capturedPlan) := by
  have hcomputed : answersWith (fun _ => true)
      ((Emitter.new letterTypes "example.com/letters" {}).emit [capturedPlan]) = true := by
    decide +kernel
  obtain ⟨files, hfiles, -⟩ := exists_of_answersWith hcomputed
  obtain ⟨σ, source, -, hfile, hdecl⟩ := exists_written_of_mem hfiles List.mem_cons_self
  have hstem : capturedPlan.spec.stem = "letters" := by decide +kernel
  have hbound : ((Emitter.new letterTypes "example.com/letters" {}).written σ capturedPlan).bound
      = ["src", "x", "x"] := bound_written
  rw [hstem] at hfile
  refine ⟨files, σ, source, hfiles, by decide, hfile, hdecl, hbound, fun hapart => ?_⟩
  have hdistinct := hapart.distinct
  rw [hbound] at hdistinct
  exact absurd hdistinct (by decide)

end Emitter

end Crosswalk

import Crosswalk.Proofs.Source.Capture

/-!
# What lowered conversions stand for

Lowering takes the steps of a coercion one by one and puts a value into a temporary variable
wherever an address is taken of something that is stored nowhere. None of this changes what is
said: with the temporary variables put back, the last one first, the expression is the source
with the given steps around it (`Lowered.resolved`). Addresses are only taken of what is stored
(`Lowered.TakesPlaces`), and however many conversions are lowered one after another, each
temporary variable is defined once and used once (`Lowering.inTurn_faithful`).
-/

namespace Crosswalk

/-! ## Texts with steps around them -/

/-- **A value as text**, with what may be done to it. -/
structure Operand where
  /-- The text. -/
  text : String
  /-- Whether the value is stored somewhere, so that its address may be taken. -/
  addressable : Bool
  /-- Whether the text begins with a unary operator. -/
  unary : Bool
deriving DecidableEq, Repr

namespace Operand

/-- The text as it stands where something binds tighter than a unary operator. -/
def tight (o : Operand) : String := if o.unary then "(" ++ o.text ++ ")" else o.text

/-- **One step around a text**, where types are spelled by `spelled`. -/
def step (spelled : TypeId → String) (o : Operand) : CoercionStep → Operand
  | .addressOf => ⟨"&" ++ o.text, false, true⟩
  | .deref => ⟨"*" ++ o.tight, true, true⟩
  | .convert type => ⟨spelled type ++ "(" ++ o.text ++ ")", false, false⟩

/-- **A conversion around a text**, the first step innermost. -/
def around (spelled : TypeId → String) (o : Operand) : Conversion → Operand
  | .assign => o
  | .coerce steps _ => steps.foldl (step spelled) o
  | .delegate _ name .receiver => ⟨o.tight ++ "." ++ name ++ "()", false, false⟩
  | .delegate _ name .call => ⟨name ++ "(" ++ o.text ++ ")", false, false⟩

/-- The source expression that is given by a text. -/
def expr (o : Operand) : Expr := .source o.text o.addressable o.unary

end Operand

/-! ## Temporary variables put back -/

namespace Expr

/-- The expression as an operand. -/
def operand (e : Expr) : Operand := ⟨e.text, e.isAddressable, e.isUnary⟩

/-- The temporary variables that are used, in order. -/
def uses : Expr → List Nat
  | .source .. => []
  | .temp index => [index]
  | .addressOf e | .deref e | .convert _ e | .method e _ | .call _ e => e.uses

/-- A temporary variable replaced by a value. -/
def replace (temp : Temp) : Expr → Expr
  | .source text addressable unary => .source text addressable unary
  | .temp index => if index = temp.index then temp.value else .temp index
  | .addressOf e => .addressOf (e.replace temp)
  | .deref e => .deref (e.replace temp)
  | .convert type e => .convert type (e.replace temp)
  | .method e name => .method (e.replace temp) name
  | .call name e => .call name (e.replace temp)

/-- **Something whose address may be taken**, when the temporary variables in `declared` have been
defined: a source that is stored, what a pointer points to, or one of these variables. -/
inductive IsPlace (declared : List Nat) : Expr → Prop
  /-- A source that is stored. -/
  | source (text : String) (unary : Bool) : IsPlace declared (.source text true unary)
  /-- What a pointer points to. -/
  | deref (e : Expr) : IsPlace declared (.deref e)
  /-- A variable that has been defined. -/
  | temp {index : Nat} (h : index ∈ declared) : IsPlace declared (.temp index)

/-- **Addresses are only taken of what is stored.** -/
def TakesPlaces (declared : List Nat) : Expr → Prop
  | .source .. | .temp _ => True
  | .addressOf e => e.IsPlace declared ∧ e.TakesPlaces declared
  | .deref e | .convert _ e | .method e _ | .call _ e => e.TakesPlaces declared

/-- What may be addressed is a place, as long as the variables in it have been defined. -/
theorem isPlace_of_isAddressable {e : Expr} {declared : List Nat} (h : e.isAddressable = true)
    (huses : e.uses ⊆ declared) : e.IsPlace declared := by
  cases e with
  | source text addressable unary =>
    obtain rfl : addressable = true := h
    exact .source text unary
  | temp index => exact .temp (huses (List.mem_singleton_self index))
  | deref e => exact .deref e
  | addressOf | convert | method | call => cases h

end Expr

namespace Lowered

variable (l : Lowered)

/-- The temporary variables that are defined, in order. -/
def declared : List Nat := l.temps.map Temp.index

theorem names_eq : l.names = l.declared.map Expr.tempName := by
  rw [names, declared, List.map_map]
  rfl

/-- The temporary variables that are used, in order. -/
def uses : List Nat := l.temps.flatMap (fun temp => temp.value.uses) ++ l.expr.uses

/-- **The expression with the temporary variables put back**, the last one first. -/
def resolved : Expr := l.temps.foldr (fun temp e => e.replace temp) l.expr

/-- **Addresses are only taken of what is stored**: in the value of a temporary variable, of those
defined before it. -/
structure TakesPlaces : Prop where
  /-- In the values. -/
  temps : ∀ before temp after, l.temps = before ++ temp :: after →
    temp.value.TakesPlaces (before.map Temp.index)
  /-- In the expression. -/
  expr : l.expr.TakesPlaces l.declared

end Lowered

/-! ## One step -/

namespace Lowered

variable {l : Lowered} {n : Nat} {o : Operand}

/-- The lowered expression with its value put into a temporary variable, of which the address is
taken. -/
def spill (l : Lowered) (n : Nat) : Lowered := ⟨l.temps ++ [⟨n, l.expr⟩], .addressOf (.temp n)⟩

/-- What is put around the expression is put around what it stands for. -/
theorem resolved_around {f : Expr → Expr} (hf : ∀ temp e, (f e).replace temp = f (e.replace temp)) :
    resolved { l with expr := f l.expr } = f l.resolved := by
  unfold resolved
  induction l.temps with
  | nil => rfl
  | cons temp temps ih => rw [List.foldr_cons, ih, hf, List.foldr_cons]

/-- A variable is replaced by the value it was introduced for. -/
theorem resolved_spill : (l.spill n).resolved = .addressOf l.resolved := by
  have hreplace : (Expr.addressOf (.temp n)).replace ⟨n, l.expr⟩ = .addressOf l.expr :=
    congrArg Expr.addressOf (if_pos rfl)
  unfold resolved spill
  rw [List.foldr_append, List.foldr_cons, List.foldr_nil, hreplace]
  exact resolved_around (fun _ _ => rfl)

theorem declared_spill : (l.spill n).declared = l.declared ++ [n] := List.map_append

theorem uses_spill : (l.spill n).uses = l.uses ++ [n] := by
  unfold uses spill
  rw [List.flatMap_append, List.flatMap_singleton]
  rfl

theorem TakesPlaces.spill (h : l.TakesPlaces) : (l.spill n).TakesPlaces := by
  refine ⟨fun before temp after htemps => ?_, ?_, trivial⟩
  · -- the variable is the new one, or it stands before it
    rcases List.eq_nil_or_concat after with rfl | ⟨after, last, rfl⟩
    · obtain ⟨rfl, hlast⟩ := List.append_inj' htemps rfl
      obtain rfl := List.singleton_inj.mp hlast
      exact h.expr
    · rw [List.concat_eq_append, ← List.cons_append, ← List.append_assoc] at htemps
      exact h.temps _ _ _ (List.append_inj' htemps rfl).1
  · rw [declared_spill]
    exact .temp (List.mem_append_right _ (List.mem_singleton_self n))

/-- **What stays true while steps are lowered.** The lowered expression says the same as the
operand, the variables that are used are those that are defined, each once and in order, and
addresses are only taken of what is stored. -/
structure Says (l : Lowered) (o : Operand) : Prop where
  /-- What is said. -/
  resolved : l.resolved.operand = o
  /-- The variables. -/
  uses : l.uses = l.declared
  /-- The addresses. -/
  places : l.TakesPlaces

theorem says_source (o : Operand) : Says ⟨[], o.expr⟩ o where
  resolved := rfl
  uses := rfl
  places := ⟨fun before temp after h => by simp at h, trivial⟩

/-- What is put around the expression is said around the operand. -/
theorem Says.around (h : l.Says o) (f : Expr → Expr) {o' : Operand}
    (hreplace : ∀ temp e, (f e).replace temp = f (e.replace temp))
    (hoperand : ∀ e, e.operand = o → (f e).operand = o') (huses : (f l.expr).uses = l.expr.uses)
    (hplaces : (f l.expr).TakesPlaces l.declared) : Says { l with expr := f l.expr } o' where
  resolved := by
    rw [resolved_around hreplace]
    exact hoperand _ h.resolved
  uses := (congrArg (_ ++ ·) huses).trans h.uses
  places := ⟨h.places.temps, hplaces⟩

/-- A variable in the place of the expression says the same. -/
theorem Says.spill (h : l.Says o) (n : Nat) : (l.spill n).Says ⟨"&" ++ o.text, false, true⟩ where
  resolved := by
    rw [resolved_spill, ← h.resolved]
    rfl
  uses := by rw [uses_spill, declared_spill, h.uses]
  places := h.places.spill

end Lowered

namespace TypeTable

variable {t : TypeTable} {σ : TypeId → String} {l : Lowered} {n : Nat}
  {conversion : Conversion} {o : Operand}

/-- The spelling of a type as the operator of a conversion. -/
def operator (t : TypeTable) (σ : TypeId → String) (type : TypeId) : String :=
  Expr.parenthesize (t.needsParens type) (σ type)

/-- **One step says one step more.** -/
theorem says_wrapStep (h : l.Says o) (step : CoercionStep) :
    (t.wrapStep σ (l, n) step).1.Says (o.step (t.operator σ) step) := by
  cases step with
  | addressOf =>
    show Lowered.Says (if l.expr.isAddressable = true then ({ l with expr := .addressOf l.expr }, n)
      else (l.spill n, n + 1)).1 _
    split
    · rename_i hplace
      have hdefined : l.expr.uses ⊆ l.declared := h.uses ▸ List.subset_append_right _ _
      exact h.around .addressOf (fun _ _ => rfl) (fun _ he => he ▸ rfl) rfl
        ⟨Expr.isPlace_of_isAddressable hplace hdefined, h.places.expr⟩
    · exact h.spill n
  | deref => exact h.around .deref (fun _ _ => rfl) (fun _ he => he ▸ rfl) rfl h.places.expr
  | convert type =>
    exact h.around (.convert (t.operator σ type)) (fun _ _ => rfl) (fun _ he => he ▸ rfl) rfl
      h.places.expr

/-- **Steps say as many steps more.** -/
theorem says_wrapSteps (h : l.Says o) (steps : List CoercionStep) :
    (steps.foldl (t.wrapStep σ) (l, n)).1.Says (steps.foldl (Operand.step (t.operator σ)) o) := by
  induction steps generalizing l n o with
  | nil => exact h
  | cons step steps ih => exact ih (says_wrapStep h step)

/-- **A conversion says what it is around its source.** -/
theorem says_wrap : (t.wrap σ conversion o.expr n).1.Says (o.around (t.operator σ) conversion) := by
  have hsource := Lowered.says_source o
  cases conversion with
  | assign => exact hsource
  | coerce steps complete => exact says_wrapSteps hsource steps
  | delegate function name style =>
    cases style with
    | receiver => exact ⟨rfl, rfl, ⟨hsource.places.temps, trivial⟩⟩
    | call => exact ⟨rfl, rfl, ⟨hsource.places.temps, trivial⟩⟩

end TypeTable

/-! ## Conversions one after another -/

/-- **A conversion that has been lowered**: for a file of which package, around what, and to
what. -/
structure Lowering where
  /-- The types. -/
  types : TypeTable
  /-- The package that is generated. -/
  home : String
  /-- What is lowered. -/
  conversion : Conversion
  /-- What it is around. -/
  source : Operand
  /-- What it was lowered to. -/
  result : Lowered

namespace Lowering

/-- **Conversions are lowered one after another**, with their temporary variables numbered through
from `n` to just below `m`. Whatever else is done to the imports in between does not matter. -/
inductive InTurn : (n : Nat) → List Lowering → (m : Nat) → Prop
  /-- None at all. -/
  | nil (n : Nat) : InTurn n [] n
  /-- One, and then the others. -/
  | cons {c : Lowering} {cs : List Lowering} {names names' : Names} {m : Nat}
      (h : c.types.lower c.home c.conversion c.source.expr names = .ok c.result names')
      (hrest : InTurn names'.nextTemp cs m) : InTurn names.nextTemp (c :: cs) m

/-- **A conversion has been lowered faithfully.** -/
structure Faithful (c : Lowering) : Prop where
  /-- With the temporary variables put back, the expression is the source with the steps of the
  conversion around it, where each type stands as it is spelled. -/
  stands : ∃ σ, (∀ id ∈ c.conversion.types, ∃ names names',
      c.types.spell c.home id names = .ok (σ id) names') ∧
    c.result.resolved.operand = c.source.around (c.types.operator σ) c.conversion
  /-- The variables that are used are those that are defined. -/
  uses : c.result.uses = c.result.declared
  /-- Addresses are only taken of what is stored. -/
  places : c.result.TakesPlaces

variable {c : Lowering} {cs : List Lowering} {names names' : Names} {n m : Nat}

/-- **One conversion** is lowered faithfully, and its variables have the next numbers. -/
theorem faithful_of_lower
    (h : c.types.lower c.home c.conversion c.source.expr names = .ok c.result names') :
    c.Faithful ∧ names.nextTemp ≤ names'.nextTemp ∧ c.result.declared
      = List.range' names.nextTemp (names'.nextTemp - names.nextTemp) := by
  obtain ⟨σ, hσ⟩ := (Emitter.new c.types c.home {}).exists_spelledBy
  obtain ⟨hwrap, hadds⟩ := Emitter.lower_eq_ok hσ h
  have hresult : c.result = (c.types.wrap σ c.conversion c.source.expr names.nextTemp).1 :=
    congrArg Prod.fst hwrap
  obtain ⟨hnames, hspills⟩ := TypeTable.names_wrap (t := c.types) (σ := σ) c.conversion
    c.source.expr names.nextTemp
  have hnumber : names'.nextTemp = names.nextTemp + c.conversion.spills c.source.expr :=
    (congrArg Prod.snd hwrap).trans hspills
  refine ⟨?_, hnumber ▸ Nat.le_add_right _ _, ?_⟩
  · have hsays : c.result.Says (c.source.around (c.types.operator σ) c.conversion) :=
      hresult ▸ TypeTable.says_wrap
    exact ⟨⟨σ, hadds.spelled, hsays.resolved⟩, hsays.uses, hsays.places⟩
  · rw [← hresult, Lowered.names_eq] at hnames
    rw [hnumber, Nat.add_sub_cancel_left]
    exact List.map_injective_iff.mpr (fun _ _ => Expr.tempName_injective) hnames

/-- The variables of all conversions are numbered through. -/
theorem InTurn.declared (h : InTurn n cs m) : n ≤ m ∧
    cs.flatMap (fun c => c.result.declared) = List.range' n (m - n) := by
  induction h with
  | nil n => exact ⟨le_rfl, by rw [Nat.sub_self]; rfl⟩
  | cons h _ ih =>
    obtain ⟨-, hle, hfirst⟩ := faithful_of_lower h
    obtain ⟨hle', hrest⟩ := ih
    refine ⟨hle.trans hle', ?_⟩
    rw [List.flatMap_cons, hfirst, hrest, ← Nat.sub_add_sub_cancel hle' hle, Nat.add_comm,
      ← List.range'_append_1, Nat.add_sub_cancel' hle]

/-- **Conversions are lowered faithfully**, whatever their steps, what they are around and where
the numbers of temporary variables begin. In each, addresses are only taken of what is stored, and
the source with the steps around it is what it says once the temporary variables are put back.
However many are lowered one after another, no two temporary variables have the same name, and
each of them is used once. -/
theorem inTurn_faithful (h : InTurn n cs m) : (∀ c ∈ cs, c.Faithful) ∧
    (cs.flatMap (fun c => c.result.names)).Nodup ∧
    ∀ c ∈ cs, ∀ i ∈ c.result.declared, (cs.flatMap (fun c => c.result.uses)).count i = 1 := by
  have hfaithful : ∀ c ∈ cs, c.Faithful := by
    induction h with
    | nil => exact nofun
    | cons h _ ih => exact List.forall_mem_cons.mpr ⟨(faithful_of_lower h).1, ih⟩
  have hnodup : (cs.flatMap (fun c => c.result.declared)).Nodup := by
    rw [h.declared.2]
    exact List.nodup_range'
  refine ⟨hfaithful, ?_, fun c hc i hi => ?_⟩
  · rw [List.flatMap_congr (fun c _ => c.result.names_eq), ← List.map_flatMap]
    exact hnodup.map (fun _ _ => Expr.tempName_injective)
  · rw [List.flatMap_congr (fun c hc => (hfaithful c hc).uses)]
    exact List.count_eq_one_of_mem hnodup (List.mem_flatMap.mpr ⟨c, hc, hi⟩)

/-- A type with a name, and pointers to it. -/
def labelTypes : TypeTable :=
  ⟨#[.basic .string, .named "Label" (some "example.com/demo") ⟨0⟩, .pointer ⟨1⟩]⟩

/-- The address of a value that is converted is taken, -/
def labelAddress : Lowering where
  types := labelTypes
  home := "example.com/demo"
  conversion := .coerce [.convert ⟨1⟩, .addressOf] true
  source := ⟨"src.Name", true, false⟩
  result := ⟨[⟨0, .convert "Label" (.source "src.Name" true false)⟩], .addressOf (.temp 0)⟩

/-- and then the address of an address, which is followed back. -/
def labelDetour : Lowering where
  types := labelTypes
  home := "example.com/demo"
  conversion := .coerce [.addressOf, .addressOf, .deref, .deref, .addressOf, .convert ⟨2⟩] true
  source := ⟨"*x", true, true⟩
  result := ⟨[⟨1, .addressOf (.source "*x" true true)⟩],
    .convert "(*Label)" (.addressOf (.deref (.deref (.addressOf (.temp 1)))))⟩

/-- Each of the two has a temporary variable of its own. -/
theorem labelLowerings_faithful : InTurn 0 [labelAddress, labelDetour] 2 ∧
    labelAddress.result.temps.map Temp.text = ["tmp0 := Label(src.Name)"] ∧
    labelDetour.result.temps.map Temp.text = ["tmp1 := &*x"] ∧
    labelDetour.result.expr.text = "(*Label)(&*(*(&tmp1)))" ∧
    labelDetour.result.resolved.text = "(*Label)(&*(*(&&*x)))" ∧
    labelAddress.Faithful ∧ labelDetour.Faithful ∧
    ([labelAddress, labelDetour].flatMap (fun c => c.result.uses)).count 1 = 1 := by
  have hturn : InTurn 0 [labelAddress, labelDetour] 2 :=
    @InTurn.cons _ _ ⟨.empty, 0⟩ ⟨.empty, 1⟩ _ rfl
      (@InTurn.cons _ _ ⟨.empty, 1⟩ ⟨.empty, 2⟩ _ rfl (.nil 2))
  obtain ⟨hfaithful, -, hcount⟩ := inTurn_faithful hturn
  have hlast : labelDetour ∈ [labelAddress, labelDetour] :=
    List.mem_cons_of_mem _ List.mem_cons_self
  exact ⟨hturn, by decide, by decide, by decide, by decide, hfaithful _ List.mem_cons_self,
    hfaithful _ hlast, hcount _ hlast 1 (List.mem_singleton_self 1)⟩

end Lowering

end Crosswalk

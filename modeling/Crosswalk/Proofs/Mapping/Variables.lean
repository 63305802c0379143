import Crosswalk.Proofs.Mapping.Protocol

/-!
# Where a variable comes from

What is handed to a marker is read back, value by value, to a variable. What the reading makes
of each value on the way is said by one relation (`Scope.ReadAs`), so that whatever is asked of
variables can be answered by induction on it. A chain goes on in one way only, which is why it
does not matter whether a question is put to the reading or to the values that the chain leads
to.

The first question is whether the source of a mapping is the receiver of its function. The
specification says that it is whenever the function is a method. The variable says so only if
the chain behind the source leads to the first parameter. For a method that maps one of its
other parameters, or something it has made, the two differ
(`Program.source_is_receiver_iff`).
-/

namespace Crosswalk

namespace Scope

variable {s : Scope} {v w u : ValueId} {n : Nat} {b : Binding} {P : ValueId → Prop}

/-! ## Chains -/

/-- **A value that the function makes itself**: a constant, or a local that nothing is stored
into. -/
inductive Made (s : Scope) (w : ValueId) : Prop
  | constant {literal : Literal} (hk : s.function.kind? w = some (.const literal))
  | place {heap : Bool} (hk : s.function.kind? w = some (.alloc heap))
      (hstored : s.storedInto w = none)

/-- **A value that the function is given.** -/
def Given (s : Scope) (w : ValueId) : Prop := ∃ i, s.function.kind? w = some (.parameter i)

/-- **A chain goes on in one way.** -/
theorem Link.unique (h : s.Link v w) (h' : s.Link v u) : w = u := by
  cases h with
  | boxed hk =>
    cases h' with
    | boxed hk' => exact ValueKind.makeInterface.inj (Option.some.inj (hk.symm.trans hk'))
    | loaded hk' => cases hk.symm.trans hk'
    | stored hk' => cases hk.symm.trans hk'
  | loaded hk =>
    cases h' with
    | boxed hk' => cases hk.symm.trans hk'
    | loaded hk' => exact (ValueKind.unOp.inj (Option.some.inj (hk.symm.trans hk'))).2
    | stored hk' => cases hk.symm.trans hk'
  | stored hk hstored =>
    cases h' with
    | boxed hk' => cases hk.symm.trans hk'
    | loaded hk' => cases hk.symm.trans hk'
    | stored hk' hstored' => exact Option.some.inj (hstored.symm.trans hstored')

/-- No chain goes on from a parameter. -/
theorem Given.not_link (h : s.Given v) : ¬ s.Link v w := by
  obtain ⟨i, hk⟩ := h
  rintro (hk' | hk' | hk') <;> cases hk.symm.trans hk'

/-- No chain goes on from what the function makes. -/
theorem Made.not_link (h : s.Made v) : ¬ s.Link v w := by
  intro hlink
  cases h with
  | constant hk => rcases hlink with hk' | hk' | hk' <;> cases hk.symm.trans hk'
  | place hk hstored =>
    cases hlink with
    | boxed hk' => cases hk.symm.trans hk'
    | loaded hk' => cases hk.symm.trans hk'
    | stored hk' hstored' => cases hstored.symm.trans hstored'

/-- **What a chain leads to** is there at once, or further on. -/
theorem Link.exists_chain_iff (h : s.Link v u) :
    (∃ w, Relation.ReflTransGen s.Link v w ∧ P w) ↔
      P v ∨ ∃ w, Relation.ReflTransGen s.Link u w ∧ P w := by
  constructor
  · rintro ⟨w, hchain, hw⟩
    rcases hchain.cases_head with rfl | ⟨x, hlink, hchain⟩
    · exact .inl hw
    · exact .inr ⟨w, h.unique hlink ▸ hchain, hw⟩
  · rintro (hv | ⟨w, hchain, hw⟩)
    · exact ⟨v, .refl, hv⟩
    · exact ⟨w, .head h hchain, hw⟩

/-- A chain that does not go on leads nowhere else. -/
theorem exists_chain_iff_of_not_link (h : ∀ u, ¬ s.Link v u) :
    (∃ w, Relation.ReflTransGen s.Link v w ∧ P w) ↔ P v := by
  constructor
  · rintro ⟨w, hchain, hw⟩
    rcases hchain.cases_head with rfl | ⟨x, hlink, -⟩
    · exact hw
    · exact absurd hlink (h x)
  · exact fun hv => ⟨v, .refl, hv⟩

/-! ## What is read -/

/-- Where the parameter at a place comes from: the first one of a method is its receiver. -/
def originOf (s : Scope) (i : Nat) : BindingOrigin :=
  if i = 0 ∧ s.function.isMethod = true then .receiver else .parameter i

theorem originOf_eq_receiver_iff {i : Nat} :
    s.originOf i = .receiver ↔ i = 0 ∧ s.function.isMethod = true := by
  unfold originOf
  split
  · exact ⟨fun _ => ‹_›, fun _ => rfl⟩
  · exact ⟨nofun, fun h => absurd h ‹_›⟩

/-- **What variable a value is read as**, by what the value is. -/
inductive ReadAs (s : Scope) : ValueId → Binding → Prop
  /-- A constant has no name. -/
  | constant {v : ValueId} {literal : Literal} {type : TypeId} {name : Option String}
      (hv : s.function.value? v = some ⟨.const literal, some type, name⟩) :
      ReadAs s v ⟨none, type, true, .constant⟩
  /-- A parameter is itself. -/
  | parameter {v : ValueId} {i : Nat} {type : TypeId} {name : Option String}
      (hv : s.function.value? v = some ⟨.parameter i, some type, name⟩) :
      ReadAs s v ⟨name, type, false, s.originOf i⟩
  /-- So is a local that nothing is stored into. -/
  | place {v : ValueId} {heap : Bool} {type : TypeId} {name : Option String}
      (hv : s.function.value? v = some ⟨.alloc heap, some type, name⟩)
      (hstored : s.storedInto v = none) : ReadAs s v ⟨name, type, true, .localVariable⟩
  /-- Any other local is what it holds, at its own type, and by its own name if that has
  none. -/
  | held {v stored : ValueId} {heap : Bool} {type : TypeId} {name : Option String} {b : Binding}
      (hv : s.function.value? v = some ⟨.alloc heap, some type, name⟩)
      (hstored : s.storedInto v = some stored) (h : ReadAs s stored b) :
      ReadAs s v { b with type, name := b.name <|> name }
  /-- What is in an interface is read as it is. -/
  | boxed {v inner : ValueId} {b : Binding}
      (hk : s.function.kind? v = some (.makeInterface inner)) (h : ReadAs s inner b) :
      ReadAs s v b
  /-- What is loaded has the type behind that of its address. -/
  | loaded {v inner : ValueId} {type : TypeId} {b : Binding}
      (hk : s.function.kind? v = some (.unOp .deref inner)) (h : ReadAs s inner b)
      (hderef : s.program.types.deref b.type = .ok type) : ReadAs s v { b with type }

theorem typed_eq_ok_iff {value : Value} {type : TypeId} :
    typed v value = .ok type ↔ value.type = some type := by
  unfold typed
  cases value.type with
  | some own =>
    constructor
    · exact fun h => congrArg some (Except.ok.inj h)
    · exact fun h => congrArg Except.ok (Option.some.inj h)
  | none => exact ⟨nofun, nofun⟩

/-- **Reading a variable** goes by the relation. -/
theorem readAs_of_bindingTo (h : s.bindingTo n v = .ok b) : s.ReadAs v b := by
  induction n generalizing v b with
  | zero => cases h
  | succ n ih =>
    obtain ⟨⟨kind, type, name⟩, hvalue, h⟩ := bind_eq_ok_iff.mp h
    have hv := value_eq_ok_iff.mp hvalue
    have hk := Func.kind?_of_value? hv
    split at h
    · rename_i literal hkind
      obtain ⟨own, htype, h⟩ := bind_eq_ok_iff.mp h
      obtain rfl := Except.ok.inj h
      obtain rfl := typed_eq_ok_iff.mp htype
      obtain rfl := hkind
      exact .constant hv
    · rename_i inner hkind
      obtain ⟨read, hread, h⟩ := bind_eq_ok_iff.mp h
      obtain ⟨own, htype, h⟩ := bind_eq_ok_iff.mp h
      obtain rfl := Except.ok.inj h
      exact .loaded (hkind ▸ hk) (ih hread) (liftM_eq_ok_iff.mp htype)
    · rename_i i hkind
      obtain ⟨own, htype, h⟩ := bind_eq_ok_iff.mp h
      obtain rfl := Except.ok.inj h
      obtain rfl := typed_eq_ok_iff.mp htype
      obtain rfl := hkind
      exact .parameter hv
    · rename_i inner hkind
      exact .boxed (hkind ▸ hk) (ih h)
    · rename_i heap hkind
      obtain ⟨own, htype, h⟩ := bind_eq_ok_iff.mp h
      obtain rfl := typed_eq_ok_iff.mp htype
      obtain rfl := hkind
      split at h
      · rename_i stored hstored
        obtain ⟨read, hread, h⟩ := bind_eq_ok_iff.mp h
        obtain rfl := Except.ok.inj h
        exact .held hv hstored (ih hread)
      · rename_i hstored
        obtain rfl := Except.ok.inj h
        exact .place hv hstored
    · cases h

/-! ## The receiver -/

/-- **The chain behind a value leads to the first parameter.** -/
def LeadsToFirst (s : Scope) (v : ValueId) : Prop :=
  ∃ w, Relation.ReflTransGen s.Link v w ∧ s.function.kind? w = some (.parameter 0)

/-- **A variable is the receiver** of a method just when the chain behind it leads to the first
parameter. -/
theorem ReadAs.origin_eq_receiver_iff (h : s.ReadAs v b) :
    b.origin = .receiver ↔ s.function.isMethod = true ∧ s.LeadsToFirst v := by
  unfold LeadsToFirst
  induction h with
  | constant hv =>
    have hk := Func.kind?_of_value? hv
    rw [exists_chain_iff_of_not_link (fun u => Made.not_link (.constant hk)), hk]
    exact ⟨nofun, nofun⟩
  | parameter hv =>
    have hk := Func.kind?_of_value? hv
    rw [exists_chain_iff_of_not_link (fun u => Given.not_link ⟨_, hk⟩), hk]
    show s.originOf _ = .receiver ↔ _
    rw [originOf_eq_receiver_iff, Option.some_inj, ValueKind.parameter.injEq, and_comm]
  | place hv hstored =>
    have hk := Func.kind?_of_value? hv
    rw [exists_chain_iff_of_not_link (fun u => Made.not_link (.place hk hstored)), hk]
    exact ⟨nofun, nofun⟩
  | held hv hstored h ih =>
    have hk := Func.kind?_of_value? hv
    rw [(Link.stored hk hstored).exists_chain_iff, hk]
    simpa using ih
  | boxed hk h ih =>
    rw [(Link.boxed hk).exists_chain_iff, hk]
    simpa using ih
  | loaded hk h hderef ih =>
    rw [(Link.loaded hk).exists_chain_iff, hk]
    simpa using ih

end Scope

namespace Program

variable {p : Program} {settings : Settings} {id : FunctionId} {spec : MappingSpec}

/-- **When the source that a specification takes for the receiver is the receiver.** A function
of a valid program that is read for a specification hands a variable to its first marker call as
the source. The specification says that the source is the receiver if the function is a method;
the variable says so if, moreover, the chain behind the source leads to the first parameter. So
the two agree just when the function is no method, or its source does come from its first
parameter. A source that is the receiver is always said to be. -/
theorem source_is_receiver_iff (h : p.validate = .ok ())
    (hspec : p.interpret settings id = .ok (some spec)) :
    ∃ f r a b rest source, p.function? id = some f ∧ Reading.ofFunction p settings f = .ok r ∧
      r.Opens [a, b] rest ∧ r.scope.binding a = .ok source ∧
      spec.sourceIsReceiver = f.isMethod ∧
      (source.origin = .receiver ↔ f.isMethod = true ∧ r.scope.LeadsToFirst a) ∧
      (source.origin = .receiver → spec.sourceIsReceiver = true) ∧
      ((spec.sourceIsReceiver = true ↔ source.origin = .receiver) ↔
        (f.isMethod = true → r.scope.LeadsToFirst a)) := by
  obtain ⟨f, r, hf, hr, -, hfunction, haccepts⟩ := exists_accepts_of_interpret h hspec
  cases haccepts with
  | @mk args rest first additions hopens hfirst hrest hshown =>
    obtain @⟨a, b, source, dest, returned, fails, hs, hd, hgives⟩ := hfirst
    have horigin := (Scope.readAs_of_bindingTo hs).origin_eq_receiver_iff
    rw [hfunction] at horigin
    -- what the other calls say leaves the flag alone
    have hflag : (additions.foldl Addition.apply
        (r.opening source dest returned fails)).sourceIsReceiver = f.isMethod := by
      rw [Reading.foldl_apply_eq]
      exact congrArg Func.isMethod hfunction
    refine ⟨f, r, a, b, rest, source, hf, hr, hopens, hs, hflag, horigin, fun hreceiver => ?_, ?_⟩
    · rw [hflag]
      exact (horigin.mp hreceiver).1
    · rw [hflag, horigin]
      tauto

/-- Two methods that map contacts into cards: one of contacts themselves,
`func (contact *Contact) ToCard(card *Card)`, and one of printers,
`func (printer *Printer) ToCard(contact *Contact, card *Card)`. Either calls
`CreateMap(contact, card)`. -/
def printerProgram : Program where
  package := "example.com/cards"
  types := ⟨#[.basic .string,
    TypeTable.plainStruct [("Mail", ⟨0⟩)],
    .named "Contact" (some "example.com/cards") ⟨1⟩,
    .pointer ⟨2⟩,
    .named "Card" (some "example.com/cards") ⟨1⟩,
    .pointer ⟨4⟩,
    TypeTable.plainStruct [],
    .named "Printer" (some "example.com/cards") ⟨6⟩,
    .pointer ⟨7⟩,
    .interface [],
    .signature [] [] false]⟩
  functions := #[
    .external ⟨0⟩ "CreateMap" "github.com/paultyng/go-typemapper" ⟨none, [], [], false⟩,
    { id := ⟨1⟩
      name := "ToCard"
      package := "example.com/cards"
      file := some "cards.go"
      signature := ⟨some ⟨"contact", ⟨3⟩⟩, [⟨"card", ⟨5⟩⟩], [], false⟩
      params := [⟨0⟩, ⟨1⟩]
      blocks := #[⟨⟨0⟩, [⟨2⟩, ⟨3⟩, ⟨5⟩, ⟨6⟩], none⟩]
      values := #[⟨.parameter 0, some ⟨3⟩, some "contact"⟩, ⟨.parameter 1, some ⟨5⟩, some "card"⟩,
        ⟨.makeInterface ⟨0⟩, some ⟨9⟩, none⟩, ⟨.makeInterface ⟨1⟩, some ⟨9⟩, none⟩,
        ⟨.functionRef ⟨0⟩, some ⟨10⟩, none⟩, ⟨.call ⟨4⟩ [⟨2⟩, ⟨3⟩], none, none⟩,
        ⟨.ret [], none, none⟩]
      synthetic := none },
    { id := ⟨2⟩
      name := "ToCard"
      package := "example.com/cards"
      file := some "cards.go"
      signature := ⟨some ⟨"printer", ⟨8⟩⟩, [⟨"contact", ⟨3⟩⟩, ⟨"card", ⟨5⟩⟩], [], false⟩
      params := [⟨0⟩, ⟨1⟩, ⟨2⟩]
      blocks := #[⟨⟨0⟩, [⟨3⟩, ⟨4⟩, ⟨6⟩, ⟨7⟩], none⟩]
      values := #[⟨.parameter 0, some ⟨8⟩, some "printer"⟩,
        ⟨.parameter 1, some ⟨3⟩, some "contact"⟩, ⟨.parameter 2, some ⟨5⟩, some "card"⟩,
        ⟨.makeInterface ⟨1⟩, some ⟨9⟩, none⟩, ⟨.makeInterface ⟨2⟩, some ⟨9⟩, none⟩,
        ⟨.functionRef ⟨0⟩, some ⟨10⟩, none⟩, ⟨.call ⟨5⟩ [⟨3⟩, ⟨4⟩], none, none⟩,
        ⟨.ret [], none, none⟩]
      synthetic := none }]

theorem printerProgram_valid : printerProgram.validate = .ok () := by decide +kernel

/-- The source of the method of contacts is its receiver, and is said to be. -/
theorem printerProgram_contact_is_receiver : printerProgram.validate = .ok () ∧
    ∃ r spec a source, Reading.ofFunction printerProgram {} printerProgram.functions[1] = .ok r ∧
      printerProgram.interpret {} ⟨1⟩ = .ok (some spec) ∧ r.scope.binding a = .ok source ∧
      source.origin = .receiver ∧ spec.sourceIsReceiver = true := by
  have hread : answersWith Option.isSome (printerProgram.interpret {} ⟨1⟩) = true := by
    decide +kernel
  have hmarks : answersWith (fun r : Reading =>
        decide (r.marks.head? = some (.direct .createMap, [⟨2⟩, ⟨3⟩])))
      (Reading.ofFunction printerProgram {} printerProgram.functions[1]) = true := by
    decide +kernel
  obtain ⟨found, hfound, hsome⟩ := exists_of_answersWith hread
  obtain ⟨spec, rfl⟩ := Option.isSome_iff_exists.mp hsome
  obtain ⟨f, r, a, b, rest, source, hf, hr, hopens, hsource, -, horigin, hflag, -⟩ :=
    source_is_receiver_iff printerProgram_valid hfound
  obtain rfl : printerProgram.functions[1] = f := Option.some.inj hf
  obtain ⟨r', hr', hfirst⟩ := exists_of_answersWith hmarks
  obtain rfl : r = r' := Except.ok.inj (hr.symm.trans hr')
  have hfirst := of_decide_eq_true hfirst
  rw [hopens, List.head?_cons, Option.some_inj, Prod.mk.injEq, List.cons.injEq] at hfirst
  obtain rfl := hfirst.2.1
  -- the value that is handed over is the receiver in an interface
  have hleads : r.scope.LeadsToFirst ⟨2⟩ := by
    have hfunction := Reading.function_of_ofFunction hr
    exact ⟨⟨0⟩, .single (.boxed (hfunction ▸ rfl)), hfunction ▸ rfl⟩
  have hreceiver := horigin.mpr ⟨rfl, hleads⟩
  exact ⟨printerProgram_valid, r, spec, ⟨2⟩, source, hr, hfound, hsource, hreceiver,
    hflag hreceiver⟩

/-- **The source of a method need not be its receiver**: the method of printers maps a contact,
and its specification says that the contact is the receiver. -/
theorem printerProgram_contact_no_receiver : printerProgram.validate = .ok () ∧
    ∃ r spec source, Reading.ofFunction printerProgram {} printerProgram.functions[2] = .ok r ∧
      r.marks = [(.direct .createMap, [⟨3⟩, ⟨4⟩])] ∧
      printerProgram.interpret {} ⟨2⟩ = .ok (some spec) ∧ r.scope.binding ⟨3⟩ = .ok source ∧
      source.origin = .parameter 1 ∧ spec.sourceIsReceiver = true := by
  have hread : answersWith (Option.any (fun spec => spec.sourceIsReceiver))
      (printerProgram.interpret {} ⟨2⟩) = true := by decide +kernel
  have hmarks : answersWith (fun r : Reading =>
        decide (r.marks = [(.direct .createMap, [⟨3⟩, ⟨4⟩])]) &&
          answersWith (fun source : Binding => decide (source.origin = .parameter 1))
            (r.scope.binding ⟨3⟩))
      (Reading.ofFunction printerProgram {} printerProgram.functions[2]) = true := by
    decide +kernel
  obtain ⟨found, hfound, hany⟩ := exists_of_answersWith hread
  obtain ⟨spec, rfl, hflag⟩ := (Option.any_eq_true _ _).mp hany
  obtain ⟨r, hr, hboth⟩ := exists_of_answersWith hmarks
  obtain ⟨hfirst, hsource⟩ := Bool.and_eq_true_iff.mp hboth
  obtain ⟨source, hsource, horigin⟩ := exists_of_answersWith hsource
  exact ⟨printerProgram_valid, r, spec, source, hr, of_decide_eq_true hfirst, hfound, hsource,
    of_decide_eq_true horigin, hflag⟩

end Program

end Crosswalk

import Crosswalk.Proofs.Mapping.Variables

/-!
# The type of a variable

A variable is given a type while it is read: a constant, a parameter and a local have their own,
boxes are passed through, and a load takes a pointer off what was found behind it. A value has a
recorded type as well, and one would like the two to agree.

They do as long as what is loaded through is of a pointer type proper (`Func.Plain`). A load takes
off a pointer, but no name: where it goes through a value of a named pointer type, it leaves the
type as it is, and so do all loads after it. The reading has then come to a halt at the named type
(`Func.HaltsAt`), and the variable has that type in the place of the one of the value
(`Program.binding_type_iff`).
-/

namespace Crosswalk

/-! ## Taking off a pointer -/

namespace TypeTable

variable {t : TypeTable} {id type elem : TypeId} {k : TypeKind}

theorem deref_of_kind? (hk : t.kind? id = some k) : t.deref id = .ok (k.pointee?.getD id) := by
  unfold deref
  rw [pointee_of_kind? hk]
  rfl

theorem exists_kind_of_deref (h : t.deref id = .ok type) : ∃ k, t.kind? id = some k := by
  obtain ⟨found, hfound, -⟩ := bind_eq_ok_iff.mp h
  obtain ⟨k, hk, -⟩ := bind_eq_ok_iff.mp hfound
  exact ⟨k, kind_eq_ok_iff.mp hk⟩

/-- What is no pointer stays as it is. -/
theorem eq_of_deref (h : t.deref id = .ok type) (hno : ∀ e, t.kind? id ≠ some (.pointer e)) :
    type = id := by
  obtain ⟨k, hk⟩ := exists_kind_of_deref h
  have hnone : k.pointee? = none :=
    Option.eq_none_iff_forall_ne_some.mpr
      (fun e he => hno e (hk.trans (congrArg some (TypeKind.pointee?_eq_some he))))
  rw [deref_of_kind? hk, hnone] at h
  exact (Except.ok.inj h).symm

/-- **A type whose values point to values of another**, behind any number of names. -/
def Addresses (t : TypeTable) (type elem : TypeId) : Prop :=
  ∃ pointer, t.underlying type = .ok pointer ∧ t.kind? pointer = some (.pointer elem)

/-- What points to something is a pointer type or a name for one. -/
theorem Addresses.cases (h : t.Addresses type elem) : t.kind? type = some (.pointer elem) ∨
    ∃ name package underlying, t.kind? type = some (.named name package underlying) := by
  obtain ⟨pointer, hunder, hpointer⟩ := h
  obtain ⟨k, hk⟩ : ∃ k, t.kind? type = some k := by
    obtain ⟨k, hk, -⟩ := bind_eq_ok_iff.mp (show t.underlyingUpTo (t.size + 1) type = _ from hunder)
    exact ⟨k, kind_eq_ok_iff.mp hk⟩
  cases hdeclared : k.declared? with
  | none =>
    obtain rfl := Except.ok.inj ((underlying_of_isBare hk hdeclared).symm.trans hunder)
    exact .inl hpointer
  | some u =>
    obtain ⟨name, package, rfl⟩ := TypeKind.declared?_eq_some hdeclared
    exact .inr ⟨name, package, u, hk⟩

/-- A pointer type points to its element and to nothing else. -/
theorem Addresses.eq_of_pointer {e : TypeId} (h : t.Addresses type elem)
    (hk : t.kind? type = some (.pointer e)) : elem = e := by
  rcases h.cases with hk' | ⟨name, package, underlying, hk'⟩
  · exact TypeKind.pointer.inj (Option.some.inj (hk'.symm.trans hk))
  · cases hk.symm.trans hk'

end TypeTable

/-! ## The types that values are recorded with -/

namespace Func

variable {f : Func} {t : TypeTable} {v w inner : ValueId} {type : TypeId}

/-- The recorded type of a value. -/
def type? (f : Func) (v : ValueId) : Option TypeId := (f.value? v).bind Value.type

theorem type?_of_value? {value : Value} (h : f.value? v = some value) : f.type? v = value.type := by
  unfold type?
  rw [h]
  rfl

/-- The value is something put into an interface. -/
def IsBox (f : Func) (v : ValueId) : Prop := ∃ inner, f.kind? v = some (.makeInterface inner)

/-- **What is left of a value when boxes are removed.** -/
inductive Unboxed (f : Func) : ValueId → ValueId → Prop
  | bare {v : ValueId} (h : ¬ f.IsBox v) : Unboxed f v v
  | boxed {v inner w : ValueId} (hk : f.kind? v = some (.makeInterface inner))
      (h : Unboxed f inner w) : Unboxed f v w

/-- **Loads are well typed**: what is loaded is of the type that its address points to. -/
def LoadsTyped (t : TypeTable) (f : Func) : Prop :=
  ∀ v address, f.kind? v = some (.unOp .deref address) →
    ∃ type addressType elem, f.type? v = some type ∧ f.type? address = some addressType ∧
      t.Addresses addressType elem ∧ t.identical type elem = .ok true

/-- **Stores into locals are well typed**: what is stored is of the type that the local is a place
for. -/
def StoresTyped (t : TypeTable) (f : Func) : Prop :=
  ∀ v address stored heap, f.kind? v = some (.store address stored) →
    f.kind? address = some (.alloc heap) →
    ∃ type addressType elem, f.type? stored = some type ∧ f.type? address = some addressType ∧
      t.Addresses addressType elem ∧ t.identical type elem = .ok true

/-- **All loads behind a value go through pointers proper.** Behind a local one need not look. -/
inductive Plain (t : TypeTable) (f : Func) : ValueId → Prop
  | start {v : ValueId} (hbox : ¬ f.IsBox v)
      (hload : ∀ address, f.kind? v ≠ some (.unOp .deref address)) : Plain t f v
  | boxed {v inner : ValueId} (hk : f.kind? v = some (.makeInterface inner))
      (h : Plain t f inner) : Plain t f v
  | loaded {v address : ValueId} {type elem : TypeId}
      (hk : f.kind? v = some (.unOp .deref address)) (hbox : ¬ f.IsBox address)
      (htype : f.type? address = some type) (hpointer : t.kind? type = some (.pointer elem))
      (h : Plain t f address) : Plain t f v

/-- **The reading of a value halts at a named type**: a load goes through a value of this type,
and the ones before it through pointers proper. -/
inductive HaltsAt (t : TypeTable) (f : Func) : ValueId → TypeId → Prop
  | here {v address : ValueId} {type underlying : TypeId} {name : String} {package : Option String}
      (hk : f.kind? v = some (.unOp .deref address)) (hbox : ¬ f.IsBox address)
      (htype : f.type? address = some type)
      (hnamed : t.kind? type = some (.named name package underlying))
      (h : Plain t f address) : HaltsAt t f v type
  | boxed {v inner : ValueId} {type : TypeId} (hk : f.kind? v = some (.makeInterface inner))
      (h : HaltsAt t f inner type) : HaltsAt t f v type
  | loaded {v address : ValueId} {type : TypeId} (hk : f.kind? v = some (.unOp .deref address))
      (h : HaltsAt t f address type) : HaltsAt t f v type

/-- **A load behind a value goes through a box.** -/
inductive LoadsBox (f : Func) : ValueId → Prop
  | here {v address : ValueId} (hk : f.kind? v = some (.unOp .deref address))
      (hbox : f.IsBox address) : LoadsBox f v
  | boxed {v inner : ValueId} (hk : f.kind? v = some (.makeInterface inner))
      (h : LoadsBox f inner) : LoadsBox f v
  | loaded {v address : ValueId} (hk : f.kind? v = some (.unOp .deref address))
      (h : LoadsBox f address) : LoadsBox f v

theorem not_isBox_of_kind? {kind : ValueKind} (hk : f.kind? v = some kind)
    (hkind : ∀ inner, kind ≠ .makeInterface inner) : ¬ f.IsBox v :=
  fun ⟨inner, hk'⟩ => hkind inner (Option.some.inj (hk.symm.trans hk'))

theorem plain_of_kind? {kind : ValueKind} (hk : f.kind? v = some kind)
    (hbox : ∀ inner, kind ≠ .makeInterface inner)
    (hload : ∀ address, kind ≠ .unOp .deref address) : f.Plain t v :=
  .start (not_isBox_of_kind? hk hbox)
    (fun address hk' => hload address (Option.some.inj (hk.symm.trans hk')))

namespace Unboxed

/-- A value that is no box is left as it is. -/
theorem eq_of_not_isBox (h : f.Unboxed v w) (hbox : ¬ f.IsBox v) : v = w := by
  cases h with
  | bare => rfl
  | boxed hk => exact absurd ⟨_, hk⟩ hbox

theorem of_boxed (h : f.Unboxed v w) (hk : f.kind? v = some (.makeInterface inner)) :
    f.Unboxed inner w := by
  cases h with
  | bare hbox => exact absurd ⟨_, hk⟩ hbox
  | boxed hk' h =>
    obtain rfl := ValueKind.makeInterface.inj (Option.some.inj (hk.symm.trans hk'))
    exact h

end Unboxed

theorem HaltsAt.exists_named (h : f.HaltsAt t v type) :
    ∃ name package underlying, t.kind? type = some (.named name package underlying) := by
  induction h with
  | here hk hbox htype hnamed h => exact ⟨_, _, _, hnamed⟩
  | boxed hk h ih => exact ih
  | loaded hk h ih => exact ih

/-- Where loads are well typed, a box is loaded through only if it is typed as a pointer, and not
as an interface. -/
theorem LoadsBox.exists_box (hloads : f.LoadsTyped t) (h : f.LoadsBox v) :
    ∃ box type elem, f.IsBox box ∧ f.type? box = some type ∧ t.Addresses type elem := by
  induction h with
  | here hk hbox =>
    obtain ⟨-, addressType, elem, -, htype, hpoints, -⟩ := hloads _ _ hk
    exact ⟨_, addressType, elem, hbox, htype, hpoints⟩
  | boxed hk h ih => exact ih
  | loaded hk h ih => exact ih

end Func

/-! ## The types that variables are read at -/

namespace Scope

variable {s : Scope} {v w inner address : ValueId} {b : Binding} {type : TypeId}

namespace ReadAs

/-- A box is read as what is in it. -/
theorem of_boxed (h : s.ReadAs v b) (hk : s.function.kind? v = some (.makeInterface inner)) :
    s.ReadAs inner b := by
  cases h with
  | boxed hk' h =>
    obtain rfl := ValueKind.makeInterface.inj (Option.some.inj (hk.symm.trans hk'))
    exact h
  | loaded hk' => cases hk.symm.trans hk'
  | constant hv => cases hk.symm.trans (Func.kind?_of_value? hv)
  | parameter hv => cases hk.symm.trans (Func.kind?_of_value? hv)
  | place hv => cases hk.symm.trans (Func.kind?_of_value? hv)
  | held hv => cases hk.symm.trans (Func.kind?_of_value? hv)

/-- What is loaded is read at the type behind that of its address. -/
theorem of_loaded (h : s.ReadAs v b) (hk : s.function.kind? v = some (.unOp .deref address)) :
    ∃ read, s.ReadAs address read ∧ s.program.types.deref read.type = .ok b.type := by
  cases h with
  | loaded hk' h hderef =>
    obtain rfl := (ValueKind.unOp.inj (Option.some.inj (hk.symm.trans hk'))).2
    exact ⟨_, h, hderef⟩
  | boxed hk' => cases hk.symm.trans hk'
  | constant hv => cases hk.symm.trans (Func.kind?_of_value? hv)
  | parameter hv => cases hk.symm.trans (Func.kind?_of_value? hv)
  | place hv => cases hk.symm.trans (Func.kind?_of_value? hv)
  | held hv => cases hk.symm.trans (Func.kind?_of_value? hv)

/-- Everything else is read at its own type. -/
theorem type?_eq (h : s.ReadAs v b) (hbox : ¬ s.function.IsBox v)
    (hload : ∀ address, s.function.kind? v ≠ some (.unOp .deref address)) :
    s.function.type? v = some b.type := by
  cases h with
  | boxed hk => exact absurd ⟨_, hk⟩ hbox
  | loaded hk => exact absurd hk (hload _)
  | constant hv => exact Func.type?_of_value? hv
  | parameter hv => exact Func.type?_of_value? hv
  | place hv => exact Func.type?_of_value? hv
  | held hv => exact Func.type?_of_value? hv

/-- What is read as a variable is of some type, boxes removed. -/
theorem exists_unboxed (hloads : s.function.LoadsTyped s.program.types) (h : s.ReadAs v b) :
    ∃ w type, s.function.Unboxed v w ∧ s.function.type? w = some type := by
  have hown : ∀ {v value type}, s.function.value? v = some value →
      (∀ inner, value.kind ≠ .makeInterface inner) → value.type = some type →
      ∃ w type, s.function.Unboxed v w ∧ s.function.type? w = some type :=
    fun hv hkind htype => ⟨_, _, .bare (Func.not_isBox_of_kind? (Func.kind?_of_value? hv) hkind),
      (Func.type?_of_value? hv).trans htype⟩
  induction h with
  | constant hv => exact hown hv nofun rfl
  | parameter hv => exact hown hv nofun rfl
  | place hv hstored => exact hown hv nofun rfl
  | held hv hstored h ih => exact hown hv nofun rfl
  | boxed hk h ih =>
    obtain ⟨w, type, hunboxed, htype⟩ := ih
    exact ⟨w, type, .boxed hk hunboxed, htype⟩
  | loaded hk h hderef ih =>
    obtain ⟨type, -, -, htype, -⟩ := hloads _ _ hk
    exact ⟨_, type, .bare (Func.not_isBox_of_kind? hk nofun), htype⟩

/-- **A reading is plain, or it halts**, unless it loads through a box. -/
theorem plain_or_haltsAt (hloads : s.function.LoadsTyped s.program.types) (h : s.ReadAs v b)
    (hbox : ¬ s.function.LoadsBox v) : s.function.Plain s.program.types v ∨
      ∃ type, s.function.HaltsAt s.program.types v type := by
  induction h with
  | constant hv => exact .inl (Func.plain_of_kind? (Func.kind?_of_value? hv) nofun nofun)
  | parameter hv => exact .inl (Func.plain_of_kind? (Func.kind?_of_value? hv) nofun nofun)
  | place hv hstored => exact .inl (Func.plain_of_kind? (Func.kind?_of_value? hv) nofun nofun)
  | held hv hstored h ih =>
    exact .inl (Func.plain_of_kind? (Func.kind?_of_value? hv) nofun nofun)
  | boxed hk h ih =>
    rcases ih (fun h => hbox (.boxed hk h)) with hplain | ⟨type, hhalts⟩
    · exact .inl (.boxed hk hplain)
    · exact .inr ⟨type, .boxed hk hhalts⟩
  | loaded hk h hderef ih =>
    rcases ih (fun h => hbox (.loaded hk h)) with hplain | ⟨type, hhalts⟩
    · -- the type of the address decides
      have hbare : ¬ s.function.IsBox _ := fun h => hbox (.here hk h)
      obtain ⟨-, addressType, elem, -, htype, hpoints, -⟩ := hloads _ _ hk
      rcases hpoints.cases with hpointer | ⟨name, package, underlying, hnamed⟩
      · exact .inl (.loaded hk hbare htype hpointer hplain)
      · exact .inr ⟨addressType, .here hk hbare htype hnamed hplain⟩
    · exact .inr ⟨type, .loaded hk hhalts⟩

/-- **Through pointers proper a variable gets the type of its value.** -/
theorem identical_of_plain (hloads : s.function.LoadsTyped s.program.types) (h : s.ReadAs v b)
    (hplain : s.function.Plain s.program.types v) (hunboxed : s.function.Unboxed v w)
    (htype : s.function.type? w = some type) :
    s.program.types.identical b.type type = .ok true := by
  induction hplain generalizing b w type with
  | start hbox hload =>
    obtain rfl := hunboxed.eq_of_not_isBox hbox
    obtain rfl := Option.some.inj ((h.type?_eq hbox hload).symm.trans htype)
    exact TypeTable.identical_self _ _
  | boxed hk hplain ih => exact ih (h.of_boxed hk) (hunboxed.of_boxed hk) htype
  | @loaded v address own elem hk hbox hown hpointer hplain ih =>
    obtain rfl := hunboxed.eq_of_not_isBox (Func.not_isBox_of_kind? hk nofun)
    obtain ⟨type', own', elem', htype', hown', hpoints, hident⟩ := hloads _ _ hk
    obtain rfl := Option.some.inj (htype.symm.trans htype')
    obtain rfl := Option.some.inj (hown.symm.trans hown')
    obtain rfl := hpoints.eq_of_pointer hpointer
    -- the address was read at a pointer to the same
    obtain ⟨read, hread, hderef⟩ := h.of_loaded hk
    have hsame := TypeTable.identical_symm (ih hread (.bare hbox) hown)
    obtain ⟨e, he, hsame⟩ := TypeTable.exists_pointer_of_identical hsame hpointer
    obtain rfl : e = b.type := Except.ok.inj ((TypeTable.deref_of_kind? he).symm.trans hderef)
    exact TypeTable.identical_symm (TypeTable.identical_trans hident hsame)

/-- **Where the reading halts, a variable has the type at which it does.** -/
theorem identical_of_haltsAt (hloads : s.function.LoadsTyped s.program.types) (h : s.ReadAs v b)
    (hhalts : s.function.HaltsAt s.program.types v type) :
    s.program.types.identical b.type type = .ok true := by
  obtain ⟨name, package, underlying, hnamed⟩ := hhalts.exists_named
  -- a load leaves what is of a named type as it is
  have hstays : ∀ {id found}, s.program.types.identical id type = .ok true →
      s.program.types.deref id = .ok found → found = id := by
    intro id found hident hderef
    refine TypeTable.eq_of_deref hderef (fun e he => ?_)
    obtain ⟨e', he', -⟩ := TypeTable.exists_pointer_of_identical hident he
    cases he'.symm.trans hnamed
  induction hhalts generalizing b with
  | here hk hbox htype _ hplain =>
    obtain ⟨read, hread, hderef⟩ := h.of_loaded hk
    have hident := hread.identical_of_plain hloads hplain (.bare hbox) htype
    rw [hstays hident hderef]
    exact hident
  | boxed hk hhalts ih => exact ih (h.of_boxed hk) hnamed hstays
  | loaded hk hhalts ih =>
    obtain ⟨read, hread, hderef⟩ := h.of_loaded hk
    have hident := ih hread hnamed hstays
    rw [hstays hident hderef]
    exact hident

end ReadAs

end Scope

namespace Program

variable {p : Program} {id : FunctionId} {f : Func}

/-- **When a variable has the type of its value.** In a function of a valid program whose loads are
well typed, what is read as a variable is of some type, boxes removed. The variable has that type,
unless a load behind it goes through a value of a named pointer type that denotes another one.
Loads through boxes are left out; where loads are well typed, there are none through a box that is
typed as an interface. -/
theorem binding_type_iff (hp : p.validate = .ok ()) (hf : p.function? id = some f)
    (hloads : f.LoadsTyped p.types) :
    ∃ s, Scope.ofFunction p f = .ok s ∧ ∀ v b, s.binding v = .ok b →
      ∃ w type, f.Unboxed v w ∧ f.type? w = some type ∧
        (f.Plain p.types v → p.types.identical b.type type = .ok true) ∧
        (∀ halt, f.HaltsAt p.types v halt → p.types.identical b.type halt = .ok true) ∧
        (¬ f.LoadsBox v → (p.types.identical b.type type = .ok true ↔
          ∀ halt, f.HaltsAt p.types v halt → p.types.identical halt type = .ok true)) ∧
        (f.LoadsBox v → ∃ box boxType elem, f.IsBox box ∧ f.type? box = some boxType ∧
          p.types.Addresses boxType elem) := by
  obtain ⟨s, hs, rfl, rfl, -, -⟩ := Scope.exists_ofFunction (tame_of_validate hp) hf
  refine ⟨s, hs, fun v b hb => ?_⟩
  have hread := Scope.readAs_of_bindingTo hb
  obtain ⟨w, type, hunboxed, htype⟩ := hread.exists_unboxed hloads
  have hhalt : ∀ halt, s.function.HaltsAt s.program.types v halt →
      s.program.types.identical b.type halt = .ok true :=
    fun halt hhalts => hread.identical_of_haltsAt hloads hhalts
  refine ⟨w, type, hunboxed, htype, fun hplain => ?_, hhalt, fun hbox => ⟨fun h halt hhalts => ?_,
    fun h => ?_⟩, fun hbox => hbox.exists_box hloads⟩
  · exact hread.identical_of_plain hloads hplain hunboxed htype
  · exact TypeTable.identical_trans (TypeTable.identical_symm (hhalt halt hhalts)) h
  · rcases hread.plain_or_haltsAt hloads hbox with hplain | ⟨halt, hhalts⟩
    · exact hread.identical_of_plain hloads hplain hunboxed htype
    · exact TypeTable.identical_trans (hhalt halt hhalts) (h halt hhalts)

/-- A function that maps what `contact *Contact` points to into what `card CardPtr` points to,
where `type CardPtr *Card`. -/
def cardPtrFunc : Func where
  id := ⟨1⟩
  name := "ToCard"
  package := "example.com/cards"
  file := some "cards.go"
  signature := ⟨none, [⟨"contact", ⟨3⟩⟩, ⟨"card", ⟨6⟩⟩], [], false⟩
  params := [⟨0⟩, ⟨1⟩]
  blocks := #[⟨⟨0⟩, [⟨2⟩, ⟨3⟩, ⟨4⟩, ⟨5⟩, ⟨7⟩, ⟨8⟩], none⟩]
  values := #[⟨.parameter 0, some ⟨3⟩, some "contact"⟩, ⟨.parameter 1, some ⟨6⟩, some "card"⟩,
    ⟨.unOp .deref ⟨0⟩, some ⟨2⟩, none⟩, ⟨.unOp .deref ⟨1⟩, some ⟨4⟩, none⟩,
    ⟨.makeInterface ⟨2⟩, some ⟨7⟩, none⟩, ⟨.makeInterface ⟨3⟩, some ⟨7⟩, none⟩,
    ⟨.functionRef ⟨0⟩, some ⟨8⟩, none⟩, ⟨.call ⟨6⟩ [⟨4⟩, ⟨5⟩], none, none⟩,
    ⟨.ret [], none, none⟩]
  synthetic := none

/-- The program of that function. -/
def cardPtrProgram : Program where
  package := "example.com/cards"
  types := ⟨#[.basic .string,
    TypeTable.plainStruct [("Mail", ⟨0⟩)],
    .named "Contact" (some "example.com/cards") ⟨1⟩,
    .pointer ⟨2⟩,
    .named "Card" (some "example.com/cards") ⟨1⟩,
    .pointer ⟨4⟩,
    .named "CardPtr" (some "example.com/cards") ⟨5⟩,
    .interface [],
    .signature [] [] false]⟩
  functions := #[
    .external ⟨0⟩ "CreateMap" "github.com/paultyng/go-typemapper" ⟨none, [], [], false⟩,
    cardPtrFunc]

theorem cardPtrProgram_valid : cardPtrProgram.validate = .ok () := by decide +kernel

/-- Its loads are of a contact through a pointer, and of a card through a name for one. -/
theorem cardPtrFunc_loadsTyped : cardPtrFunc.LoadsTyped cardPtrProgram.types := by
  rintro ⟨i⟩ address hk
  have hi : i < 9 := Func.index_lt_of_kind? hk
  match i, hk with
  | 2, hk =>
    obtain rfl : (⟨0⟩ : ValueId) = address := (ValueKind.unOp.inj (Option.some.inj hk)).2
    exact ⟨⟨2⟩, ⟨3⟩, ⟨2⟩, rfl, rfl, ⟨⟨3⟩, rfl, rfl⟩, TypeTable.identical_self _ _⟩
  | 3, hk =>
    obtain rfl : (⟨1⟩ : ValueId) = address := (ValueKind.unOp.inj (Option.some.inj hk)).2
    exact ⟨⟨4⟩, ⟨6⟩, ⟨4⟩, rfl, rfl, ⟨⟨5⟩, rfl, rfl⟩, TypeTable.identical_self _ _⟩
  | 0, hk | 1, hk | 4, hk | 5, hk | 6, hk | 7, hk | 8, hk => cases hk

/-- It stores nothing. -/
theorem cardPtrFunc_storesTyped : cardPtrFunc.StoresTyped cardPtrProgram.types := by
  rintro ⟨i⟩ address stored heap hk
  have hi : i < 9 := Func.index_lt_of_kind? hk
  match i, hk with
  | 0, hk | 1, hk | 2, hk | 3, hk | 4, hk | 5, hk | 6, hk | 7, hk | 8, hk => cases hk

/-- The contact is read at the type of contacts. -/
theorem cardPtrProgram_contact_type : cardPtrProgram.validate = .ok () ∧
    cardPtrFunc.LoadsTyped cardPtrProgram.types ∧
    ∃ s b, Scope.ofFunction cardPtrProgram cardPtrFunc = .ok s ∧ s.binding ⟨4⟩ = .ok b ∧
      cardPtrFunc.Unboxed ⟨4⟩ ⟨2⟩ ∧ cardPtrFunc.type? ⟨2⟩ = some ⟨2⟩ ∧
      cardPtrProgram.types.identical b.type ⟨2⟩ = .ok true := by
  have hcomputed : answersWith (fun s : Scope => answersWith (fun _ => true) (s.binding ⟨4⟩))
      (Scope.ofFunction cardPtrProgram cardPtrFunc) = true := by decide +kernel
  have hf : cardPtrProgram.function? ⟨1⟩ = some cardPtrFunc := rfl
  have hparam : cardPtrFunc.kind? ⟨0⟩ = some (.parameter 0) := rfl
  have hload : cardPtrFunc.kind? ⟨2⟩ = some (.unOp .deref ⟨0⟩) := rfl
  have hbox : cardPtrFunc.kind? ⟨4⟩ = some (.makeInterface ⟨2⟩) := rfl
  obtain ⟨s, hs, hread⟩ := binding_type_iff cardPtrProgram_valid hf cardPtrFunc_loadsTyped
  obtain ⟨s', hs', hb⟩ := exists_of_answersWith hcomputed
  obtain rfl : s = s' := Except.ok.inj (hs.symm.trans hs')
  obtain ⟨b, hb, -⟩ := exists_of_answersWith hb
  obtain ⟨w, type, hunboxed, htype, hplain, -⟩ := hread ⟨4⟩ b hb
  obtain rfl := (hunboxed.of_boxed hbox).eq_of_not_isBox (Func.not_isBox_of_kind? hload nofun)
  obtain rfl : (⟨2⟩ : TypeId) = type := Option.some.inj htype
  -- the one load goes through a parameter of a pointer type
  have hproper : cardPtrFunc.Plain cardPtrProgram.types ⟨2⟩ :=
    .loaded hload (Func.not_isBox_of_kind? hparam nofun)
      (show cardPtrFunc.type? ⟨0⟩ = some ⟨3⟩ from rfl)
      (show cardPtrProgram.types.kind? ⟨3⟩ = some (.pointer ⟨2⟩) from rfl)
      (Func.plain_of_kind? hparam nofun nofun)
  exact ⟨cardPtrProgram_valid, cardPtrFunc_loadsTyped, s, b, hs, hb, hunboxed, htype,
    hplain (.boxed hbox hproper)⟩

/-- **The card is read at the type of pointers to cards.** -/
theorem cardPtrProgram_card_type : cardPtrProgram.validate = .ok () ∧
    cardPtrProgram.function? ⟨1⟩ = some cardPtrFunc ∧
    cardPtrFunc.LoadsTyped cardPtrProgram.types ∧ cardPtrFunc.StoresTyped cardPtrProgram.types ∧
    ∃ s b, Scope.ofFunction cardPtrProgram cardPtrFunc = .ok s ∧ s.binding ⟨5⟩ = .ok b ∧
      cardPtrFunc.Unboxed ⟨5⟩ ⟨3⟩ ∧ cardPtrFunc.type? ⟨3⟩ = some ⟨4⟩ ∧ b.type = ⟨6⟩ ∧
      cardPtrProgram.types.identical b.type ⟨4⟩ = .ok false := by
  have hcomputed : answersWith (fun s : Scope =>
        answersWith (fun b => decide (b.type = ⟨6⟩)) (s.binding ⟨5⟩))
      (Scope.ofFunction cardPtrProgram cardPtrFunc) = true := by decide +kernel
  have hload : cardPtrFunc.kind? ⟨3⟩ = some (.unOp .deref ⟨1⟩) := rfl
  have hbox : cardPtrFunc.kind? ⟨5⟩ = some (.makeInterface ⟨3⟩) := rfl
  obtain ⟨s, hs, hb⟩ := exists_of_answersWith hcomputed
  obtain ⟨b, hb, htype⟩ := exists_of_answersWith hb
  have htype := of_decide_eq_true htype
  refine ⟨cardPtrProgram_valid, rfl, cardPtrFunc_loadsTyped, cardPtrFunc_storesTyped, s, b, hs, hb,
    .boxed hbox (.bare (Func.not_isBox_of_kind? hload nofun)), rfl, htype, ?_⟩
  rw [htype]
  rfl

end Program

end Crosswalk

import Crosswalk.Proofs.Plan.Delegates
import Crosswalk.Proofs.Types.Assignability

/-!
# What a delegate is called on as a method

A delegate that is a method is called on the value that it converts, as it is. The value need
not be of the type that declares the method: it is enough that it could be stored in a variable
of that type, or, where a pointer declares the method, in what the pointer points to.

Storing is more liberal than having methods, but not by much. It tells two types apart when
both are named or basic, and when neither is, so there the value is of the very type that is
asked for, unless that is an interface or the value is `nil`
(`TypeTable.Accepts.identical_of_isDefined_eq`). What remains is a value without a name for its
type where a named type declares the method, and the other way round
(`TypeTable.receiver_delegate_accepts`).
-/

namespace Crosswalk

variable {t : TypeTable} {d : MappingSpec} {delegates : List MappingSpec} {src dst own : TypeId}
  {function : FunctionId} {name : String}

namespace TypeTable

/-! ## Types that are told apart -/

/-- A type that is neither named nor basic is its own shape. -/
theorem underlying_of_not_isDefined (h : t.isDefined src = .ok false) :
    t.underlying src = .ok src := by
  obtain ⟨k, hk, -⟩ := bind_eq_ok_iff.mp h
  rw [kind_eq_ok_iff] at hk
  rw [isDefined_of_kind? hk] at h
  refine underlying_of_isBare hk ?_
  cases k with
  | named name package underlying => cases h
  | _ => rfl

/-- **Two types that are both defined, or both not, accept each other only as one type**,
unless an interface asks for the value or the value is `nil`. -/
theorem Accepts.identical_of_isDefined_eq {defined : Bool} (h : t.Accepts src own)
    (hs : t.isDefined src = .ok defined) (ho : t.isDefined own = .ok defined)
    (hinterface : ∀ v methods, t.underlying own = .ok v → t.kind? v ≠ some (.interface methods))
    (hnil : t.kind? src ≠ some (.basic .untypedNil)) : t.identical src own = .ok true := by
  cases h with
  | same h => exact h
  | shape hu hv h hdef =>
    -- one of the two is not defined, so neither is, and both are their own shapes
    obtain rfl : defined = false := by
      rcases hdef with hdef | hdef
      · exact Except.ok.inj (hs.symm.trans hdef)
      · exact Except.ok.inj (ho.symm.trans hdef)
    obtain rfl := Except.ok.inj ((underlying_of_not_isDefined hs).symm.trans hu)
    obtain rfl := Except.ok.inj ((underlying_of_not_isDefined ho).symm.trans hv)
    exact h
  | anything hv hkv => exact absurd hkv (hinterface _ _ hv)
  | methods hu hv hku hkv => exact absurd hkv (hinterface _ _ hv)
  | untypedNil hk => exact absurd hk hnil

/-! ## Receivers -/

/-- **What a method is looked for in** when `declared` declares it: that type, and what it
points to, for a call takes the address. -/
inductive LooksIn (t : TypeTable) (declared : TypeId) : TypeId → Prop
  /-- The type itself. -/
  | declared : LooksIn t declared declared
  /-- What it points to. -/
  | pointee {e : TypeId} (h : t.kind? declared = some (.pointer e)) : LooksIn t declared e

end TypeTable

/-- **What a method converts fits one of the types that it is looked for in.** -/
theorem MappingSpec.exists_looksIn_of_converts (h : d.converts t src dst = .ok true) :
    ∃ own, t.LooksIn d.sourceType own ∧ t.assignable src own = .ok true := by
  obtain ⟨gives, -, h⟩ := bind_eq_ok_iff.mp h
  cases gives with
  | false => cases h
  | true =>
    obtain ⟨fits, hfits, h⟩ := bind_eq_ok_iff.mp h
    cases fits with
    | true => exact ⟨d.sourceType, .declared, hfits⟩
    | false =>
      cases hmethod : d.sourceIsReceiver with
      | false =>
        rw [hmethod] at h
        cases h
      | true =>
        rw [hmethod] at h
        obtain ⟨pointee, hfound, h⟩ := bind_eq_ok_iff.mp h
        cases pointee with
        | none => cases h
        | some e =>
          obtain ⟨k, hk, -⟩ := bind_eq_ok_iff.mp hfound
          rw [TypeTable.kind_eq_ok_iff] at hk
          obtain rfl := TypeKind.pointee?_eq_some
            (Except.ok.inj ((TypeTable.pointee_of_kind? hk).symm.trans hfound))
          exact ⟨e, .pointee hk, h⟩

namespace TypeTable

/-- **What a method is called on.** Where a field or an element is converted by a delegate that
is called as a method, that is the first of the delegates that converts it; it is a method, it
gives what is asked for, and the value fits the type that declares it or, if that is a pointer,
what that points to. If the value and that type are both named or basic, or neither is, the
value is of that very type, unless an interface declares the method or the value is `nil`. -/
theorem receiver_delegate_accepts
    (h : t.fieldConversion delegates src dst = .ok (.delegate function name .receiver) ∨
      t.elementConversion delegates src dst = .ok (.delegate function name .receiver)) :
    ∃ d own, d ∈ delegates ∧ t.findDelegate delegates src dst = .ok (some d) ∧
      d.function = function ∧ d.name = name ∧ d.sourceIsReceiver = true ∧
      t.assignable d.destType dst = .ok true ∧
      t.LooksIn d.sourceType own ∧ t.assignable src own = .ok true ∧ t.Accepts src own ∧
      ((∃ defined, t.isDefined src = .ok defined ∧ t.isDefined own = .ok defined) →
        (∀ v methods, t.underlying own = .ok v → t.kind? v ≠ some (.interface methods)) →
        t.kind? src ≠ some (.basic .untypedNil) → t.identical src own = .ok true) := by
  obtain ⟨d, hfound, hd⟩ : ∃ d, t.findDelegate delegates src dst = .ok (some d) ∧
      d.toConversion = .delegate function name .receiver :=
    h.elim exists_findDelegate_of_fieldConversion exists_findDelegate_of_elementConversion
  obtain ⟨hmem, hconverts⟩ := exists_converts_of_findDelegate hfound hd
  obtain ⟨own, hlooks, hfits⟩ :=
    MappingSpec.exists_looksIn_of_converts (findM?_eq_ok_some hfound).2
  have haccepts := accepts_of_assignable hfits
  refine ⟨d, own, hmem, hfound, hconverts.function, hconverts.name,
    MappingSpec.style_eq_receiver_iff.mp hconverts.style, hconverts.assignable, hlooks, hfits,
    haccepts, ?_⟩
  rintro ⟨defined, hs, ho⟩ hinterface hnil
  exact haccepts.identical_of_isDefined_eq hs ho hinterface hnil

end TypeTable

namespace Program

/-- The mapping of labels into tags, as a method of labels. -/
def toTagMethod : MappingSpec := { toTagSpec with sourceIsReceiver := true }

/-- A label is converted by its own method. -/
theorem toTagMethod_label :
    tagProgram.types.fieldConversion [toTagMethod] ⟨2⟩ ⟨3⟩ =
      .ok (.delegate ⟨2⟩ "ToTag" .receiver) ∧
    ∃ own, tagProgram.types.LooksIn ⟨2⟩ own ∧ tagProgram.types.Accepts ⟨2⟩ own := by
  have hfield : tagProgram.types.fieldConversion [toTagMethod] ⟨2⟩ ⟨3⟩ =
      .ok (.delegate ⟨2⟩ "ToTag" .receiver) := by decide +kernel
  obtain ⟨d, own, hmem, -, -, -, -, -, hlooks, -, haccepts, -⟩ :=
    TypeTable.receiver_delegate_accepts (.inl hfield)
  obtain rfl := List.mem_singleton.mp hmem
  exact ⟨hfield, own, hlooks, haccepts⟩

/-- **A method may be called on a value that does not have it**: a struct without a name, of
the same fields as a label, is converted by the method of labels. It is of another type than a
label, and a label is no pointer. -/
theorem toTagMethod_nameless : tagProgram.types.WellFormed ∧
    tagProgram.types.fieldConversion [toTagMethod] ⟨1⟩ ⟨3⟩ =
      .ok (.delegate ⟨2⟩ "ToTag" .receiver) ∧
    tagProgram.types.identical ⟨1⟩ toTagMethod.sourceType = .ok false ∧
    ∀ own, tagProgram.types.LooksIn toTagMethod.sourceType own →
      tagProgram.types.identical ⟨1⟩ own ≠ .ok true := by
  have hone : tagProgram.types.identical ⟨1⟩ ⟨2⟩ = .ok false := by decide +kernel
  refine ⟨TypeTable.wellFormed_of_descending (by decide) (by decide) (by decide),
    by decide +kernel, hone, fun own hlooks => ?_⟩
  cases hlooks with
  | declared =>
    intro hsame
    cases hone.symm.trans hsame
  | pointee hk => cases hk

end Program

end Crosswalk

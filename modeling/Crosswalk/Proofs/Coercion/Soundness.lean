import Crosswalk.Proofs.Coercion.Walk

/-!
# Whether the steps of a coercion suffice

A complete coercion promises that its steps turn a value of the source into one
that may stand in the destination. Whether they do is a matter of typing them
one after another, innermost first.

The walk from both ends stops where the two types in hand are *assignable*. The
steps around the destination are recorded by then, and the innermost of them is
applied to the source's type, not to the destination's. A conversion makes up
for the difference. An address does not: a pointer to a slice is no pointer to
a type declared as one. So the promise is kept unless the innermost step around
the destination takes an address and the types that met are not identical
(`suffices_iff`).

## Names that lead nowhere

A table may declare a name as itself. Nothing stands behind such a name, and a
conversion between two of them need not be one. Such conversions matter as long
as no address is taken: what comes after the first address is about pointers,
which have no names to look behind.
-/

namespace Crosswalk

namespace TypeTable

variable {t t' t'' : TypeTable} {a b d p s src dst x : TypeId} {k : TypeKind}
  {steps inner outer rest : List CoercionStep} {step : CoercionStep}

/-! ## Typing steps -/

/-- **A value of type `a` may be converted to type `b`**: behind the names the two
are one type, or `a` is assignable to `b`. -/
def Convertible (t : TypeTable) (a b : TypeId) : Prop :=
  (∃ u v, t.underlying a = .ok u ∧ t.underlying b = .ok v ∧ t.identical u v = .ok true) ∨
    t.assignable a b = .ok true

/-- **The type that a step gives to a value.** The type of an address may be new
to the table. -/
inductive Yields : TypeTable → TypeId → CoercionStep → TypeTable → TypeId → Prop
  | addressOf (t : TypeTable) (a : TypeId) :
      Yields t a .addressOf (t.intern (.pointer a)).2 (t.intern (.pointer a)).1
  | deref {t : TypeTable} {a b : TypeId} (h : t.kind? a = some (.pointer b)) :
      Yields t a .deref t b
  | convert {t : TypeTable} {a b : TypeId} (h : t.Convertible a b) :
      Yields t a (.convert b) t b

/-- The type that steps give to a value, one after another. -/
inductive YieldsAll : TypeTable → TypeId → List CoercionStep → TypeTable → TypeId → Prop
  | nil (t : TypeTable) (a : TypeId) : YieldsAll t a [] t a
  | cons {t t' t'' : TypeTable} {a b c : TypeId} {step : CoercionStep} {rest : List CoercionStep}
      (h : t.Yields a step t' b) (hrest : YieldsAll t' b rest t'' c) :
      YieldsAll t a (step :: rest) t'' c

/-- **The steps turn a value of type `src` into one that may stand where a `dst`
is wanted.** -/
def Suffices (t : TypeTable) (src : TypeId) (steps : List CoercionStep) (dst : TypeId) : Prop :=
  ∃ t' b, t.YieldsAll src steps t' b ∧ t'.assignable b dst = .ok true

theorem yieldsAll_append_iff :
    t.YieldsAll a (inner ++ outer) t'' b ↔
      ∃ t' s, t.YieldsAll a inner t' s ∧ t'.YieldsAll s outer t'' b := by
  constructor
  · intro h
    induction inner generalizing t a with
    | nil => exact ⟨t, a, .nil t a, h⟩
    | cons step inner ih =>
      cases h with
      | cons hstep hrest =>
        obtain ⟨t', s, hinner, houter⟩ := ih hrest
        exact ⟨t', s, .cons hstep hinner, houter⟩
  · rintro ⟨t', s, hinner, houter⟩
    induction hinner with
    | nil => exact houter
    | cons hstep _ ih => exact .cons hstep (ih houter)

theorem Suffices.cons (hstep : t.Yields a step t' b) (h : t'.Suffices b rest dst) :
    t.Suffices a (step :: rest) dst := by
  obtain ⟨t'', c, hrest, hc⟩ := h
  exact ⟨t'', c, .cons hstep hrest, hc⟩

theorem suffices_nil_iff : t.Suffices a [] dst ↔ t.assignable a dst = .ok true := by
  constructor
  · rintro ⟨t', b, h, hb⟩
    cases h with | nil => exact hb
  · exact fun h => ⟨t, a, .nil t a, h⟩

theorem suffices_cons_iff :
    t.Suffices a (step :: rest) dst ↔ ∃ t' b, t.Yields a step t' b ∧ t'.Suffices b rest dst := by
  constructor
  · rintro ⟨t'', c, h, hc⟩
    cases h with | cons hstep hrest => exact ⟨_, _, hstep, _, _, hrest, hc⟩
  · rintro ⟨t', b, hstep, h⟩
    exact h.cons hstep

theorem suffices_append (h : t.YieldsAll a inner t' s) (h' : t'.Suffices s outer dst) :
    t.Suffices a (inner ++ outer) dst := by
  obtain ⟨t'', b, houter, hb⟩ := h'
  exact ⟨t'', b, yieldsAll_append_iff.mpr ⟨t', s, h, houter⟩, hb⟩

/-! ## Steps off the source -/

theorem Off.ne_addressOf (h : t.Off src inner s) : ∀ step ∈ inner, step ≠ .addressOf := by
  induction h with
  | here => exact fun step hstep => absurd hstep List.not_mem_nil
  | deref _ _ ih =>
    intro step hstep
    rcases List.mem_cons.mp hstep with rfl | hstep
    · exact nofun
    · exact ih step hstep
  | unname _ _ ih =>
    intro step hstep
    rcases List.mem_cons.mp hstep with rfl | hstep
    · exact nofun
    · exact ih step hstep

/-- Steps off the source can be typed in one way only, if at all. -/
theorem Off.yieldsAll_unique (h : t.Off src inner s) (h' : t.YieldsAll src inner t' b) :
    t' = t ∧ b = s := by
  induction h with
  | here => cases h' with | nil => exact ⟨rfl, rfl⟩
  | deref hk _ ih =>
    cases h' with
    | cons hstep hrest =>
      cases hstep with
      | deref hk' =>
        obtain rfl := TypeKind.pointer.inj (Option.some.inj (hk.symm.trans hk'))
        exact ih hrest
  | unname hk _ ih =>
    cases h' with
    | cons hstep hrest =>
      cases hstep with | convert => exact ih hrest

/-! ## After an address

A pointer has no names to look behind, so a pointer that fits goes on fitting
whatever the destination wraps around it, and one that does not fit never
will. -/

/-- **A pointer that fits is enough**: the steps that remain do their work. -/
theorem Around.suffices_of_pointer {path : List TypeId} {v e : TypeId} (h : t.Around d outer dst)
    (hgrow : t.GrowsTo t') (hsame : t'.identical x d = .ok true)
    (hx : x = d ∨ ∃ f, t'.kind? x = some (.pointer f))
    (hlead : t.Leads TypeKind.declared? path d v) (hv : t.kind? v = some (.pointer e)) :
    t'.Suffices x outer dst := by
  induction h generalizing t' x path v e with
  | here d => exact suffices_nil_iff.mpr (assignable_of_identical hsame)
  | address hk h ih =>
    have hgrow' := growsTo_intern t' (.pointer x)
    have hb := kind?_intern t' (.pointer x)
    refine (ih (hgrow.trans hgrow') ?_ (.inr ⟨_, hb⟩) (.stop hk rfl) hk).cons (.addressOf t' x)
    exact (identical_pointer_iff hb (hgrow' _ _ (hgrow _ _ hk))).mpr (hgrow'.identical hsame)
  | name hk h ih =>
    have hlead' : t.Leads TypeKind.declared? _ _ v := .next hk rfl hlead
    have hto := underlying_of_leads (hlead'.grow hgrow)
    refine (ih hgrow (identical_self t' _) (.inl rfl) hlead' hv).cons (.convert (.inl ?_))
    rcases hx with rfl | ⟨f, hx⟩
    · exact ⟨v, v, underlying_of_leads (hlead.grow hgrow), hto, identical_self t' v⟩
    · -- a pointer is its own underlying type, and so is the pointer it is identical to
      obtain ⟨g, hd, -⟩ := exists_pointer_of_identical hsame hx
      have hdv := underlying_of_isBare hd rfl
      obtain rfl := Except.ok.inj (hdv.symm.trans (underlying_of_leads (hlead.grow hgrow)))
      exact ⟨x, _, underlying_of_isBare hx rfl, hto, hsame⟩

/-- **A pointer that does not fit is no help**: no steps that remain make up for it. -/
theorem Around.not_suffices_of_pointer {e f : TypeId} (h : t.Around d outer dst)
    (ht' : t'.Closed) (hgrow : t.GrowsTo t') (hx : t'.kind? x = some (.pointer e))
    (hd : t.kind? d = some (.pointer f)) (hne : t'.identical x d ≠ .ok true) :
    ¬ t'.Suffices x outer dst := by
  induction h generalizing t' x e f with
  | here d =>
    rw [suffices_nil_iff]
    have hd' := hgrow _ _ hd
    exact not_assignable_of_pointer hx (underlying_of_isBare hd' rfl) hd' hne
  | address hk h ih =>
    -- the address of what does not fit does not fit either
    rw [suffices_cons_iff]
    rintro ⟨t'', b, hstep, hrest⟩
    cases hstep with
    | addressOf =>
      have hgrow' := growsTo_intern t' (.pointer x)
      have hb := kind?_intern t' (.pointer x)
      have hasx := has_of_kind? hx
      have hasd := has_of_kind? (hgrow _ _ hd)
      refine ih (ht'.intern (fun part hpart => ?_)) (hgrow.trans hgrow') hb hk (fun hsame => ?_) hrest
      · exact List.eq_of_mem_singleton hpart ▸ hasx
      · have hsame' := (identical_pointer_iff hb (hgrow' _ _ (hgrow _ _ hk))).mp hsame
        exact hne ((hgrow'.identical_iff ht' hasx hasd).mp hsame')
  | name hk h ih =>
    rw [suffices_cons_iff]
    rintro ⟨t'', b, hstep, -⟩
    have hlead : t.Leads TypeKind.declared? _ _ _ := .next hk rfl (.stop hd rfl)
    have hto := underlying_of_leads (hlead.grow hgrow)
    cases hstep with
    | convert hconv =>
      rcases hconv with ⟨u, v, hu, hv, huv⟩ | hassign
      · obtain rfl := Except.ok.inj ((underlying_of_isBare hx rfl).symm.trans hu)
        obtain rfl := Except.ok.inj (hto.symm.trans hv)
        exact hne huv
      · exact not_assignable_of_pointer hx hto (hgrow _ _ hd) hne hassign

/-! ## When the steps suffice -/

/-- The steps before the first address. -/
def beforeAddress (steps : List CoercionStep) : List CoercionStep :=
  steps.takeWhile (fun step => decide (step ≠ .addressOf))

/-- Every one of the steps applies to what the steps before it give. -/
def Typable (t : TypeTable) (src : TypeId) (steps : List CoercionStep) : Prop :=
  ∃ t' b, t.YieldsAll src steps t' b

theorem Off.beforeAddress_append (h : t.Off src inner s) :
    beforeAddress (inner ++ outer) = inner ++ beforeAddress outer :=
  List.takeWhile_append_of_pos (fun step hstep => decide_eq_true (h.ne_addressOf step hstep))

theorem typable_beforeAddress_of_yieldsAll (h : t.YieldsAll a steps t' b) :
    t.Typable a (beforeAddress steps) := by
  rw [← List.takeWhile_append_dropWhile (p := fun step => decide (step ≠ .addressOf)) (l := steps),
    yieldsAll_append_iff] at h
  obtain ⟨t', s, hbefore, -⟩ := h
  exact ⟨t', s, hbefore⟩

/-- To an address of the very type, the steps that remain go on without fail. -/
theorem suffices_address (h : t.Around p outer dst) (hk : t.kind? p = some (.pointer d))
    (hsame : t.identical s d = .ok true) : t.Suffices s (.addressOf :: outer) dst := by
  have hgrow := growsTo_intern t (.pointer s)
  have hb := kind?_intern t (.pointer s)
  refine (h.suffices_of_pointer hgrow ?_ (.inr ⟨_, hb⟩) (.stop hk rfl) hk).cons (.addressOf t s)
  exact (identical_pointer_iff hb (hgrow _ _ hk)).mpr (hgrow.identical hsame)

/-- The address of another type than the one asked for is lost. -/
theorem not_suffices_address (ht : t.Closed) (h : t.Around p outer dst)
    (hk : t.kind? p = some (.pointer d)) (hmeet : t.assignable s d = .ok true)
    (hne : t.identical s d ≠ .ok true) : ¬ t.Suffices s (.addressOf :: outer) dst := by
  have hgrow := growsTo_intern t (.pointer s)
  have hb := kind?_intern t (.pointer s)
  rcases has_of_assignable hmeet with rfl | ⟨hs, hd⟩
  · exact absurd (identical_self t s) hne
  rw [suffices_cons_iff]
  rintro ⟨t', b, hstep, hrest⟩
  cases hstep with
  | addressOf =>
    have ht' := ht.intern (k := .pointer s) (fun part hpart => List.eq_of_mem_singleton hpart ▸ hs)
    refine h.not_suffices_of_pointer ht' hgrow hb hk (fun hsame => hne ?_) hrest
    have hsame' := (identical_pointer_iff hb (hgrow _ _ hk)).mp hsame
    exact (hgrow.identical_iff ht hs hd).mp hsame'

/-- From the very type that the steps wrap, only those before the first address can fail. -/
theorem Around.suffices_of_typable (h : t.Around d outer dst)
    (hbefore : t.Typable d (beforeAddress outer)) : t.Suffices d outer dst := by
  induction h with
  | here d => exact suffices_nil_iff.mpr (assignable_self t d)
  | address hk h => exact suffices_address h hk (identical_self t _)
  | name hk h ih =>
    obtain ⟨t', b, hbefore⟩ := hbefore
    cases hbefore with
    | cons hstep hrest =>
      cases hstep with
      | convert hconv => exact (ih ⟨t', b, hrest⟩).cons (.convert hconv)

/-- **When the steps suffice**: those before the first address have to apply, and
the types that met have to be identical if it is their address that is taken. -/
theorem suffices_iff (ht : t.Closed) (hoff : t.Off src inner s) (haround : t.Around d outer dst)
    (hmeet : t.assignable s d = .ok true) :
    t.Suffices src (inner ++ outer) dst ↔
      t.Typable src (beforeAddress (inner ++ outer)) ∧
        (outer.head? = some .addressOf → t.identical s d = .ok true) := by
  constructor
  · rintro ⟨t'', b, hall, hb⟩
    refine ⟨typable_beforeAddress_of_yieldsAll hall, fun hhead => ?_⟩
    obtain ⟨t', s', hinner, houter⟩ := yieldsAll_append_iff.mp hall
    obtain ⟨rfl, rfl⟩ := hoff.yieldsAll_unique hinner
    cases haround with
    | here => cases hhead
    | name => cases hhead
    | address hk h =>
      by_contra hne
      exact not_suffices_address ht h hk hmeet hne ⟨_, b, houter, hb⟩
  · rintro ⟨hbefore, hhead⟩
    -- the steps off the source take no address, so they all come before the first one
    rw [hoff.beforeAddress_append] at hbefore
    obtain ⟨t'', b, hbefore⟩ := hbefore
    obtain ⟨t', s', hinner, houter⟩ := yieldsAll_append_iff.mp hbefore
    obtain ⟨rfl, rfl⟩ := hoff.yieldsAll_unique hinner
    refine suffices_append hinner ?_
    cases haround with
    | here => exact suffices_nil_iff.mpr hmeet
    | address hk h => exact suffices_address h hk (hhead rfl)
    | name hk h =>
      cases houter with
      | cons hstep hrest =>
        cases hstep with
        | convert hconv => exact (h.suffices_of_typable ⟨_, _, hrest⟩).cons (.convert hconv)

/-! ## In a well-formed table -/

namespace WellFormed

/-- Behind a name stands what stands behind the type it is declared as. -/
theorem exists_underlying_declared {name : String} {package : Option String} (ht : t.WellFormed)
    (hk : t.kind? a = some (.named name package b)) :
    ∃ u, t.underlying a = .ok u ∧ t.underlying b = .ok u := by
  obtain ⟨path, v, hlead⟩ := ht.exists_leads (has_of_kind? hk)
  have hv := underlying_of_leads hlead
  exact ⟨v, hv, (ht.underlying_eq hk).symm.trans hv⟩

/-- **Conversions make up for assignability**: what is assignable to the type that
a name is declared as may be converted to the name. -/
theorem convertible_of_assignable {name : String} {package : Option String} (ht : t.WellFormed)
    (hk : t.kind? p = some (.named name package d)) (h : t.assignable s d = .ok true) :
    t.Convertible s p := by
  obtain ⟨v, hp, hv⟩ := ht.exists_underlying_declared hk
  have hpp := has_of_kind? hk
  rcases has_of_assignable h with rfl | ⟨hs, hd⟩
  · exact .inl ⟨v, v, hv, hp, identical_self t v⟩
  obtain ⟨u, hu, -⟩ := ht.closed.exists_underlying hs
  cases accepts_of_assignable h with
  | same hsame => exact .inl ⟨u, v, hu, hp, ht.identical_underlying hsame hu hv⟩
  | shape hu' hv' hshape =>
    obtain rfl := Except.ok.inj (hv.symm.trans hv')
    exact .inl ⟨_, _, hu', hp, hshape⟩
  | anything hv' hkv =>
    obtain rfl := Except.ok.inj (hv.symm.trans hv')
    exact .inr ((ht.assignable_iff hs hpp).mpr (.anything hp hkv))
  | methods hu' hv' hku hkv hm =>
    obtain rfl := Except.ok.inj (hv.symm.trans hv')
    exact .inr ((ht.assignable_iff hs hpp).mpr (.methods hu' hp hku hkv hm))
  | untypedNil hs' hv' hkv hnil =>
    obtain rfl := Except.ok.inj (hv.symm.trans hv')
    exact .inr ((ht.assignable_iff hs hpp).mpr (.untypedNil hs' hp hkv hnil))

theorem yieldsAll_off (ht : t.WellFormed) (h : t.Off src inner s) : t.YieldsAll src inner t s := by
  induction h with
  | here s => exact .nil t s
  | deref hk _ ih => exact .cons (.deref hk) ih
  | unname hk _ ih =>
    obtain ⟨v, hv, hu⟩ := ht.exists_underlying_declared hk
    exact .cons (.convert (.inl ⟨v, v, hv, hu, identical_self t v⟩)) ih

theorem typable_around (ht : t.WellFormed) (h : t.Around d outer dst)
    (hmeet : t.assignable s d = .ok true) : t.Typable s (beforeAddress outer) := by
  induction h generalizing s with
  | here => exact ⟨t, s, .nil t s⟩
  | address => exact ⟨t, s, .nil t s⟩
  | name hk _ ih =>
    obtain ⟨t', b, hrest⟩ := ih (assignable_self t _)
    exact ⟨t', b, .cons (.convert (ht.convertible_of_assignable hk hmeet)) hrest⟩

/-- **In a well-formed table only an address can go wrong.** -/
theorem typable_beforeAddress (ht : t.WellFormed) (hoff : t.Off src inner s)
    (haround : t.Around d outer dst) (hmeet : t.assignable s d = .ok true) :
    t.Typable src (beforeAddress (inner ++ outer)) := by
  rw [hoff.beforeAddress_append]
  obtain ⟨t', b, houter⟩ := ht.typable_around haround hmeet
  exact ⟨t', b, yieldsAll_append_iff.mpr ⟨t, s, ht.yieldsAll_off hoff, houter⟩⟩

end WellFormed

/-! ## Conversions of fields and elements -/

/-- A conversion is an assignment of identical types, a call, or a coercion. -/
theorem conversion_cases {delegates : List MappingSpec} {c : Conversion}
    (h : t.fieldConversion delegates src dst = .ok c ∨
      t.elementConversion delegates src dst = .ok c) :
    (c = .assign ∧ t.identical src dst = .ok true) ∨
      (∃ delegate : MappingSpec, c = delegate.toConversion) ∨ t.coerce src dst = .ok c := by
  rcases h with h | h
  · obtain ⟨same, hsame, h⟩ := bind_eq_ok_iff.mp h
    cases same with
    | true => exact .inl ⟨(Except.ok.inj h).symm, hsame⟩
    | false =>
      obtain ⟨found, -, h⟩ := bind_eq_ok_iff.mp h
      cases found with
      | some delegate => exact .inr (.inl ⟨delegate, (Except.ok.inj h).symm⟩)
      | none => exact .inr (.inr h)
  · obtain ⟨found, -, h⟩ := bind_eq_ok_iff.mp h
    cases found with
    | some delegate => exact .inr (.inl ⟨delegate, (Except.ok.inj h).symm⟩)
    | none =>
      obtain ⟨same, hsame, h⟩ := bind_eq_ok_iff.mp h
      cases same with
      | true => exact .inl ⟨(Except.ok.inj h).symm, hsame⟩
      | false => exact .inr (.inr h)

theorem toConversion_eq_assign_iff {c : Coercion} :
    c.toConversion = .assign ↔ c.steps = [] ∧ c.complete = true := by
  unfold Coercion.toConversion
  split <;> simp_all

theorem toConversion_eq_coerce {c : Coercion} {complete : Bool}
    (h : c.toConversion = .coerce steps complete) : c.steps = steps ∧ c.complete = complete := by
  unfold Coercion.toConversion at h
  split at h
  · cases h
  · cases h
    exact ⟨rfl, rfl⟩

/-- **What a conversion promises, and when it keeps its promise.** An assignment
always does. A coercion that calls itself complete takes steps off the source,
down to a type `s`, and steps around the destination, up from a type `d` that
`s` is assignable to; it keeps its promise just if the steps before the first
address apply, as in a well-formed table they always do, and `s` and `d` are
identical in case the first step around the destination takes an address. -/
theorem conversion_suffices_iff {delegates : List MappingSpec} {c : Conversion}
    (ht : t.validate = .ok ())
    (h : t.fieldConversion delegates src dst = .ok c ∨
      t.elementConversion delegates src dst = .ok c) :
    (c = .assign → t.Suffices src [] dst) ∧
      ∀ steps, c = .coerce steps true → ∃ inner outer s d, steps = inner ++ outer ∧
        t.Off src inner s ∧ t.Around d outer dst ∧ t.assignable s d = .ok true ∧
        (t.Suffices src steps dst ↔ t.Typable src (beforeAddress steps) ∧
          (outer.head? = some .addressOf → t.identical s d = .ok true)) ∧
        (t.WellFormed → t.Typable src (beforeAddress steps)) := by
  rw [validate_eq_ok_iff] at ht
  have hcoercion : ∀ w : Coercion, t.coercion src dst = .ok w → w.complete = true →
      ∃ s d, t.Off src w.inner s ∧ t.Around d w.outer.reverse dst ∧ t.assignable s d = .ok true :=
    fun w hw => exists_meeting hw
  rcases conversion_cases h with ⟨rfl, hsame⟩ | ⟨delegate, rfl⟩ | hcoerce
  · exact ⟨fun _ => suffices_nil_iff.mpr (assignable_of_identical hsame), nofun⟩
  · exact ⟨nofun, nofun⟩
  obtain ⟨w, hw, hc⟩ := bind_eq_ok_iff.mp hcoerce
  obtain rfl := Except.ok.inj hc
  constructor
  · intro hassign
    obtain ⟨hsteps, hcomplete⟩ := toConversion_eq_assign_iff.mp hassign
    obtain ⟨s, d, hoff, haround, hmeet⟩ := hcoercion w hw hcomplete
    obtain ⟨hinner, houter⟩ := List.append_eq_nil_iff.mp hsteps
    rw [hinner] at hoff
    rw [houter] at haround
    cases hoff
    cases haround
    exact suffices_nil_iff.mpr hmeet
  · intro steps hsteps
    obtain ⟨rfl, hcomplete⟩ := toConversion_eq_coerce hsteps
    obtain ⟨s, d, hoff, haround, hmeet⟩ := hcoercion w hw hcomplete
    refine ⟨w.inner, w.outer.reverse, s, d, rfl, hoff, haround, hmeet, ?_, ?_⟩
    · exact suffices_iff ht hoff haround hmeet
    · exact fun hwf => hwf.typable_beforeAddress hoff haround hmeet

/-- The promise that is made for a slice and a pointer to a name for slices. -/
theorem conversion_suffices_iff_declaredInts :
    declaredInts.fieldConversion [] ⟨1⟩ ⟨3⟩ = .ok (.coerce [.addressOf] true) ∧
    ∃ inner outer s d, [CoercionStep.addressOf] = inner ++ outer ∧
      declaredInts.Off ⟨1⟩ inner s ∧ declaredInts.Around d outer ⟨3⟩ ∧
      declaredInts.assignable s d = .ok true ∧
      (declaredInts.Suffices ⟨1⟩ [.addressOf] ⟨3⟩ ↔
        declaredInts.Typable ⟨1⟩ (beforeAddress [.addressOf]) ∧
          (outer.head? = some .addressOf → declaredInts.identical s d = .ok true)) ∧
      (declaredInts.WellFormed → declaredInts.Typable ⟨1⟩ (beforeAddress [.addressOf])) :=
  have h : declaredInts.fieldConversion [] ⟨1⟩ ⟨3⟩ = .ok (.coerce [.addressOf] true) := rfl
  ⟨h, (conversion_suffices_iff rfl (.inl h)).2 _ rfl⟩

/-- **A promise that is not kept**: the address of a slice is called a complete
coercion, but is no pointer to a type declared as the slice. -/
theorem declaredInts_not_suffices :
    declaredInts.validate = .ok () ∧
      declaredInts.fieldConversion [] ⟨1⟩ ⟨3⟩ = .ok (.coerce [.addressOf] true) ∧
      ¬ declaredInts.Suffices ⟨1⟩ [.addressOf] ⟨3⟩ := by
  have hno : declaredInts.identical ⟨1⟩ ⟨2⟩ = .ok false := rfl
  refine ⟨rfl, rfl, not_suffices_address wellFormed_declaredInts.closed (.here ⟨3⟩) rfl rfl ?_⟩
  rw [hno]
  exact nofun

end TypeTable

end Crosswalk

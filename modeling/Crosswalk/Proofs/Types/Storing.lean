import Crosswalk.Proofs.Types.Assignability

/-!
# What may be stored where

Assignability is a relation between types that the language defines without reference to how it
is found out (`TypeTable.Storable`): a value may be stored in a place of its own type, in one of
the type behind the names if either side goes without one, in an interface that its methods
satisfy, and `nil` may be stored wherever it is a value.

The rules that are tried come to the same with one exception
(`TypeTable.Regular.assignable_iff_storable`). The zero value of an interface is `nil`. But whether
the destination is an interface is asked before whether the source is `nil`, and an interface that
asks for methods turns away whatever is no interface itself. So `nil` cannot be stored in an
`error`.
-/

namespace Crosswalk

namespace TypeTable

variable {t : TypeTable} {src dst a b u v : TypeId} {k : TypeKind} {n : Nat}

/-- **The entries denote one type**: they are related by every relation that relates an entry to
itself and to all that agree with it part by part. -/
def OneType (t : TypeTable) (a b : TypeId) : Prop :=
  ∀ R : TypeId → TypeId → Prop, (∀ x, R x x) →
    (∀ x y kx ky, t.kind? x = some kx → t.kind? y = some ky → TypeKind.Alike R kx ky → R x y) →
    R a b

/-- **Behind the names of `a` stands `u`.** -/
def Underlies (t : TypeTable) (a u : TypeId) : Prop :=
  ∃ path, t.Leads TypeKind.declared? path a u

/-- The entry is neither named nor basic. -/
def IsLiteral (t : TypeTable) (a : TypeId) : Prop :=
  ∃ k, t.kind? a = some k ∧ k.isDefined = false

/-- The entry is an interface, and asks for these methods. -/
def Wants (t : TypeTable) (a : TypeId) (methods : List String) : Prop :=
  t.kind? a = some (.interface methods)

/-- **A value of type `src` may be stored in a place of type `dst`**, as the language has it. -/
inductive Storable (t : TypeTable) (src dst : TypeId) : Prop
  /-- The types are one. -/
  | same (h : t.OneType src dst)
  /-- Behind the names the types are one, and one of the two is neither named nor basic. -/
  | shape {u v : TypeId} (hu : t.Underlies src u) (hv : t.Underlies dst v) (h : t.OneType u v)
      (hlit : t.IsLiteral src ∨ t.IsLiteral dst)
  /-- The place is an interface that asks for nothing. -/
  | anything {v : TypeId} (hv : t.Underlies dst v) (hwants : t.Wants v [])
  /-- The place is an interface, and the value another that has its methods. -/
  | methods {u v : TypeId} {wanted atHand : List String} (hu : t.Underlies src u)
      (hv : t.Underlies dst v) (hhas : t.Wants u atHand) (hwants : t.Wants v wanted)
      (h : ∀ m ∈ wanted, m ∈ atHand)
  /-- The value is `nil`, and the place is of a kind whose zero value that is. -/
  | untypedNil {v : TypeId} {k : TypeKind} (hs : t.kind? src = some (.basic .untypedNil))
      (hv : t.Underlies dst v) (hk : t.kind? v = some k)
      (h : k.TakesNil ∨ ∃ methods, k = .interface methods)

/-- **The value is `nil`, and the place an interface that asks for methods.** -/
def NilForMethods (t : TypeTable) (src dst : TypeId) : Prop :=
  t.kind? src = some (.basic .untypedNil) ∧
    ∃ v wanted, t.Underlies dst v ∧ t.Wants v wanted ∧ wanted ≠ []

/-- **A table that questions of assignability are about**: it is valid, no literal contains itself
unless by name, and names come to an end. -/
structure Regular (t : TypeTable) : Prop where
  /-- Every position that is mentioned exists. -/
  valid : t.validate = .ok ()
  /-- No literal contains itself, unless by name. -/
  grounded : ∀ id, ¬ Relation.TransGen t.Contains id id
  /-- Behind the names of a type stands another one. -/
  settled : ∀ id, t.Has id → ∃ u, t.Underlies id u

/-! ## Identity -/

theorem OneType.of_identicalTo (h : t.identicalTo n a b = .ok true) : t.OneType a b := by
  intro R hrefl hstep
  induction n generalizing a b with
  | zero =>
    rw [identicalTo] at h
    split at h
    · exact ‹a = b› ▸ hrefl a
    · cases h
  | succ n ih =>
    rcases identicalTo_succ_iff.mp h with rfl | ⟨ka, kb, hka, hkb, halike⟩
    · exact hrefl a
    · exact hstep a b ka kb hka hkb (halike.mono (fun _ _ => ih))

/-- **Identity is found out without fail**, in any table. -/
theorem oneType_iff : t.OneType a b ↔ t.identical a b = .ok true := by
  constructor
  · intro h
    refine h (fun x y => t.identical x y = .ok true) (identical_self t) ?_
    exact fun x y kx ky hkx hky halike => identical_iff.mpr (.inr ⟨kx, ky, hkx, hky, halike⟩)
  · exact .of_identicalTo

/-- Only `nil` is of the type of `nil`. -/
theorem OneType.kind?_of_untypedNil (h : t.OneType a b)
    (ha : t.kind? a = some (.basic .untypedNil)) : t.kind? b = some (.basic .untypedNil) := by
  rcases identical_iff.mp (oneType_iff.mp h) with rfl | ⟨ka, kb, hka, hkb, halike⟩
  · exact ha
  · obtain rfl := Option.some.inj (ha.symm.trans hka)
    cases halike with
    | basic => exact hkb

/-! ## What stands behind the names -/

theorem Underlies.unique (h : t.Underlies a u) (h' : t.Underlies a v) : u = v := by
  obtain ⟨path, h⟩ := h
  obtain ⟨path', h'⟩ := h'
  exact (h.unique h').2

theorem Underlies.of_bare (hk : t.kind? a = some k) (hbare : k.IsBare) : t.Underlies a a :=
  ⟨[], .stop hk hbare⟩

theorem Underlies.underlying (h : t.Underlies a u) : t.underlying a = .ok u := by
  obtain ⟨path, h⟩ := h
  exact underlying_of_leads h

namespace Regular

theorem closed (ht : t.Regular) : t.Closed := validate_eq_ok_iff.mp ht.valid

theorem underlies_iff (ht : t.Regular) (ha : t.Has a) :
    t.Underlies a u ↔ t.underlying a = .ok u := by
  refine ⟨Underlies.underlying, fun h => ?_⟩
  obtain ⟨v, hv⟩ := ht.settled a ha
  obtain rfl := Except.ok.inj (hv.underlying.symm.trans h)
  exact hv

end Regular

theorem isLiteral_iff : t.IsLiteral a ↔ t.isDefined a = .ok false := by
  constructor
  · rintro ⟨k, hk, hlit⟩
    rw [isDefined_of_kind? hk, hlit]
  · intro h
    obtain ⟨k, hk, -⟩ := bind_eq_ok_iff.mp h
    rw [kind_eq_ok_iff] at hk
    exact ⟨k, hk, Except.ok.inj ((isDefined_of_kind? hk).symm.trans h)⟩

/-! ## The rules and the relation -/

/-- A rule that applies is one of the language. -/
theorem Accepts.storable (ht : t.Regular) (hs : t.Has src) (hd : t.Has dst)
    (h : t.Accepts src dst) : t.Storable src dst := by
  cases h with
  | same h => exact .same (oneType_iff.mpr h)
  | shape hu hv h hdef =>
    exact .shape ((ht.underlies_iff hs).mpr hu) ((ht.underlies_iff hd).mpr hv)
      (oneType_iff.mpr h) (hdef.imp isLiteral_iff.mpr isLiteral_iff.mpr)
  | anything hv hkv => exact .anything ((ht.underlies_iff hd).mpr hv) hkv
  | methods hu hv hku hkv h =>
    exact .methods ((ht.underlies_iff hs).mpr hu) ((ht.underlies_iff hd).mpr hv) hku hkv h
  | untypedNil hs' hv hkv h => exact .untypedNil hs' ((ht.underlies_iff hd).mpr hv) hkv (.inl h)

/-- **No rule stores `nil` in an interface that asks for methods.** -/
theorem Accepts.not_nilForMethods (h : t.Accepts src dst) : ¬ t.NilForMethods src dst := by
  rintro ⟨hsrc, v, wanted, hv, hwants, hne⟩
  have hkind : t.kind? v = some (.interface wanted) := hwants
  have hself : t.underlying src = .ok src := underlying_of_isBare hsrc rfl
  cases h with
  | same h =>
    have hdst := (oneType_iff.mpr h).kind?_of_untypedNil hsrc
    obtain rfl := hv.unique (.of_bare hdst rfl)
    cases hkind.symm.trans hdst
  | shape hu hv' h _ =>
    obtain rfl := Except.ok.inj (hself.symm.trans hu)
    obtain rfl := Except.ok.inj (hv.underlying.symm.trans hv')
    cases hkind.symm.trans ((oneType_iff.mpr h).kind?_of_untypedNil hsrc)
  | anything hv' hkv =>
    obtain rfl := Except.ok.inj (hv.underlying.symm.trans hv')
    obtain rfl := TypeKind.interface.inj (Option.some.inj (hkind.symm.trans hkv))
    exact hne rfl
  | methods hu _ hku _ _ =>
    obtain rfl := Except.ok.inj (hself.symm.trans hu)
    cases hsrc.symm.trans hku
  | untypedNil _ hv' hkv h =>
    obtain rfl := Except.ok.inj (hv.underlying.symm.trans hv')
    obtain rfl := Option.some.inj (hkind.symm.trans hkv)
    cases h

/-- Whatever the language allows else, a rule allows. -/
theorem Storable.accepts (h : t.Storable src dst) (hnil : ¬ t.NilForMethods src dst) :
    t.Accepts src dst := by
  cases h with
  | same h => exact .same (oneType_iff.mp h)
  | shape hu hv h hlit =>
    exact .shape hu.underlying hv.underlying (oneType_iff.mp h)
      (hlit.imp isLiteral_iff.mp isLiteral_iff.mp)
  | anything hv hwants => exact .anything hv.underlying hwants
  | methods hu hv hhas hwants h => exact .methods hu.underlying hv.underlying hhas hwants h
  | @untypedNil v k hs hv hk h =>
    rcases h with h | ⟨methods, rfl⟩
    · exact .untypedNil hs hv.underlying hk h
    · cases methods with
      | nil => exact .anything hv.underlying hk
      | cons m methods =>
        exact absurd ⟨hs, v, m :: methods, hv, hk, List.cons_ne_nil m methods⟩ hnil

/-- **Assignability is the relation of the language, but for `nil`**, which is not stored in an
interface that asks for methods. -/
theorem Regular.assignable_iff_storable (ht : t.Regular) (hs : t.Has src) (hd : t.Has dst) :
    ∃ r, t.assignable src dst = .ok r ∧
      (r = true ↔ t.Storable src dst ∧ ¬ t.NilForMethods src dst) := by
  obtain ⟨r, hr⟩ := ht.closed.exists_assignable ht.grounded hs hd
  refine ⟨r, hr, ?_⟩
  constructor
  · rintro rfl
    have hacc := accepts_of_assignable hr
    exact ⟨hacc.storable ht hs hd, hacc.not_nilForMethods⟩
  · rintro ⟨hstorable, hnil⟩
    exact (hstorable.accepts hnil).eq_true hr

/-! ## Tables that look back only -/

theorem Descending.regular (h : t.Descending) : t.Regular where
  valid := validate_eq_ok_iff.mpr h.closed
  grounded := h.grounded
  settled := by
    intro id hid
    obtain ⟨path, u, hlead⟩ := exists_leads_of_descending h hid
    exact ⟨u, path, hlead⟩

/-- A slice of integers may be stored under a name for such slices, and an integer may not. -/
theorem assignable_iff_storable_declaredInts :
    declaredInts.Regular ∧ declaredInts.Has ⟨0⟩ ∧ declaredInts.Has ⟨1⟩ ∧ declaredInts.Has ⟨2⟩ ∧
      declaredInts.assignable ⟨1⟩ ⟨2⟩ = .ok true ∧ declaredInts.Storable ⟨1⟩ ⟨2⟩ ∧
      declaredInts.assignable ⟨0⟩ ⟨2⟩ = .ok false ∧ ¬ declaredInts.Storable ⟨0⟩ ⟨2⟩ := by
  have hregular : declaredInts.Regular := Descending.regular (by decide)
  have hint : declaredInts.Has ⟨0⟩ := rfl
  have hslice : declaredInts.Has ⟨1⟩ := rfl
  have hname : declaredInts.Has ⟨2⟩ := rfl
  have hyes : declaredInts.assignable ⟨1⟩ ⟨2⟩ = .ok true := rfl
  have hno : declaredInts.assignable ⟨0⟩ ⟨2⟩ = .ok false := rfl
  have hsome : ¬ declaredInts.NilForMethods ⟨0⟩ ⟨2⟩ := fun h => nomatch h.1
  obtain ⟨r, hr, hiff⟩ := hregular.assignable_iff_storable hslice hname
  obtain ⟨r', hr', hiff'⟩ := hregular.assignable_iff_storable hint hname
  obtain rfl := Except.ok.inj (hyes.symm.trans hr)
  obtain rfl := Except.ok.inj (hno.symm.trans hr')
  refine ⟨hregular, hint, hslice, hname, hyes, (hiff.mp rfl).1, hno, fun h => ?_⟩
  exact Bool.false_ne_true (hiff'.mpr ⟨h, hsome⟩)

/-- The types of `nil` and of `error`, and the interface that `error` stands for. -/
def nilAndError : TypeTable :=
  ⟨#[.basic .untypedNil, .interface ["Error"], .named "error" none ⟨1⟩]⟩

/-- **What the language allows is not always allowed**: `nil` is an `error`, but is not
assignable to one, nor to the interface behind it. -/
theorem not_assignable_nilAndError :
    nilAndError.Regular ∧
      nilAndError.Storable ⟨0⟩ ⟨1⟩ ∧ nilAndError.assignable ⟨0⟩ ⟨1⟩ = .ok false ∧
      nilAndError.Storable ⟨0⟩ ⟨2⟩ ∧ nilAndError.assignable ⟨0⟩ ⟨2⟩ = .ok false := by
  have hunder : nilAndError.Underlies ⟨1⟩ ⟨1⟩ := .of_bare rfl rfl
  have hnamed : nilAndError.Underlies ⟨2⟩ ⟨1⟩ := ⟨[⟨2⟩], .next rfl rfl (.stop rfl rfl)⟩
  refine ⟨Descending.regular (by decide), ?_, by decide, ?_, by decide⟩
  · exact .untypedNil rfl hunder rfl (.inr ⟨_, rfl⟩)
  · exact .untypedNil rfl hnamed rfl (.inr ⟨_, rfl⟩)

end TypeTable

end Crosswalk

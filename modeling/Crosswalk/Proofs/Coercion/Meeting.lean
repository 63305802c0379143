import Crosswalk.Matching
import Crosswalk.Proofs.Coercion.Walk
import Mathlib.Logic.Relation

/-!
# What may be fed can be coerced

Whether a type may feed another is decided by one walk over pairs of types, and
how it is made to fit by a second. The first takes names off both sides at once
and never touches a pointer of the source; the second takes pointers off the
source, then names off the destination, then names off the source. They hardly
ever visit the same pairs. Yet where the first finds types that fit, so does the
second (`exists_coercion_of_compatible`).

## Why the second walk gets there

Without its list of visited pairs the second walk would be a path that one pair
of types determines: it *meets* after some number of steps, or never. That it
meets follows from what it does to the outermost layers. A source that is no
pointer stays what it is until the destination has been laid bare. A source that
is a pointer loses it only when the destination's outermost layer is a name, and
what both then point to fits as the two did before. Literals do not contain
themselves, so this cannot go on for ever.

A path that meets visits no pair twice, so neither the list of visited pairs nor
the limit on the number of steps ever cuts it short.
-/

namespace Crosswalk

namespace TypeTable

variable {t : TypeTable} {src dst s d s' d' e u v : TypeId} {k ks kd : TypeKind} {n m : Nat}
  {record record' : Coercion → Coercion} {seen : List (TypeId × TypeId)}

/-! ## The path of the second walk -/

/-- **The walk from both ends meets after `n` steps.** -/
inductive Meets (t : TypeTable) : Nat → TypeId → TypeId → Prop
  | here {src dst : TypeId} (h : t.assignable src dst = .ok true) : Meets t 0 src dst
  | step {src dst src' dst' : TypeId} {record : Coercion → Coercion} {n : Nat}
      (hno : t.assignable src dst = .ok false) (hadv : t.Advances src dst record src' dst')
      (h : Meets t n src' dst') : Meets t (n + 1) src dst

/-- There is one way to go on. -/
theorem Advances.unique (h : t.Advances src dst record s d) (h' : t.Advances src dst record' s' d') :
    s = s' ∧ d = d' := by
  cases h <;> cases h' <;> grind [TypeKind.pointee?, TypeKind.inside?]

/-- There is one number of steps. -/
theorem Meets.unique (h : t.Meets n src dst) (h' : t.Meets m src dst) : n = m := by
  induction h generalizing m with
  | here h =>
    cases h' with
    | here => rfl
    | step hno => cases h.symm.trans hno
  | step hno hadv _ ih =>
    cases h' with
    | here h => cases h.symm.trans hno
    | step _ hadv' h' =>
      obtain ⟨rfl, rfl⟩ := hadv.unique hadv'
      exact congrArg Nat.succ (ih h')

/-- The pairs that do not fit are as many as the steps, and no two of them are the same. -/
theorem Meets.exists_pairs (h : t.Meets n src dst) :
    ∃ l : List (TypeId × TypeId), l.length = n ∧ l.Nodup ∧
      ∀ p ∈ l, (t.Has p.1 ∧ t.Has p.2) ∧ ∃ m ≤ n, t.Meets m p.1 p.2 := by
  induction h with
  | here => exact ⟨[], rfl, List.nodup_nil, fun p hp => absurd hp List.not_mem_nil⟩
  | @step src dst src' dst' record n hno hadv h ih =>
    obtain ⟨l, hlen, hnodup, hl⟩ := ih
    refine ⟨(src, dst) :: l, congrArg Nat.succ hlen, List.nodup_cons.mpr ⟨fun hmem => ?_, hnodup⟩, ?_⟩
    · obtain ⟨-, m, hm, hmeets⟩ := hl _ hmem
      have heq := hmeets.unique (.step hno hadv h)
      omega
    · intro p hp
      rcases List.mem_cons.mp hp with rfl | hp
      · refine ⟨?_, n + 1, Nat.le_refl _, .step hno hadv h⟩
        rcases has_of_assignable hno with rfl | hhas
        · cases (assignable_self t src).symm.trans hno
        · exact hhas
      · obtain ⟨hhas, m, hm, hmeets⟩ := hl p hp
        exact ⟨hhas, m, Nat.le_succ_of_le hm, hmeets⟩

/-- **A walk that meets does so within the limit.** -/
theorem Meets.le_size_mul_size (h : t.Meets n src dst) : n ≤ t.size * t.size := by
  obtain ⟨l, rfl, hnodup, hl⟩ := h.exists_pairs
  exact length_le_size_mul_size hnodup (fun p hp => (hl p hp).1)

/-- **Where the path meets, the walk is complete**, as long as it has seen only
pairs that lie further back. -/
theorem Meets.exists_coercionFrom (h : t.Meets n src dst) (hnm : n < m)
    (hseen : ∀ p ∈ seen, ∃ i > n, t.Meets i p.1 p.2) :
    ∃ c, t.coercionFrom m seen src dst = .ok c ∧ c.complete = true := by
  induction h generalizing m seen with
  | here h =>
    obtain ⟨m, rfl⟩ := Nat.exists_eq_add_of_lt hnm
    refine ⟨.stop true, ?_, rfl⟩
    rw [Nat.zero_add, coercionFrom, h]
    rfl
  | @step src dst src' dst' record n hno hadv h ih =>
    obtain ⟨m, rfl⟩ := Nat.exists_eq_add_of_le' (Nat.lt_of_le_of_lt (Nat.zero_le _) hnm)
    have hnew : (src, dst) ∉ seen := by
      intro hmem
      obtain ⟨i, hi, hmeets⟩ := hseen _ hmem
      have heq := hmeets.unique (.step hno hadv h)
      omega
    have hseen' : ∀ p ∈ (src, dst) :: seen, ∃ i > n, t.Meets i p.1 p.2 := by
      intro p hp
      rcases List.mem_cons.mp hp with rfl | hp
      · exact ⟨n + 1, Nat.lt_succ_self n, .step hno hadv h⟩
      · obtain ⟨i, hi, hmeets⟩ := hseen p hp
        exact ⟨i, Nat.lt_of_succ_lt hi, hmeets⟩
    obtain ⟨c, hc, hcomplete⟩ := ih (Nat.lt_of_succ_lt_succ hnm) hseen'
    refine ⟨record c, ?_, ?_⟩
    · rw [coercionFrom_of_advances hadv hno hnew, hc]
      rfl
    · cases hadv <;> exact hcomplete

/-! ## What is under the layers -/

/-- One layer, a pointer or a name, separates `a` from `b`. -/
def Inside (t : TypeTable) (a b : TypeId) : Prop := ∃ k, t.kind? a = some k ∧ k.inside? = some b

theorem Declares.inside (h : t.Declares s d) : t.Inside s d := by
  obtain ⟨name, package, hk⟩ := h
  exact ⟨_, hk, rfl⟩

theorem Inside.has (ht : t.Closed) (h : t.Inside s d) : t.Has s ∧ t.Has d := by
  obtain ⟨k, hk, hin⟩ := h
  refine ⟨has_of_kind? hk, ?_⟩
  cases k with
  | pointer elem =>
    obtain rfl := Option.some.inj hin
    exact ht s _ hk _ List.mem_cons_self
  | named name package underlying =>
    obtain rfl := Option.some.inj hin
    exact ht s _ hk _ List.mem_cons_self
  | _ => cases hin

theorem has_of_reaches (ht : t.Closed) (h : Relation.ReflTransGen t.Inside s d) (hs : t.Has s) :
    t.Has d := by
  induction h with
  | refl => exact hs
  | tail _ hin _ => exact (hin.has ht).2

theorem Leads.declares {path : List TypeId} (h : t.Leads TypeKind.declared? path s v) :
    Relation.ReflTransGen t.Declares s v := by
  induction h with
  | stop => exact .refl
  | next hk hstep _ ih =>
    obtain ⟨name, package, rfl⟩ := TypeKind.declared?_eq_some hstep
    exact .head ⟨name, package, hk⟩ ih

theorem Leads.reaches {path : List TypeId} (h : t.Leads TypeKind.declared? path s v) :
    Relation.ReflTransGen t.Inside s v :=
  h.declares.lift id (fun _ _ => Declares.inside)

/-- Taking one name off takes one name off, or nothing. -/
theorem declares_of_unname (h : t.unname s = .ok u) : u = s ∨ t.Declares s u := by
  have h' := h
  unfold unname at h'
  obtain ⟨k, hk, -⟩ := bind_eq_ok_iff.mp h'
  rw [kind_eq_ok_iff] at hk
  rw [unname_of_kind? hk] at h
  obtain rfl := Except.ok.inj h
  cases hdecl : k.declared? with
  | none => exact .inl rfl
  | some w =>
    obtain ⟨name, package, rfl⟩ := TypeKind.declared?_eq_some hdecl
    exact .inr ⟨name, package, hk⟩

/-- Only existing positions feed one another, unless they are one. -/
theorem has_of_compatible {r : Bool} (h : t.compatible src dst = .ok r) :
    src = dst ∨ t.Has src ∧ t.Has dst := by
  unfold compatible at h
  change (if (src, dst) ∈ [] then Except.ok false else t.assignable src dst >>= fun fits => _)
    = .ok r at h
  rw [if_neg List.not_mem_nil] at h
  obtain ⟨fits, hfits, -⟩ := bind_eq_ok_iff.mp h
  exact has_of_assignable hfits

/-- **What may feed a type fits something inside it**, with some of its own names off. -/
theorem exists_fitting_of_compatibleFrom (h : t.compatibleFrom n seen src dst = .ok true) :
    ∃ s d, Relation.ReflTransGen t.Declares src s ∧ Relation.ReflTransGen t.Inside dst d ∧
      t.assignable s d = .ok true := by
  induction n generalizing seen src dst with
  | zero => cases h
  | succ n ih =>
    change (if (src, dst) ∈ seen then Except.ok false else t.assignable src dst >>= fun fits => _)
      = .ok true at h
    split at h
    · cases h
    obtain ⟨fits, hfits, h⟩ := bind_eq_ok_iff.mp h
    cases fits with
    | true => exact ⟨src, dst, .refl, .refl, hfits⟩
    | false =>
      obtain ⟨_, hpd, h⟩ := bind_eq_ok_iff.mp h
      obtain ⟨kd, hd, rfl⟩ := exists_kind_of_pointee hpd
      cases hdp : kd.pointee? with
      | some e =>
        rw [hdp] at h
        obtain ⟨s, d, hs, hreach, hmeet⟩ := ih h
        obtain rfl := TypeKind.pointee?_eq_some hdp
        exact ⟨s, d, hs, .head ⟨_, hd, rfl⟩ hreach, hmeet⟩
      | none =>
        rw [hdp] at h
        obtain ⟨u, hu, h⟩ := bind_eq_ok_iff.mp h
        obtain ⟨v, hv, h⟩ := bind_eq_ok_iff.mp h
        split at h
        · cases h
        · obtain ⟨s, d, hs, hreach, hmeet⟩ := ih h
          refine ⟨s, d, ?_, ?_, hmeet⟩
          · rcases declares_of_unname hu with rfl | hdecl
            · exact hs
            · exact .head hdecl hs
          · rcases declares_of_unname hv with rfl | hdecl
            · exact hreach
            · exact .head hdecl.inside hreach

/-! ## The second walk gets there -/

/-- The walk from both ends meets. -/
def Meetable (t : TypeTable) (src dst : TypeId) : Prop := ∃ n, t.Meets n src dst

/-- **The walk from both ends meets level**: it takes no pointer off the source. -/
inductive Level (t : TypeTable) : TypeId → TypeId → Prop
  /-- The two types fit. -/
  | here {src dst : TypeId} (h : t.assignable src dst = .ok true) : Level t src dst
  /-- They do not, and the destination loses a layer. -/
  | around {src dst d : TypeId} {step : CoercionStep} (hno : t.assignable src dst = .ok false)
      (hadv : t.Advances src dst (.around step) src d) (h : Level t src d) : Level t src dst
  /-- They do not, and the source loses a name. -/
  | unname {src dst u : TypeId} (hno : t.assignable src dst = .ok false)
      (hadv : t.Advances src dst (.off (.convert u)) u dst) (h : Level t u dst) : Level t src dst

theorem Level.meetable (h : t.Level src dst) : t.Meetable src dst := by
  induction h with
  | here h => exact ⟨0, .here h⟩
  | around hno hadv _ ih =>
    obtain ⟨n, h⟩ := ih
    exact ⟨n + 1, .step hno hadv h⟩
  | unname hno hadv _ ih =>
    obtain ⟨n, h⟩ := ih
    exact ⟨n + 1, .step hno hadv h⟩

namespace WellFormed

theorem level_of_accepts (ht : t.WellFormed) (hs : t.Has src) (hd : t.Has dst)
    (h : t.Accepts src dst) : t.Level src dst :=
  .here ((ht.assignable_iff hs hd).mpr h)

/-- Where the walk takes a layer off the destination and is level from there, it is level. -/
theorem level_of_around {step : CoercionStep} (ht : t.WellFormed) (hs : t.Has src)
    (hd : t.Has dst) (hadv : t.Advances src dst (.around step) src d) (h : t.Level src d) :
    t.Level src dst := by
  obtain ⟨fits, hfits⟩ := ht.exists_assignable hs hd
  cases fits with
  | true => exact .here hfits
  | false => exact .around hfits hadv h

/-- Where the walk takes a name off the source and is level from there, it is level. -/
theorem level_of_unname (ht : t.WellFormed) (hs : t.Has src) (hd : t.Has dst)
    (hadv : t.Advances src dst (.off (.convert u)) u dst) (h : t.Level u dst) :
    t.Level src dst := by
  obtain ⟨fits, hfits⟩ := ht.exists_assignable hs hd
  cases fits with
  | true => exact .here hfits
  | false => exact .unname hfits hadv h

/-- Where the walk advances to a pair from which it meets, it meets. -/
theorem meetable_of_advances (ht : t.WellFormed) (hs : t.Has src) (hd : t.Has dst)
    (hadv : t.Advances src dst record s d) (h : t.Meetable s d) : t.Meetable src dst := by
  obtain ⟨n, h⟩ := h
  obtain ⟨fits, hfits⟩ := ht.exists_assignable hs hd
  cases fits with
  | true => exact ⟨0, .here hfits⟩
  | false => exact ⟨n + 1, .step hfits hadv h⟩

/-- **A source that is no pointer waits** until the destination has been laid bare
as far as one likes. -/
theorem level_of_reaches (ht : t.WellFormed) (hs : t.kind? src = some ks)
    (hp : ks.pointee? = none) (hreach : Relation.ReflTransGen t.Inside dst d)
    (h : t.Level src d) : t.Level src dst := by
  induction hreach using Relation.ReflTransGen.head_induction_on with
  | refl => exact h
  | @head a b hin _ ih =>
    obtain ⟨k, hk, hinside⟩ := hin
    have hadv : ∃ step, t.Advances src a (.around step) src b := by
      cases k with
      | pointer elem =>
        obtain rfl := Option.some.inj hinside
        exact ⟨_, .address hk⟩
      | named name package underlying =>
        obtain rfl := Option.some.inj hinside
        exact ⟨_, .name hk hs hp⟩
      | _ => cases hinside
    obtain ⟨step, hadv⟩ := hadv
    exact ht.level_of_around (has_of_kind? hs) (has_of_kind? hk) hadv ih

/-- Where the destination is bare and no pointer, the names of the source come off. -/
theorem level_of_leads {path : List TypeId} (ht : t.WellFormed) (hd : t.kind? dst = some kd)
    (hbare : kd.inside? = none) (hlead : t.Leads TypeKind.declared? path src u)
    (h : t.Level u dst) : t.Level src dst := by
  induction hlead with
  | stop => exact h
  | next hk hstep _ ih =>
    obtain ⟨name, package, rfl⟩ := TypeKind.declared?_eq_some hstep
    exact ht.level_of_unname (has_of_kind? hk) (has_of_kind? hd) (.unname hd hbare hk) (ih h)

/-- A source that is no pointer meets a bare destination that is the same behind the names. -/
theorem level_of_underlying {path : List TypeId} (ht : t.WellFormed)
    (hs : t.Has src) (hlead : t.Leads TypeKind.declared? path src u) (hv : t.kind? v = some k)
    (hbare : k.IsBare)
    (h : t.identical u v = .ok true) : t.Level src v := by
  have hasv := has_of_kind? hv
  cases hpv : k.pointee? with
  | none =>
    -- the names of the source come off one by one
    refine ht.level_of_leads hv (TypeKind.inside?_eq_none hpv hbare) hlead ?_
    exact ht.level_of_accepts hlead.has_end hasv (.same h)
  | some e =>
    -- a pointer is not defined, so the two fit as they are
    obtain rfl := TypeKind.pointee?_eq_some hpv
    refine ht.level_of_accepts hs hasv ?_
    exact .shape (underlying_of_leads hlead) (underlying_of_isBare hv hbare) h
      (.inr (isDefined_of_kind? hv))

/-- Names that come off do not change what is behind them. -/
theorem underlying_eq_of_declares (ht : t.WellFormed)
    (h : Relation.ReflTransGen t.Declares src s) : t.underlying src = t.underlying s := by
  induction h with
  | refl => rfl
  | tail _ hdecl ih =>
    obtain ⟨name, package, hk⟩ := hdecl
    exact ih.trans (ht.underlying_eq hk)

/-- Nothing is declared as `nil`. -/
theorem eq_of_declares_untypedNil (ht : t.WellFormed)
    (h : Relation.ReflTransGen t.Declares src s) (hs : t.kind? s = some (.basic .untypedNil)) :
    src = s := by
  rcases h.cases_head with heq | ⟨c, ⟨name, package, hk⟩, -⟩
  · exact heq
  · obtain ⟨path, v, hlead, hv⟩ := ht.settled src name package c hk
    have hund := (underlying_of_leads hlead).symm.trans (ht.underlying_eq_of_declares h)
    obtain rfl := Except.ok.inj (hund.trans (underlying_of_isBare hs rfl))
    exact absurd hs hv

/-- **A source that is no pointer meets level** what it fits with some of its names off. -/
theorem level_of_not_pointer (ht : t.WellFormed) (hk : t.kind? src = some ks)
    (hp : ks.pointee? = none) (hdst : t.Has dst)
    (hnames : Relation.ReflTransGen t.Declares src s)
    (hreach : Relation.ReflTransGen t.Inside dst d) (hacc : t.Accepts s d) :
    t.Level src dst := by
  have hsrc := has_of_kind? hk
  obtain ⟨path, v, hlead⟩ := ht.exists_leads (has_of_reaches ht.closed hreach hdst)
  obtain ⟨path', u, hlead'⟩ := ht.exists_leads hsrc
  have hu := underlying_of_leads hlead'
  have hus := (ht.underlying_eq_of_declares hnames).symm.trans hu
  have hv := underlying_of_leads hlead
  obtain ⟨kv, hkv, hbare⟩ := hlead.exists_kind_end
  have hvv := underlying_of_isBare hkv hbare
  -- the destination is laid bare beyond `d`, down to what stands behind its names
  refine ht.level_of_reaches hk hp (hreach.trans hlead.reaches) ?_
  cases hacc with
  | same hsame =>
    have hsame' := ht.identical_underlying hsame hus hv
    exact ht.level_of_underlying hsrc hlead' hkv hbare hsame'
  | shape hu' hv' hshape =>
    obtain rfl := Except.ok.inj (hus.symm.trans hu')
    obtain rfl := Except.ok.inj (hv.symm.trans hv')
    exact ht.level_of_underlying hsrc hlead' hkv hbare hshape
  | anything hv' hany =>
    obtain rfl := Except.ok.inj (hv.symm.trans hv')
    exact ht.level_of_accepts hsrc hlead.has_end (.anything hvv hany)
  | methods hu' hv' hku hkv' hm =>
    obtain rfl := Except.ok.inj (hus.symm.trans hu')
    obtain rfl := Except.ok.inj (hv.symm.trans hv')
    exact ht.level_of_accepts hsrc hlead.has_end (.methods hu hvv hku hkv' hm)
  | untypedNil hs hv' hkv' hnil =>
    obtain rfl := ht.eq_of_declares_untypedNil hnames hs
    obtain rfl := Except.ok.inj (hv.symm.trans hv')
    exact ht.level_of_accepts hsrc hlead.has_end (.untypedNil hs hvv hkv' hnil)

/-- **Where a pointer fits, what it points to fits further in.** -/
theorem exists_accepts_pointee (ht : t.WellFormed) (hk : t.kind? src = some (.pointer e))
    (hd : t.Has d) (hacc : t.Accepts src d) :
    ∃ d', Relation.ReflTransGen t.Inside d d' ∧ t.Accepts e d' := by
  have hsrc := underlying_of_isBare hk rfl
  obtain ⟨path, v, hlead⟩ := ht.exists_leads hd
  have hv := underlying_of_leads hlead
  -- behind the names of the destination is a pointer to the same
  have hpointer : t.identical src v = .ok true →
      ∃ d', Relation.ReflTransGen t.Inside d d' ∧ t.Accepts e d' := by
    intro hsame
    obtain ⟨f, hkv, hef⟩ := exists_pointer_of_identical hsame hk
    exact ⟨f, hlead.reaches.tail ⟨_, hkv, rfl⟩, .same hef⟩
  cases hacc with
  | same hsame => exact hpointer (ht.identical_underlying hsame hsrc hv)
  | shape hu' hv' hshape =>
    obtain rfl := Except.ok.inj (hsrc.symm.trans hu')
    obtain rfl := Except.ok.inj (hv.symm.trans hv')
    exact hpointer hshape
  | anything hv' hany => exact ⟨d, .refl, .anything hv' hany⟩
  | methods hu' hv' hku =>
    obtain rfl := Except.ok.inj (hsrc.symm.trans hu')
    cases hk.symm.trans hku
  | untypedNil hs => cases hk.symm.trans hs

/-- **Every source meets what it fits**, whatever is wrapped around that. The
induction is on how deep the literals of the source go. -/
theorem meetable_of_accepts_inside (ht : t.WellFormed) (hshallow : t.Shallow n src)
    (hsrc : t.Has src) (hdst : t.Has dst) (hreach : Relation.ReflTransGen t.Inside dst d)
    (hacc : t.Accepts src d) : t.Meetable src dst := by
  induction n generalizing src dst d with
  | zero => exact absurd hshallow id
  | succ n ih =>
    obtain ⟨ks, hk⟩ := exists_kind_of_has hsrc
    cases hp : ks.pointee? with
    | none => exact (ht.level_of_not_pointer hk hp hdst .refl hreach hacc).meetable
    | some e =>
      obtain rfl := TypeKind.pointee?_eq_some hp
      have he := ht.closed src _ hk e List.mem_cons_self
      have hd := has_of_reaches ht.closed hreach hdst
      obtain ⟨d', hreach', hacc'⟩ := ht.exists_accepts_pointee hk hd hacc
      -- the pointer comes off where the destination's outermost layer is a name
      induction hreach using Relation.ReflTransGen.head_induction_on with
      | refl => exact (ht.level_of_accepts hsrc hd hacc).meetable
      | @head a b hin hreach ihreach =>
        have hb := ihreach (hin.has ht.closed).2
        obtain ⟨k, hka, hinside⟩ := hin
        cases k with
        | pointer elem =>
          obtain rfl := Option.some.inj hinside
          exact ht.meetable_of_advances hsrc hdst (.address hka) hb
        | named name package underlying =>
          obtain rfl := Option.some.inj hinside
          refine ht.meetable_of_advances hsrc hdst (.deref hka rfl hk) ?_
          have hcontains : t.Contains src e := ⟨_, hk, rfl, List.mem_cons_self⟩
          have hthrough := (Relation.ReflTransGen.head ⟨_, hka, rfl⟩ hreach).trans hreach'
          exact ih (hshallow e hcontains) he hdst hthrough hacc'
        | _ => cases hinside

/-- A source that is no pointer meets level whatever it may feed. -/
theorem level_of_compatible (ht : t.WellFormed) (hk : t.kind? src = some ks)
    (hp : ks.pointee? = none) (h : t.compatible src dst = .ok true) : t.Level src dst := by
  obtain ⟨s, d, hnames, hreach, hmeet⟩ := exists_fitting_of_compatibleFrom h
  rcases has_of_compatible h with rfl | ⟨-, hdst⟩
  · exact .here (assignable_self t src)
  · exact ht.level_of_not_pointer hk hp hdst hnames hreach (accepts_of_assignable hmeet)

/-- **The second walk gets where the first one does.** -/
theorem meetable_of_compatible (ht : t.WellFormed) (h : t.compatible src dst = .ok true) :
    t.Meetable src dst := by
  rcases has_of_compatible h with rfl | ⟨hsrc, hdst⟩
  · exact ⟨0, .here (assignable_self t src)⟩
  obtain ⟨ks, hk⟩ := exists_kind_of_has hsrc
  cases hp : ks.pointee? with
  | none => exact (ht.level_of_compatible hk hp h).meetable
  | some e =>
    -- a pointer has no names to take off
    obtain rfl := TypeKind.pointee?_eq_some hp
    obtain ⟨s, d, hnames, hreach, hmeet⟩ := exists_fitting_of_compatibleFrom h
    rcases hnames.cases_head with rfl | ⟨c, ⟨name, package, hk'⟩, -⟩
    · exact ht.meetable_of_accepts_inside (ht.shallow src) hsrc hdst hreach
        (accepts_of_assignable hmeet)
    · cases hk.symm.trans hk'

/-- **What may be fed can be coerced**, and completely. -/
theorem exists_coercion_of_compatible (ht : t.WellFormed) (h : t.compatible src dst = .ok true) :
    ∃ c, t.coercion src dst = .ok c ∧ c.complete = true := by
  obtain ⟨n, hmeets⟩ := ht.meetable_of_compatible h
  have hle := hmeets.le_size_mul_size
  exact hmeets.exists_coercionFrom (by omega) (fun p hp => absurd hp List.not_mem_nil)

end WellFormed

end TypeTable

end Crosswalk

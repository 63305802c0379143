import Crosswalk.Conversion
import Crosswalk.Proofs.Types.Assignability

/-!
# The walk from both ends

`TypeTable.coercionFrom` has one way to go on from a pair of types that do not
fit: which one depends on the outermost layers of the two. `TypeTable.Advances`
says which, together with the step that is recorded. The walk is told apart
from it in two statements: what follows where it is known which way it goes
(`coercionFrom_of_advances`), and which way it went where the outcome is known
(`coercionFrom_cases`).
-/

namespace Crosswalk

namespace TypeTable

variable {t : TypeTable} {src dst src' dst' s d p u : TypeId} {record : Coercion → Coercion}
  {seen : List (TypeId × TypeId)} {n : Nat} {c : Coercion} {inner outer : List CoercionStep}

/-- **How the walk goes on from two types that do not fit**, and what it records
on the way. -/
inductive Advances (t : TypeTable) : TypeId → TypeId → (Coercion → Coercion) → TypeId → TypeId → Prop
  /-- A pointer destination takes the address of something. -/
  | address {src dst e : TypeId} (hd : t.kind? dst = some (.pointer e)) :
      Advances t src dst (.around .addressOf) src e
  /-- Any other destination takes what a pointer source points to. -/
  | deref {src dst e : TypeId} {kd : TypeKind} (hd : t.kind? dst = some kd)
      (hdp : kd.pointee? = none) (hs : t.kind? src = some (.pointer e)) :
      Advances t src dst (.off .deref) e dst
  /-- Without pointers on either side, a named destination is converted to. -/
  | name {src dst u : TypeId} {ks : TypeKind} {name : String} {package : Option String}
      (hd : t.kind? dst = some (.named name package u)) (hs : t.kind? src = some ks)
      (hsp : ks.pointee? = none) : Advances t src dst (.around (.convert dst)) src u
  /-- Without layers on the destination, a named source is converted. -/
  | unname {src dst u : TypeId} {kd : TypeKind} {name : String} {package : Option String}
      (hd : t.kind? dst = some kd) (hdp : kd.inside? = none)
      (hs : t.kind? src = some (.named name package u)) :
      Advances t src dst (.off (.convert u)) u dst

/-- **Where the walk advances, it goes on** with the next pair. -/
theorem coercionFrom_of_advances (h : t.Advances src dst record src' dst')
    (hno : t.assignable src dst = .ok false) (hseen : (src, dst) ∉ seen) :
    t.coercionFrom (n + 1) seen src dst =
      t.coercionFrom n ((src, dst) :: seen) src' dst' >>= fun c => .ok (record c) := by
  rw [coercionFrom, hno, ok_bind, if_neg Bool.false_ne_true, if_neg hseen]
  cases h with
  | address hd =>
    rw [pointee_of_kind? hd]
    rfl
  | deref hd hdp hs =>
    rw [pointee_of_kind? hd, hdp, pointee_of_kind? hs]
    rfl
  | name hd hs hsp =>
    rw [pointee_of_kind? hd, pointee_of_kind? hs, hsp, isNamed_of_kind? hd, unname_of_kind? hd]
    rfl
  | unname hd hdp hs =>
    rw [pointee_of_kind? hd, TypeKind.pointee?_eq_none_of_inside? hdp, pointee_of_kind? hs,
      isNamed_of_kind? hd, TypeKind.declared?_eq_none_of_inside? hdp, isNamed_of_kind? hs,
      unname_of_kind? hs]
    rfl

theorem exists_kind_of_pointee {r : Option TypeId} (h : t.pointee src = .ok r) :
    ∃ k, t.kind? src = some k ∧ r = k.pointee? := by
  have h' := h
  unfold pointee at h'
  obtain ⟨k, hk, -⟩ := bind_eq_ok_iff.mp h'
  rw [kind_eq_ok_iff] at hk
  exact ⟨k, hk, Except.ok.inj (h.symm.trans (pointee_of_kind? hk))⟩

/-- **The walk met, or gave up, or advanced.** -/
theorem coercionFrom_cases (h : t.coercionFrom (n + 1) seen src dst = .ok c) :
    (t.assignable src dst = .ok true ∧ c = .stop true) ∨ c = .stop false ∨
      ∃ record src' dst' c', t.Advances src dst record src' dst' ∧
        t.coercionFrom n ((src, dst) :: seen) src' dst' = .ok c' ∧ c = record c' := by
  have hstep := h
  rw [coercionFrom] at hstep
  obtain ⟨met, hmet, hstep⟩ := bind_eq_ok_iff.mp hstep
  cases met with
  | true => exact .inl ⟨hmet, (Except.ok.inj hstep).symm⟩
  | false =>
    rw [if_neg Bool.false_ne_true] at hstep
    by_cases hseen : (src, dst) ∈ seen
    · rw [if_pos hseen] at hstep
      exact .inr (.inl (Except.ok.inj hstep).symm)
    -- whichever way the walk may advance, it did
    have hadv : ∀ record src' dst', t.Advances src dst record src' dst' →
        c = .stop false ∨ ∃ record src' dst' c', t.Advances src dst record src' dst' ∧
          t.coercionFrom n ((src, dst) :: seen) src' dst' = .ok c' ∧ c = record c' := by
      intro record src' dst' hadv
      rw [coercionFrom_of_advances hadv hmet hseen] at h
      obtain ⟨c', hc', h⟩ := bind_eq_ok_iff.mp h
      exact .inr ⟨record, src', dst', c', hadv, hc', (Except.ok.inj h).symm⟩
    refine .inr ?_
    rw [if_neg hseen] at hstep
    obtain ⟨_, hpd, hstep⟩ := bind_eq_ok_iff.mp hstep
    obtain ⟨kd, hd, rfl⟩ := exists_kind_of_pointee hpd
    cases hdp : kd.pointee? with
    | some e => exact hadv _ _ _ (.address (TypeKind.pointee?_eq_some hdp ▸ hd))
    | none =>
      rw [hdp] at hstep
      obtain ⟨_, hps, hstep⟩ := bind_eq_ok_iff.mp hstep
      obtain ⟨ks, hs, rfl⟩ := exists_kind_of_pointee hps
      cases hsp : ks.pointee? with
      | some e => exact hadv _ _ _ (.deref hd hdp (TypeKind.pointee?_eq_some hsp ▸ hs))
      | none =>
        cases hdn : kd.declared? with
        | some u =>
          obtain ⟨name, package, rfl⟩ := TypeKind.declared?_eq_some hdn
          exact hadv _ _ _ (.name hd hs hsp)
        | none =>
          cases hsn : ks.declared? with
          | some u =>
            obtain ⟨name, package, rfl⟩ := TypeKind.declared?_eq_some hsn
            exact hadv _ _ _ (.unname hd (TypeKind.inside?_eq_none hdp hdn) hs)
          | none =>
            rw [hsp, isNamed_of_kind? hd, hdn, isNamed_of_kind? hs, hsn] at hstep
            exact .inl (Except.ok.inj hstep).symm

/-! ## What the record says

Steps off the source lead from the source to where the walk met, steps around
the destination from there to the destination. -/

/-- **Steps off a source**, innermost first: from `src` they lead to `s`. -/
inductive Off (t : TypeTable) : TypeId → List CoercionStep → TypeId → Prop
  | here (s : TypeId) : Off t s [] s
  | deref {src p s : TypeId} {rest : List CoercionStep} (hk : t.kind? src = some (.pointer p))
      (h : Off t p rest s) : Off t src (.deref :: rest) s
  | unname {src u s : TypeId} {rest : List CoercionStep} {name : String} {package : Option String}
      (hk : t.kind? src = some (.named name package u)) (h : Off t u rest s) :
      Off t src (.convert u :: rest) s

/-- **Steps around a destination**, innermost first: from `d` they lead to `dst`. -/
inductive Around (t : TypeTable) : TypeId → List CoercionStep → TypeId → Prop
  | here (d : TypeId) : Around t d [] d
  | address {d p dst : TypeId} {rest : List CoercionStep} (hk : t.kind? p = some (.pointer d))
      (h : Around t p rest dst) : Around t d (.addressOf :: rest) dst
  | name {d p dst : TypeId} {rest : List CoercionStep} {name : String} {package : Option String}
      (hk : t.kind? p = some (.named name package d)) (h : Around t p rest dst) :
      Around t d (.convert p :: rest) dst

theorem Around.trans (h : t.Around d inner p) (h' : t.Around p outer dst) :
    t.Around d (inner ++ outer) dst := by
  induction h with
  | here => exact h'
  | address hk _ ih => exact .address hk (ih h')
  | name hk _ ih => exact .name hk (ih h')

/-- **A complete walk leads from the source to a type that fits, and from the
type it fits to the destination.** -/
theorem exists_meeting (h : t.coercionFrom n seen src dst = .ok c) (hc : c.complete = true) :
    ∃ s d, t.Off src c.inner s ∧ t.Around d c.outer.reverse dst ∧
      t.assignable s d = .ok true := by
  induction n generalizing seen src dst c with
  | zero => cases h
  | succ n ih =>
    rcases coercionFrom_cases h with ⟨hmet, rfl⟩ | rfl | ⟨record, src', dst', c', hadv, hrest, rfl⟩
    · exact ⟨src, dst, .here src, .here dst, hmet⟩
    · cases hc
    · cases hadv with
      | address hd =>
        obtain ⟨s, d, hoff, haround, hmeet⟩ := ih hrest hc
        refine ⟨s, d, hoff, ?_, hmeet⟩
        exact List.reverse_cons ▸ haround.trans (.address hd (.here dst))
      | deref hd hdp hs =>
        obtain ⟨s, d, hoff, haround, hmeet⟩ := ih hrest hc
        exact ⟨s, d, .deref hs hoff, haround, hmeet⟩
      | name hd hs hsp =>
        obtain ⟨s, d, hoff, haround, hmeet⟩ := ih hrest hc
        refine ⟨s, d, hoff, ?_, hmeet⟩
        exact List.reverse_cons ▸ haround.trans (.name hd (.here dst))
      | unname hd hdp hs =>
        obtain ⟨s, d, hoff, haround, hmeet⟩ := ih hrest hc
        exact ⟨s, d, .unname hs hoff, haround, hmeet⟩

end TypeTable

end Crosswalk

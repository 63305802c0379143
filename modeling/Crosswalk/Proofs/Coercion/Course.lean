import Crosswalk.Proofs.Coercion.Meeting
import Crosswalk.Proofs.Coercion.Safe

/-!
# The courses of the two walks

Both walks over pairs of types remember the pairs they have met and give up when they meet
one again. What they do until then depends on the two types in hand and on nothing else,
so without its memory each would take a *course* that the pair it begins with determines:
the first until it finds types that fit (`TypeTable.Feeds`), the second until it finds such
or nothing is left to take off (`TypeTable.Course`).

A course that ends never comes back to a pair, because it would then go on for ever. So
the memory is felt only where the course has no end, and there the walk fails.
-/

namespace Crosswalk

/-- How many steps were found. -/
def Coercion.length (c : Coercion) : Nat := c.inner.length + c.outer.length

namespace TypeTable

variable {t : TypeTable} {src dst s d s' d' : TypeId} {record record' : Coercion → Coercion}
  {seen : List (TypeId × TypeId)} {n m : Nat} {c c' : Coercion}

/-! ## The walk from both ends -/

/-- **Where the walk from both ends gets to**, if it gets anywhere. -/
inductive Course (t : TypeTable) : TypeId → TypeId → Coercion → Prop
  /-- The two types fit. -/
  | met {src dst : TypeId} (h : t.assignable src dst = .ok true) : Course t src dst (.stop true)
  /-- They do not, and nothing is left to take off. -/
  | stuck {src dst : TypeId} (hno : t.assignable src dst = .ok false)
      (h : ∀ record s d, ¬ t.Advances src dst record s d) : Course t src dst (.stop false)
  /-- They do not, and the walk goes on. -/
  | step {src dst s d : TypeId} {record : Coercion → Coercion} {c : Coercion}
      (hno : t.assignable src dst = .ok false) (hadv : t.Advances src dst record s d)
      (h : Course t s d c) : Course t src dst (record c)

theorem Advances.record_eq (h : t.Advances src dst record s d)
    (h' : t.Advances src dst record' s' d') : record = record' := by
  obtain ⟨rfl, rfl⟩ := h.unique h'
  cases h <;> cases h' <;> grind [TypeKind.pointee?, TypeKind.inside?]

/-- Every step is recorded. -/
theorem Advances.length (h : t.Advances src dst record s d) (c : Coercion) :
    (record c).length = c.length + 1 := by
  unfold Coercion.length
  cases h with
  | address => exact (Nat.add_assoc _ _ 1).symm
  | deref => exact Nat.succ_add _ _
  | name => exact (Nat.add_assoc _ _ 1).symm
  | unname => exact Nat.succ_add _ _

theorem Advances.has (ht : t.Closed) (hs : t.Has src) (h : t.Advances src dst record s d) :
    t.Has s ∧ t.Has d := by
  cases h with
  | address hd => exact ⟨hs, ht.has_of_inside? hd rfl⟩
  | deref hd _ hs => exact ⟨ht.has_of_inside? hs rfl, has_of_kind? hd⟩
  | name hd _ _ => exact ⟨hs, ht.has_of_inside? hd rfl⟩
  | unname hd _ hs => exact ⟨ht.has_of_inside? hs rfl, has_of_kind? hd⟩

namespace Course

/-- **There is one course from a pair.** -/
theorem unique (h : t.Course src dst c) (h' : t.Course src dst c') : c = c' := by
  induction h generalizing c' with
  | met h =>
    cases h' with
    | met => rfl
    | stuck hno => cases h.symm.trans hno
    | step hno => cases h.symm.trans hno
  | stuck hno h =>
    cases h' with
    | met h' => cases h'.symm.trans hno
    | stuck => rfl
    | step _ hadv => exact absurd hadv (h _ _ _)
  | step hno hadv _ ih =>
    cases h' with
    | met h' => cases h'.symm.trans hno
    | stuck _ h' => exact absurd hadv (h' _ _ _)
    | step _ hadv' h' =>
      obtain rfl := hadv.record_eq hadv'
      obtain ⟨rfl, rfl⟩ := hadv.unique hadv'
      rw [ih h']

/-- **A walk whose course ends keeps to it**, as long as it has seen only pairs that lie
further back. -/
theorem coercionFrom (h : t.Course src dst c) (ht : t.Grounded False) (hmet : t.Met seen n)
    (hs : t.Has src) (hd : t.Has dst)
    (hseen : ∀ p ∈ seen, ∃ c', t.Course p.1 p.2 c' ∧ c.length < c'.length) :
    t.coercionFrom n seen src dst = .ok c := by
  induction h generalizing n seen with
  | met h =>
    cases n with
    | zero => exact hmet.not_zero.elim
    | succ n =>
      rw [TypeTable.coercionFrom, h]
      rfl
  | stuck hno h =>
    cases n with
    | zero => exact hmet.not_zero.elim
    | succ n =>
      obtain ⟨c, hc, -⟩ := (ht.coercionFrom_safe hmet hs hd).exists_ok
      rw [hc]
      rcases coercionFrom_cases hc with ⟨hyes, -⟩ | rfl | ⟨_, _, _, _, hadv, -⟩
      · cases hyes.symm.trans hno
      · rfl
      · exact absurd hadv (h _ _ _)
  | @step src dst s d record c hno hadv h ih =>
    cases n with
    | zero => exact hmet.not_zero.elim
    | succ n =>
      have hcourse : t.Course src dst (record c) := .step hno hadv h
      have hlength := hadv.length c
      have hnew : (src, dst) ∉ seen := by
        intro hmem
        obtain ⟨c', hc', hlt⟩ := hseen _ hmem
        rw [hcourse.unique hc'] at hlt
        exact Nat.lt_irrefl _ hlt
      obtain ⟨hhas, hhas'⟩ := hadv.has ht.closed hs
      rw [coercionFrom_of_advances hadv hno hnew, ih (hmet.next hnew hs hd) hhas hhas', ok_bind]
      intro p hp
      rcases List.mem_cons.mp hp with rfl | hp
      · exact ⟨_, hcourse, by omega⟩
      · obtain ⟨c', hc', hlt⟩ := hseen p hp
        exact ⟨c', hc', by omega⟩

/-- **Where a course ends, the walk ends with it.** -/
theorem coercion (h : t.Course src dst c) (ht : t.Grounded False) (hs : t.Has src)
    (hd : t.Has dst) : t.coercion src dst = .ok c :=
  h.coercionFrom ht (.start t) hs hd nofun

end Course

/-- **A complete walk has kept to a course.** -/
theorem course_of_coercionFrom (h : t.coercionFrom n seen src dst = .ok c)
    (hc : c.complete = true) : t.Course src dst c := by
  induction n generalizing seen src dst c with
  | zero => cases h
  | succ n ih =>
    have hfirst := h
    rw [coercionFrom] at hfirst
    obtain ⟨fits, hfits, hfirst⟩ := bind_eq_ok_iff.mp hfirst
    cases fits with
    | true =>
      obtain rfl := Except.ok.inj hfirst
      exact .met hfits
    | false =>
      rcases coercionFrom_cases h with ⟨hyes, -⟩ | rfl | ⟨record, s, d, c', hadv, hrest, rfl⟩
      · cases hyes.symm.trans hfits
      · cases hc
      · refine .step hfits hadv (ih hrest ?_)
        cases hadv <;> exact hc

/-! ## The walk that matches types -/

/-- **The walk that matches types finds types that fit after `n` steps.** -/
inductive Feeds (t : TypeTable) : Nat → TypeId → TypeId → Prop
  /-- The two types fit. -/
  | fits {src dst : TypeId} (h : t.assignable src dst = .ok true) : Feeds t 0 src dst
  /-- They do not, and the destination loses a pointer. -/
  | pointee {src dst e : TypeId} {n : Nat} (hno : t.assignable src dst = .ok false)
      (hd : t.pointee dst = .ok (some e)) (h : Feeds t n src e) : Feeds t (n + 1) src dst
  /-- They do not, and each loses a name if it has one. -/
  | unname {src dst s d : TypeId} {n : Nat} (hno : t.assignable src dst = .ok false)
      (hp : t.pointee dst = .ok none) (hs : t.unname src = .ok s) (hd : t.unname dst = .ok d)
      (h : Feeds t n s d) : Feeds t (n + 1) src dst

/-- The walk from a pair that it has not met. -/
theorem compatibleFrom_succ (hnew : (src, dst) ∉ seen) :
    t.compatibleFrom (m + 1) seen src dst = (do
      if ← t.assignable src dst then return true
      if let some pointee ← t.pointee dst then
        t.compatibleFrom m ((src, dst) :: seen) src pointee
      else
        let s ← t.unname src
        let d ← t.unname dst
        if s = src ∧ d = dst then return false
        else t.compatibleFrom m ((src, dst) :: seen) s d) :=
  if_neg hnew

namespace Feeds

/-- There is one number of steps. -/
theorem unique (h : t.Feeds n src dst) (h' : t.Feeds m src dst) : n = m := by
  induction h generalizing m with
  | fits h =>
    cases h' with
    | fits => rfl
    | pointee hno => cases h.symm.trans hno
    | unname hno => cases h.symm.trans hno
  | pointee hno hd _ ih =>
    cases h' with
    | fits h' => cases h'.symm.trans hno
    | pointee _ hd' h' =>
      obtain rfl := Option.some.inj (Except.ok.inj (hd.symm.trans hd'))
      exact congrArg Nat.succ (ih h')
    | unname _ hp => cases hd.symm.trans hp
  | unname hno hp hs hd _ ih =>
    cases h' with
    | fits h' => cases h'.symm.trans hno
    | pointee _ hd' => cases hd'.symm.trans hp
    | unname _ _ hs' hd' h' =>
      obtain rfl := Except.ok.inj (hs.symm.trans hs')
      obtain rfl := Except.ok.inj (hd.symm.trans hd')
      exact congrArg Nat.succ (ih h')

/-- A pair is not among those that lie further back. -/
theorem not_mem_of_further (h : t.Feeds n src dst)
    (hseen : ∀ p ∈ seen, ∃ i > n, t.Feeds i p.1 p.2) : (src, dst) ∉ seen := by
  intro hmem
  obtain ⟨i, hi, h'⟩ := hseen _ hmem
  exact Nat.ne_of_lt hi (h.unique h')

/-- Seen from the next pair, this one lies further back as well. -/
theorem further_cons (h : t.Feeds (n + 1) src dst)
    (hseen : ∀ p ∈ seen, ∃ i > n + 1, t.Feeds i p.1 p.2) :
    ∀ p ∈ (src, dst) :: seen, ∃ i > n, t.Feeds i p.1 p.2 := by
  intro p hp
  rcases List.mem_cons.mp hp with rfl | hp
  · exact ⟨n + 1, Nat.lt_succ_self n, h⟩
  · obtain ⟨i, hi, h'⟩ := hseen p hp
    exact ⟨i, Nat.lt_of_succ_lt hi, h'⟩

/-- **Where the course finds types that fit, the walk does**, as long as it has seen only
pairs that lie further back. -/
theorem compatibleFrom (h : t.Feeds n src dst) (ht : t.Closed) (hmet : t.Met seen m)
    (hs : t.Has src) (hd : t.Has dst) (hseen : ∀ p ∈ seen, ∃ i > n, t.Feeds i p.1 p.2) :
    t.compatibleFrom m seen src dst = .ok true := by
  induction h generalizing m seen with
  | @fits src dst h =>
    have hnew : (src, dst) ∉ seen := not_mem_of_further (.fits h) hseen
    cases m with
    | zero => exact hmet.not_zero.elim
    | succ m =>
      rw [compatibleFrom_succ hnew, h]
      rfl
  | @pointee src dst e n hno hp h ih =>
    have hfeeds : t.Feeds (n + 1) src dst := .pointee hno hp h
    have hnew := not_mem_of_further hfeeds hseen
    cases m with
    | zero => exact hmet.not_zero.elim
    | succ m =>
      have hsafe : (t.pointee dst).Safe False (fun found => ∀ e ∈ found, t.Has e) :=
        ht.pointee_safe hd
      rw [compatibleFrom_succ hnew, hno, ok_bind, if_neg Bool.false_ne_true, hp, ok_bind]
      refine ih (hmet.next hnew hs hd) hs (hsafe.answer hp e rfl) ?_
      exact further_cons hfeeds hseen
  | @unname src dst s d n hno hp hsrc hdst h ih =>
    have hfeeds : t.Feeds (n + 1) src dst := .unname hno hp hsrc hdst h
    have hnew := not_mem_of_further hfeeds hseen
    cases m with
    | zero => exact hmet.not_zero.elim
    | succ m =>
      have hsafe : ∀ {id}, t.Has id → (t.unname id).Safe False t.Has :=
        fun hid => ht.unname_safe hid
      have hmoved : ¬ (s = src ∧ d = dst) := by
        rintro ⟨rfl, rfl⟩
        exact Nat.succ_ne_self n (hfeeds.unique h)
      rw [compatibleFrom_succ hnew, hno, ok_bind, if_neg Bool.false_ne_true, hp, ok_bind]
      show (t.unname src >>= fun s => t.unname dst >>= fun d => _) = _
      rw [hsrc, ok_bind, hdst, ok_bind, if_neg hmoved]
      refine ih (hmet.next hnew hs hd) ((hsafe hs).answer hsrc) ((hsafe hd).answer hdst) ?_
      exact further_cons hfeeds hseen

end Feeds

/-- **A walk that finds types that fit has kept to the course.** -/
theorem exists_feeds_of_compatibleFrom (h : t.compatibleFrom n seen src dst = .ok true) :
    ∃ m, t.Feeds m src dst := by
  induction n generalizing seen src dst with
  | zero => cases h
  | succ n ih =>
    change (if (src, dst) ∈ seen then Except.ok false else t.assignable src dst >>= fun fits => _)
      = .ok true at h
    split at h
    · cases h
    obtain ⟨fits, hfits, h⟩ := bind_eq_ok_iff.mp h
    cases fits with
    | true => exact ⟨0, .fits hfits⟩
    | false =>
      obtain ⟨pointee, hp, h⟩ := bind_eq_ok_iff.mp h
      cases pointee with
      | some e =>
        obtain ⟨m, hm⟩ := ih h
        exact ⟨m + 1, .pointee hfits hp hm⟩
      | none =>
        obtain ⟨s, hs, h⟩ := bind_eq_ok_iff.mp h
        obtain ⟨d, hd, h⟩ := bind_eq_ok_iff.mp h
        split at h
        · cases h
        · obtain ⟨m, hm⟩ := ih h
          exact ⟨m + 1, .unname hfits hp hs hd hm⟩

/-- **Types feed one another exactly if the course says so.** -/
theorem compatible_iff (ht : t.Closed) (hs : t.Has src) (hd : t.Has dst) :
    t.compatible src dst = .ok true ↔ ∃ n, t.Feeds n src dst :=
  ⟨exists_feeds_of_compatibleFrom, fun ⟨_, h⟩ => h.compatibleFrom ht (.start t) hs hd nofun⟩

end TypeTable

end Crosswalk

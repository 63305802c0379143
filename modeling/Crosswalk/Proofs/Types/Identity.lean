import Crosswalk.Proofs.Lists
import Crosswalk.Proofs.Types.Closed
import Crosswalk.Types.Relations
import Mathlib.SetTheory.Cardinal.NatCard

/-!
# Identity as a relation

`TypeTable.identical` compares two entries by descending into their parts. What
one level of the descent compares is a relation between entries, given the
relation between their parts: `TypeKind.Alike`. Everything the descent does then
follows from what `Alike` does: it passes on reflexivity, symmetry and
transitivity, and it is monotone, so more depth never changes an answer.
-/

namespace Crosswalk

/-- **Two entries agree, given which of their parts do.** Names stand for
themselves, so what they are declared as does not matter. -/
inductive TypeKind.Alike (R : TypeId → TypeId → Prop) : TypeKind → TypeKind → Prop
  | basic (b : BasicType) : Alike R (.basic b) (.basic b)
  | named (name : String) (package : Option String) (u v : TypeId) :
      Alike R (.named name package u) (.named name package v)
  | pointer {a b : TypeId} (h : R a b) : Alike R (.pointer a) (.pointer b)
  | slice {a b : TypeId} (h : R a b) : Alike R (.slice a) (.slice b)
  | array {a b : TypeId} (length : Nat) (h : R a b) : Alike R (.array a length) (.array b length)
  | map {k k' v v' : TypeId} (hk : R k k') (hv : R v v') : Alike R (.map k v) (.map k' v')
  | struct {fs gs : List Member}
      (h : List.Forall₂ (fun f g => f.name = g.name ∧ f.embedded = g.embedded ∧ R f.type g.type)
        fs gs) :
      Alike R (.struct fs) (.struct gs)
  | interface {ms ms' : List String} (h : sortedNames ms = sortedNames ms') :
      Alike R (.interface ms) (.interface ms')
  | signature {ps ps' rs rs' : List TypeId} (variadic : Bool) (hp : List.Forall₂ R ps ps')
      (hr : List.Forall₂ R rs rs') :
      Alike R (.signature ps rs variadic) (.signature ps' rs' variadic)
  | tuple {xs ys : List TypeId} (h : List.Forall₂ R xs ys) : Alike R (.tuple xs) (.tuple ys)

namespace TypeKind.Alike

variable {R S : TypeId → TypeId → Prop} {ka kb kc : TypeKind}

/-- **Only the parts of the two entries matter**: where they agree in one sense
and therefore in another, so do the entries. -/
theorem imp_parts (hRS : ∀ a ∈ ka.parts, ∀ b ∈ kb.parts, R a b → S a b) (h : Alike R ka kb) :
    Alike S ka kb := by
  cases h with
  | basic b => exact .basic b
  | named name package u v => exact .named name package u v
  | pointer h => exact .pointer (hRS _ List.mem_cons_self _ List.mem_cons_self h)
  | slice h => exact .slice (hRS _ List.mem_cons_self _ List.mem_cons_self h)
  | array length h => exact .array length (hRS _ List.mem_cons_self _ List.mem_cons_self h)
  | map hk hv =>
    refine .map (hRS _ List.mem_cons_self _ List.mem_cons_self hk) (hRS _ ?_ _ ?_ hv)
    all_goals exact List.mem_cons_of_mem _ List.mem_cons_self
  | struct h =>
    refine .struct (forall₂_imp_mem (fun f hf g hg hfg => ⟨hfg.1, hfg.2.1, ?_⟩) h)
    exact hRS _ (List.mem_map_of_mem hf) _ (List.mem_map_of_mem hg) hfg.2.2
  | interface h => exact .interface h
  | signature variadic hp hr =>
    refine .signature variadic (forall₂_imp_mem (fun a ha b hb => ?_) hp)
      (forall₂_imp_mem (fun a ha b hb => ?_) hr)
    · exact hRS a (List.mem_append_left _ ha) b (List.mem_append_left _ hb)
    · exact hRS a (List.mem_append_right _ ha) b (List.mem_append_right _ hb)
  | tuple h => exact .tuple (forall₂_imp_mem hRS h)

/-- What agrees given fewer agreeing parts agrees given more. -/
theorem mono (hRS : ∀ a b, R a b → S a b) (h : Alike R ka kb) : Alike S ka kb :=
  h.imp_parts (fun a _ b _ => hRS a b)

theorem symm (hR : ∀ a b, R a b → R b a) (h : Alike R ka kb) : Alike R kb ka := by
  have hflip : ∀ as bs, List.Forall₂ R as bs → List.Forall₂ R bs as :=
    fun as bs hab => (hab.imp hR).flip
  cases h with
  | basic b => exact .basic b
  | named name package u v => exact .named name package v u
  | pointer h => exact .pointer (hR _ _ h)
  | slice h => exact .slice (hR _ _ h)
  | array length h => exact .array length (hR _ _ h)
  | map hk hv => exact .map (hR _ _ hk) (hR _ _ hv)
  | struct h =>
    exact .struct (h.flip.imp (fun _ _ hfg => ⟨hfg.1.symm, hfg.2.1.symm, hR _ _ hfg.2.2⟩))
  | interface h => exact .interface h.symm
  | signature variadic hp hr => exact .signature variadic (hflip _ _ hp) (hflip _ _ hr)
  | tuple h => exact .tuple (hflip _ _ h)

theorem trans (hR : ∀ a b c, R a b → R b c → R a c) (h : Alike R ka kb) (h' : Alike R kb kc) :
    Alike R ka kc := by
  cases h with
  | basic b => exact h'
  | named name package u v => cases h' with | named _ _ _ w => exact .named name package u w
  | pointer h => cases h' with | pointer h' => exact .pointer (hR _ _ _ h h')
  | slice h => cases h' with | slice h' => exact .slice (hR _ _ _ h h')
  | array length h => cases h' with | array _ h' => exact .array length (hR _ _ _ h h')
  | map hk hv => cases h' with | map hk' hv' => exact .map (hR _ _ _ hk hk') (hR _ _ _ hv hv')
  | struct h =>
    cases h' with
    | struct h' =>
      refine .struct (forall₂_trans (fun f g e hfg hge => ?_) h h')
      exact ⟨hfg.1.trans hge.1, hfg.2.1.trans hge.2.1, hR _ _ _ hfg.2.2 hge.2.2⟩
  | interface h => cases h' with | interface h' => exact .interface (h.trans h')
  | signature variadic hp hr =>
    cases h' with
    | signature _ hp' hr' =>
      exact .signature variadic (forall₂_trans hR hp hp') (forall₂_trans hR hr hr')
  | tuple h => cases h' with | tuple h' => exact .tuple (forall₂_trans hR h h')

end TypeKind.Alike

theorem agreeEach_eq_ok_true_iff {α β : Type} {agree : α → β → Lookup Bool} {as : List α}
    {bs : List β} (hlen : as.length = bs.length) :
    agreeEach agree as bs = .ok true ↔ List.Forall₂ (fun a b => agree a b = .ok true) as bs := by
  induction as generalizing bs with
  | nil =>
    cases bs with
    | nil => simp [agreeEach]
    | cons b bs => simp at hlen
  | cons a as ih =>
    cases bs with
    | nil => simp at hlen
    | cons b bs =>
      rw [List.forall₂_cons, ← ih (Nat.succ.inj hlen), agreeEach]
      rcases hab : agree a b with f | r
      · simp
      · cases r <;> simp

/-- **Lists agree when they agree place by place and are equally long.** -/
theorem agreeAll_eq_ok_true_iff {α β : Type} {agree : α → β → Lookup Bool} {as : List α}
    {bs : List β} :
    agreeAll agree as bs = .ok true ↔ List.Forall₂ (fun a b => agree a b = .ok true) as bs := by
  unfold agreeAll
  split
  · exact agreeEach_eq_ok_true_iff ‹_›
  · rename_i hlen
    exact iff_of_false (by simp) (fun h => hlen h.length_eq)

namespace TypeTable

variable {t t' : TypeTable} {n m : Nat} {a b c : TypeId} {ka kb : TypeKind}

/-- The descent past two entries that exist. -/
theorem identicalTo_succ_of_kind? (hab : a ≠ b) (ha : t.kind? a = some ka)
    (hb : t.kind? b = some kb) :
    t.identicalTo (n + 1) a b = .ok true ↔
      TypeKind.Alike (fun x y => t.identicalTo n x y = .ok true) ka kb := by
  rw [identicalTo, if_neg hab, kind_of_kind? ha, kind_of_kind? hb, ok_bind, ok_bind]
  constructor
  · intro h
    -- one case for each two kinds that may be alike, and one for all others
    split at h
    · obtain rfl := of_decide_eq_true (Except.ok.inj h)
      exact .basic _
    · have hxy := Except.ok.inj h
      rw [Bool.and_eq_true, decide_eq_true_eq, decide_eq_true_eq] at hxy
      obtain ⟨rfl, rfl⟩ := hxy
      exact .named _ _ _ _
    · exact .pointer h
    · exact .slice h
    · split at h
      · subst_vars
        exact .array _ h
      · exact absurd (Except.ok.inj h) Bool.false_ne_true
    · exact .map (both_eq_ok_true_iff.mp h).1 (both_eq_ok_true_iff.mp h).2
    · refine .struct ((agreeAll_eq_ok_true_iff.mp h).imp (fun f g hfg => ?_))
      split at hfg
      · exact ⟨‹_ ∧ _›.1, ‹_ ∧ _›.2, hfg⟩
      · exact absurd (Except.ok.inj hfg) Bool.false_ne_true
    · exact .interface (of_decide_eq_true (Except.ok.inj h))
    · split at h
      · subst_vars
        have hpr := both_eq_ok_true_iff.mp h
        exact .signature _ (agreeAll_eq_ok_true_iff.mp hpr.1) (agreeAll_eq_ok_true_iff.mp hpr.2)
      · exact absurd (Except.ok.inj h) Bool.false_ne_true
    · exact .tuple (agreeAll_eq_ok_true_iff.mp h)
    · exact absurd (Except.ok.inj h) Bool.false_ne_true
  · intro h
    cases h with
    | basic b => exact congrArg Except.ok (decide_eq_true rfl)
    | named name package u v => simp
    | pointer h => exact h
    | slice h => exact h
    | array length h => exact (if_pos rfl).trans h
    | map hk hv => exact both_eq_ok_true_iff.mpr ⟨hk, hv⟩
    | struct h =>
      refine agreeAll_eq_ok_true_iff.mpr (h.imp (fun f g hfg => ?_))
      exact (if_pos ⟨hfg.1, hfg.2.1⟩).trans hfg.2.2
    | interface h => exact congrArg Except.ok (decide_eq_true h)
    | signature variadic hp hr =>
      refine (if_pos rfl).trans (both_eq_ok_true_iff.mpr ⟨?_, ?_⟩)
      · exact agreeAll_eq_ok_true_iff.mpr hp
      · exact agreeAll_eq_ok_true_iff.mpr hr
    | tuple h => exact agreeAll_eq_ok_true_iff.mpr h

/-- **One level of the descent**: the positions are equal, or their entries
exist and agree, given what the rest of the descent says of their parts. -/
theorem identicalTo_succ_iff :
    t.identicalTo (n + 1) a b = .ok true ↔
      a = b ∨ ∃ ka kb, t.kind? a = some ka ∧ t.kind? b = some kb ∧
        TypeKind.Alike (fun x y => t.identicalTo n x y = .ok true) ka kb := by
  by_cases hab : a = b
  · simp [hab]
  constructor
  · intro h
    have h' := h
    rw [identicalTo, if_neg hab] at h'
    obtain ⟨ka, hka, h'⟩ := bind_eq_ok_iff.mp h'
    obtain ⟨kb, hkb, -⟩ := bind_eq_ok_iff.mp h'
    rw [kind_eq_ok_iff] at hka hkb
    exact .inr ⟨ka, kb, hka, hkb, (identicalTo_succ_of_kind? hab hka hkb).mp h⟩
  · rintro (heq | ⟨ka, kb, hka, hkb, h⟩)
    · exact absurd heq hab
    · exact (identicalTo_succ_of_kind? hab hka hkb).mpr h

/-! ## Depth -/

/-- **More depth confirms every answer** that less depth gave. -/
theorem identicalTo_mono (hnm : n ≤ m) (h : t.identicalTo n a b = .ok true) :
    t.identicalTo m a b = .ok true := by
  induction n generalizing m a b with
  | zero =>
    rw [identicalTo] at h
    split at h
    · subst_vars
      exact identicalTo_self t m b
    · cases h
  | succ n ih =>
    obtain ⟨m, rfl⟩ := Nat.exists_eq_add_of_le' (Nat.lt_of_lt_of_le (Nat.succ_pos n) hnm)
    rcases identicalTo_succ_iff.mp h with rfl | ⟨ka, kb, hka, hkb, halike⟩
    · exact identicalTo_self t _ a
    · refine identicalTo_succ_iff.mpr (.inr ⟨ka, kb, hka, hkb, halike.mono (fun x y hxy => ?_)⟩)
      exact ih (Nat.le_of_succ_le_succ hnm) hxy

theorem identicalTo_symm (h : t.identicalTo n a b = .ok true) : t.identicalTo n b a = .ok true := by
  induction n generalizing a b with
  | zero =>
    rw [identicalTo] at h
    split at h
    · subst_vars
      exact identicalTo_self t 0 b
    · cases h
  | succ n ih =>
    rcases identicalTo_succ_iff.mp h with rfl | ⟨ka, kb, hka, hkb, halike⟩
    · exact identicalTo_self t _ a
    · exact identicalTo_succ_iff.mpr (.inr ⟨kb, ka, hkb, hka, halike.symm (fun _ _ => ih)⟩)

theorem identicalTo_trans (h : t.identicalTo n a b = .ok true)
    (h' : t.identicalTo n b c = .ok true) : t.identicalTo n a c = .ok true := by
  induction n generalizing a b c with
  | zero =>
    rw [identicalTo] at h
    split at h
    · subst_vars
      exact h'
    · cases h
  | succ n ih =>
    rcases identicalTo_succ_iff.mp h with rfl | ⟨ka, kb, hka, hkb, halike⟩
    · exact h'
    rcases identicalTo_succ_iff.mp h' with rfl | ⟨kb', kc, hkb', hkc, halike'⟩
    · exact h
    obtain rfl := Option.some.inj (hkb.symm.trans hkb')
    refine identicalTo_succ_iff.mpr (.inr ⟨ka, kc, hka, hkc, ?_⟩)
    exact halike.trans (fun _ _ _ => ih) halike'

/-! ## How deep the descent need go

At each depth the descent relates positions by an equivalence, and a coarser one
at each further depth. An equivalence on the positions of a table cannot get
coarser more often than there are positions; and once it is the same at two
depths in a row it stays the same. So the depth that `identical` goes to finds
everything that any depth would. -/

/-- The positions of a table, related as the descent to depth `n` relates them. -/
def depthSetoid (t : TypeTable) (n : Nat) : Setoid (Fin t.size) where
  r i j := t.identicalTo n ⟨i⟩ ⟨j⟩ = .ok true
  iseqv := ⟨fun _ => identicalTo_self t n _, identicalTo_symm, identicalTo_trans⟩

/-- One more level of depth finds nothing new. -/
def Saturated (t : TypeTable) (n : Nat) : Prop :=
  ∀ a b, t.identicalTo (n + 1) a b = .ok true → t.identicalTo n a b = .ok true

theorem Saturated.succ (h : t.Saturated n) : t.Saturated (n + 1) := by
  intro a b hab
  rcases identicalTo_succ_iff.mp hab with rfl | ⟨ka, kb, hka, hkb, halike⟩
  · exact identicalTo_self t _ a
  · exact identicalTo_succ_iff.mpr (.inr ⟨ka, kb, hka, hkb, halike.mono h⟩)

theorem Saturated.of_le (h : t.Saturated n) (hnm : n ≤ m) : t.Saturated m := by
  induction m, hnm using Nat.le_induction with
  | base => exact h
  | succ m _ ih => exact ih.succ

/-- From a saturated depth on nothing changes. -/
theorem Saturated.identicalTo (h : t.Saturated n) (hab : t.identicalTo m a b = .ok true) :
    t.identicalTo n a b = .ok true := by
  induction m with
  | zero => exact identicalTo_mono (Nat.zero_le n) hab
  | succ m ih =>
    by_cases hnm : n ≤ m
    · exact ih (h.of_le hnm a b hab)
    · exact identicalTo_mono (Nat.lt_of_not_le hnm) hab

/-- Where the next depth finds something new, it leaves fewer classes. -/
theorem card_depth_lt (h : ¬ t.Saturated n) :
    Nat.card (Quotient (t.depthSetoid (n + 1))) < Nat.card (Quotient (t.depthSetoid n)) := by
  let coarsen : Quotient (t.depthSetoid n) → Quotient (t.depthSetoid (n + 1)) :=
    Quotient.map' id (fun _ _ hab => identicalTo_mono (Nat.le_succ n) hab)
  have hsurj : Function.Surjective coarsen := by
    intro q
    induction q using Quotient.inductionOn with
    | h i => exact ⟨Quotient.mk _ i, rfl⟩
  by_contra hle
  have hinj := (hsurj.bijective_of_nat_card_le (Nat.le_of_not_lt hle)).injective
  refine h (fun a b hab => ?_)
  rcases identicalTo_succ_iff.mp hab with rfl | ⟨ka, kb, hka, hkb, -⟩
  · exact identicalTo_self t n a
  · let i : Fin t.size := ⟨a.index, has_iff_lt.mp (has_of_kind? hka)⟩
    let j : Fin t.size := ⟨b.index, has_iff_lt.mp (has_of_kind? hkb)⟩
    have hmeet : coarsen (Quotient.mk _ i) = coarsen (Quotient.mk _ j) := Quotient.sound hab
    exact Quotient.exact (hinj hmeet)

/-- **The depth is never the limit**: a table is saturated at its size. -/
theorem saturated_size (t : TypeTable) : t.Saturated t.size := by
  have hcount : ∀ n, t.Saturated n ∨ Nat.card (Quotient (t.depthSetoid n)) + n ≤ t.size := by
    intro n
    induction n with
    | zero =>
      refine .inr ?_
      have hsurj : Function.Surjective (Quotient.mk (t.depthSetoid 0)) := Quotient.mk_surjective
      have hle := Nat.card_le_card_of_surjective _ hsurj
      rwa [Nat.card_fin] at hle
    | succ n ih =>
      by_cases h : t.Saturated n
      · exact .inl h.succ
      · have hlt := card_depth_lt h
        rcases ih with hsat | hle
        · exact absurd hsat h
        · exact .inr (by omega)
  rcases hcount t.size with h | h
  · exact h
  · -- no class is left, so there is no position to relate
    intro a b hab
    rcases identicalTo_succ_iff.mp hab with rfl | ⟨ka, kb, hka, -, -⟩
    · exact identicalTo_self t _ a
    · let i : Fin t.size := ⟨a.index, has_iff_lt.mp (has_of_kind? hka)⟩
      have : Nonempty (Quotient (t.depthSetoid t.size)) := ⟨Quotient.mk _ i⟩
      have := Nat.card_pos (α := Quotient (t.depthSetoid t.size))
      omega

/-- **What any depth affirms, `identical` affirms.** -/
theorem identical_of_identicalTo (h : t.identicalTo n a b = .ok true) :
    t.identical a b = .ok true :=
  identicalTo_mono (Nat.le_succ _) ((saturated_size t).identicalTo h)

/-- **One level of identity.** -/
theorem identical_iff :
    t.identical a b = .ok true ↔
      a = b ∨ ∃ ka kb, t.kind? a = some ka ∧ t.kind? b = some kb ∧
        TypeKind.Alike (fun x y => t.identical x y = .ok true) ka kb := by
  constructor
  · intro h
    refine (identicalTo_succ_iff.mp h).imp_right ?_
    rintro ⟨ka, kb, hka, hkb, halike⟩
    exact ⟨ka, kb, hka, hkb, halike.mono (fun _ _ => identical_of_identicalTo)⟩
  · intro h
    refine identical_of_identicalTo (n := t.size + 2) (identicalTo_succ_iff.mpr (h.imp_right ?_))
    rintro ⟨ka, kb, hka, hkb, halike⟩
    exact ⟨ka, kb, hka, hkb, halike⟩

/-- Only existing positions are compared, unless they are one. -/
theorem has_of_identical {r : Bool} (h : t.identical a b = .ok r) :
    a = b ∨ t.Has a ∧ t.Has b := by
  by_cases hab : a = b
  · exact .inl hab
  · unfold identical at h
    rw [identicalTo, if_neg hab] at h
    obtain ⟨ka, hka, h⟩ := bind_eq_ok_iff.mp h
    obtain ⟨kb, hkb, -⟩ := bind_eq_ok_iff.mp h
    rw [kind_eq_ok_iff] at hka hkb
    exact .inr ⟨has_of_kind? hka, has_of_kind? hkb⟩

theorem identical_symm (h : t.identical a b = .ok true) : t.identical b a = .ok true :=
  identicalTo_symm h

theorem identical_trans (h : t.identical a b = .ok true) (h' : t.identical b c = .ok true) :
    t.identical a c = .ok true :=
  identicalTo_trans h h'

/-- What is identical to a pointer is a pointer to something identical. -/
theorem exists_pointer_of_identical {x : TypeId} (h : t.identical a b = .ok true)
    (ha : t.kind? a = some (.pointer x)) :
    ∃ y, t.kind? b = some (.pointer y) ∧ t.identical x y = .ok true := by
  rcases identical_iff.mp h with rfl | ⟨ka, kb, hka, hkb, halike⟩
  · exact ⟨x, ha, identical_self t x⟩
  · obtain rfl := Option.some.inj (ha.symm.trans hka)
    cases halike with | pointer hxy => exact ⟨_, hkb, hxy⟩

/-- Pointers are identical when what they point to is. -/
theorem identical_pointer_iff {x y : TypeId} (ha : t.kind? a = some (.pointer x))
    (hb : t.kind? b = some (.pointer y)) :
    t.identical a b = .ok true ↔ t.identical x y = .ok true := by
  constructor
  · intro h
    obtain ⟨y', hb', hxy⟩ := exists_pointer_of_identical h ha
    obtain rfl := TypeKind.pointer.inj (Option.some.inj (hb.symm.trans hb'))
    exact hxy
  · exact fun h => identical_iff.mpr (.inr ⟨_, _, ha, hb, .pointer h⟩)

/-! ## Identity in a table that grows -/

theorem GrowsTo.identicalTo (hgrow : t.GrowsTo t') (h : t.identicalTo n a b = .ok true) :
    t'.identicalTo n a b = .ok true := by
  induction n generalizing a b with
  | zero => exact h
  | succ n ih =>
    rcases identicalTo_succ_iff.mp h with rfl | ⟨ka, kb, hka, hkb, halike⟩
    · exact identicalTo_self t' _ a
    · refine identicalTo_succ_iff.mpr (.inr ⟨ka, kb, hgrow a ka hka, hgrow b kb hkb, ?_⟩)
      exact halike.mono (fun _ _ => ih)

/-- What a closed table grows into relates no more of its positions. -/
theorem GrowsTo.identicalTo_of_has (hgrow : t.GrowsTo t') (ht : t.Closed) (ha : t.Has a)
    (hb : t.Has b) (h : t'.identicalTo n a b = .ok true) : t.identicalTo n a b = .ok true := by
  induction n generalizing a b with
  | zero => exact h
  | succ n ih =>
    rcases identicalTo_succ_iff.mp h with rfl | ⟨ka, kb, hka, hkb, halike⟩
    · exact identicalTo_self t _ a
    · rw [hgrow.kind?_eq ha] at hka
      rw [hgrow.kind?_eq hb] at hkb
      refine identicalTo_succ_iff.mpr (.inr ⟨ka, kb, hka, hkb, halike.imp_parts ?_⟩)
      exact fun x hx y hy => ih (ht a ka hka x hx) (ht b kb hkb y hy)

theorem GrowsTo.identical (hgrow : t.GrowsTo t') (h : t.identical a b = .ok true) :
    t'.identical a b = .ok true :=
  identical_of_identicalTo (hgrow.identicalTo h)

/-- **Identity does not depend on what a table grows into.** -/
theorem GrowsTo.identical_iff (hgrow : t.GrowsTo t') (ht : t.Closed) (ha : t.Has a)
    (hb : t.Has b) : t'.identical a b = .ok true ↔ t.identical a b = .ok true :=
  ⟨fun h => identical_of_identicalTo (hgrow.identicalTo_of_has ht ha hb h), hgrow.identical⟩

end TypeTable

end Crosswalk

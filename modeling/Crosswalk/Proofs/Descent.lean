import Mathlib.Data.List.Chain
import Mathlib.Data.List.Nodup
import Mathlib.Logic.Relation

/-!
# Descents that come to an end

A walk along the parts of a type, or along the links of a chain of values, is cut off
after a number of steps. The cut is never felt where the walk cannot come back to
where it has been: such a walk meets no position twice, so it is no longer than there
are positions (`within_of_acyclic`).

Where the walk has one way to go, no more need be asked of it. Either it ends before the
cut, or it goes on for ever and is cut off wherever that may be. So what is computed along
it does not depend on the cut, once that is as far off as there are positions
(`Follows.eq_of_lt`).
-/

namespace Crosswalk

variable {α : Type} {R S : α → α → Prop} {n : Nat} {a : α}

/-- **From `a` one can go fewer than `n` steps along `R`.** -/
def Within (R : α → α → Prop) : Nat → α → Prop
  | 0, _ => False
  | n + 1, a => ∀ b, R a b → Within R n b

/-- Where one can go less far along `R`, one can along what is part of `R`. -/
theorem Within.of_imp (h : Within R n a) (hSR : ∀ a b, S a b → R a b) : Within S n a := by
  induction n generalizing a with
  | zero => exact h
  | succ n ih => exact fun b hb => ih (h b (hSR a b hb))

theorem exists_isChain_of_not_within (h : ¬ Within R n a) :
    ∃ l, l.length = n ∧ List.IsChain R (a :: l) := by
  induction n generalizing a with
  | zero => exact ⟨[], rfl, .singleton a⟩
  | succ n ih =>
    obtain ⟨b, hb⟩ := not_forall.mp h
    obtain ⟨hab, hb⟩ := Classical.not_imp.mp hb
    obtain ⟨l, hlen, hl⟩ := ih hb
    exact ⟨b :: l, congrArg Nat.succ hlen, .cons_cons hab hl⟩

/-- After its first member a chain consists of what `R` leads to. -/
theorem exists_of_mem_isChain {l : List α} {b : α} (h : List.IsChain R (a :: l)) (hb : b ∈ l) :
    ∃ c, R c b := by
  induction l generalizing a with
  | nil => cases hb
  | cons c l ih =>
    obtain ⟨hac, h⟩ := List.isChain_cons_cons.mp h
    rcases List.mem_cons.mp hb with rfl | hb
    · exact ⟨a, hac⟩
    · exact ih h hb

/-- But for its last member a chain consists of what `R` leads from. -/
theorem exists_of_mem_dropLast {l : List α} {b : α} (h : List.IsChain R l) (hb : b ∈ l.dropLast) :
    ∃ c, R b c := by
  induction l with
  | nil => cases hb
  | cons a l ih =>
    cases l with
    | nil => cases hb
    | cons c l =>
      obtain ⟨hac, h⟩ := List.isChain_cons_cons.mp h
      rw [List.dropLast_cons_cons, List.mem_cons] at hb
      rcases hb with rfl | hb
      · exact ⟨c, hac⟩
      · exact ih h hb

/-- **There are no more members than positions**, if their positions differ. -/
theorem length_le_of_index_lt {index : α → Nat} {size : Nat} {l : List α}
    (hinj : Function.Injective index) (hl : l.Nodup) (hlt : ∀ b ∈ l, index b < size) :
    l.length ≤ size := by
  have hsub : l.map index ⊆ List.range size := by
    intro i hi
    obtain ⟨b, hb, rfl⟩ := List.mem_map.mp hi
    exact List.mem_range.mpr (hlt b hb)
  have hle := (hl.map hinj).length_le_of_subset hsub
  rwa [List.length_map, List.length_range] at hle

/-- A walk that does not come back meets no position twice. -/
theorem nodup_of_isChain {l : List α} (hl : List.IsChain R (a :: l))
    (hacyclic : ∀ b, Relation.ReflTransGen R a b → ¬ Relation.TransGen R b b) :
    (a :: l).Nodup := by
  have hpairs : List.Pairwise (Relation.TransGen R) (a :: l) :=
    List.isChain_iff_pairwise.mp (hl.imp (fun _ _ => .single))
  have hreach : ∀ b ∈ a :: l, Relation.ReflTransGen R a b :=
    List.forall_mem_cons.mpr
      ⟨.refl, fun b hb => ((List.pairwise_cons.mp hpairs).1 b hb).to_reflTransGen⟩
  refine hpairs.imp_of_mem (fun {x y} hx _ hxy heq => ?_)
  subst heq
  exact hacyclic x (hreach x hx) hxy

/-- **No descent is longer than there are positions**, if none comes back. -/
theorem within_of_acyclic {index : α → Nat} {size : Nat} (hinj : Function.Injective index)
    (hlt : ∀ a b, R a b → index b < size) (hacyclic : ∀ a, ¬ Relation.TransGen R a a) (a : α) :
    Within R (size + 1) a := by
  by_contra h
  obtain ⟨l, hlen, hl⟩ := exists_isChain_of_not_within h
  have hnodup : l.Nodup := (nodup_of_isChain hl (fun b _ => hacyclic b)).of_cons
  have hbelow : ∀ b ∈ l, index b < size := by
    intro b hb
    obtain ⟨c, hc⟩ := exists_of_mem_isChain hl hb
    exact hlt c b hc
  have hle := length_le_of_index_lt hinj hnodup hbelow
  omega

/-! ## Descents from one position -/

theorem Within.not_transGen (h : Within R n a) : ¬ Relation.TransGen R a a := by
  intro hcycle
  induction n generalizing a with
  | zero => exact h
  | succ n ih =>
    obtain ⟨b, hab, hba⟩ := Relation.TransGen.head'_iff.mp hcycle
    exact ih (h b hab) (.tail' hba hab)

theorem Within.exists_of_reflTransGen {b : α} (h : Within R n a)
    (hab : Relation.ReflTransGen R a b) : ∃ m, Within R m b := by
  induction hab with
  | refl => exact ⟨n, h⟩
  | tail _ hbc ih =>
    obtain ⟨m, hm⟩ := ih
    cases m with
    | zero => exact hm.elim
    | succ m => exact ⟨m, hm _ hbc⟩

/-- **From `a` one can go only as far as there are positions** just if one does not come back from
there, however many of what `R` leads to are no positions any more. -/
theorem within_iff {index : α → Nat} {size : Nat} (hinj : Function.Injective index)
    (hlt : ∀ b c, R b c → index b < size) : Within R (size + 1) a
      ↔ ∀ b, Relation.ReflTransGen R a b → ¬ Relation.TransGen R b b := by
  constructor
  · intro h b hab
    obtain ⟨m, hm⟩ := h.exists_of_reflTransGen hab
    exact hm.not_transGen
  · intro hacyclic
    by_contra h
    obtain ⟨l, hlen, hl⟩ := exists_isChain_of_not_within h
    have hnodup := (nodup_of_isChain hl hacyclic).sublist (List.dropLast_sublist _)
    have hbelow : ∀ b ∈ (a :: l).dropLast, index b < size := by
      intro b hb
      obtain ⟨c, hc⟩ := exists_of_mem_dropLast hl hb
      exact hlt b c hc
    have hle := length_le_of_index_lt hinj hnodup hbelow
    rw [List.length_dropLast, List.length_cons] at hle
    omega

/-- What leads to earlier positions only does not come back. -/
theorem not_transGen_of_lt (index : α → Nat) (h : ∀ a b, R a b → index b < index a) (a : α) :
    ¬ Relation.TransGen R a a := by
  have hlt : ∀ b, Relation.TransGen R a b → index b < index a := by
    intro b hab
    induction hab with
    | single hab => exact h _ _ hab
    | tail _ hbc ih => exact (h _ _ hbc).trans ih
  exact fun ha => Nat.lt_irrefl _ (hlt a ha)

/-! ## One way to go -/

/-- **From `a` the chain ends after `n` links.** -/
def EndsAfter (next : α → Option α) : Nat → α → Prop
  | 0, a => next a = none
  | n + 1, a => ∃ b, next a = some b ∧ EndsAfter next n b

section

variable {β ε : Type} {next : α → Option α} {m : Nat} {stop : ε} {F : Nat → α → Except ε β}
  {index : α → Nat} {size : Nat}

theorem EndsAfter.unique (h : EndsAfter next n a) (h' : EndsAfter next m a) : n = m := by
  induction n generalizing m a with
  | zero =>
    cases m with
    | zero => rfl
    | succ m =>
      obtain ⟨b, hb, -⟩ := h'
      cases h.symm.trans hb
  | succ n ih =>
    obtain ⟨b, hb, h⟩ := h
    cases m with
    | zero => cases h'.symm.trans hb
    | succ m =>
      obtain ⟨b', hb', h'⟩ := h'
      obtain rfl := Option.some.inj (hb.symm.trans hb')
      exact congrArg Nat.succ (ih h h')

/-- The links of a chain that ends lead to different positions. -/
theorem EndsAfter.exists_positions (hlt : ∀ a b, next a = some b → index b < size)
    (h : EndsAfter next n a) : ∃ l : List α, l.length = n ∧ l.Nodup ∧
      ∀ b ∈ l, index b < size ∧ ∃ m < n, EndsAfter next m b := by
  induction n generalizing a with
  | zero => exact ⟨[], rfl, List.nodup_nil, nofun⟩
  | succ n ih =>
    obtain ⟨b, hab, h⟩ := h
    obtain ⟨l, hlen, hnodup, hl⟩ := ih h
    refine ⟨b :: l, congrArg Nat.succ hlen, List.nodup_cons.mpr ⟨fun hmem => ?_, hnodup⟩, ?_⟩
    · obtain ⟨-, m, hm, h'⟩ := hl b hmem
      exact Nat.ne_of_lt hm (h'.unique h)
    · intro c hc
      rcases List.mem_cons.mp hc with rfl | hc
      · exact ⟨hlt a c hab, n, Nat.lt_succ_self n, h⟩
      · obtain ⟨hsize, m, hm, h'⟩ := hl c hc
        exact ⟨hsize, m, Nat.lt_succ_of_lt hm, h'⟩

/-- **A chain that ends has no more links than there are positions.** -/
theorem EndsAfter.le_size (hinj : Function.Injective index)
    (hlt : ∀ a b, next a = some b → index b < size) (h : EndsAfter next n a) : n ≤ size := by
  obtain ⟨l, rfl, hnodup, hl⟩ := h.exists_positions hlt
  exact length_le_of_index_lt hinj hnodup (fun b hb => (hl b hb).1)

/-- **A computation along a chain**, cut off after a number of links. -/
structure Follows (next : α → Option α) (stop : ε) (F : Nat → α → Except ε β) : Prop where
  /-- Where it is cut off, it stops. -/
  cut : ∀ a, F 0 a = .error stop
  /-- What it comes to at the end of the chain does not depend on the cut. -/
  last : ∀ a, next a = none → ∀ n m, F (n + 1) a = F (m + 1) a
  /-- What it comes to before is made from what it comes to a link further on. -/
  link : ∀ a b, next a = some b → ∃ g : β → Except ε β, ∀ n, F (n + 1) a = F n b >>= g

namespace Follows

/-- Along a chain that ends, the cut is not felt beyond the end. -/
theorem eq_of_endsAfter {k : Nat} (h : Follows next stop F) (hk : EndsAfter next k a) (hn : k < n)
    (hm : k < m) : F n a = F m a := by
  obtain ⟨n, rfl⟩ := Nat.exists_eq_add_of_le' (Nat.lt_of_le_of_lt (Nat.zero_le k) hn)
  obtain ⟨m, rfl⟩ := Nat.exists_eq_add_of_le' (Nat.lt_of_le_of_lt (Nat.zero_le k) hm)
  induction k generalizing n m a with
  | zero => exact h.last a hk n m
  | succ k ih =>
    obtain ⟨b, hab, hk⟩ := hk
    obtain ⟨g, hg⟩ := h.link a b hab
    obtain ⟨n, rfl⟩ := Nat.exists_eq_add_of_lt (Nat.lt_of_succ_lt_succ hn)
    obtain ⟨m, rfl⟩ := Nat.exists_eq_add_of_lt (Nat.lt_of_succ_lt_succ hm)
    rw [hg, hg, ih hk (k + n) (by omega) (k + m) (by omega)]

/-- Along a chain that does not end, the computation is cut off. -/
theorem eq_stop (h : Follows next stop F) (hendless : ∀ k, ¬ EndsAfter next k a) :
    F n a = .error stop := by
  induction n generalizing a with
  | zero => exact h.cut a
  | succ n ih =>
    cases hab : next a with
    | none => exact absurd hab (hendless 0)
    | some b =>
      obtain ⟨g, hg⟩ := h.link a b hab
      rw [hg, ih (fun k hk => hendless (k + 1) ⟨b, hab, hk⟩)]
      rfl

/-- **How far off the cut is does not matter**, once it is as far as there are positions. -/
theorem eq_of_lt (h : Follows next stop F) (hinj : Function.Injective index)
    (hlt : ∀ a b, next a = some b → index b < size) (hn : size < n) (hm : size < m) (a : α) :
    F n a = F m a := by
  by_cases hends : ∃ k, EndsAfter next k a
  · obtain ⟨k, hk⟩ := hends
    have hle := hk.le_size hinj hlt
    exact h.eq_of_endsAfter hk (Nat.lt_of_le_of_lt hle hn) (Nat.lt_of_le_of_lt hle hm)
  · have hendless : ∀ k, ¬ EndsAfter next k a := fun k hk => hends ⟨k, hk⟩
    exact (h.eq_stop hendless).trans (h.eq_stop hendless).symm

end Follows

end

end Crosswalk

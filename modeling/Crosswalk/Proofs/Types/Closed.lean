import Crosswalk.Program.Validation
import Crosswalk.Proofs.Descent
import Crosswalk.Proofs.Outcome
import Mathlib.Data.List.Nodup
import Mathlib.Data.List.ProdSigma

/-!
# Closed tables, and tables that grow

A table is *closed* when every position its entries mention exists, which is
what validation asks of it. Whatever is found by following the entries of a
closed table from a position that exists is again a position that exists, so
questions about a closed table answer instead of faulting.

A table only ever grows at its end. What one table says of a position is then
said by every table it grows into, and `TypeTable.intern` is the step by which
it grows: it answers a position at which the wanted entry stands.

## Counting

Positions are counted by the size of the table: a list of existing positions
without repetition is no longer than the table, and one of pairs of them no
longer than its square. Every bound on a walk comes down to one of the two.
-/

namespace Crosswalk

namespace TypeTable

variable {t t' t'' : TypeTable} {id : TypeId} {k k' : TypeKind}

/-- The position exists. -/
def Has (t : TypeTable) (id : TypeId) : Prop := (t.kind? id).isSome = true

theorem has_iff_lt : t.Has id ↔ id.index < t.size := by
  unfold Has kind? size
  simp

theorem has_of_kind? (h : t.kind? id = some k) : t.Has id := by
  unfold Has
  rw [h]
  rfl

theorem exists_kind_of_has (h : t.Has id) : ∃ k, t.kind? id = some k :=
  Option.isSome_iff_exists.mp h

theorem kind_of_kind? (h : t.kind? id = some k) : t.kind id = .ok k :=
  kind_eq_ok_iff.mpr h

/-- **Every position that an entry mentions exists.** -/
def Closed (t : TypeTable) : Prop :=
  ∀ id k, t.kind? id = some k → ∀ part ∈ k.parts, t.Has part

theorem check_eq_ok_iff : t.check id = .ok () ↔ t.Has id := by
  unfold check Has
  split <;> simp [*]

/-- **Validation of a table asks whether it is closed**, and nothing else. -/
theorem validate_eq_ok_iff : t.validate = .ok () ↔ t.Closed := by
  unfold validate Closed
  rw [checkEach_eq_ok_iff]
  constructor
  · intro h id k hk part hpart
    obtain ⟨hlt, rfl⟩ := Array.getElem?_eq_some_iff.mp hk
    have hmem := h _ (Array.mem_toList_iff.mpr (Array.getElem_mem hlt))
    exact check_eq_ok_iff.mp (checkEach_eq_ok_iff.mp hmem part hpart)
  · intro h k hk
    obtain ⟨i, hlt, rfl⟩ := Array.mem_iff_getElem.mp (Array.mem_toList_iff.mp hk)
    refine checkEach_eq_ok_iff.mpr (fun part hpart => check_eq_ok_iff.mpr ?_)
    exact h ⟨i⟩ _ (Array.getElem?_eq_getElem hlt) part hpart

/-! ## Growing -/

/-- **The second table says of every position what the first one says of it.** -/
def GrowsTo (t t' : TypeTable) : Prop :=
  ∀ id k, t.kind? id = some k → t'.kind? id = some k

theorem GrowsTo.refl (t : TypeTable) : t.GrowsTo t := fun _ _ h => h

theorem GrowsTo.trans (h : t.GrowsTo t') (h' : t'.GrowsTo t'') : t.GrowsTo t'' :=
  fun id k hk => h' id k (h id k hk)

theorem GrowsTo.has (h : t.GrowsTo t') (hid : t.Has id) : t'.Has id := by
  obtain ⟨k, hk⟩ := exists_kind_of_has hid
  exact has_of_kind? (h id k hk)

/-- On the positions of the smaller table the two agree. -/
theorem GrowsTo.kind?_eq (h : t.GrowsTo t') (hid : t.Has id) : t'.kind? id = t.kind? id := by
  obtain ⟨k, hk⟩ := exists_kind_of_has hid
  rw [hk, h id k hk]

/-- Interning either finds the entry, or adds it at the end. -/
theorem intern_cases (t : TypeTable) (k : TypeKind) :
    (∃ id, t.intern k = (id, t) ∧ t.kind? id = some k) ∨
      t.intern k = (⟨t.size⟩, ⟨t.kinds.push k⟩) := by
  unfold intern
  cases hfind : t.kinds.findIdx? (fun k' => decide (k' = k)) with
  | none => exact .inr rfl
  | some i =>
    obtain ⟨hlt, heq, -⟩ := Array.findIdx?_eq_some_iff_getElem.mp hfind
    refine .inl ⟨⟨i⟩, rfl, ?_⟩
    rw [← of_decide_eq_true heq]
    exact Array.getElem?_eq_getElem hlt

theorem growsTo_push (t : TypeTable) (k : TypeKind) : t.GrowsTo ⟨t.kinds.push k⟩ := by
  intro id k' hk
  obtain ⟨hlt, -⟩ := Array.getElem?_eq_some_iff.mp hk
  show (t.kinds.push k)[id.index]? = some k'
  rw [Array.getElem?_push_lt hlt, ← hk]
  exact (Array.getElem?_eq_getElem hlt).symm

theorem growsTo_intern (t : TypeTable) (k : TypeKind) : t.GrowsTo (t.intern k).2 := by
  rcases intern_cases t k with ⟨id, h, -⟩ | h
  · rw [h]
    exact .refl t
  · rw [h]
    exact growsTo_push t k

/-- **Interning answers a position of the wanted entry.** -/
theorem kind?_intern (t : TypeTable) (k : TypeKind) :
    (t.intern k).2.kind? (t.intern k).1 = some k := by
  rcases intern_cases t k with ⟨id, h, hk⟩ | h
  · rw [h]
    exact hk
  · rw [h]
    exact Array.getElem?_push_size

/-- Interning an entry that mentions existing positions keeps a table closed. -/
theorem Closed.intern (ht : t.Closed) (hk : ∀ part ∈ k.parts, t.Has part) :
    (t.intern k).2.Closed := by
  rcases intern_cases t k with ⟨id, h, -⟩ | h
  · rw [h]
    exact ht
  · rw [h]
    intro id k' hk' part hpart
    have hgrow := growsTo_push t k
    have hk'' : (t.kinds.push k)[id.index]? = some k' := hk'
    rw [Array.getElem?_push] at hk''
    split at hk''
    · obtain rfl := Option.some.inj hk''
      exact hgrow.has (hk part hpart)
    · exact hgrow.has (ht id k' hk'' part hpart)

/-! ## Counting positions -/

theorem index_injective : Function.Injective TypeId.index := by
  rintro ⟨i⟩ ⟨j⟩ rfl
  rfl

/-- **There are no more positions than entries.** -/
theorem length_le_size {l : List TypeId} (hl : l.Nodup) (hin : ∀ id ∈ l, t.Has id) :
    l.length ≤ t.size :=
  length_le_of_index_lt index_injective hl (fun id hid => has_iff_lt.mp (hin id hid))

/-- There are no more pairs of positions than pairs of entries. -/
theorem length_le_size_mul_size {l : List (TypeId × TypeId)} (hl : l.Nodup)
    (hin : ∀ p ∈ l, t.Has p.1 ∧ t.Has p.2) : l.length ≤ t.size * t.size := by
  have hinj : Function.Injective (fun p : TypeId × TypeId => (p.1.index, p.2.index)) := by
    rintro ⟨⟨i⟩, ⟨j⟩⟩ ⟨⟨i'⟩, ⟨j'⟩⟩ h
    obtain ⟨rfl, rfl⟩ := Prod.mk.inj h
    rfl
  have hsub : l.map (fun p => (p.1.index, p.2.index))
      ⊆ List.range t.size ×ˢ List.range t.size := by
    intro q hq
    obtain ⟨p, hp, rfl⟩ := List.mem_map.mp hq
    refine List.pair_mem_product.mpr ?_
    rw [List.mem_range, List.mem_range]
    exact ⟨has_iff_lt.mp (hin p hp).1, has_iff_lt.mp (hin p hp).2⟩
  have hlen := (hl.map hinj).length_le_of_subset hsub
  rwa [List.length_map, List.length_product, List.length_range] at hlen

end TypeTable

end Crosswalk

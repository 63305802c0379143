import Crosswalk.Types.Basic
import Mathlib.Logic.Function.Basic

/-!
# Tables with an index

A table that grows large is kept together with an index, which tells of an entry where it
stands first. Then looking an entry up takes no search. A document lists the entries and leaves
the index out, so a table that is read starts with an index of its own: entries are noted one
after another, each unless it is noted already.

Searching the entries and asking the index come to the same (`IndexedTable.Indexes.answers`),
whatever is looked up in turn and whatever is added on the way.
-/

namespace Crosswalk

/-- **A table that keeps an index.** -/
structure IndexedTable where
  /-- The entries, by position. -/
  kinds : Array TypeKind
  /-- Where an entry stands. -/
  index : TypeKind → Option TypeId

/-- The positions of entries that are looked up in turn, and added where they are missing. -/
def TypeTable.answers (t : TypeTable) : List TypeKind → List TypeId
  | [] => []
  | kind :: kinds => (t.intern kind).1 :: (t.intern kind).2.answers kinds

namespace IndexedTable

variable {t : IndexedTable}

/-- The index with an entry more, unless that is noted already. -/
def note (index : TypeKind → Option TypeId) (entry : TypeKind × Nat) : TypeKind → Option TypeId :=
  if (index entry.1).isSome then index else Function.update index entry.1 (some ⟨entry.2⟩)

/-- **The table of given entries.** -/
def load (kinds : Array TypeKind) : IndexedTable :=
  ⟨kinds, kinds.toList.zipIdx.foldl note (fun _ => none)⟩

/-- The position of an entry, which is added at the end if it is missing. -/
def intern (t : IndexedTable) (kind : TypeKind) : TypeId × IndexedTable :=
  match t.index kind with
  | some id => (id, t)
  | none => (⟨t.kinds.size⟩,
      ⟨t.kinds.push kind, Function.update t.index kind (some ⟨t.kinds.size⟩)⟩)

/-- The positions of entries that are looked up in turn, and added where they are missing. -/
def answers (t : IndexedTable) : List TypeKind → List TypeId
  | [] => []
  | kind :: kinds => (t.intern kind).1 :: (t.intern kind).2.answers kinds

/-- **The index tells where an entry stands first.** -/
def Indexes (t : IndexedTable) : Prop :=
  ∀ kind, t.index kind = (t.kinds.findIdx? (fun k => decide (k = kind))).map TypeId.mk

theorem foldl_note (kinds : List TypeKind) (n : Nat) (index : TypeKind → Option TypeId)
    (kind : TypeKind) :
    (kinds.zipIdx n).foldl note index kind = (index kind).or
      ((kinds.findIdx? (fun k => decide (k = kind))).map (fun i => ⟨n + i⟩)) := by
  induction kinds generalizing n index with
  | nil => simp
  | cons k kinds ih =>
    rw [List.zipIdx_cons, List.foldl_cons, ih, List.findIdx?_cons]
    by_cases hk : k = kind
    · subst hk
      cases hindex : index k <;> simp [note, hindex]
    · have hsame : note index (k, n) kind = index kind := by
        unfold note
        split
        · rfl
        · exact Function.update_of_ne (Ne.symm hk) _ _
      simp [hsame, hk, Function.comp_def, Nat.add_assoc, Nat.add_comm 1]

/-- A table that was read has an index. -/
theorem indexes_load (kinds : Array TypeKind) : (load kinds).Indexes := by
  intro kind
  have h := foldl_note kinds.toList 0 (fun _ => none) kind
  simp only [Nat.zero_add, Option.none_or] at h
  show kinds.toList.zipIdx.foldl note (fun _ => none) kind = _
  rw [h, ← List.findIdx?_toArray]
  rfl

namespace Indexes

/-- Looking an entry up is searching for it. -/
theorem intern_eq (h : t.Indexes) (kind : TypeKind) :
    (t.intern kind).1 = ((⟨t.kinds⟩ : TypeTable).intern kind).1 ∧
      (t.intern kind).2.kinds = ((⟨t.kinds⟩ : TypeTable).intern kind).2.kinds := by
  unfold IndexedTable.intern TypeTable.intern
  rw [h kind]
  cases (t.kinds.findIdx? (fun k => decide (k = kind))) <;> exact ⟨rfl, rfl⟩

/-- The index stays right. -/
theorem intern (h : t.Indexes) (kind : TypeKind) : (t.intern kind).2.Indexes := by
  unfold IndexedTable.intern
  cases hindex : t.index kind with
  | some id => exact h
  | none =>
    intro k
    have hnone : t.kinds.findIdx? (fun k => decide (k = kind)) = none := by
      simpa [h kind] using hindex
    show Function.update t.index kind (some ⟨t.kinds.size⟩) k = _
    rw [Array.findIdx?_push]
    by_cases hk : k = kind
    · subst hk
      simp [hnone]
    · simp [Function.update_of_ne hk, h k, Ne.symm hk]

/-- **An index changes no answer**, now or later. -/
theorem answers (h : t.Indexes) (later : List TypeKind) :
    t.answers later = (⟨t.kinds⟩ : TypeTable).answers later := by
  induction later generalizing t with
  | nil => rfl
  | cons kind later ih =>
    obtain ⟨hid, hkinds⟩ := h.intern_eq kind
    unfold IndexedTable.answers TypeTable.answers
    rw [ih (h.intern kind), hid, hkinds]

end Indexes

end IndexedTable

end Crosswalk

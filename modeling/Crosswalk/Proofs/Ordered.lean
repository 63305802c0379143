import Crosswalk.Ordered
import Mathlib.Data.List.Basic
import Mathlib.Data.List.Induction

/-!
# Sets and maps that remember order, and their members

What is put into an ordered set or map and what is found in it again.
-/

namespace Crosswalk

/-- One more member of a list is kept if it is the first of its kind. -/
theorem eraseDups_concat {α : Type} [DecidableEq α] (as : List α) (a : α) :
    (as ++ [a]).eraseDups = if a ∈ as then as.eraseDups else as.eraseDups ++ [a] := by
  rw [List.eraseDups_append]
  by_cases h : a ∈ as
  · simp [List.removeAll, h]
  · simp [List.removeAll, h, List.eraseDups_cons]

namespace OrderedSet

variable {α : Type} [DecidableEq α] {s : OrderedSet α} {a : α} {as : List α}

theorem mem_insertAll : a ∈ s.insertAll as ↔ a ∈ s ∨ a ∈ as := by
  induction as generalizing s with
  | nil => simp
  | cons b as ih => rw [insertAll_cons, ih, mem_insert, List.mem_cons, or_assoc]

theorem insertAll_append {bs : List α} : s.insertAll (as ++ bs) = (s.insertAll as).insertAll bs :=
  List.foldl_append

/-- The set of the members of a list has just these members. -/
theorem mem_ofList : a ∈ ofList as ↔ a ∈ as := by
  unfold ofList
  rw [mem_insertAll, mem_iff, items_empty]
  simp

/-- **The set of the members of a list has each at its first occurrence.** -/
theorem items_ofList (as : List α) : (ofList as).items = as.eraseDups := by
  induction as using List.reverseRecOn with
  | nil => rfl
  | append_singleton as a ih =>
    have hsplit : ofList (as ++ [a]) = (ofList as).insert a := by
      unfold ofList
      rw [insertAll_append, insertAll_cons, insertAll_nil]
    have hmem : a ∈ (ofList as).items ↔ a ∈ as := mem_ofList
    rw [hsplit, items_insert, eraseDups_concat, ih]
    exact if_congr (ih ▸ hmem) rfl rfl

/-- Inserting members renamed, one by one, renames what comes of inserting them. -/
theorem items_insertAll_map {β : Type} [DecidableEq β] {f : α → β} {s' : OrderedSet β}
    (hf : Function.Injective f) (hs : s'.items = s.items.map f) (as : List α) :
    (s'.insertAll (as.map f)).items = (s.insertAll as).items.map f := by
  induction as generalizing s s' with
  | nil => exact hs
  | cons a as ih =>
    rw [List.map_cons, insertAll_cons, insertAll_cons]
    have hmem : f a ∈ s.items.map f ↔ a ∈ s.items := List.mem_map_of_injective hf
    refine ih ?_
    rw [items_insert, items_insert, hs]
    by_cases ha : a ∈ s.items
    · rw [if_pos ha, if_pos (hmem.mpr ha)]
    · rw [if_neg ha, if_neg (hmem.not.mpr ha), List.map_append, List.map_singleton]

end OrderedSet

namespace OrderedMap

variable {κ ν : Type} [DecidableEq κ] {m : OrderedMap κ ν} {k : κ}

/-- What is in a map after an insertion was in it before, or is what was inserted. -/
theorem mem_entries_insert {v : ν} {e : κ × ν} (h : e ∈ (m.insert k v).entries) :
    e ∈ m.entries ∨ e = (k, v) := by
  unfold insert at h
  split at h
  · obtain ⟨old, hold, rfl⟩ := List.mem_map.mp h
    split
    · rename_i hk
      exact .inr (hk ▸ rfl)
    · exact .inl hold
  · exact (List.mem_append.mp h).imp_right List.mem_singleton.mp

/-- The map with the insertions of a list made one after the other. -/
def insertEach (m : OrderedMap κ ν) (kvs : List (κ × ν)) : OrderedMap κ ν :=
  kvs.foldl (fun m kv => m.insert kv.1 kv.2) m

theorem insertEach_append (kvs kvs' : List (κ × ν)) :
    m.insertEach (kvs ++ kvs') = (m.insertEach kvs).insertEach kvs' :=
  List.foldl_append

/-- A key has the value that it is given last, or else the one that it had. -/
theorem get?_insertEach (kvs : List (κ × ν)) (k : κ) : (m.insertEach kvs).get? k
    = ((kvs.filter (fun kv => kv.1 = k)).getLast?.map Prod.snd).or (m.get? k) := by
  induction kvs using List.reverseRecOn with
  | nil => rfl
  | append_singleton kvs kv ih =>
    have hlast : (m.insertEach (kvs ++ [kv])).get? k
        = if k = kv.1 then some kv.2 else (m.insertEach kvs).get? k := by
      rw [insertEach_append]
      exact get?_insert _ _ _
    rw [hlast, List.filter_append, List.getLast?_append]
    by_cases h : kv.1 = k
    · simp [h]
    · simp [h, Ne.symm h, ih]

/-- Only what a key is given itself matters, and in which order. -/
theorem get?_insertEach_congr {m' : OrderedMap κ ν} {kvs kvs' : List (κ × ν)}
    (h : kvs.filter (fun kv => kv.1 = k) = kvs'.filter (fun kv => kv.1 = k))
    (hm : m.get? k = m'.get? k) : (m.insertEach kvs).get? k = (m'.insertEach kvs').get? k := by
  rw [get?_insertEach, get?_insertEach, h, hm]

/-- **The map that a list of insertions builds** has each key at its first occurrence, -/
theorem keys_ofList (kvs : List (κ × ν)) :
    (ofList kvs).keys = (kvs.map Prod.fst).eraseDups := by
  induction kvs using List.reverseRecOn with
  | nil => rfl
  | append_singleton kvs kv ih =>
    have hsplit : ofList (kvs ++ [kv]) = (ofList kvs).insert kv.1 kv.2 := List.foldl_append
    have hmem : kv.1 ∈ (kvs.map Prod.fst).eraseDups ↔ kv.1 ∈ kvs.map Prod.fst := List.mem_eraseDups
    rw [hsplit, keys_insert, List.map_append, List.map_singleton, eraseDups_concat, ih]
    exact if_congr hmem rfl rfl

/-- and at each key the value that was put there last. -/
theorem get?_ofList (kvs : List (κ × ν)) (k : κ) :
    (ofList kvs).get? k = (kvs.reverse.find? (fun kv => kv.1 = k)).map Prod.snd := by
  induction kvs using List.reverseRecOn with
  | nil => rfl
  | append_singleton kvs kv ih =>
    have hsplit : ofList (kvs ++ [kv]) = (ofList kvs).insert kv.1 kv.2 := List.foldl_append
    rw [hsplit, get?_insert, List.reverse_append, List.reverse_singleton, List.singleton_append,
      List.find?_cons, ih]
    by_cases h : k = kv.1
    · simp [h]
    · simp [h, Ne.symm h]

end OrderedMap

end Crosswalk

/-!
# Sets and maps that remember order

The names a mapping function lists are kept in the order of their first
mention, each once. Saying a name again changes nothing; giving a key a new
value replaces the value and leaves the key where it was first put. Both rules
show in every report, so the order is part of the value, and that no item
occurs twice is part of the type.
-/

namespace Crosswalk

/-- **A finite set in order of first insertion.** -/
structure OrderedSet (α : Type) where
  /-- The members, the first inserted first. -/
  items : List α
  /-- No member is listed twice. -/
  nodup : items.Nodup
deriving DecidableEq, Repr

namespace OrderedSet

variable {α : Type}

/-- The set without members. -/
def empty : OrderedSet α := ⟨[], List.nodup_nil⟩

instance : Inhabited (OrderedSet α) := ⟨empty⟩

instance : Membership α (OrderedSet α) := ⟨fun s a => a ∈ s.items⟩

theorem mem_iff {s : OrderedSet α} {a : α} : a ∈ s ↔ a ∈ s.items := Iff.rfl

@[simp] theorem items_empty : (empty : OrderedSet α).items = [] := rfl

variable [DecidableEq α]

/-- Adds a member at the end, unless the set already has it. -/
def insert (s : OrderedSet α) (a : α) : OrderedSet α :=
  if h : a ∈ s.items then s
  else
    ⟨s.items ++ [a], by
      rw [List.nodup_append]
      refine ⟨s.nodup, by simp, ?_⟩
      intro x hx y hy hxy
      rw [List.mem_singleton] at hy
      exact h (hy ▸ hxy ▸ hx)⟩

/-- Adds the members of a list, from left to right. -/
def insertAll (s : OrderedSet α) (as : List α) : OrderedSet α :=
  as.foldl insert s

/-- The set of the members of a list, each at its first occurrence. -/
def ofList (as : List α) : OrderedSet α := empty.insertAll as

instance (s : OrderedSet α) (a : α) : Decidable (a ∈ s) :=
  inferInstanceAs (Decidable (a ∈ s.items))

theorem items_insert (s : OrderedSet α) (a : α) :
    (s.insert a).items = if a ∈ s.items then s.items else s.items ++ [a] := by
  unfold insert
  split <;> simp [*]

@[simp] theorem mem_insert {s : OrderedSet α} {a b : α} : b ∈ s.insert a ↔ b ∈ s ∨ b = a := by
  rw [mem_iff, mem_iff, items_insert]
  split <;> rename_i h
  · exact ⟨Or.inl, fun hb => hb.elim id (fun hba => hba ▸ h)⟩
  · simp

@[simp] theorem insertAll_nil (s : OrderedSet α) : s.insertAll [] = s := rfl

@[simp] theorem insertAll_cons (s : OrderedSet α) (a : α) (as : List α) :
    s.insertAll (a :: as) = (s.insert a).insertAll as := rfl

end OrderedSet

/-- **A finite map in order of first insertion of its keys.** -/
structure OrderedMap (κ ν : Type) where
  /-- Keys with their values, the first inserted key first. -/
  entries : List (κ × ν)
  /-- No key is listed twice. -/
  nodup : (entries.map Prod.fst).Nodup
deriving DecidableEq, Repr

namespace OrderedMap

variable {κ ν : Type}

/-- The map without entries. -/
def empty : OrderedMap κ ν := ⟨[], List.nodup_nil⟩

instance : Inhabited (OrderedMap κ ν) := ⟨empty⟩

@[simp] theorem entries_empty : (empty : OrderedMap κ ν).entries = [] := rfl

/-- The keys, in order. -/
def keys (m : OrderedMap κ ν) : List κ := m.entries.map Prod.fst

variable [DecidableEq κ]

/-- The value of a key. -/
def get? (m : OrderedMap κ ν) (k : κ) : Option ν :=
  (m.entries.find? (fun e => e.1 = k)).map Prod.snd

/-- The entries with the value of `k` replaced, each at its place. -/
def replaceIn (entries : List (κ × ν)) (k : κ) (v : ν) : List (κ × ν) :=
  entries.map (fun e => if e.1 = k then (e.1, v) else e)

theorem keys_replaceIn (entries : List (κ × ν)) (k : κ) (v : ν) :
    (replaceIn entries k v).map Prod.fst = entries.map Prod.fst := by
  unfold replaceIn
  rw [List.map_map]
  refine List.map_congr_left (fun e _ => ?_)
  simp only [Function.comp]
  split <;> rfl

/-- **Gives a key a value**: a new key goes to the end, a known one keeps its
place. -/
def insert (m : OrderedMap κ ν) (k : κ) (v : ν) : OrderedMap κ ν :=
  if h : k ∈ m.keys then
    ⟨replaceIn m.entries k v, by rw [keys_replaceIn]; exact m.nodup⟩
  else
    ⟨m.entries ++ [(k, v)], by
      rw [List.map_append, List.nodup_append]
      refine ⟨m.nodup, by simp, ?_⟩
      intro x hx y hy hxy
      simp only [List.map_cons, List.map_nil, List.mem_singleton] at hy
      exact h (hy ▸ hxy ▸ hx)⟩

/-- The map that the insertions of a list build, from left to right. -/
def ofList (kvs : List (κ × ν)) : OrderedMap κ ν :=
  kvs.foldl (fun m kv => m.insert kv.1 kv.2) empty

theorem keys_insert (m : OrderedMap κ ν) (k : κ) (v : ν) :
    (m.insert k v).keys = if k ∈ m.keys then m.keys else m.keys ++ [k] := by
  unfold insert
  split
  · exact keys_replaceIn _ _ _
  · simp [keys]

/-! ## What is found in a map -/

variable {m : OrderedMap κ ν} {k : κ}

/-- Every key has a value, and nothing else has one. -/
theorem get?_eq_none_iff : m.get? k = none ↔ k ∉ m.keys := by
  unfold get? keys
  rw [Option.map_eq_none_iff, List.find?_eq_none]
  constructor
  · intro h hmem
    obtain ⟨e, he, rfl⟩ := List.mem_map.mp hmem
    exact h e he (decide_eq_true rfl)
  · intro h e he heq
    exact h (List.mem_map.mpr ⟨e, he, of_decide_eq_true heq⟩)

theorem get?_replaceIn (entries : List (κ × ν)) (k k' : κ) (v : ν) :
    ((replaceIn entries k v).find? (fun e => e.1 = k')).map Prod.snd
      = ((entries.find? (fun e => e.1 = k')).map Prod.snd).map (fun w => if k' = k then v else w) := by
  induction entries with
  | nil => rfl
  | cons e entries ih =>
    have hkey : (if e.1 = k then (e.1, v) else e).1 = e.1 := by split <;> rfl
    unfold replaceIn at ih ⊢
    rw [List.map_cons, List.find?_cons, List.find?_cons, hkey]
    by_cases h : e.1 = k'
    · rw [decide_eq_true h]
      by_cases hk : k' = k
      · simp [hk, h]
      · simp [hk, h]
    · rw [decide_eq_false h]
      exact ih

/-- **A key has the value it was given last.** -/
theorem get?_insert (k k' : κ) (v : ν) :
    (m.insert k v).get? k' = if k' = k then some v else m.get? k' := by
  unfold insert get?
  split
  · rename_i hk
    rw [get?_replaceIn]
    by_cases h : k' = k
    · have hsome : m.get? k' ≠ none := fun hnone => get?_eq_none_iff.mp hnone (h ▸ hk)
      obtain ⟨w, hw⟩ := Option.ne_none_iff_exists'.mp hsome
      unfold get? at hw
      rw [hw, if_pos h]
      exact congrArg some (if_pos h)
    · simp only [if_neg h, Option.map_id']
  · rename_i hk
    rw [List.find?_append]
    by_cases h : k' = k
    · have hnone : m.get? k' = none := get?_eq_none_iff.mpr (h ▸ hk)
      unfold get? at hnone
      rw [Option.map_eq_none_iff] at hnone
      rw [hnone, if_pos h]
      simp [h]
    · simp [h, Ne.symm h]

end OrderedMap

end Crosswalk

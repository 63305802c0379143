import Crosswalk.Proofs.Program.Building

/-!
# Packs

The last arguments of a variadic call are packed into an array: for each of them
an address into the array is made, and the argument stored there. In a tidy body
the addresses into one array, taken in the order of their listing, tell what is
packed in it (`Func.Packs`), and nothing that is written later changes that: an
array that is made later has other addresses.
-/

namespace Crosswalk

namespace Func

variable {f f' : Func} {base slot index v : ValueId} {vs : List ValueId} {n : Nat}
  {calls : List (ValueId × List ValueId)}

/-- **The array at `base` is packed with `vs`**: the addresses into it, in the order in
which they are listed, are each followed by the store of one of the values. -/
structure Packs (f : Func) (base : ValueId) (vs : List ValueId) : Prop where
  /-- There is such an array. -/
  place : ∃ heap, f.kind? base = some (.alloc heap)
  /-- Its slots and what they hold. -/
  slots : List.Forall₂
    (fun slot v => f.kind? slot.next = some (.store slot v) ∧ slot.next ∈ f.instructions)
    (f.instructions.filter (f.isSlotOf base)) vs

theorem isSlotOf_grow (h : f.GrowsTo n f' calls) (ht : f.Tidy) :
    f.instructions.filter (f'.isSlotOf base) = f.instructions.filter (f.isSlotOf base) := by
  refine List.filter_congr (fun id hid => ?_)
  obtain ⟨kind, hk, -⟩ := ht.placed id hid
  unfold isSlotOf
  rw [h.kind?_eq hk]

namespace Packs

/-- **What is written later leaves a pack alone.** -/
theorem grow (hp : f.Packs base vs) (ht : f.Tidy) (h : f.GrowsTo n f' calls)
    (hn : base.index < n) : f'.Packs base vs := by
  obtain ⟨heap, hheap⟩ := hp.place
  obtain ⟨ids, hids, -, hbase⟩ := h.added
  have hnone : ids.filter (f'.isSlotOf base) = [] := by
    refine List.filter_eq_nil_iff.mpr (fun id hid hslot => ?_)
    obtain ⟨index, hk⟩ := isSlotOf_eq_true_iff.mp hslot
    exact absurd hn (Nat.not_lt.mpr (hbase id hid base index hk))
  refine ⟨⟨heap, h.kind? hheap⟩, ?_⟩
  rw [hids, List.filter_append, hnone, List.append_nil, isSlotOf_grow h ht]
  refine hp.slots.imp (fun slot v hslot => ⟨h.kind? hslot.1, ?_⟩)
  exact List.mem_append_left _ hslot.2

/-- A fresh array holds nothing. -/
theorem of_fresh {v : Value} {heap : Bool} (ht : f.Tidy) (h : f.GrowsTo n f' calls)
    (hadds : Build.Adds f v base f') (hv : v.kind = .alloc heap) : f'.Packs base [] := by
  have hplace : f'.kind? base = some (.alloc heap) := by
    rw [hadds.kind?, hv]
  have hnone : f.instructions.filter (f.isSlotOf base) = [] := by
    refine List.filter_eq_nil_iff.mpr (fun id hid hslot => ?_)
    obtain ⟨index, hk⟩ := isSlotOf_eq_true_iff.mp hslot
    obtain ⟨⟨heap', hheap⟩, -⟩ := ht.placed_of_kind? hid hk
    have hlt := index_lt_of_kind? hheap
    rw [hadds.at_end] at hlt
    exact Nat.lt_irrefl _ hlt
  have hself : f'.isSlotOf base base = false := by
    unfold isSlotOf
    rw [hplace]
  refine ⟨⟨heap, hplace⟩, ?_⟩
  rw [hadds.listed, List.filter_append, isSlotOf_grow h ht, hnone, List.nil_append,
    List.filter_cons_of_neg (by rw [hself]; exact Bool.false_ne_true)]
  exact .nil

/-- **One more value**: an address into the array, and a store to it. -/
theorem add (hp : f.Packs base vs) (ht : f.Tidy) (h : f.GrowsTo n f' calls)
    (hlisted : f'.instructions = f.instructions ++ [slot, slot.next])
    (hslot : f'.kind? slot = some (.indexAddr base index))
    (hstore : f'.kind? slot.next = some (.store slot v)) : f'.Packs base (vs ++ [v]) := by
  obtain ⟨heap, hheap⟩ := hp.place
  have hadded : [slot, slot.next].filter (f'.isSlotOf base) = [slot] := by
    have hnext : f'.isSlotOf base slot.next = false := by
      unfold isSlotOf
      rw [hstore]
    rw [List.filter_cons_of_pos (isSlotOf_eq_true_iff.mpr ⟨index, hslot⟩),
      List.filter_cons_of_neg (by rw [hnext]; exact Bool.false_ne_true)]
    rfl
  refine ⟨⟨heap, h.kind? hheap⟩, ?_⟩
  rw [hlisted, List.filter_append, hadded, isSlotOf_grow h ht]
  have hkept : List.Forall₂ (fun slot' v => f'.kind? slot'.next = some (.store slot' v) ∧
      slot'.next ∈ f.instructions ++ [slot, slot.next])
      (f.instructions.filter (f.isSlotOf base)) vs :=
    hp.slots.imp (fun _ _ hold => ⟨h.kind? hold.1, List.mem_append_left _ hold.2⟩)
  refine List.rel_append hkept (.cons ⟨hstore, List.mem_append_right _ ?_⟩ .nil)
  exact List.mem_cons_of_mem _ List.mem_cons_self

end Packs

end Func

/-! ## Packing -/

namespace Build

variable {c : Cursor} {p : Program} {f : Func} {n length : Nat} {base value : ValueId}
  {vs values : List ValueId} {type arr elem : TypeId}

/-- **Storing values one after another** packs them in their order. -/
theorem runs_storeEach (rest : List (ValueId × Nat)) (h : Stands c p f) (hn : n ≤ base.index)
    (hbase : f.value? base = some ⟨.alloc true, some type, none⟩)
    (htype : p.types.kind? type = some (.pointer arr))
    (harr : p.types.kind? arr = some (.array elem length)) (hpacks : f.Packs base vs) :
    Runs (storeEach c base rest) p (Leaves n c p f [] (fun _ _ f' =>
      f'.Packs base (vs ++ rest.map Prod.fst))) := by
  induction rest generalizing p f vs with
  | nil =>
    refine .pure ⟨f, h, .refl n c.function p f, ?_⟩
    rw [List.map_nil, List.append_nil]
    exact hpacks
  | cons first rest ih =>
    obtain ⟨value, i⟩ := first
    refine (runs_constInt n h).write ?_
    rintro index p₁ f₁ hs₁ hw₁ ⟨hlisted₁, hindex⟩
    have hplace : f₁.Placed ⟨f₁.values.size⟩ (.indexAddr base index) :=
      ⟨⟨true, hw₁.body.kind? (Func.kind?_of_value? hbase)⟩, _, hindex⟩
    refine (runs_indexAddr hs₁ (hw₁.body.values _ _ hbase) rfl (hw₁.types _ _ htype)
      (hw₁.types _ _ harr) hplace hn).write ?_
    rintro slot p₂ f₂ hs₂ hw₂ ⟨slotType, hslot⟩
    have hnext : slot.next = ⟨f₂.values.size⟩ := by
      rw [hslot.size, hslot.at_end]
      rfl
    have hstored : f₂.Placed ⟨f₂.values.size⟩ (.store slot value) := by
      refine ⟨hnext, ?_, base, index, hslot.kind?⟩
      rw [hslot.listed]
      exact List.mem_append_right _ List.mem_cons_self
    refine (runs_store n hs₂ hstored).write ?_
    rintro store p₃ f₃ hs₃ hw₃ hstore
    have hw := (hw₁.trans hw₂ hs₁.tidy).trans hw₃ hs₂.tidy
    have hat : store = slot.next := hstore.at_end.trans hnext.symm
    have hpacks' : f₃.Packs base (vs ++ [value]) := by
      refine hpacks.add h.tidy hw.body ?_ (hw₃.body.kind? hslot.kind?) ?_
      · rw [hstore.listed, hslot.listed, hlisted₁, List.append_assoc, hat]
        rfl
      · rw [← hat]
        exact hstore.kind?
    refine (ih hs₃ (hw.body.values _ _ hbase) (hw.types _ _ htype) (hw.types _ _ harr)
      hpacks').mono ?_
    rintro _ p' ⟨f', hs', hw', hpacked⟩
    rw [List.append_assoc] at hpacked
    exact ⟨f', hs', hw', hpacked⟩

/-- **A variadic argument is a slice over a pack of the values.** -/
theorem runs_variadic (elem : TypeId) (values : List ValueId) (h : Stands c p f)
    (hn : n ≤ f.values.size) :
    Runs (variadic c elem values) p (Leaves n c p f [] (fun id _ f' => ∃ base,
      f'.kind? id = some (.slice base) ∧ f'.Packs base values)) := by
  refine (runs_intern (.array elem values.length)).bind ?_
  rintro arr _ ⟨types, rfl, hgrow, harr⟩
  -- an empty array
  refine .writeTypes hgrow ((runs_newObject n (h.withTypes types)).write ?_)
  rintro base p₁ f₁ hs₁ hw₁ ⟨type, hadds, htype⟩
  have hpacks : f₁.Packs base [] := .of_fresh h.tidy hw₁.body hadds rfl
  have hle : n ≤ base.index := by
    rw [hadds.at_end]
    exact hn
  -- what is stored in it
  refine (runs_storeEach values.zipIdx hs₁ hle hadds.value htype (hw₁.types _ _ harr)
    hpacks).write ?_
  rintro _ p₂ f₂ hs₂ hw₂ hpacks₂
  rw [List.nil_append, List.zipIdx_map_fst] at hpacks₂
  -- the slice over it
  refine (runs_slice (base.index + 1) hs₂ (hw₂.body.values _ _ hadds.value) rfl
    (hw₂.types _ _ htype) (hw₂.types _ _ (hw₁.types _ _ harr))).mono ?_
  rintro id p' ⟨f', hs', hw', hslice⟩
  refine ⟨f', hs', hw'.weaken (Nat.le_succ_of_le hle), base, hslice, ?_⟩
  exact hpacks₂.grow hs₂.tidy hw'.body (Nat.lt_succ_self _)

end Build

end Crosswalk

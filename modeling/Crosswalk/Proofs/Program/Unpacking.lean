import Crosswalk.Argument
import Crosswalk.Proofs.Program.Packs
import Crosswalk.Proofs.Program.Visits

/-!
# Getting back what was packed

To read a pack is to walk the readers of its array, which may lead far away: to
the call that is given the pack, and on to whatever is given the value of that
call. On its way the walk may even meet the stores of another pack, if what they
store has to do with this one. It takes none of them for its own, because their
addresses do not come from its array.

What is asked of the packed values is that they do not come from the pack
themselves. Values made of operands alone do not (`Func.Aloof`).
-/

namespace Crosswalk

namespace Func

variable {f : Func} {v : ValueId}

/-- **A value that is made of operands alone**: it goes back to constants, parameters
and references, and to no place in memory. -/
inductive Aloof (f : Func) : ValueId → Prop
  | operand {v : ValueId} {kind : ValueKind} (hk : f.kind? v = some kind)
      (hkind : kind.isInstruction = false) : Aloof f v
  | through {v : ValueId} {kind : ValueKind} (hk : f.kind? v = some kind)
      (hkind : kind.isAlloc = false) (hops : ∀ o ∈ kind.operands, Aloof f o) : Aloof f v

end Func

/-! ## The listed instructions of a tidy body -/

/-- **The index has the listed instructions of `f`**, each with its value. -/
structure UseIndex.Lists (index : UseIndex) (f : Func) : Prop where
  /-- The instructions are those of `f`. -/
  users : index.uses.map Use.user = f.instructions
  /-- Their values are those of `f`. -/
  entries : ∀ u ∈ index.uses, f.value? u.user = some u.value

/-- **A body whose instructions exist has an index.** -/
theorem Func.exists_index {f : Func} (h : ∀ id ∈ f.instructions, ∃ v, f.value? id = some v) :
    ∃ index, UseIndex.build f = .ok index ∧ index.Lists f := by
  have hexists : ∀ id ∈ f.instructions, ∃ u, (do return (⟨id, ← f.value id⟩ : Use) : Lookup Use)
      = .ok u := by
    intro id hid
    obtain ⟨v, hv⟩ := h id hid
    exact ⟨⟨id, v⟩, by rw [Func.value_eq_ok_iff.mpr hv]; rfl⟩
  obtain ⟨uses, huses⟩ := exists_mapM_eq_ok hexists
  have hbeside : List.Forall₂ (fun id u => id = u.user ∧ f.value? u.user = some u.value)
      f.instructions uses := by
    refine (mapM_eq_ok_iff.mp huses).imp (fun id u hu => ?_)
    obtain ⟨v, hv, hu⟩ := bind_eq_ok_iff.mp hu
    obtain rfl := Except.ok.inj hu
    exact ⟨rfl, Func.value_eq_ok_iff.mp hv⟩
  refine ⟨.ofUses uses, ?_, ?_, fun u hu => ?_⟩
  · unfold UseIndex.build Func.listed
    rw [huses]
    rfl
  · have husers := map_eq_map_of_forall₂ (hbeside.imp (fun _ _ hid => hid.1))
    exact husers.symm.trans (List.map_id' _)
  · obtain ⟨id, -, -, hv⟩ := exists_beside hbeside hu
    exact hv

/-- **A tidy body has an index.** -/
theorem Func.Tidy.exists_index {f : Func} (h : f.Tidy) :
    ∃ index, UseIndex.build f = .ok index ∧ index.Lists f := by
  refine Func.exists_index (fun id hid => ?_)
  obtain ⟨kind, hk, -⟩ := h.placed id hid
  obtain ⟨v, hv, -⟩ := Func.kind?_eq_some_iff.mp hk
  exact ⟨v, hv⟩

namespace UseIndex

variable {index : UseIndex} {f : Func} {base slot i v : ValueId} {vs : List ValueId} {u w : Use}
  {heap : Bool} {kind : ValueKind}

/-- The instructions and the function they are of make the index. -/
theorem eq_of_users {l l' : List Use} (husers : l.map Use.user = l'.map Use.user)
    (h : ∀ u ∈ l, f.value? u.user = some u.value) (h' : ∀ u ∈ l', f.value? u.user = some u.value) :
    l = l' := by
  have hmap : ∀ l : List Use, (∀ u ∈ l, f.value? u.user = some u.value) →
      l.map some = (l.map Use.user).map (fun id => (f.value? id).map (Use.mk id)) := by
    intro l hl
    rw [List.map_map]
    refine List.map_congr_left (fun u hu => ?_)
    rw [Function.comp_apply, hl u hu]
    rfl
  refine List.map_injective_iff.mpr (fun _ _ => Option.some.inj) ?_
  rw [hmap l h, hmap l' h', husers]

namespace Lists

theorem mem_instructions (h : index.Lists f) (hu : u ∈ index.uses) : u.user ∈ f.instructions :=
  h.users ▸ List.mem_map_of_mem hu

theorem exists_use (h : index.Lists f) (hid : v ∈ f.instructions) :
    ∃ u ∈ index.uses, u.user = v :=
  List.mem_map.mp (h.users ▸ hid)

theorem values (h : index.Lists f) (hu : u ∈ index.uses) :
    f.kind? u.user = some u.value.kind :=
  Func.kind?_of_value? (h.entries u hu)

theorem exists_kind (h : index.Lists f) (hid : v ∈ f.instructions) :
    ∃ kind, f.kind? v = some kind := by
  obtain ⟨u, hu, rfl⟩ := h.exists_use hid
  exact ⟨u.value.kind, h.values hu⟩

theorem nodup (h : index.Lists f) (ht : f.Tidy) : index.uses.Nodup :=
  .of_map Use.user (h.users ▸ ht.nodup)

/-- Entries are made of their instructions, one by one. -/
theorem eq_filterMap_users {l : List Use} (h : index.Lists f) (hl : ∀ u ∈ l, u ∈ index.uses) :
    l = (l.map Use.user).filterMap (fun id => (f.value? id).map (Use.mk id)) := by
  rw [List.filterMap_map]
  refine Eq.trans (List.filterMap_some (l := l)).symm ?_
  refine List.filterMap_congr (fun u hu => ?_)
  rw [Function.comp_apply, h.entries u (hl u hu)]
  rfl

theorem uses_eq (h : index.Lists f) :
    index.uses = f.instructions.filterMap (fun id => (f.value? id).map (Use.mk id)) :=
  h.users ▸ h.eq_filterMap_users (fun _ => id)

/-- The entries of some instructions are made of these. -/
theorem filter_uses_eq (h : index.Lists f) (keep : ValueId → Bool) :
    index.uses.filter (fun u => keep u.user)
      = (f.instructions.filter keep).filterMap (fun id => (f.value? id).map (Use.mk id)) := by
  rw [← h.users, List.filter_map]
  exact h.eq_filterMap_users (fun _ => List.mem_of_mem_filter)

/-- Two listings of one instruction are the same. -/
theorem eq_of_user_eq (h : index.Lists f) (hu : u ∈ index.uses) (hw : w ∈ index.uses)
    (heq : u.user = w.user) : u = w := by
  have hvalue := heq ▸ h.entries u hu
  have hsame := Option.some.inj (hvalue.symm.trans (h.entries w hw))
  exact congrArg₂ Use.mk heq hsame

theorem kind_eq (h : index.Lists f) (hu : u ∈ index.uses) (hk : f.kind? u.user = some kind) :
    u.value.kind = kind :=
  Option.some.inj ((h.values hu).symm.trans hk)

theorem placed (h : index.Lists f) (ht : f.Tidy) (hu : u ∈ index.uses) :
    f.Placed u.user u.value.kind :=
  ht.placed_of_kind? (h.mem_instructions hu) (h.values hu)

end Lists

theorem reads_eq_true_iff : u.reads v = true ↔ v ∈ u.value.kind.operands := decide_eq_true_iff

theorem mem_next_iff : w ∈ index.next u ↔
    u.value.kind.producesValue = true ∧ w ∈ index.uses ∧ u.user ∈ w.value.kind.operands := by
  unfold next
  split
  · rename_i hkind
    rw [mem_readers, reads_eq_true_iff]
    exact ⟨fun hw => ⟨hkind, hw⟩, And.right⟩
  · rename_i hkind
    exact ⟨fun hw => absurd hw List.not_mem_nil, fun hw => absurd hw.1 hkind⟩

theorem nodup_readers (h : index.Lists f) (ht : f.Tidy) (v : ValueId) :
    (index.readers v).Nodup := by
  rw [readers_of_nodup (h.nodup ht)]
  exact (h.nodup ht).filter _

/-! ## What a walk from an array cannot reach -/

/-- What reads nothing is not reached. -/
theorem Reached.operands_ne_nil (h : index.Reached base u) : u.value.kind.operands ≠ [] := by
  intro hnil
  have hno : ∀ v, u.reads v = true → False := by
    intro v hv
    rw [reads_eq_true_iff, hnil] at hv
    exact List.not_mem_nil hv
  rcases h.exists_read with hread | ⟨w, -, hread⟩
  · exact hno _ hread
  · exact hno _ hread

/-- An array is not reached. -/
theorem Reached.user_ne_of_alloc (h : index.Reached base u) (hl : index.Lists f)
    (hv : f.kind? v = some (.alloc heap)) : u.user ≠ v := by
  intro heq
  refine h.operands_ne_nil ?_
  rw [hl.kind_eq h.mem_uses (heq ▸ hv)]
  rfl

/-- What belongs in no block is not reached. -/
theorem Reached.user_ne_of_operand (h : index.Reached base u) (hl : index.Lists f) (ht : f.Tidy)
    (hv : f.kind? v = some kind) (hkind : kind.isInstruction = false) : u.user ≠ v := by
  intro heq
  exact ht.not_mem_instructions hv hkind (heq ▸ hl.mem_instructions h.mem_uses)

/-- **Values made of operands alone are not reached**, and are no arrays. -/
theorem ne_of_aloof (hl : index.Lists f) (ht : f.Tidy) (hbase : f.kind? base = some (.alloc heap))
    (hv : f.Aloof v) : v ≠ base ∧ ∀ u, index.Reached base u → u.user ≠ v := by
  induction hv with
  | operand hk hkind =>
    refine ⟨?_, fun u hu => hu.user_ne_of_operand hl ht hk hkind⟩
    rintro rfl
    rw [Option.some.inj (hk.symm.trans hbase)] at hkind
    cases hkind
  | @through v kind hk hkind hops ih =>
    constructor
    · rintro rfl
      rw [Option.some.inj (hk.symm.trans hbase)] at hkind
      cases hkind
    · intro u hu heq
      have hsame := hl.kind_eq hu.mem_uses (heq ▸ hk)
      rcases hu.exists_read with hread | ⟨w, hw, hread⟩
      · rw [reads_eq_true_iff, hsame] at hread
        exact (ih base hread).1 rfl
      · rw [reads_eq_true_iff, hsame] at hread
        exact (ih w.user hread).2 w hw rfl

/-- **A walk from an array reaches the addresses into this array only.** -/
theorem Reached.base_eq (h : index.Reached base u) (hl : index.Lists f) (ht : f.Tidy)
    (hbase : f.kind? base = some (.alloc heap)) {b : ValueId}
    (hu : u.value.kind = .indexAddr b i) : b = base := by
  have hplaced := hl.placed ht h.mem_uses
  rw [hu] at hplaced
  obtain ⟨⟨heap', hb⟩, literal, hi⟩ := hplaced
  -- an address reads its array and a constant, and a walk reaches neither
  have hread : ∀ v, u.reads v = true → v = b ∨ v = i := by
    intro v hv
    rw [reads_eq_true_iff, hu] at hv
    simpa [ValueKind.operands] using hv
  rcases h.exists_read with hreads | ⟨w, hw, hreads⟩
  · rcases hread base hreads with heq | heq
    · exact heq.symm
    · rw [heq, hi] at hbase
      cases hbase
  · rcases hread w.user hreads with heq | heq
    · exact absurd heq (hw.user_ne_of_alloc hl hb)
    · exact absurd heq (hw.user_ne_of_operand hl ht hi rfl)

/-! ## What belongs to a pack -/

/-- **Whether the instruction belongs to the array at `base`**: it is an address into it,
or a store to one. -/
def belongs (f : Func) (base : ValueId) (u : Use) : Bool :=
  f.isSlotOf base u.user ||
    match u.value.kind with
    | .store address _ => f.isSlotOf base address
    | _ => false

theorem belongs_of_store {address : ValueId} (hl : index.Lists f) (hu : u ∈ index.uses)
    (hkind : u.value.kind = .store address v) : belongs f base u = f.isSlotOf base address := by
  have hno : f.isSlotOf base u.user = false := by
    unfold Func.isSlotOf
    rw [hl.values hu, hkind]
  unfold belongs
  rw [hno, hkind, Bool.false_or]

theorem belongs_of_not_store (hkind : ∀ address v, u.value.kind ≠ .store address v) :
    belongs f base u = f.isSlotOf base u.user := by
  unfold belongs
  split
  · rename_i address v hstore
    exact absurd hstore (hkind address v)
  · exact Bool.or_false _

theorem belongs_of_isSlotOf (h : f.isSlotOf base u.user = true) : belongs f base u = true := by
  unfold belongs
  rw [h]
  rfl

/-- What belongs to a pack is one of its slots or the store of one of its values. -/
theorem belongs_cases (hp : f.Packs base vs) (hl : index.Lists f) (ht : f.Tidy)
    (hu : u ∈ index.uses) (h : belongs f base u = true) :
    (∃ i, u.value.kind = .indexAddr base i) ∨
      ∃ slot v, u.value.kind = .store slot v ∧ slot.next = u.user ∧
        f.isSlotOf base slot = true ∧ v ∈ vs := by
  rcases Bool.or_eq_true_iff.mp h with h | h
  · obtain ⟨i, hi⟩ := Func.isSlotOf_eq_true_iff.mp h
    exact .inl ⟨i, hl.kind_eq hu hi⟩
  · refine .inr ?_
    split at h
    · rename_i slot v hkind
      have hplaced := hl.placed ht hu
      rw [hkind] at hplaced
      obtain ⟨hnext, hmem, -⟩ := hplaced
      obtain ⟨v', hv', hstore, -⟩ := exists_beside_left hp.slots (List.mem_filter.mpr ⟨hmem, h⟩)
      rw [hnext, hl.values hu, hkind] at hstore
      obtain ⟨-, rfl⟩ := ValueKind.store.inj (Option.some.inj hstore)
      exact ⟨slot, v, hkind, hnext, h, hv'⟩
    · cases h

/-- The slots of an array read it. -/
theorem mem_readers_of_isSlotOf (hl : index.Lists f) (hu : u ∈ index.uses)
    (hslot : f.isSlotOf base u.user = true) : u ∈ index.readers base := by
  obtain ⟨i, hi⟩ := Func.isSlotOf_eq_true_iff.mp hslot
  rw [mem_readers, reads_eq_true_iff, hl.kind_eq hu hi]
  exact ⟨hu, List.mem_cons_self⟩

section

variable (hp : f.Packs base vs) (hl : index.Lists f) (ht : f.Tidy) (haloof : ∀ v ∈ vs, f.Aloof v)
include hp hl ht haloof

/-- **What belongs to a pack and reads something reached** is a store to it. -/
theorem exists_store_of_mem_next (hu : index.Reached base u) (hw : w ∈ index.next u)
    (hown : belongs f base w = true) :
    ∃ v, w.value.kind = .store u.user v ∧ u.user.next = w.user ∧
      f.isSlotOf base u.user = true := by
  obtain ⟨heap, hbase⟩ := hp.place
  obtain ⟨-, hwuses, hread⟩ := mem_next_iff.mp hw
  rcases belongs_cases hp hl ht hwuses hown with ⟨i, hi⟩ | ⟨slot, v, hkind, hnext, hslot, hv⟩
  · -- a slot reads its array and a constant, and neither is reached
    have hplaced := hl.placed ht hwuses
    rw [hi] at hplaced hread
    obtain ⟨-, literal, hliteral⟩ := hplaced
    have hcases : u.user = base ∨ u.user = i := by simpa [ValueKind.operands] using hread
    rcases hcases with heq | heq
    · exact absurd heq (hu.user_ne_of_alloc hl hbase)
    · exact absurd heq (hu.user_ne_of_operand hl ht hliteral rfl)
  · rw [hkind] at hread
    have hcases : u.user = slot ∨ u.user = v := by simpa [ValueKind.operands] using hread
    rcases hcases with rfl | heq
    · exact ⟨v, hkind, hnext, hslot⟩
    · exact absurd heq ((ne_of_aloof hl ht hbase (haloof v hv)).2 u hu)

/-- The stores of a pack are read by nothing. -/
theorem next_eq_nil_of_mem_next (hu : index.Reached base u) (hw : w ∈ index.next u)
    (hown : belongs f base w = true) : index.next w = [] := by
  obtain ⟨v, hkind, -⟩ := exists_store_of_mem_next hp hl ht haloof hu hw hown
  unfold next
  rw [hkind]
  rfl

/-- What does not belong to a pack does not lead to it. -/
theorem filter_next_of_not_belongs (hu : index.Reached base u) (hown : belongs f base u = false) :
    (index.next u).filter (belongs f base) = [] := by
  refine List.filter_eq_nil_iff.mpr (fun w hw hwown => ?_)
  obtain ⟨v, -, -, hslot⟩ := exists_store_of_mem_next hp hl ht haloof hu hw hwown
  rw [belongs_of_isSlotOf hslot] at hown
  cases hown

/-- **From a slot the walk goes on to the store that follows it.** -/
theorem branch_of_slot (hu : u ∈ index.uses) (hslot : f.isSlotOf base u.user = true)
    (hstore : f.kind? u.user.next = some (.store u.user v))
    (hlisted : u.user.next ∈ f.instructions) :
    ∃ w, w.user = u.user.next ∧ w.value.kind = .store u.user v ∧
      index.branch (belongs f base) u = [u, w] := by
  obtain ⟨i, hi⟩ := Func.isSlotOf_eq_true_iff.mp hslot
  have hkind := hl.kind_eq hu hi
  have hreached := Reached.reader (mem_readers_of_isSlotOf hl hu hslot)
  obtain ⟨w, hw, hwuser⟩ := hl.exists_use hlisted
  have hwkind := hl.kind_eq hw (hwuser ▸ hstore)
  refine ⟨w, hwuser, hwkind, congrArg (u :: ·) ?_⟩
  have hnodup : ((index.next u).filter (belongs f base)).Nodup := by
    unfold next
    rw [hkind]
    exact (nodup_readers hl ht _).filter _
  refine List.perm_singleton.mp ((List.perm_ext_iff_of_nodup hnodup (List.nodup_singleton w)).mpr ?_)
  intro w'
  rw [List.mem_filter, List.mem_singleton]
  constructor
  · rintro ⟨hw', hown⟩
    obtain ⟨-, -, hnext, -⟩ := exists_store_of_mem_next hp hl ht haloof hreached hw' hown
    exact hl.eq_of_user_eq (mem_uses_of_mem_next hw') hw (hnext.symm.trans hwuser.symm)
  · rintro rfl
    constructor
    · rw [mem_next_iff, hkind, hwkind]
      exact ⟨rfl, hw, List.mem_cons_self⟩
    · unfold belongs
      rw [hwkind, Bool.or_eq_true]
      exact .inr hslot

/-- The slots of an array, as listed instructions. -/
theorem filter_readers :
    (index.readers base).filter (belongs f base)
      = index.uses.filter (fun u => f.isSlotOf base u.user) := by
  rw [readers_of_nodup (hl.nodup ht), List.filter_filter]
  refine List.filter_congr (fun u hu => ?_)
  rw [Bool.eq_iff_iff, Bool.and_eq_true]
  constructor
  · rintro ⟨hown, hread⟩
    obtain ⟨heap, hbase⟩ := hp.place
    rw [reads_eq_true_iff] at hread
    rcases belongs_cases hp hl ht hu hown with ⟨i, hi⟩ | ⟨slot, v, hkind, -, hslot, hv⟩
    · exact Func.isSlotOf_eq_true_iff.mpr ⟨i, (hl.values hu).trans (congrArg some hi)⟩
    · -- a store reads a slot and a packed value, and neither is the array
      rw [hkind] at hread
      have hcases : base = slot ∨ base = v := by simpa [ValueKind.operands] using hread
      rcases hcases with rfl | rfl
      · obtain ⟨i, hi⟩ := Func.isSlotOf_eq_true_iff.mp hslot
        rw [hbase] at hi
        cases hi
      · exact absurd rfl (ne_of_aloof hl ht hbase (haloof base hv)).1
  · intro hslot
    refine ⟨belongs_of_isSlotOf hslot, ?_⟩
    exact (mem_readers.mp (mem_readers_of_isSlotOf hl hu hslot)).2

/-- **The slots of a pack and what is stored in them**, in order. -/
theorem slots_beside_values : List.Forall₂ (fun u v => u ∈ index.uses ∧
      f.isSlotOf base u.user = true ∧ f.kind? u.user.next = some (.store u.user v) ∧
      ∃ w, w.user = u.user.next ∧ w.value.kind = .store u.user v ∧
        index.branch (belongs f base) u = [u, w])
    (index.uses.filter (fun u => f.isSlotOf base u.user)) vs := by
  have hmap : f.instructions.filter (f.isSlotOf base)
      = (index.uses.filter (fun u => f.isSlotOf base u.user)).map Use.user := by
    rw [← hl.users, List.filter_map]
    rfl
  have hpaired := hp.slots
  rw [hmap, List.forall₂_map_left_iff] at hpaired
  refine forall₂_imp_mem (fun u hu v _ hstore => ?_) hpaired
  obtain ⟨hmem, hslot⟩ := List.mem_filter.mp hu
  exact ⟨hmem, hslot, hstore.1, branch_of_slot hp hl ht haloof hmem hslot hstore.1 hstore.2⟩

/-- No slot and no store of a pack is visited twice. -/
theorem nodup_branches :
    ((index.branches (belongs f base) (index.readers base)).map Use.user).Nodup := by
  have hslots := slots_beside_values hp hl ht haloof
  have hbranch : ∀ u ∈ index.uses.filter (fun u => f.isSlotOf base u.user),
      (index.branch (belongs f base) u).map Use.user = [u.user, u.user.next] := by
    intro u hu
    obtain ⟨v, -, -, -, -, w, hw, -, hbranch⟩ := exists_beside_left hslots hu
    rw [hbranch, ← hw]
    rfl
  -- no store is a slot
  have hne : ∀ u ∈ index.uses.filter (fun u => f.isSlotOf base u.user),
      ∀ w ∈ index.uses.filter (fun u => f.isSlotOf base u.user), u.user ≠ w.user.next := by
    intro u hu w hw heq
    obtain ⟨v, -, -, -, hstore, -⟩ := exists_beside_left hslots hw
    obtain ⟨i, hi⟩ := Func.isSlotOf_eq_true_iff.mp (List.mem_filter.mp hu).2
    rw [heq, hstore] at hi
    cases hi
  unfold branches
  rw [filter_readers hp hl ht haloof, List.map_flatMap, List.flatMap_congr hbranch,
    List.nodup_flatMap]
  constructor
  · intro u hu
    rw [List.nodup_cons, List.mem_singleton]
    exact ⟨hne u hu u hu, List.nodup_singleton _⟩
  · refine ((hl.nodup ht).filter _).pairwise_of_forall_ne (fun u hu w hw hne' x hx hx' => ?_)
    have huser : u.user ≠ w.user := fun heq => hne' (hl.eq_of_user_eq
      (List.mem_of_mem_filter hu) (List.mem_of_mem_filter hw) heq)
    have hnext : u.user.next ≠ w.user.next := by
      intro heq
      have hindex := Nat.succ.inj (congrArg ValueId.index heq)
      exact huser (congrArg ValueId.mk hindex)
    simp only [List.mem_cons, List.not_mem_nil, or_false] at hx hx'
    rcases hx with rfl | rfl
    · rcases hx' with heq | heq
      · exact huser heq
      · exact hne u hu w hw heq
    · rcases hx' with heq | heq
      · exact hne w hw u hu heq.symm
      · exact hnext heq

/-- **What a walk from an array visits of its pack**: slot by slot, and after each slot
the store of its value. -/
theorem filter_visits_eq : (index.visits base).filter (belongs f base)
    = (index.uses.filter (fun u => f.isSlotOf base u.user)).flatMap
      (index.branch (belongs f base)) := by
  rw [filter_visits (fun u hu w hw heq => hl.eq_of_user_eq hu hw heq)
    (fun u hu hown => filter_next_of_not_belongs hp hl ht haloof hu hown) ?_
    (nodup_branches hp hl ht haloof)]
  · unfold branches
    rw [filter_readers hp hl ht haloof]
  · intro u hu _ w hw
    obtain ⟨hw, hown⟩ := List.mem_filter.mp hw
    rw [next_eq_nil_of_mem_next hp hl ht haloof hu hw hown]
    rfl

end

end UseIndex

namespace Scope

variable {index : UseIndex} {f : Func} {base : ValueId} {vs : List ValueId} {u : Use}
  {heap : Bool} {derived derived' stored : List ValueId} {l : List Use}
  {state state' : List ValueId × List ValueId} {P : ValueId → Prop}

theorem value_eq_ok_iff {s : Scope} {v : ValueId} {value : Value} :
    s.value v = .ok value ↔ s.function.value? v = some value := by
  unfold Scope.value
  cases s.function.value? v with
  | none => exact ⟨nofun, nofun⟩
  | some u => exact ⟨fun h => congrArg _ (Except.ok.inj h), fun h => congrArg _ (Option.some.inj h)⟩

theorem value_of_kind? {s : Scope} {v : ValueId} {kind : ValueKind}
    (h : s.function.kind? v = some kind) : ∃ value, s.value v = .ok value ∧ value.kind = kind := by
  obtain ⟨value, hvalue, hkind⟩ := Func.kind?_eq_some_iff.mp h
  exact ⟨value, value_eq_ok_iff.mpr hvalue, hkind⟩

theorem packStep_of_store {address v : ValueId} (h : u.value.kind = .store address v) :
    packStep (derived, stored) u
      = (derived, if address ∈ derived then stored ++ [v] else stored) := by
  unfold packStep
  rw [h]
  by_cases hmem : address ∈ derived
  · rw [if_pos hmem]
    exact if_pos hmem
  · rw [if_neg hmem]
    exact if_neg hmem

theorem packStep_of_not_store (h : ∀ address v, u.value.kind ≠ .store address v) :
    packStep (derived, stored) u
      = (if u.value.kind.producesValue then u.user :: derived else derived, stored) := by
  unfold packStep
  split
  · rename_i address v hkind
    exact absurd hkind (h address v)
  · split <;> rfl

/-- A visit derives nothing but the value of the instruction. -/
theorem mem_packStep {a : ValueId} (h : a ∈ (packStep state u).1) : a = u.user ∨ a ∈ state.1 := by
  by_cases hstore : ∃ address v, u.value.kind = .store address v
  · obtain ⟨address, v, hkind⟩ := hstore
    rw [packStep_of_store hkind] at h
    exact .inr h
  · rw [packStep_of_not_store (fun address v hkind => hstore ⟨address, v, hkind⟩)] at h
    split at h
    · exact List.mem_cons.mp h
    · exact .inr h

/-- **Two collections have come equally far**: they have collected the same, and derived the same
of the addresses that matter, those of which `P` holds. -/
structure SameSoFar (P : ValueId → Prop) (state state' : List ValueId × List ValueId) : Prop where
  /-- The same addresses that matter are derived. -/
  derived : ∀ a, P a → (a ∈ state.1 ↔ a ∈ state'.1)
  /-- The same values are collected. -/
  stored : state.2 = state'.2

namespace SameSoFar

/-- They still have after a visit that both make. -/
theorem step (h : SameSoFar P state state')
    (hstore : ∀ address v, u.value.kind = .store address v → P address) :
    SameSoFar P (packStep state u) (packStep state' u) := by
  by_cases hkind : ∃ address v, u.value.kind = .store address v
  · obtain ⟨address, v, hkind⟩ := hkind
    rw [packStep_of_store hkind, packStep_of_store hkind, h.stored,
      if_congr (h.derived address (hstore address v hkind)) rfl rfl]
    exact ⟨h.derived, rfl⟩
  · have hother := fun address v h => hkind ⟨address, v, h⟩
    rw [packStep_of_not_store hother, packStep_of_not_store hother]
    refine ⟨fun a ha => ?_, h.stored⟩
    split
    · rw [List.mem_cons, List.mem_cons, h.derived a ha]
    · exact h.derived a ha

/-- They still have after a visit that only one makes, if it takes nothing and derives no address
that matters. -/
theorem step_left (h : SameSoFar P state state')
    (hstore : ∀ address v, u.value.kind = .store address v → address ∉ state.1)
    (huser : u.value.kind.producesValue = true → ¬ P u.user) :
    SameSoFar P (packStep state u) state' := by
  by_cases hkind : ∃ address v, u.value.kind = .store address v
  · obtain ⟨address, v, hkind⟩ := hkind
    rw [packStep_of_store hkind, if_neg (hstore address v hkind)]
    exact h
  · rw [packStep_of_not_store (fun address v h => hkind ⟨address, v, h⟩)]
    refine ⟨fun a ha => ?_, h.stored⟩
    split
    · rename_i hproduces
      have hne : a ≠ u.user := by
        rintro rfl
        exact huser hproduces ha
      rw [List.mem_cons, or_iff_right hne, h.derived a ha]
    · exact h.derived a ha

/-- **Visits may be left out.** A store is kept if its address matters, and left out if its address
is never derived, for which `Q` stands. Nothing else is left out that derives an address that
matters. -/
theorem foldl_filter {keep : Use → Bool} {Q : ValueId → Prop} (h : SameSoFar P state state')
    (hkept : ∀ u ∈ l, ∀ address v, u.value.kind = .store address v → keep u = true → P address)
    (hleft : ∀ u ∈ l, ∀ address v, u.value.kind = .store address v → keep u = false → Q address)
    (huser : ∀ u ∈ l, u.value.kind.producesValue = true → keep u = false → ¬ P u.user)
    (hvisited : ∀ u ∈ l, ¬ Q u.user) (hderived : ∀ a ∈ state.1, ¬ Q a) :
    SameSoFar P (l.foldl packStep state) ((l.filter keep).foldl packStep state') := by
  induction l generalizing state state' with
  | nil => exact h
  | cons u l ih =>
    have hu := List.mem_cons_self (a := u) (l := l)
    have hnext : ∀ a ∈ (packStep state u).1, ¬ Q a := by
      intro a ha
      rcases mem_packStep ha with rfl | ha
      · exact hvisited u hu
      · exact hderived a ha
    have ih {state'} (h : SameSoFar P (packStep state u) state') := ih h
      (fun w hw => hkept w (List.mem_cons_of_mem u hw))
      (fun w hw => hleft w (List.mem_cons_of_mem u hw))
      (fun w hw => huser w (List.mem_cons_of_mem u hw))
      (fun w hw => hvisited w (List.mem_cons_of_mem u hw)) hnext
    rw [List.foldl_cons]
    cases hkeep : keep u with
    | true =>
      rw [List.filter_cons_of_pos hkeep, List.foldl_cons]
      exact ih (h.step (fun address v hkind => hkept u hu address v hkind hkeep))
    | false =>
      rw [List.filter_cons_of_neg (by rw [hkeep]; exact Bool.false_ne_true)]
      refine ih (h.step_left (fun address v hkind hmem => ?_) (fun hp => huser u hu hp hkeep))
      exact hderived address hmem (hleft u hu address v hkind hkeep)

/-- **Visits of calls that nothing reads may be left out.** -/
theorem foldl_filter_calls (unread : ValueId → Prop) [DecidablePred unread]
    (hcalls : ∀ u ∈ l, unread u.user → ∃ callee args, u.value.kind = .call callee args)
    (hunread : ∀ u ∈ l, ∀ v, unread v → u.reads v = false)
    (state : List ValueId × List ValueId) :
    SameSoFar (fun v => ¬ unread v) (l.foldl packStep state)
      ((l.filter (fun u => decide (¬ unread u.user))).foldl packStep state) := by
  refine foldl_filter (Q := fun _ => False) ⟨fun _ _ => Iff.rfl, rfl⟩
    (fun u hu address v hkind _ haddress => ?_) (fun u hu address v hkind hkeep => ?_)
    (fun _ _ _ hkeep => of_decide_eq_false hkeep) (fun _ _ => id) (fun _ _ => id)
  · have hmem : address ∈ u.value.kind.operands := hkind ▸ List.mem_cons_self
    have hread := hunread u hu address haddress
    rw [UseIndex.reads_eq_true_iff.mpr hmem] at hread
    cases hread
  · obtain ⟨callee, args, hcalled⟩ := hcalls u hu (not_not.mp (of_decide_eq_false hkeep))
    cases hkind.symm.trans hcalled

end SameSoFar

/-- Going through the slots of a pack collects what is stored in them. -/
theorem foldl_packStep_slots {slots : List Use} {own : Use → Bool}
    (h : List.Forall₂ (fun u v => (∃ i, u.value.kind = .indexAddr base i) ∧
      ∃ w, w.value.kind = .store u.user v ∧ index.branch own u = [u, w]) slots vs) :
    ((slots.flatMap (index.branch own)).foldl packStep (derived, stored)).2 = stored ++ vs := by
  induction h generalizing derived stored with
  | nil => exact (List.append_nil _).symm
  | @cons u v slots vs hu _ ih =>
    obtain ⟨⟨i, hi⟩, w, hw, hbranch⟩ := hu
    have hslot : packStep (derived, stored) u = (u.user :: derived, stored) := by
      rw [packStep_of_not_store (by rw [hi]; exact nofun), hi]
      rfl
    have hstore : packStep (u.user :: derived, stored) w = (u.user :: derived, stored ++ [v]) := by
      rw [packStep_of_store hw, if_pos List.mem_cons_self]
    rw [List.flatMap_cons, hbranch, List.foldl_append, List.foldl_cons, List.foldl_cons, hslot,
      hstore, List.foldl_nil, ih, List.append_assoc]
    rfl

/-- **What a walk from `base` derives**: the array itself, and values that it reaches. -/
def DerivedFrom (index : UseIndex) (base : ValueId) (derived : List ValueId) : Prop :=
  ∀ a ∈ derived, a = base ∨ ∃ u, index.Reached base u ∧ u.user = a

/-- An address into another array is not derived from this one. -/
theorem DerivedFrom.not_mem {address v : ValueId} (h : DerivedFrom index base derived)
    (hl : index.Lists f) (ht : f.Tidy) (hbase : f.kind? base = some (.alloc heap))
    (hu : u ∈ index.uses) (hkind : u.value.kind = .store address v)
    (hslot : f.isSlotOf base address = false) : address ∉ derived := by
  intro hmem
  have hplaced := hl.placed ht hu
  rw [hkind] at hplaced
  obtain ⟨-, -, b, i, haddress⟩ := hplaced
  rcases h address hmem with rfl | ⟨w, hw, rfl⟩
  · rw [hbase] at haddress
    cases haddress
  · have hb := hw.base_eq hl ht hbase (hl.kind_eq hw.mem_uses haddress)
    rw [Func.isSlotOf_eq_true_iff.mpr ⟨i, hb ▸ haddress⟩] at hslot
    cases hslot

/-- The same addresses into the array at `base` are in both lists. -/
def SameSlots (f : Func) (base : ValueId) (derived derived' : List ValueId) : Prop :=
  ∀ a, f.isSlotOf base a = true → (a ∈ derived ↔ a ∈ derived')

/-- **Only what belongs to a pack decides what is collected.** What else is visited may add
to the derived values, but no address into the array. -/
theorem foldl_packStep_filter (hl : index.Lists f) (ht : f.Tidy)
    (hbase : f.kind? base = some (.alloc heap)) (hreached : ∀ u ∈ l, index.Reached base u)
    (hderived : DerivedFrom index base derived) (hsame : SameSlots f base derived derived') :
    (l.foldl packStep (derived, stored)).2
      = ((l.filter (UseIndex.belongs f base)).foldl packStep (derived', stored)).2 := by
  have hbelongs : ∀ u ∈ l, ∀ address v, u.value.kind = .store address v →
      UseIndex.belongs f base u = f.isSlotOf base address :=
    fun u hu address v => UseIndex.belongs_of_store hl (hreached u hu).mem_uses
  have hfold : SameSoFar (fun a => f.isSlotOf base a = true) (l.foldl packStep (derived, stored))
      ((l.filter (UseIndex.belongs f base)).foldl packStep (derived', stored)) := by
    refine SameSoFar.foldl_filter (Q := fun a => ¬ DerivedFrom index base [a]) ⟨hsame, rfl⟩
      (fun u hu address v hkind hkeep => ?_) (fun u hu address v hkind hkeep h => ?_)
      (fun u hu hproduces hkeep => ?_) (fun u hu => not_not.mpr (fun a ha => ?_))
      (fun a ha => not_not.mpr (fun b hb => ?_))
    · -- a store is taken for the pack's own just if its address is one of the slots
      rwa [hbelongs u hu address v hkind] at hkeep
    · rw [hbelongs u hu address v hkind] at hkeep
      exact h.not_mem hl ht hbase (hreached u hu).mem_uses hkind hkeep List.mem_cons_self
    · have hother : ∀ address v, u.value.kind ≠ .store address v := by
        intro address v hkind
        rw [hkind] at hproduces
        cases hproduces
      rw [← UseIndex.belongs_of_not_store hother, hkeep]
      exact Bool.false_ne_true
    · exact .inr ⟨u, hreached u hu, (List.mem_singleton.mp ha).symm⟩
    · exact hderived b (List.mem_singleton.mp hb ▸ ha)
  exact hfold.stored

/-- **The values stored into a packed array are the packed ones**, in order. -/
theorem storedElements_of_packs {s : Scope} (hp : f.Packs base vs) (ht : f.Tidy)
    (haloof : ∀ v ∈ vs, f.Aloof v) (hf : s.function = f) (hl : s.index.Lists f) :
    s.storedElements base = .ok vs := by
  obtain ⟨heap, hbase⟩ := hp.place
  obtain ⟨value, hfound, hkind⟩ := value_of_kind? (s := s) (hf ▸ hbase)
  have hslots : List.Forall₂ (fun u v => (∃ i, u.value.kind = .indexAddr base i) ∧
      ∃ w, w.value.kind = .store u.user v ∧ s.index.branch (UseIndex.belongs f base) u = [u, w])
      (s.index.uses.filter (fun u => f.isSlotOf base u.user)) vs := by
    refine (UseIndex.slots_beside_values hp hl ht haloof).imp ?_
    rintro u v ⟨hu, hslot, -, w, -, hw, hbranch⟩
    obtain ⟨i, hi⟩ := Func.isSlotOf_eq_true_iff.mp hslot
    exact ⟨⟨i, hl.kind_eq hu hi⟩, w, hw, hbranch⟩
  have hfold : ((s.index.visits base).foldl packStep ([base], [])).2 = vs := by
    calc ((s.index.visits base).foldl packStep ([base], [])).2
        = (((s.index.visits base).filter (UseIndex.belongs f base)).foldl packStep
            ([base], [])).2 :=
          foldl_packStep_filter hl ht hbase (fun u hu => UseIndex.reached_of_mem_visits hu)
            (fun a ha => .inl (List.mem_singleton.mp ha)) (fun a _ => Iff.rfl)
      _ = [] ++ vs := by
          rw [UseIndex.filter_visits_eq hp hl ht haloof]
          exact foldl_packStep_slots hslots
  have halloc : (!value.kind.isAlloc) = false := by
    rw [hkind]
    rfl
  unfold storedElements
  rw [hfound, ok_bind, halloc]
  exact congrArg Except.ok hfold

end Scope

end Crosswalk

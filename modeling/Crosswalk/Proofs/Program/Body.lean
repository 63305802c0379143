import Crosswalk.Program.Basic
import Mathlib.Data.List.Nodup

/-!
# Bodies that are written from start to end

A body that is written one instruction after the other, at its end and nowhere
else, has its instructions in the order of their positions. If moreover it
stores only through the addresses of elements, each at once into the address
made just before, then who stores into what can be told from the positions
alone. Such a body is *tidy*.

A body grows while it is written. What it said of its values before, it says
ever after; what it lists later is listed at the end. What is new can be told
apart from what was there in one more way: an address made later is one into
an array made later.
-/

namespace Crosswalk

/-- The position after this one. -/
def ValueId.next (v : ValueId) : ValueId := ⟨v.index + 1⟩

/-- Values are told apart by their positions. -/
theorem ValueId.index_injective : Function.Injective ValueId.index :=
  fun ⟨_⟩ ⟨_⟩ h => congrArg ValueId.mk h

namespace Func

/-- What the value at `id` is. -/
def kind? (f : Func) (id : ValueId) : Option ValueKind := (f.value? id).map Value.kind

/-- The callee and the arguments, if the value at `id` is a call. -/
def call? (f : Func) (id : ValueId) : Option (ValueId × List ValueId) :=
  (f.kind? id).bind ValueKind.asCall

/-- Whether the value at `id` is the address of an element of `base`. -/
def isSlotOf (f : Func) (base id : ValueId) : Bool :=
  match f.kind? id with
  | some (.indexAddr b _) => b = base
  | _ => false

variable {f f' f'' : Func} {id base index : ValueId} {kind : ValueKind} {v : Value}
  {calls calls' : List (ValueId × List ValueId)} {n m : Nat}

theorem kind?_eq_some_iff : f.kind? id = some kind ↔ ∃ v, f.value? id = some v ∧ v.kind = kind :=
  Option.map_eq_some_iff

theorem kind?_of_value? (h : f.value? id = some v) : f.kind? id = some v.kind :=
  kind?_eq_some_iff.mpr ⟨v, h, rfl⟩

theorem index_lt_of_value? (h : f.value? id = some v) : id.index < f.values.size :=
  (Array.getElem?_eq_some_iff.mp h).1

theorem index_lt_of_kind? (h : f.kind? id = some kind) : id.index < f.values.size := by
  obtain ⟨v, hv, -⟩ := kind?_eq_some_iff.mp h
  exact index_lt_of_value? hv

theorem call?_eq_some_iff {callee : ValueId} {args : List ValueId} :
    f.call? id = some (callee, args) ↔ f.kind? id = some (.call callee args) := by
  unfold call?
  rw [Option.bind_eq_some_iff]
  refine ⟨fun ⟨kind, hkind, hcall⟩ => ?_, fun hkind => ⟨_, hkind, rfl⟩⟩
  cases kind with
  | call callee' args' =>
    obtain ⟨rfl, rfl⟩ := Prod.mk.inj (Option.some.inj hcall)
    exact hkind
  | _ => cases hcall

theorem isSlotOf_eq_true_iff :
    f.isSlotOf base id = true ↔ ∃ index, f.kind? id = some (.indexAddr base index) := by
  unfold isSlotOf
  constructor
  · intro h
    split at h
    · rename_i b index hkind
      obtain rfl := of_decide_eq_true h
      exact ⟨index, hkind⟩
    · cases h
  · rintro ⟨index, hkind⟩
    rw [hkind]
    exact decide_eq_true rfl

/-! ## Tidy bodies -/

/-- **What a listed instruction relies on**: the address of an element is one into
an array of the function, at a constant index, and a store writes to the address of
an element that is listed right before it. -/
def Placed (f : Func) (id : ValueId) : ValueKind → Prop
  | .indexAddr base index =>
    (∃ heap, f.kind? base = some (.alloc heap)) ∧ ∃ literal, f.kind? index = some (.const literal)
  | .store address _ =>
    address.next = id ∧ address ∈ f.instructions ∧
      ∃ base index, f.kind? address = some (.indexAddr base index)
  | kind => kind.isInstruction = true

theorem Placed.isInstruction (h : f.Placed id kind) : kind.isInstruction = true := by
  cases kind <;> first | exact h | rfl

/-- **A body written from start to end.** -/
structure Tidy (f : Func) : Prop where
  /-- The instructions are listed in the order of their positions. -/
  increasing : f.instructions.Pairwise (fun a b => a.index < b.index)
  /-- Every listed instruction exists and has what it relies on. -/
  placed : ∀ id ∈ f.instructions, ∃ kind, f.kind? id = some kind ∧ f.Placed id kind

namespace Tidy

theorem nodup (h : f.Tidy) : f.instructions.Nodup := by
  refine List.Pairwise.imp ?_ h.increasing
  intro a b hlt heq
  rw [heq] at hlt
  exact Nat.lt_irrefl _ hlt

theorem placed_of_kind? (h : f.Tidy) (hid : id ∈ f.instructions) (hk : f.kind? id = some kind) :
    f.Placed id kind := by
  obtain ⟨kind', hk', hplaced⟩ := h.placed id hid
  obtain rfl := Option.some.inj (hk.symm.trans hk')
  exact hplaced

theorem index_lt (h : f.Tidy) (hid : id ∈ f.instructions) : id.index < f.values.size := by
  obtain ⟨kind, hk, -⟩ := h.placed id hid
  exact index_lt_of_kind? hk

/-- What belongs in no block is not listed. -/
theorem not_mem_instructions (h : f.Tidy) (hk : f.kind? id = some kind)
    (hkind : kind.isInstruction = false) : id ∉ f.instructions := by
  intro hid
  rw [(h.placed_of_kind? hid hk).isInstruction] at hkind
  cases hkind

end Tidy

/-! ## Growing bodies -/

/-- **The second body is the first one, gone on with.** What it adds makes the calls
`calls` and addresses no array at a position before `n`. -/
structure GrowsTo (n : Nat) (f f' : Func) (calls : List (ValueId × List ValueId)) : Prop where
  /-- All but the blocks and the values stays. -/
  header : f' = { f with blocks := f'.blocks, values := f'.values }
  /-- The values stay. -/
  values : ∀ id v, f.value? id = some v → f'.value? id = some v
  /-- What is listed besides. -/
  added : ∃ ids, f'.instructions = f.instructions ++ ids ∧ ids.filterMap f'.call? = calls ∧
    ∀ id ∈ ids, ∀ base index, f'.kind? id = some (.indexAddr base index) → n ≤ base.index

namespace GrowsTo

theorem refl (n : Nat) (f : Func) : f.GrowsTo n f [] :=
  ⟨rfl, fun _ _ h => h, [], (List.append_nil _).symm, rfl, nofun⟩

theorem kind? (h : f.GrowsTo n f' calls) (hk : f.kind? id = some kind) :
    f'.kind? id = some kind := by
  obtain ⟨v, hv, rfl⟩ := kind?_eq_some_iff.mp hk
  exact kind?_of_value? (h.values id v hv)

theorem size_le (h : f.GrowsTo n f' calls) : f.values.size ≤ f'.values.size := by
  by_contra hlt
  have hv := h.values ⟨f'.values.size⟩ _ (Array.getElem?_eq_getElem (Nat.lt_of_not_le hlt))
  exact absurd (index_lt_of_value? hv) (Nat.lt_irrefl _)

theorem subset (h : f.GrowsTo n f' calls) : f.instructions ⊆ f'.instructions := by
  obtain ⟨ids, hids, -⟩ := h.added
  rw [hids]
  exact List.subset_append_left _ _

theorem weaken (h : f.GrowsTo n f' calls) (hle : m ≤ n) : f.GrowsTo m f' calls := by
  obtain ⟨ids, hids, hcalls, hbase⟩ := h.added
  exact ⟨h.header, h.values, ids, hids, hcalls,
    fun id hid base index hk => Nat.le_trans hle (hbase id hid base index hk)⟩

/-- What exists is in a grown body what it was. -/
theorem kind?_eq (h : f.GrowsTo n f' calls) (hk : f.kind? id = some kind) :
    f'.kind? id = f.kind? id :=
  (h.kind? hk).trans hk.symm

theorem trans (h : f.GrowsTo n f' calls) (h' : f'.GrowsTo n f'' calls') (ht : f'.Tidy) :
    f.GrowsTo n f'' (calls ++ calls') := by
  obtain ⟨ids, hids, hcalls, hbase⟩ := h.added
  obtain ⟨ids', hids', hcalls', hbase'⟩ := h'.added
  have hsame : ∀ id ∈ ids, f''.kind? id = f'.kind? id := by
    intro id hid
    obtain ⟨kind, hk, -⟩ := ht.placed id (hids ▸ List.mem_append_right _ hid)
    exact h'.kind?_eq hk
  refine ⟨?_, fun id v hv => h'.values id v (h.values id v hv), ids ++ ids', ?_, ?_, ?_⟩
  · rw [h'.header, h.header]
  · rw [hids', hids, List.append_assoc]
  · rw [List.filterMap_append, hcalls', ← hcalls]
    refine congrArg (· ++ calls') (List.filterMap_congr (fun id hid => ?_))
    unfold call?
    rw [hsame id hid]
  · intro id hid base index hk
    rcases List.mem_append.mp hid with hid | hid
    · exact hbase id hid base index (hsame id hid ▸ hk)
    · exact hbase' id hid base index hk

end GrowsTo

/-- What a listed instruction relies on stays. -/
theorem Placed.grow (hplaced : f.Placed id kind) (h : f.GrowsTo n f' calls) :
    f'.Placed id kind := by
  cases kind with
  | indexAddr base index =>
    obtain ⟨⟨heap, hheap⟩, literal, hliteral⟩ := hplaced
    exact ⟨⟨heap, h.kind? hheap⟩, literal, h.kind? hliteral⟩
  | store address value =>
    obtain ⟨hnext, hmem, base, index, hslot⟩ := hplaced
    exact ⟨hnext, h.subset hmem, base, index, h.kind? hslot⟩
  | _ => exact hplaced

end Func

/-- A reference to a function of the program names it as a callee. -/
theorem Program.staticCallee_of_functionRef {p : Program} {f g : Func} {id : FunctionId}
    {ref : ValueId} (hg : p.function? id = some g) (href : f.kind? ref = some (.functionRef id)) :
    p.staticCallee f ref = some id := by
  unfold staticCallee
  rw [show (f.value? ref).map Value.kind = _ from href]
  show (if (p.function? id).isSome then some id else none) = some id
  rw [hg]
  rfl

/-- What a callee names is a function of the program. -/
theorem Program.exists_of_staticCallee {p : Program} {f : Func} {callee : ValueId} {id : FunctionId}
    (h : p.staticCallee f callee = some id) : ∃ g, p.function? id = some g := by
  unfold staticCallee at h
  split at h
  · split at h
    · rename_i hsome
      exact Option.isSome_iff_exists.mp (Option.some.inj h ▸ hsome)
    · cases h
  · cases h

end Crosswalk

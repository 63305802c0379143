import Crosswalk.Proofs.Program.Json
import Crosswalk.Proofs.Program.Upkeep

/-!
# Positions of 32 bits

What is added to a table is at the position that is the length of the table before. Here that
is a number of any size. Where positions are stored in 32 bits the length is cut to that width,
and the two agree on a program none of whose tables is longer than 32 bits can count
(`Program.Narrow`): whatever there is in such a program is at a position of 32 bits.

Nothing is ever taken out of a table. So a program that is narrow once it is finished has been
narrow from the start (`Program.Extends.narrow`), and no position that was handed out on the
way was cut.
-/

namespace Crosswalk

/-- **A function whose tables 32 bits can count.** -/
structure Func.Narrow (f : Func) : Prop where
  /-- Its values. -/
  values : f.values.size ≤ Width.count32
  /-- Its blocks. -/
  blocks : f.blocks.size ≤ Width.count32

/-- **A program whose tables 32 bits can count.** -/
structure Program.Narrow (p : Program) : Prop where
  /-- Its types. -/
  types : p.types.size ≤ Width.count32
  /-- Its functions. -/
  functions : p.functions.size ≤ Width.count32
  /-- What is in each of them. -/
  bodies : ∀ f ∈ p.functions.toList, f.Narrow

instance (f : Func) : Decidable f.Narrow :=
  decidable_of_iff (f.values.size ≤ Width.count32 ∧ f.blocks.size ≤ Width.count32)
    ⟨fun h => ⟨h.1, h.2⟩, fun h => ⟨h.values, h.blocks⟩⟩

instance (p : Program) : Decidable p.Narrow :=
  decidable_of_iff (p.types.size ≤ Width.count32 ∧ p.functions.size ≤ Width.count32 ∧
      ∀ f ∈ p.functions.toList, f.Narrow)
    ⟨fun h => ⟨h.1, h.2.1, h.2.2⟩, fun h => ⟨h.types, h.functions, h.bodies⟩⟩

variable {p p' : Program} {f f' : Func} {t : TypeId} {id : FunctionId} {v : ValueId} {b : BlockId}

theorem Program.mem_functions_iff :
    f ∈ p.functions.toList ↔ ∃ id, p.function? id = some f := by
  rw [Array.mem_toList_iff, Array.mem_iff_getElem?]
  exact ⟨fun ⟨i, hf⟩ => ⟨⟨i⟩, hf⟩, fun ⟨id, hf⟩ => ⟨id.index, hf⟩⟩

theorem Program.isSome_function?_iff :
    (p.function? id).isSome ↔ id.index < p.functions.size := by
  unfold function?
  rw [isSome_getElem?]

/-! ## What was narrow -/

theorem TypeTable.GrowsTo.size_le {t t' : TypeTable} (h : t.GrowsTo t') : t.size ≤ t'.size := by
  refine le_of_forall_lt (fun i hi => ?_)
  have hid : t.Has ⟨i⟩ := has_iff_lt.mpr hi
  exact has_iff_lt.mp (h.has hid)

theorem Func.Extends.narrow (h : f.Extends f') (hf : f'.Narrow) : f.Narrow := by
  refine ⟨le_trans (le_of_forall_lt (fun i hi => ?_)) hf.values, h.blocks.trans hf.blocks⟩
  exact Func.index_lt_of_value? (h.values ⟨i⟩ _ (Array.getElem?_eq_getElem hi))

/-- **What a narrow program was made from was narrow.** -/
theorem Program.Extends.narrow (h : p.Extends p') (hp : p'.Narrow) : p.Narrow := by
  refine ⟨h.types.size_le.trans hp.types, le_trans (le_of_forall_lt (fun i hi => ?_)) hp.functions,
    fun f hf => ?_⟩
  · have hid : (p.function? ⟨i⟩).isSome := isSome_function?_iff.mpr hi
    exact isSome_function?_iff.mp (h.isSome_function? hid)
  · obtain ⟨id, hf⟩ := mem_functions_iff.mp hf
    obtain ⟨f', hf', hext⟩ := h.functions id f hf
    exact hext.narrow (hp.bodies f' (mem_functions_iff.mpr ⟨id, hf'⟩))

/-! ## What is in a narrow program -/

namespace Program.Narrow

theorem fits_type (h : p.Narrow) (ht : p.types.Has t) : t.Fits :=
  (TypeTable.has_iff_lt.mp ht).trans_le h.types

theorem fits_function (h : p.Narrow) (hf : (p.function? id).isSome) : id.Fits :=
  (isSome_function?_iff.mp hf).trans_le h.functions

theorem fits_value (h : p.Narrow) (hv : (p.kind? id v).isSome) : v.Fits := by
  obtain ⟨kind, hk⟩ := Option.isSome_iff_exists.mp hv
  obtain ⟨f, w, hf, hw, -⟩ := kind?_eq_some_iff.mp hk
  have hnarrow := h.bodies f (mem_functions_iff.mpr ⟨id, hf⟩)
  exact (Func.index_lt_of_value? hw).trans_le hnarrow.values

theorem fits_block (h : p.Narrow) (hb : (p.block? id b).isSome) : b.Fits := by
  obtain ⟨f, hf, hlt⟩ := isSome_block?_iff.mp hb
  exact hlt.trans_le (h.bodies f (mem_functions_iff.mpr ⟨id, hf⟩)).blocks

end Program.Narrow

end Crosswalk

import Crosswalk.Plan.Analysis
import Crosswalk.Proofs.InStep
import Crosswalk.Proofs.Program.Bystander
import Crosswalk.Proofs.Program.Sound
import Crosswalk.Proofs.Program.Unpacking

/-!
# Listing instructions in another order

A function whose blocks list the same instructions in another order is still the function it
was in most respects: it is declared alike, its values are the same ones at the same positions,
and it makes as many calls. A program stays sound when its functions are changed in this way
(`Program.Relists.sound`).

What may change are the walks along the readers of a value, as they follow the order of the
listing. They do not, except that they come by the instructions that were moved at other times,
if nothing reads those (`UseIndex.Moves.filter_visits`).
-/

namespace Crosswalk

/-! ## Walks past instructions that nothing reads -/

namespace UseIndex

variable {index index' : UseIndex} {moved : List ValueId}

/-- **Of what instructions that nothing reads are left out, the walks are the same**, except that
they do not come by these. -/
theorem filter_visits_of_unread (index : UseIndex) (root : ValueId)
    (hunread : ∀ u ∈ index.uses, ∀ v ∈ moved, u.reads v = false) :
    (index.visits root).filter (fun u => decide (u.user ∉ moved))
      = (ofUses (index.uses.filter (fun u => decide (u.user ∉ moved)))).visits root := by
  induction moved generalizing index with
  | nil => simp
  | cons call moved ih =>
    have hsplit : ∀ l : List Use, l.filter (fun u => decide (u.user ∉ call :: moved))
        = (others call l).filter (fun u => decide (u.user ∉ moved)) := by
      intro l
      unfold others
      rw [List.filter_filter]
      refine List.filter_congr (fun u _ => ?_)
      rw [← Bool.decide_and]
      refine decide_eq_decide.mpr ?_
      rw [List.mem_cons, not_or, and_comm]
    have hjoins : Joins call (ofUses (others call index.uses)) index :=
      ⟨rfl, fun u hu => hunread u hu call List.mem_cons_self⟩
    rw [hsplit, hsplit, hjoins.filter_visits root]
    exact ih (ofUses (others call index.uses)) (fun u hu v hv =>
      hunread u (List.mem_of_mem_filter hu) v (List.mem_cons_of_mem call hv))

/-- **Instructions are moved about**: the others are listed as they were, and nothing reads those
that are moved. -/
structure Moves (moved : List ValueId) (index index' : UseIndex) : Prop where
  /-- The same instructions are listed. -/
  uses : index'.uses.Perm index.uses
  /-- The others are listed in the same order. -/
  others : index'.uses.filter (fun u => decide (u.user ∉ moved))
    = index.uses.filter (fun u => decide (u.user ∉ moved))
  /-- Nothing reads what is moved. -/
  unread : ∀ u ∈ index.uses, ∀ v ∈ moved, u.reads v = false

namespace Moves

theorem refl (index : UseIndex) : Moves [] index index :=
  ⟨.refl _, rfl, fun _ _ _ hv => absurd hv List.not_mem_nil⟩

variable (h : Moves moved index index')
include h

theorem mem_uses_iff {u : Use} : u ∈ index'.uses ↔ u ∈ index.uses := h.uses.mem_iff

/-- **The walks are the same**, except that they come by what is moved at other times. -/
theorem filter_visits (root : ValueId) :
    (index'.visits root).filter (fun u => decide (u.user ∉ moved))
      = (index.visits root).filter (fun u => decide (u.user ∉ moved)) := by
  rw [filter_visits_of_unread index root h.unread, filter_visits_of_unread index' root
    (fun u hu => h.unread u (h.mem_uses_iff.mp hu)), h.others]

/-- The first reader of a value that a question has an answer for is the same, if it has none for
what is moved. -/
theorem findSome?_readers {β : Type} {g : Use → Option β}
    (hg : ∀ u ∈ index.uses, u.user ∈ moved → g u = none) (v : ValueId) :
    (index'.readers v).findSome? g = (index.readers v).findSome? g := by
  have hothers : ∀ l : List Use, (∀ u ∈ l, u ∈ index.uses) →
      (l.filter (fun u => decide (u.user ∉ moved))).findSome? g = l.findSome? g :=
    fun l hl => findSome?_filter_of_none (fun u hu hno => hg u (hl u hu) (by simpa using hno))
  have hreading : ∀ u ∈ index'.uses.filter (fun u => u.reads v), u ∈ index.uses :=
    fun u hu => h.mem_uses_iff.mp (List.mem_of_mem_filter hu)
  rw [readers_eq, readers_eq, findSome?_collapseRuns, findSome?_collapseRuns, ← hothers _ hreading,
    ← hothers _ (fun u hu => List.mem_of_mem_filter hu), List.filter_comm, h.others,
    List.filter_comm]

end Moves

end UseIndex

/-! ## Functions -/

/-- **The functions list the same instructions**, wherever among their blocks. Everything else is
the same. -/
structure Func.Relists (f f' : Func) : Prop where
  /-- Everything but the blocks is the same. -/
  header : f' = { f with blocks := f'.blocks }
  /-- There are as many blocks, and they claim the same positions. -/
  blockIds : f'.blocks.map Block.id = f.blocks.map Block.id
  /-- The blocks list the same instructions. -/
  instructions : f'.instructions.Perm f.instructions

namespace Func

variable {p p' : Program} {f f' : Func}

theorem Relists.refl (f : Func) : f.Relists f := ⟨rfl, rfl, .refl _⟩

/-- The calls of a function whose instructions exist. -/
theorem calls_eq (h : ∀ id ∈ f.instructions, ∃ w, f.value? id = some w) :
    f.calls = .ok (f.instructions.filterMap f.call?) := by
  have hvalues : f.instructions.mapM f.value = .ok (f.instructions.filterMap f.value?) :=
    mapM_eq_ok_iff.mpr ((forall₂_filterMap h).imp (fun _ _ => Func.value_eq_ok_iff.mpr))
  unfold calls
  rw [hvalues]
  show Except.ok _ = _
  rw [List.filterMap_filterMap]
  refine congrArg Except.ok (List.filterMap_congr (fun id _ => ?_))
  unfold call? kind?
  cases f.value? id <;> rfl

namespace Relists

variable (h : f.Relists f')
include h

theorem value?_eq : f'.value? = f.value? := by
  rw [h.header]
  rfl

theorem call?_eq : f'.call? = f.call? := by
  rw [h.header]
  rfl

/-- The blocks claim the same positions. -/
theorem map_id_getElem? (i : Nat) : f'.blocks[i]?.map Block.id = f.blocks[i]?.map Block.id := by
  rw [← Array.getElem?_map, h.blockIds, Array.getElem?_map]

theorem hasBody : f'.hasBody = f.hasBody := by
  have hsize : f'.blocks.size = f.blocks.size := by
    rw [← Array.size_map (f := Block.id), h.blockIds, Array.size_map]
  unfold Func.hasBody Array.isEmpty
  rw [hsize]

theorem isMethod : f'.isMethod = f.isMethod := by
  rw [h.header]
  rfl

theorem qualifiedName (t : TypeTable) : f'.qualifiedName t = f.qualifiedName t := by
  rw [h.header]
  rfl

/-- The functions make the same calls. -/
theorem calls : (f'.instructions.filterMap f'.call?).Perm (f.instructions.filterMap f.call?) := by
  rw [h.call?_eq]
  exact h.instructions.filterMap _

end Relists

end Func

/-! ## Programs -/

/-- **The programs differ in the order in which functions list their instructions**, if at all. -/
structure Program.Relists (p p' : Program) : Prop where
  /-- The package. -/
  package : p'.package = p.package
  /-- The types. -/
  types : p'.types = p.types
  /-- The functions. -/
  functions : ∀ id, Option.Rel Func.Relists (p.function? id) (p'.function? id)

namespace Program.Relists

variable {p p' : Program} {f f' : Func} {v : Value}

variable (h : p.Relists p')
include h

theorem isSome_function? (id : FunctionId) :
    (p'.function? id).isSome = (p.function? id).isSome :=
  (isSome_eq_of_optionRel (h.functions id)).symm

/-- What a call names does not change. -/
theorem staticCallee_eq (hf : f.Relists f') (callee : ValueId) :
    p'.staticCallee f' callee = p.staticCallee f callee := by
  unfold Program.staticCallee
  simp only [hf.value?_eq, h.isSome_function?]

/-- Messages call functions what they called them. -/
theorem describe_eq (id : FunctionId) : p'.describe id = p.describe id := by
  unfold Program.describe
  cases hf : p.function? id with
  | none => rw [(eq_none_iff_of_optionRel (h.functions id)).mp hf]
  | some f =>
    obtain ⟨f', hf', hrelists⟩ := exists_right_of_optionRel (h.functions id) hf
    rw [hf', h.types]
    dsimp only
    rw [hrelists.qualifiedName]

theorem isCandidate_eq (hf : f.Relists f') : p'.isCandidate f' = p.isCandidate f := by
  unfold Program.isCandidate
  rw [hf.hasBody, h.package, hf.header]

theorem value_sound (hf : f.Relists f') (hv : v.Sound p f) : v.Sound p' f' where
  type := h.types ▸ hv.type
  operands := hf.value?_eq ▸ hv.operands
  target g hg := (h.isSome_function? g).trans (hv.target g hg)
  branches b hb := by
    rw [← Option.isSome_map (f := Block.id), hf.map_id_getElem?, Option.isSome_map]
    exact hv.branches b hb

theorem function_sound (hf : f.Relists f') (hs : f.Sound p) : f'.Sound p' where
  paramTypes := by
    rw [hf.header, h.types]
    exact hs.paramTypes
  resultTypes := by
    rw [hf.header, h.types]
    exact hs.resultTypes
  arity hbody := by
    have harity := hs.arity (hf.hasBody ▸ hbody)
    rw [hf.header]
    exact harity
  params := by
    rw [hf.value?_eq, hf.header]
    exact hs.params
  values id v hv := h.value_sound hf (hs.values id v (hf.value?_eq ▸ hv))
  blockIds i b hb := by
    have hid := hf.map_id_getElem? i
    rw [hb] at hid
    obtain ⟨c, hc, heq⟩ := Option.map_eq_some_iff.mp hid.symm
    rw [← heq]
    exact hs.blockIds i c hc
  listed id hid := hf.value?_eq ▸ hs.listed id (hf.instructions.mem_iff.mp hid)

/-- **The second program is sound if the first is.** -/
theorem sound (hp : p.Sound) : p'.Sound where
  types := h.types ▸ hp.types
  functionIds id f' hf' := by
    obtain ⟨f, hf, hrelists⟩ := exists_left_of_optionRel (h.functions id) hf'
    rw [hrelists.header]
    exact hp.functionIds id f hf
  functions id f' hf' := by
    obtain ⟨f, hf, hrelists⟩ := exists_left_of_optionRel (h.functions id) hf'
    exact h.function_sound hrelists (hp.functions id f hf)

end Program.Relists

end Crosswalk

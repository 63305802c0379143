import Crosswalk.Proofs.Program.Building
import Crosswalk.Proofs.Program.Sound
import Crosswalk.Proofs.Types.Safe

/-!
# Operations that keep a program sound

Whatever the builder does, it adds: a type, a function, a value, a block. Nothing that a
program has said of itself is taken back (`Program.Extends`), so what was sound before is
sound after, and only what was added has to be looked at.

An operation *keeps up* a program when it succeeds on it, leaves a sound program behind, and
takes nothing back (`Build.Upkeep`). Its answer is described along with it, because the next
operation relies on it. What is relied on is never more than that something exists: a type, a
function, a block, a value of some kind.
-/

namespace Crosswalk

/-! ## Programs that are added to -/

/-- **A function that is added to**: nothing it has said of itself is taken back. -/
structure Func.Extends (f f' : Func) : Prop where
  /-- It stays where it is. -/
  id : f'.id = f.id
  /-- It takes and gives what it did. -/
  signature : f'.signature = f.signature
  /-- Its values stay. -/
  values : ∀ v w, f.value? v = some w → f'.value? v = some w
  /-- So do its blocks. -/
  blocks : f.blocks.size ≤ f'.blocks.size

/-- **A program that is added to.** -/
structure Program.Extends (p p' : Program) : Prop where
  /-- Its types stay. -/
  types : p.types.GrowsTo p'.types
  /-- So do its functions, each added to in turn. -/
  functions : ∀ id f, p.function? id = some f → ∃ f', p'.function? id = some f' ∧ f.Extends f'

section

variable {p p' p'' : Program} {f f' f'' : Func} {id : FunctionId} {v : ValueId} {b : BlockId}
  {kind : ValueKind} {value : Value} {types : TypeTable} {block : Block}

theorem Func.Extends.refl (f : Func) : f.Extends f := ⟨rfl, rfl, fun _ _ h => h, le_rfl⟩

theorem Func.Extends.trans (h : f.Extends f') (h' : f'.Extends f'') : f.Extends f'' :=
  ⟨h'.id.trans h.id, h'.signature.trans h.signature,
    fun v w hw => h'.values v w (h.values v w hw), h.blocks.trans h'.blocks⟩

theorem Program.Extends.refl (p : Program) : p.Extends p :=
  ⟨.refl _, fun _ f hf => ⟨f, hf, .refl f⟩⟩

theorem Program.Extends.trans (h : p.Extends p') (h' : p'.Extends p'') : p.Extends p'' := by
  refine ⟨h.types.trans h'.types, fun id f hf => ?_⟩
  obtain ⟨f', hf', hext⟩ := h.functions id f hf
  obtain ⟨f'', hf'', hext'⟩ := h'.functions id f' hf'
  exact ⟨f'', hf'', hext.trans hext'⟩

/-- What one function gains does not touch the others. -/
theorem Program.extends_replace (hf : p.function? id = some f) (h : f.Extends f') :
    p.Extends (p.replace id f') := by
  refine ⟨.refl _, fun id' g hg => ?_⟩
  by_cases heq : id' = id
  · subst heq
    obtain rfl := Option.some.inj (hf.symm.trans hg)
    exact ⟨f', function?_replace hf, h⟩
  · exact ⟨g, (function?_replace_of_ne heq).trans hg, .refl g⟩

theorem Program.replace_replace : (p.replace id f).replace id f' = p.replace id f' := by
  simp [replace]

theorem Program.extends_types (hgrow : p.types.GrowsTo types) : p.Extends { p with types } :=
  ⟨hgrow, fun _ f hf => ⟨f, hf, .refl f⟩⟩

/-! ## What there is in a program -/

/-- The block at a position of a function, if there is one. -/
def Program.block? (p : Program) (id : FunctionId) (b : BlockId) : Option Block :=
  (p.function? id).bind (fun f => f.blocks[b.index]?)

/-- What the value at a position of a function is, if there is one. -/
def Program.kind? (p : Program) (id : FunctionId) (v : ValueId) : Option ValueKind :=
  (p.function? id).bind (fun f => f.kind? v)

/-- A value of the function is there to be read. -/
def Program.Gives (p : Program) (id : FunctionId) (v : ValueId) : Prop :=
  ∃ kind, p.kind? id v = some kind ∧ kind.producesValue = true

/-- **What a value of this kind mentions is there.** -/
structure Program.Provides (p : Program) (id : FunctionId) (kind : ValueKind) : Prop where
  /-- The values it reads. -/
  operands : ∀ o ∈ kind.operands, p.Gives id o
  /-- The function it refers to. -/
  target : ∀ g ∈ kind.target, (p.function? g).isSome
  /-- The blocks it may go on in. -/
  branches : ∀ b ∈ kind.branches, (p.block? id b).isSome

theorem Program.kind?_of_function? (hf : p.function? id = some f) : p.kind? id v = f.kind? v := by
  simp [kind?, hf]

theorem Program.isSome_block?_iff :
    (p.block? id b).isSome ↔ ∃ f, p.function? id = some f ∧ b.index < f.blocks.size := by
  cases hf : p.function? id <;> simp [block?, hf]

theorem Program.kind?_eq_some_iff :
    p.kind? id v = some kind ↔
      ∃ f w, p.function? id = some f ∧ f.value? v = some w ∧ w.kind = kind := by
  simp [kind?, Option.bind_eq_some_iff, Func.kind?_eq_some_iff]

namespace Program.Extends

theorem isSome_function? (h : p.Extends p') (hf : (p.function? id).isSome) :
    (p'.function? id).isSome := by
  obtain ⟨f, hf⟩ := Option.isSome_iff_exists.mp hf
  obtain ⟨f', hf', -⟩ := h.functions id f hf
  exact Option.isSome_iff_exists.mpr ⟨f', hf'⟩

theorem isSome_block? (h : p.Extends p') (hb : (p.block? id b).isSome) :
    (p'.block? id b).isSome := by
  obtain ⟨f, hf, hlt⟩ := isSome_block?_iff.mp hb
  obtain ⟨f', hf', hext⟩ := h.functions id f hf
  exact isSome_block?_iff.mpr ⟨f', hf', hlt.trans_le hext.blocks⟩

theorem kind? (h : p.Extends p') (hv : p.kind? id v = some kind) : p'.kind? id v = some kind := by
  obtain ⟨f, w, hf, hw, rfl⟩ := kind?_eq_some_iff.mp hv
  obtain ⟨f', hf', hext⟩ := h.functions id f hf
  exact kind?_eq_some_iff.mpr ⟨f', w, hf', hext.values v w hw, rfl⟩

theorem gives (h : p.Extends p') (hv : p.Gives id v) : p'.Gives id v := by
  obtain ⟨kind, hk, hproduces⟩ := hv
  exact ⟨kind, h.kind? hk, hproduces⟩

theorem provides (h : p.Extends p') (hk : p.Provides id kind) : p'.Provides id kind :=
  ⟨fun o ho => h.gives (hk.operands o ho), fun g hg => h.isSome_function? (hk.target g hg),
    fun b hb => h.isSome_block? (hk.branches b hb)⟩

end Program.Extends

/-! ## Soundness is kept -/

/-- **A sound program under construction**: a function without a body is as it was
declared. -/
structure Program.Built (p : Program) : Prop where
  /-- What is there is sound. -/
  sound : p.Sound
  /-- Nothing has been put into a function that was never opened. -/
  declared : ∀ id f, p.function? id = some f → f.hasBody = false → Build.Declared f

theorem Value.Sound.extend (h : value.Sound p f) (hp : p.Extends p') (hf : f.Extends f') :
    value.Sound p' f' := by
  refine ⟨fun t ht => hp.types.has (h.type t ht), fun o ho => ?_,
    fun g hg => hp.isSome_function? (h.target g hg), fun b hb => ?_⟩
  · obtain ⟨w, hw, hproduces⟩ := h.operands o ho
    exact ⟨w, hf.values o w hw, hproduces⟩
  · have hlt := h.branches b hb
    simp only [isSome_getElem?] at hlt ⊢
    exact hlt.trans_le hf.blocks

theorem Func.Sound.extend (h : f.Sound p) (hp : p.Extends p') : f.Sound p' :=
  ⟨fun q hq => hp.types.has (h.paramTypes q hq), fun r hr => hp.types.has (h.resultTypes r hr),
    h.arity, h.params, fun v w hw => (h.values v w hw).extend hp (.refl f), h.blockIds, h.listed⟩

theorem Program.Built.of_types (h : p.Built) (hgrow : p.types.GrowsTo types)
    (hclosed : types.Closed) : ({ p with types } : Program).Built := by
  refine ⟨⟨hclosed, h.sound.functionIds, fun id f hf => ?_⟩, h.declared⟩
  exact (h.sound.functions id f hf).extend (extends_types hgrow)

/-- **A program stays sound when a function of it is added to**, if that stays sound. -/
theorem Program.Built.replace (h : p.Built) (hf : p.function? id = some f) (hext : f.Extends f')
    (hf' : f'.Sound p) (hbody : f'.hasBody = true ∨ Build.Declared f') :
    (p.replace id f').Built := by
  have hp := extends_replace hf hext
  have hcases : ∀ id' g, (p.replace id f').function? id' = some g →
      (id' = id ∧ g = f') ∨ p.function? id' = some g := by
    intro id' g hg
    by_cases heq : id' = id
    · subst heq
      exact .inl ⟨rfl, Option.some.inj (hg.symm.trans (function?_replace hf))⟩
    · exact .inr ((function?_replace_of_ne heq).symm.trans hg)
  refine ⟨⟨h.sound.types, fun id' g hg => ?_, fun id' g hg => ?_⟩, fun id' g hg hnone => ?_⟩
  · rcases hcases id' g hg with ⟨rfl, rfl⟩ | hg
    · exact hext.id.trans (h.sound.functionIds _ f hf)
    · exact h.sound.functionIds id' g hg
  · rcases hcases id' g hg with ⟨rfl, rfl⟩ | hg
    · exact hf'.extend hp
    · exact (h.sound.functions id' g hg).extend hp
  · rcases hcases id' g hg with ⟨rfl, rfl⟩ | hg
    · rcases hbody with hbody | hdeclared
      · simp [hbody] at hnone
      · exact hdeclared
    · exact h.declared id' g hg hnone

end

/-! ## Bodies that grow stay sound -/

section

open Build

variable {p : Program} {f : Func} {v id : ValueId} {b : BlockId} {block : Block} {value : Value}

theorem Func.mem_instructions_iff :
    id ∈ f.instructions ↔ ∃ (i : Nat) (b : Block), f.blocks[i]? = some b ∧ id ∈ b.instructions := by
  unfold instructions
  simp only [List.mem_flatMap, Array.mem_toList_iff, Array.mem_iff_getElem?]
  exact ⟨fun ⟨b, ⟨i, hb⟩, hid⟩ => ⟨i, b, hb, hid⟩, fun ⟨i, b, hb, hid⟩ => ⟨b, ⟨i, hb⟩, hid⟩⟩

theorem Func.hasBody_of_block {i : Nat} (hb : f.blocks[i]? = some block) : f.hasBody = true := by
  obtain ⟨hlt, -⟩ := Array.getElem?_eq_some_iff.mp hb
  have hne : f.blocks ≠ #[] := Array.ne_empty_of_size_pos (Nat.zero_lt_of_lt hlt)
  simpa [hasBody] using hne

theorem Func.extends_pushed (f : Func) (value : Value) : f.Extends (pushed f value) :=
  ⟨rfl, rfl, fun _ _ hw => value?_pushed_of_value? hw, le_rfl⟩

/-- **A value more** that mentions only what exists. -/
theorem Func.Sound.pushed (h : f.Sound p) (hv : value.Sound p f) : (pushed f value).Sound p := by
  have hext := f.extends_pushed value
  refine ⟨h.paramTypes, h.resultTypes, h.arity, fun q hq => ?_, fun v w hw => ?_, h.blockIds,
    fun id hid => ?_⟩
  · obtain ⟨w, hw, hparam⟩ := h.params q hq
    exact ⟨w, hext.values q w hw, hparam⟩
  · have hw : (f.values.push value)[v.index]? = some w := hw
    rw [Array.getElem?_push] at hw
    split at hw
    · obtain rfl := Option.some.inj hw
      exact hv.extend (.refl p) hext
    · exact (h.values v w hw).extend (.refl p) hext
  · obtain ⟨w, hw, hlisted⟩ := h.listed id hid
    exact ⟨w, hext.values id w hw, hlisted⟩

/-- **A function with other blocks**, each at the position it claims, and none of them missing. -/
theorem Func.Sound.withBlocks {blocks : Array Block} (h : f.Sound p) (hbody : f.hasBody = true)
    (hsize : f.blocks.size ≤ blocks.size)
    (hids : ∀ (i : Nat) (b : Block), blocks[i]? = some b → b.id.index = i)
    (hlisted : ∀ (i : Nat) (b : Block), blocks[i]? = some b → ∀ id ∈ b.instructions,
      ∃ w, f.value? id = some w ∧ w.kind.isInstruction = true) :
    ({ f with blocks } : Func).Sound p := by
  refine ⟨h.paramTypes, h.resultTypes, fun _ => h.arity hbody, h.params, fun v w hw => ?_, hids,
    fun id hid => ?_⟩
  · exact (h.values v w hw).extend (.refl p) ⟨rfl, rfl, fun _ _ h => h, hsize⟩
  · obtain ⟨i, b, hb, hid⟩ := mem_instructions_iff.mp hid
    exact hlisted i b hb id hid

theorem Func.extends_emitted (f : Func) (b : BlockId) (block : Block) (value : Value) :
    f.Extends (emitted f b block value) :=
  ⟨rfl, rfl, fun _ _ hw => value?_pushed_of_value? hw, by simp [emitted]⟩

/-- **An instruction more**, at the end of a block of the function. -/
theorem Func.Sound.emitted (h : f.Sound p) (hb : f.blocks[b.index]? = some block)
    (hv : value.Sound p f) (hkind : value.kind.isInstruction = true) :
    (emitted f b block value).Sound p := by
  have hpushed := h.pushed hv
  have hlisted : ∀ (i : Nat) (d : Block), f.blocks[i]? = some d → ∀ id ∈ d.instructions,
      ∃ w, (Build.pushed f value).value? id = some w ∧ w.kind.isInstruction = true :=
    fun i d hd id hid => hpushed.listed id (mem_instructions_iff.mpr ⟨i, d, hd, hid⟩)
  refine hpushed.withBlocks (hasBody_of_block hb) (by simp [Build.pushed]) (fun i d hd => ?_)
    (fun i d hd id hid => ?_)
  · rw [Array.getElem?_setIfInBounds] at hd
    split at hd
    · rename_i hi
      split at hd
      · obtain rfl := Option.some.inj hd
        exact (h.blockIds b.index block hb).trans hi
      · cases hd
    · exact h.blockIds i d hd
  · rw [Array.getElem?_setIfInBounds] at hd
    split at hd
    · split at hd
      · obtain rfl := Option.some.inj hd
        rcases List.mem_append.mp hid with hid | hid
        · exact hlisted b.index block hb id hid
        · obtain rfl := List.mem_singleton.mp hid
          exact ⟨value, value?_pushed_self f value, hkind⟩
      · cases hd
    · exact hlisted i d hd id hid

/-- **A block more.** -/
theorem Func.Sound.extended (h : f.Sound p) (hbody : f.hasBody = true) :
    (extended f).Sound p := by
  refine h.withBlocks hbody (by simp) (fun i d hd => ?_) (fun i d hd id hid => ?_)
  · rw [Array.getElem?_push] at hd
    split at hd
    · rename_i hi
      obtain rfl := Option.some.inj hd
      exact hi.symm
    · exact h.blockIds i d hd
  · rw [Array.getElem?_push] at hd
    split at hd
    · obtain rfl := Option.some.inj hd
      cases hid
    · exact h.listed id (mem_instructions_iff.mpr ⟨i, d, hd, hid⟩)

/-- **The values of an opened function** are its parameters. -/
theorem Build.Declared.value?_openFunc (h : Declared f) :
    (openFunc f).value? v = (f.signature.allParams[v.index]?).map
      (fun q => ⟨.parameter v.index, some q.type, some q.name⟩) := by
  rw [openFunc_eq h]
  show (List.toArray _)[v.index]? = _
  rw [List.getElem?_toArray, List.getElem?_map, List.getElem?_zipIdx]
  cases f.signature.allParams[v.index]? <;> simp

theorem Build.Declared.extends_openFunc (h : Declared f) : f.Extends (openFunc f) := by
  refine ⟨rfl, rfl, fun v w hw => ?_, by simp [h.blocks]⟩
  simp [Func.value?, h.values] at hw

/-- **Opening** a function that is as it was declared. -/
theorem Func.Sound.openFunc (h : f.Sound p) (hf : Declared f) : (openFunc f).Sound p := by
  refine ⟨h.paramTypes, h.resultTypes, fun _ => ?_, fun id hid => ?_, fun v w hw => ?_,
    fun i d hd => ?_, fun id hid => ?_⟩
  · simp [Build.openFunc, hf.params]
  · rw [openFunc_eq hf] at hid
    obtain ⟨⟨q, i⟩, hq, rfl⟩ := List.mem_map.mp hid
    have hq : f.signature.allParams[i]? = some q := List.mem_zipIdx_iff_getElem?.mp hq
    exact ⟨_, by rw [hf.value?_openFunc, hq]; rfl, rfl⟩
  · rw [hf.value?_openFunc] at hw
    obtain ⟨q, hq, rfl⟩ := Option.map_eq_some_iff.mp hw
    refine ⟨fun t ht => ?_, nofun, nofun, nofun⟩
    exact Option.some.inj ht ▸ h.paramTypes q (List.mem_of_getElem? hq)
  · obtain ⟨rfl, rfl⟩ : i = 0 ∧ d = .empty ⟨0⟩ := by
      cases i with
      | zero => exact ⟨rfl, (Option.some.inj hd).symm⟩
      | succ i => cases hd
    rfl
  · rw [instructions_openFunc hf] at hid
    cases hid

end

namespace Build

variable {α β : Type} {x : Build α} {p p' : Program} {Q : α → Program → Prop}
  {R : β → Program → Prop} {g : α → Build β}

/-- **An operation that keeps up a program**: it succeeds, leaves a sound program behind, and
takes nothing back. What it answers is as in `Q`. -/
def Upkeep (x : Build α) (p : Program) (Q : α → Program → Prop) : Prop :=
  Runs x p (fun a p' => p'.Built ∧ p.Extends p' ∧ Q a p')

namespace Upkeep

theorem pure {a : α} (hp : p.Built) (h : Q a p) : Upkeep (pure a) p Q :=
  Runs.pure ⟨hp, .refl p, h⟩

theorem bind (h : Upkeep x p Q)
    (hg : ∀ a p', p'.Built → p.Extends p' → Q a p' → Upkeep (g a) p' R) : Upkeep (x >>= g) p R := by
  refine Runs.bind h (fun a p' ⟨hp', hext, hQ⟩ => ?_)
  exact (hg a p' hp' hext hQ).mono (fun b p'' ⟨hp'', hext', hR⟩ => ⟨hp'', hext.trans hext', hR⟩)

theorem mono {Q' : α → Program → Prop} (h : Upkeep x p Q) (hQ : ∀ a p', Q a p' → Q' a p') :
    Upkeep x p Q' :=
  Runs.mono h (fun a p' ⟨hp', hext, ha⟩ => ⟨hp', hext, hQ a p' ha⟩)

/-- An operation that only looks something up. -/
theorem of_eq {a : α} (hp : p.Built) (hx : x p = .ok (a, p)) (h : Q a p) : Upkeep x p Q :=
  ⟨a, p, hx, hp, .refl p, h⟩

/-- A safe question about types is one of these. -/
theorem ask {question : TypeTable → Lookup α} {P : α → Prop} (hp : p.Built)
    (h : (question p.types).Safe False P) :
    Upkeep (ask question) p (fun a p' => p' = p ∧ P a) := by
  obtain ⟨a, ha, hP⟩ := h.exists_ok
  exact of_eq hp (ask_eq ha) ⟨rfl, hP⟩

end Upkeep

section

variable {c : Cursor} {id target : FunctionId} {kind : ValueKind} {f f' : Func} {tk : TypeKind}
  {type : Option TypeId} {name : Option String}

/-! ## Types and functions -/

theorem upkeep_intern (hp : p.Built) (h : ∀ part ∈ tk.parts, p.types.Has part) :
    Upkeep (intern tk) p (fun id p' => p'.types.Has id) := by
  have hgrow := p.types.growsTo_intern tk
  exact ⟨_, _, rfl, hp.of_types hgrow (hp.sound.types.intern h), Program.extends_types hgrow,
    TypeTable.has_of_kind? (p.types.kind?_intern tk)⟩

/-- **Declaring a function** whose signature mentions types that exist. -/
theorem upkeep_declareIn {package declared : String} {s : Signature} (hp : p.Built)
    (hparams : ∀ q ∈ s.allParams, p.types.Has q.type) (hresults : ∀ r ∈ s.results, p.types.Has r) :
    Upkeep (declareIn package declared s) p (fun _ _ => True) := by
  let added : Func := .external ⟨p.functions.size⟩ declared package s
  let p' : Program := { p with functions := p.functions.push added }
  have hlookup : ∀ id g, p'.function? id = some g →
      (id = ⟨p.functions.size⟩ ∧ g = added) ∨ p.function? id = some g := by
    intro id g hg
    have hg : (p.functions.push added)[id.index]? = some g := hg
    rw [Array.getElem?_push] at hg
    split at hg
    · rename_i hindex
      exact .inl ⟨congrArg FunctionId.mk hindex, (Option.some.inj hg).symm⟩
    · exact .inr hg
  have hext : p.Extends p' := by
    refine ⟨.refl _, fun id g hg => ⟨g, ?_, .refl g⟩⟩
    have hlt := (Array.getElem?_eq_some_iff.mp hg).1
    exact (Array.getElem?_push_lt hlt).trans (Array.getElem?_eq_getElem hlt ▸ hg)
  have hadded : added.Sound p' :=
    ⟨hparams, hresults, nofun, nofun, nofun, nofun, nofun⟩
  refine ⟨_, p', rfl, ⟨⟨hp.sound.types, fun id g hg => ?_, fun id g hg => ?_⟩,
    fun id g hg hnone => ?_⟩, hext, trivial⟩
  · rcases hlookup id g hg with ⟨rfl, rfl⟩ | hg
    · rfl
    · exact hp.sound.functionIds id g hg
  · rcases hlookup id g hg with ⟨-, rfl⟩ | hg
    · exact hadded
    · exact (hp.sound.functions id g hg).extend hext
  · rcases hlookup id g hg with ⟨-, rfl⟩ | hg
    · exact ⟨rfl, rfl, rfl⟩
    · exact hp.declared id g hg hnone

/-- Another function in the place of the one at `id`, which it adds to. -/
theorem upkeep_setFunction (hp : p.Built) (hf : p.function? id = some f) (hext : f.Extends f')
    (hf' : f'.Sound p) (hbody : f'.hasBody = true ∨ Declared f') :
    Upkeep (setFunction id f') p (fun _ p' => p'.function? id = some f') :=
  ⟨(), _, setFunction_eq hf, hp.replace hf hext hf' hbody, Program.extends_replace hf hext,
    Program.function?_replace hf⟩

/-- What is noted about a function leaves the rest of it alone. -/
theorem upkeep_annotate (hp : p.Built) (hf : p.function? id = some f)
    (file synthetic : Option String) :
    Upkeep (setFunction id { f with file, synthetic }) p (fun _ _ => True) := by
  have hsound := hp.sound.functions id f hf
  have hextends : f.Extends { f with file, synthetic } := ⟨rfl, rfl, fun _ _ h => h, le_rfl⟩
  have hnoted : ({ f with file, synthetic } : Func).Sound p :=
    ⟨hsound.paramTypes, hsound.resultTypes, hsound.arity, hsound.params,
      fun v w hw => (hsound.values v w hw).extend (.refl p) hextends, hsound.blockIds, hsound.listed⟩
  refine (upkeep_setFunction hp hf hextends hnoted ?_).mono (fun _ _ _ => trivial)
  cases hbody : f.hasBody with
  | true => exact .inl hbody
  | false =>
    have hdeclared := hp.declared id f hf hbody
    exact .inr ⟨hdeclared.blocks, hdeclared.values, hdeclared.params⟩

/-- **The type of a reference to a function.** -/
theorem upkeep_functionType (hp : p.Built) (hid : (p.function? id).isSome) :
    Upkeep (functionType id) p (fun type p' => p'.types.Has type) := by
  obtain ⟨f, hf⟩ := Option.isSome_iff_exists.mp hid
  have hsound := hp.sound.functions id f hf
  refine Runs.next (function_eq hf) (upkeep_intern hp (fun part hpart => ?_))
  rcases List.mem_append.mp hpart with hpart | hpart
  · obtain ⟨q, hq, rfl⟩ := List.mem_map.mp hpart
    exact hsound.paramTypes q hq
  · exact hsound.resultTypes part hpart

/-- **Opening a body**, for the first time or again. -/
theorem upkeep_body (hp : p.Built) (hid : (p.function? id).isSome) :
    Upkeep (body id) p (fun c p' => c = ⟨id, ⟨0⟩⟩ ∧ (p'.block? id ⟨0⟩).isSome) := by
  obtain ⟨f, hf⟩ := Option.isSome_iff_exists.mp hid
  cases hbody : f.hasBody with
  | true =>
    have hsize : 0 < f.blocks.size := by
      simpa [Func.hasBody, Array.size_pos_iff] using hbody
    refine .of_eq (a := ⟨id, ⟨0⟩⟩) hp ?_ ⟨rfl, Program.isSome_block?_iff.mpr ⟨f, hf, hsize⟩⟩
    show (function id p >>= fun r => (do
      unless r.1.hasBody do setFunction id (openFunc r.1)
      return (⟨id, ⟨0⟩⟩ : Cursor) : Build Cursor) r.2) = _
    rw [function_eq hf, ok_bind, hbody]
    rfl
  | false =>
    have hdeclared := hp.declared id f hf hbody
    have hsound := (hp.sound.functions id f hf).openFunc hdeclared
    refine ⟨_, _, body_eq hf hdeclared, hp.replace hf hdeclared.extends_openFunc hsound (.inl rfl),
      Program.extends_replace hf hdeclared.extends_openFunc, rfl, ?_⟩
    exact Program.isSome_block?_iff.mpr
      ⟨_, Program.function?_replace hf, by simp [openFunc]⟩

/-! ## Values, instructions and blocks -/

/-- Where something may be written. -/
abbrev Open (c : Cursor) (p : Program) : Prop := (p.block? c.function c.block).isSome

/-- What is at an open cursor. -/
theorem Open.exists_block (h : Open c p) :
    ∃ f b, p.function? c.function = some f ∧ f.blocks[c.block.index]? = some b := by
  obtain ⟨f, hf, hlt⟩ := Program.isSome_block?_iff.mp h
  exact ⟨f, _, hf, Array.getElem?_eq_getElem hlt⟩

/-- What is provided for is sound. -/
theorem sound_of_provides (hf : p.function? id = some f) (h : p.Provides id kind)
    (htype : ∀ t ∈ type, p.types.Has t) : (⟨kind, type, name⟩ : Value).Sound p f := by
  refine ⟨htype, fun o ho => ?_, h.target, fun b hb => ?_⟩
  · obtain ⟨k, hk, hproduces⟩ := h.operands o ho
    obtain ⟨g, w, hg, hw, rfl⟩ := Program.kind?_eq_some_iff.mp hk
    obtain rfl := Option.some.inj (hf.symm.trans hg)
    exact ⟨w, hw, hproduces⟩
  · obtain ⟨g, hg, hlt⟩ := Program.isSome_block?_iff.mp (h.branches b hb)
    obtain rfl := Option.some.inj (hf.symm.trans hg)
    simpa using hlt

/-- **A value more.** -/
theorem upkeep_push (hp : p.Built) (hc : Open c p) (h : p.Provides c.function kind)
    (htype : ∀ t ∈ type, p.types.Has t) :
    Upkeep (push c ⟨kind, type, name⟩) p (fun id p' => p'.kind? c.function id = some kind) := by
  obtain ⟨f, b, hf, hb⟩ := hc.exists_block
  have hext := f.extends_pushed ⟨kind, type, name⟩
  have hvalue : (⟨kind, type, name⟩ : Value).Sound p f := sound_of_provides hf h htype
  have hsound := (hp.sound.functions _ f hf).pushed hvalue
  have hbody : (pushed f ⟨kind, type, name⟩).hasBody = true := Func.hasBody_of_block hb
  refine ⟨_, _, push_eq hf, hp.replace hf hext hsound (.inl hbody),
    Program.extends_replace hf hext, ?_⟩
  refine (Program.kind?_of_function? (Program.function?_replace hf)).trans ?_
  exact Func.kind?_of_value? (value?_pushed_self f _)

/-- **An instruction more**, at the end of the block of the cursor. -/
theorem upkeep_emit (hp : p.Built) (hc : Open c p) (hkind : kind.isInstruction = true)
    (h : p.Provides c.function kind) (htype : ∀ t ∈ type, p.types.Has t) :
    Upkeep (emit c kind type name) p (fun id p' => p'.kind? c.function id = some kind) := by
  obtain ⟨f, b, hf, hb⟩ := hc.exists_block
  let value : Value := ⟨kind, type, name⟩
  have hext := f.extends_emitted c.block b value
  have hvalue : value.Sound p f := sound_of_provides hf h htype
  have hsound := (hp.sound.functions _ f hf).emitted hb hvalue hkind
  have hbody : (emitted f c.block b value).hasBody = true := by
    have hsize := (Array.getElem?_eq_some_iff.mp hb).1
    simpa [Func.hasBody, emitted, Array.size_pos_iff] using Nat.zero_lt_of_lt hsize
  have hpushed : (p.replace c.function (pushed f value)).function? c.function
      = some (pushed f value) := Program.function?_replace hf
  have hentry : entryAt (pushed f value).blocks c.block.index = .ok b := entryAt_eq_ok_iff.mpr hb
  -- the value is added first, and listed then
  refine Runs.next (push_eq hf) (.next (function_eq hpushed) ?_)
  refine .next (liftM_eq hentry) (.next (setFunction_eq hpushed) (.pure ?_))
  rw [Program.replace_replace]
  refine ⟨hp.replace hf hext hsound (.inl hbody), Program.extends_replace hf hext, ?_⟩
  refine (Program.kind?_of_function? (Program.function?_replace hf)).trans ?_
  exact Func.kind?_of_value? (value?_pushed_self f value)

/-- **A block more.** -/
theorem upkeep_newBlock (hp : p.Built) (hc : Open c p) :
    Upkeep (newBlock c) p (fun b p' => (p'.block? c.function b).isSome) := by
  obtain ⟨f, b, hf, hb⟩ := hc.exists_block
  have hbody := Func.hasBody_of_block hb
  have hext : f.Extends (extended f) := ⟨rfl, rfl, fun _ _ h => h, by simp [extended]⟩
  have hsound := (hp.sound.functions _ f hf).extended hbody
  have hbody' : (extended f).hasBody = true := by simp [Func.hasBody, extended]
  refine Runs.next (function_eq hf) (.next (setFunction_eq hf) (.pure ?_))
  refine ⟨hp.replace hf hext hsound (.inl hbody'), Program.extends_replace hf hext, ?_⟩
  exact Program.isSome_block?_iff.mpr
    ⟨_, Program.function?_replace hf, by simp⟩

/-- **The value bound to a parameter** of an open body. -/
theorem upkeep_param {i : Nat} (hp : p.Built) (hc : Open c p) (hf : p.function? c.function = some f)
    (hi : i < f.signature.allParams.length) :
    Upkeep (param c i) p (fun id p' => (p'.kind? c.function id).isSome) := by
  obtain ⟨g, b, hg, hb⟩ := hc.exists_block
  obtain rfl := Option.some.inj (hf.symm.trans hg)
  have hsound := hp.sound.functions _ f hf
  rw [← hsound.arity (Func.hasBody_of_block hb)] at hi
  obtain ⟨w, hw, -⟩ := hsound.params _ (List.getElem_mem hi)
  refine .of_eq (a := f.params[i]) hp ?_ ?_
  · show (function c.function p >>= fun r => (liftM (entryAt r.1.params.toArray i) : Build ValueId)
      r.2) = _
    rw [function_eq hf, ok_bind]
    exact liftM_eq (entryAt_eq_ok_iff.mpr (by simp [hi]))
  · rw [Program.kind?_of_function? hf, Func.kind?_of_value? hw]
    rfl

end

end Build

end Crosswalk

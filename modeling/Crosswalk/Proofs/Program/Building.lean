import Crosswalk.Program.Builder
import Crosswalk.Proofs.Lists
import Crosswalk.Proofs.Program.Body
import Crosswalk.Proofs.Types.Chain

/-!
# Building succeeds, and what it leaves behind

Every operation of the builder is described by what it needs and what it leaves
behind. All of them need the cursor to stand at the end of a tidy body, and leave
it there, with a body that has grown (`Build.Stands`, `Build.Writes`). An operation
that adds an instruction needs, in addition, what that instruction relies on.

The type of a value is worked out from the types of what it reads. Those exist
where the builder made them itself, so what is carried along of a type is what
the next operation asks about it.
-/

namespace Crosswalk

/-- The program with another function at `id`. -/
def Program.replace (p : Program) (id : FunctionId) (f : Func) : Program :=
  { p with functions := p.functions.setIfInBounds id.index f }

section

variable {p : Program} {id id' : FunctionId} {f g : Func}

theorem Program.function?_replace (h : p.function? id = some f) :
    (p.replace id g).function? id = some g := by
  obtain ⟨hlt, -⟩ := Array.getElem?_eq_some_iff.mp h
  exact Array.getElem?_setIfInBounds_self_of_lt hlt

theorem Program.function?_replace_of_ne (h : id' ≠ id) :
    (p.replace id g).function? id' = p.function? id' := by
  refine Array.getElem?_setIfInBounds_ne (fun heq => h ?_)
  rcases id' with ⟨i⟩
  exact congrArg FunctionId.mk heq.symm

end

namespace Build

variable {α β : Type} {x : Build α} {g : α → Build β} {p p' p'' : Program}
  {Q : α → Program → Prop} {R : β → Program → Prop} {a : α}

/-! ## Operations one after another -/

/-- **An operation succeeds**, and what it answers and leaves behind are as `Q` says. -/
def Runs (x : Build α) (p : Program) (Q : α → Program → Prop) : Prop :=
  ∃ a p', x p = .ok (a, p') ∧ Q a p'

theorem Runs.pure (h : Q a p) : Runs (pure a) p Q := ⟨a, p, rfl, h⟩

/-- An operation whose answer is known comes first. -/
theorem Runs.next (hx : x p = .ok (a, p')) (hg : Runs (g a) p' R) : Runs (x >>= g) p R := by
  obtain ⟨b, p'', hy, hR⟩ := hg
  refine ⟨b, p'', ?_, hR⟩
  show (x p >>= fun r => g r.1 r.2) = .ok (b, p'')
  rw [hx]
  exact hy

theorem Runs.bind (h : Runs x p Q) (hg : ∀ a p', Q a p' → Runs (g a) p' R) :
    Runs (x >>= g) p R := by
  obtain ⟨a, p', hx, hQ⟩ := h
  exact .next hx (hg a p' hQ)

theorem Runs.mono {Q' : α → Program → Prop} (h : Runs x p Q) (hQ : ∀ a p', Q a p' → Q' a p') :
    Runs x p Q' := by
  obtain ⟨a, p', hx, ha⟩ := h
  exact ⟨a, p', hx, hQ a p' ha⟩

/-- What an operation does to one program may be known from another operation. -/
theorem Runs.congr {y : Build α} (hxy : x p = y p) (hy : Runs y p Q) : Runs x p Q := by
  unfold Runs at hy ⊢
  rw [hxy]
  exact hy

theorem liftM_eq {y : Lookup α} (hy : y = .ok a) : (liftM y : Build α) p = .ok (a, p) := by
  show (y >>= fun b => Except.ok (b, p)) = .ok (a, p)
  rw [hy]
  rfl

theorem ask_eq {question : TypeTable → Lookup α} (hq : question p.types = .ok a) :
    ask question p = .ok (a, p) := by
  show (question p.types >>= fun b => Except.ok (b, p)) = .ok (a, p)
  rw [hq]
  rfl

/-- Interning leaves the type behind, and may add it to the others. -/
theorem runs_intern (kind : TypeKind) : Runs (intern kind) p (fun id p' =>
    ∃ types, p' = { p with types } ∧ p.types.GrowsTo types ∧ types.kind? id = some kind) :=
  ⟨_, _, rfl, _, rfl, p.types.growsTo_intern kind, p.types.kind?_intern kind⟩

/-! ## Bodies under construction -/

/-- **The cursor stands at the end of a tidy body.** -/
structure Stands (c : Cursor) (p : Program) (f : Func) : Prop where
  /-- The function of the cursor. -/
  function : p.function? c.function = some f
  /-- The block of the cursor. -/
  block : c.block.index < f.blocks.size
  /-- Nothing is listed after the block of the cursor. -/
  rest : ∀ i b, c.block.index < i → f.blocks[i]? = some b → b.instructions = []
  /-- The body so far. -/
  tidy : f.Tidy

/-- **What writing a body leaves behind**: types are added, the body grows, and no other
function is touched. -/
structure Writes (n : Nat) (id : FunctionId) (p : Program) (f : Func)
    (calls : List (ValueId × List ValueId)) (p' : Program) (f' : Func) : Prop where
  /-- The types stay. -/
  types : p.types.GrowsTo p'.types
  /-- Other functions stay. -/
  others : ∀ id', id' ≠ id → p'.function? id' = p.function? id'
  /-- The body grows. -/
  body : f.GrowsTo n f' calls

variable {c : Cursor} {id : FunctionId} {f f' f'' : Func} {n m : Nat}
  {calls calls' : List (ValueId × List ValueId)} {base index : ValueId} {types : TypeTable}

theorem Stands.withTypes (h : Stands c p f) (types : TypeTable) :
    Stands c { p with types } f :=
  ⟨h.function, h.block, h.rest, h.tidy⟩

theorem Writes.refl (n : Nat) (id : FunctionId) (p : Program) (f : Func) : Writes n id p f [] p f :=
  ⟨.refl _, fun _ _ => rfl, .refl n f⟩

theorem Writes.weaken (h : Writes n id p f calls p' f') (hle : m ≤ n) :
    Writes m id p f calls p' f' :=
  ⟨h.types, h.others, h.body.weaken hle⟩

theorem Writes.trans (h : Writes n id p f calls p' f') (h' : Writes n id p' f' calls' p'' f'')
    (ht : f'.Tidy) : Writes n id p f (calls ++ calls') p'' f'' :=
  ⟨h.types.trans h'.types, fun id' hid => (h'.others id' hid).trans (h.others id' hid),
    h.body.trans h'.body ht⟩

/-- Types may be added before something is written. -/
theorem Writes.of_types (hgrow : p.types.GrowsTo types)
    (h : Writes n id { p with types } f calls p' f') : Writes n id p f calls p' f' :=
  ⟨hgrow.trans h.types, h.others, h.body⟩

/-! ## Reading the program under construction -/

theorem function_eq {id : FunctionId} (h : p.function? id = some f) :
    function id p = .ok (f, p) := by
  show (p.function id >>= fun g => Except.ok (g, p)) = .ok (f, p)
  rw [Program.function_eq_ok_iff.mpr h]
  rfl

theorem setFunction_eq {id : FunctionId} (h : p.function? id = some f) :
    setFunction id f' p = .ok ((), p.replace id f') := by
  show (p.function id >>= fun _ => Except.ok ((), p.replace id f')) = .ok ((), p.replace id f')
  rw [Program.function_eq_ok_iff.mpr h]
  rfl

theorem typeOf_eq {v : ValueId} {value : Value} (h : p.function? c.function = some f)
    (hv : f.value? v = some value) : typeOf c v p = .ok (value.type, p) := by
  show (function c.function p >>= fun r => (liftM (r.1.value v) : Build Value) r.2
    >>= fun r => Except.ok (r.1.type, r.2)) = .ok (value.type, p)
  rw [function_eq h, ok_bind, liftM_eq (Func.value_eq_ok_iff.mpr hv)]
  rfl

/-! ## Adding a value -/

/-- The function with one more value. -/
def pushed (f : Func) (v : Value) : Func := { f with values := f.values.push v }

theorem value?_pushed_of_value? {v w : Value} {id : ValueId} (h : f.value? id = some w) :
    (pushed f v).value? id = some w := by
  have hlt := Func.index_lt_of_value? h
  show (f.values.push v)[id.index]? = some w
  rw [Array.getElem?_push_lt hlt, ← h]
  exact (Array.getElem?_eq_getElem hlt).symm

theorem value?_pushed_self (f : Func) (v : Value) :
    (pushed f v).value? ⟨f.values.size⟩ = some v :=
  Array.getElem?_push_size

theorem growsTo_pushed (n : Nat) (f : Func) (v : Value) : f.GrowsTo n (pushed f v) [] :=
  ⟨rfl, fun _ _ h => value?_pushed_of_value? h, [], (List.append_nil _).symm, rfl, nofun⟩

theorem tidy_pushed {v : Value} (h : f.Tidy) : (pushed f v).Tidy := by
  refine ⟨h.increasing, fun id hid => ?_⟩
  obtain ⟨kind, hk, hplaced⟩ := h.placed id hid
  exact ⟨kind, (growsTo_pushed 0 f v).kind? hk, hplaced.grow (growsTo_pushed 0 f v)⟩

/-- **Adding a value** answers the first free position. -/
theorem push_eq {v : Value} (h : p.function? c.function = some f) :
    push c v p = .ok (⟨f.values.size⟩, p.replace c.function (pushed f v)) := by
  show (function c.function p >>= fun r => setFunction c.function (pushed r.1 v) r.2
    >>= fun s => Except.ok ((⟨r.1.values.size⟩ : ValueId), s.2)) = _
  rw [function_eq h, ok_bind, setFunction_eq h]
  rfl

theorem Stands.push (h : Stands c p f) (v : Value) :
    Stands c (p.replace c.function (pushed f v)) (pushed f v) :=
  ⟨Program.function?_replace h.function, h.block, h.rest, tidy_pushed h.tidy⟩

theorem Stands.writes_push (_ : Stands c p f) (n : Nat) (v : Value) :
    Writes n c.function p f [] (p.replace c.function (pushed f v)) (pushed f v) :=
  ⟨.refl _, fun _ hid => Program.function?_replace_of_ne hid, growsTo_pushed n f v⟩

/-! ## Adding an instruction -/

/-- The function with one more value, which the block `b` at `block` lists last. -/
def emitted (f : Func) (block : BlockId) (b : Block) (v : Value) : Func :=
  { pushed f v with
    blocks := f.blocks.setIfInBounds block.index
      { b with instructions := b.instructions ++ [⟨f.values.size⟩] } }

variable {b : Block} {v : Value} {kind : ValueKind} {type : Option TypeId} {name : Option String}

theorem instructions_emitted (h : Stands c p f) (hb : f.blocks[c.block.index]? = some b) :
    (emitted f c.block b v).instructions = f.instructions ++ [⟨f.values.size⟩] := by
  unfold Func.instructions emitted
  rw [Array.toList_setIfInBounds]
  refine flatMap_set (a := b) ?_ rfl (fun i d hi hd => h.rest i d hi ?_)
  · rw [Array.getElem?_toList]
    exact hb
  · rw [← hd, Array.getElem?_toList]

theorem growsTo_emitted (h : Stands c p f) (hb : f.blocks[c.block.index]? = some b)
    (hn : ∀ base index, v.kind = .indexAddr base index → n ≤ base.index) :
    f.GrowsTo n (emitted f c.block b v) v.kind.asCall.toList := by
  have hkind : (emitted f c.block b v).kind? ⟨f.values.size⟩ = some v.kind :=
    Func.kind?_of_value? (value?_pushed_self f v)
  refine ⟨rfl, fun _ _ hw => value?_pushed_of_value? hw, _, instructions_emitted h hb, ?_, ?_⟩
  · unfold Func.call?
    rw [List.filterMap_cons, hkind]
    cases v.kind <;> rfl
  · intro id hid base index hk
    rw [List.mem_singleton.mp hid, hkind] at hk
    exact hn base index (Option.some.inj hk)

theorem tidy_emitted (h : Stands c p f) (hb : f.blocks[c.block.index]? = some b)
    (hplaced : f.Placed ⟨f.values.size⟩ v.kind) : (emitted f c.block b v).Tidy := by
  have hgrow := growsTo_emitted (n := 0) h hb (v := v) (fun _ _ _ => Nat.zero_le _)
  have hlisted := instructions_emitted h hb (v := v)
  refine ⟨?_, fun id hid => ?_⟩
  · rw [hlisted, List.pairwise_append]
    refine ⟨h.tidy.increasing, List.pairwise_singleton _ _, fun id hid last hlast => ?_⟩
    rw [List.mem_singleton.mp hlast]
    exact h.tidy.index_lt hid
  · rw [hlisted] at hid
    rcases List.mem_append.mp hid with hid | hid
    · obtain ⟨kind, hk, hplaced⟩ := h.tidy.placed id hid
      exact ⟨kind, hgrow.kind? hk, hplaced.grow hgrow⟩
    · rw [List.mem_singleton.mp hid]
      exact ⟨v.kind, Func.kind?_of_value? (value?_pushed_self f v), hplaced.grow hgrow⟩

theorem stands_emitted (h : Stands c p f) (hb : f.blocks[c.block.index]? = some b)
    (hplaced : f.Placed ⟨f.values.size⟩ v.kind) {p : Program}
    (hf : p.function? c.function = some (emitted f c.block b v)) :
    Stands c p (emitted f c.block b v) := by
  -- only the block of the cursor has changed
  refine ⟨hf, ?_, fun i d hi hd => h.rest i d hi ?_, tidy_emitted h hb hplaced⟩
  · show c.block.index < (f.blocks.setIfInBounds _ _).size
    rw [Array.size_setIfInBounds]
    exact h.block
  · rw [← hd]
    exact (Array.getElem?_setIfInBounds_ne (Nat.ne_of_lt hi)).symm

/-- **What an operation that writes at a cursor leaves behind**: the cursor at the end
of a grown body, and besides what `Q` says of its answer. -/
def Leaves {α : Type} (n : Nat) (c : Cursor) (p : Program) (f : Func)
    (calls : List (ValueId × List ValueId)) (Q : α → Program → Func → Prop) (a : α)
    (p' : Program) : Prop :=
  ∃ f', Stands c p' f' ∧ Writes n c.function p f calls p' f' ∧ Q a p' f'

/-- A quiet operation comes first. -/
theorem Runs.write {Q : α → Program → Func → Prop} {R : β → Program → Func → Prop}
    (h : Runs x p (Leaves n c p f [] Q))
    (hg : ∀ a p' f', Stands c p' f' → Writes n c.function p f [] p' f' → Q a p' f' →
      Runs (g a) p' (Leaves n c p' f' calls R)) :
    Runs (x >>= g) p (Leaves n c p f calls R) := by
  refine h.bind ?_
  rintro a p' ⟨f', hs, hw, hQ⟩
  refine (hg a p' f' hs hw hQ).mono ?_
  rintro b p'' ⟨f'', hs', hw', hR⟩
  exact ⟨f'', hs', hw.trans hw' hs.tidy, hR⟩

/-- Types may be added first. -/
theorem Runs.writeTypes {R : β → Program → Func → Prop} {y : Build β}
    (hgrow : p.types.GrowsTo types)
    (h : Runs y { p with types } (Leaves n c { p with types } f calls R)) :
    Runs y { p with types } (Leaves n c p f calls R) := by
  refine h.mono ?_
  rintro b p' ⟨f', hs, hw, hR⟩
  exact ⟨f', hs, .of_types hgrow hw, hR⟩

/-- **What adding the instruction `v` does to a body.** -/
structure Adds (f : Func) (v : Value) (id : ValueId) (f' : Func) : Prop where
  /-- It takes the first free position, -/
  at_end : id = ⟨f.values.size⟩
  /-- is there, -/
  value : f'.value? id = some v
  /-- and is listed last. -/
  listed : f'.instructions = f.instructions ++ [id]
  /-- There is one value more, -/
  size : f'.values.size = f.values.size + 1
  /-- and as many blocks as before. -/
  blocks : f'.blocks.size = f.blocks.size

theorem Adds.kind? {id : ValueId} (h : Adds f v id f') : f'.kind? id = some v.kind :=
  Func.kind?_of_value? h.value

/-- **Adding an instruction** that has what it relies on. -/
theorem runs_emit (n : Nat) (kind : ValueKind) (type : Option TypeId) (name : Option String)
    (h : Stands c p f) (hplaced : f.Placed ⟨f.values.size⟩ kind)
    (hn : ∀ base index, kind = .indexAddr base index → n ≤ base.index) :
    Runs (emit c kind type name) p (Leaves n c p f kind.asCall.toList (fun id p' f' =>
      Adds f ⟨kind, type, name⟩ id f' ∧ p'.types = p.types)) := by
  obtain ⟨b, hb⟩ : ∃ b, f.blocks[c.block.index]? = some b :=
    ⟨_, Array.getElem?_eq_getElem h.block⟩
  have hpushed := (h.push ⟨kind, type, name⟩).function
  have hentry : entryAt (pushed f ⟨kind, type, name⟩).blocks c.block.index = .ok b :=
    entryAt_eq_ok_iff.mpr hb
  -- the value is added first, and listed then
  refine .next (push_eq h.function) (.next (function_eq hpushed) ?_)
  refine .next (liftM_eq hentry) (.next (setFunction_eq hpushed) (.pure ?_))
  have hs := stands_emitted h hb hplaced (v := ⟨kind, type, name⟩)
    (Program.function?_replace hpushed)
  refine ⟨_, hs, ⟨.refl _, fun id hid => ?_, growsTo_emitted h hb hn⟩, ?_, rfl⟩
  · exact (Program.function?_replace_of_ne hid).trans (Program.function?_replace_of_ne hid)
  · exact ⟨rfl, value?_pushed_self f _, instructions_emitted h hb, Array.size_push _,
      Array.size_setIfInBounds⟩

/-! ## Plain operands -/

section

variable {target : FunctionId} {text : String} {i : Int} {g' : Func}

/-- Adding a value of a type that is added first. -/
theorem runs_push_typed (n : Nat) (kind : ValueKind) (tk : TypeKind) (name : Option String)
    (h : Stands c p f) :
    Runs (do push c ⟨kind, some (← intern tk), name⟩) p (Leaves n c p f [] (fun id p' f' =>
      f'.instructions = f.instructions ∧ ∃ type, f'.value? id = some ⟨kind, some type, name⟩ ∧
        p'.types.kind? type = some tk)) := by
  refine (runs_intern tk).bind ?_
  rintro type _ ⟨types, rfl, hgrow, htype⟩
  have hs := h.withTypes types
  refine .writeTypes hgrow ⟨_, _, push_eq hs.function, pushed f _, hs.push _, ?_, ?_⟩
  · exact hs.writes_push n _
  · exact ⟨rfl, type, value?_pushed_self f _, htype⟩

theorem runs_constString (n : Nat) (h : Stands c p f) :
    Runs (constString c text) p (Leaves n c p f [] (fun id _ f' =>
      f'.instructions = f.instructions ∧ f'.kind? id = some (.const (.string text)))) := by
  refine (runs_push_typed n _ _ _ h).mono ?_
  rintro id p' ⟨f', hs, hw, hlisted, type, hv, -⟩
  exact ⟨f', hs, hw, hlisted, Func.kind?_of_value? hv⟩

theorem runs_constInt (n : Nat) (h : Stands c p f) :
    Runs (constInt c i) p (Leaves n c p f [] (fun id _ f' =>
      f'.instructions = f.instructions ∧ f'.kind? id = some (.const (.int i)))) := by
  refine (runs_push_typed n _ _ _ h).mono ?_
  rintro id p' ⟨f', hs, hw, hlisted, type, hv, -⟩
  exact ⟨f', hs, hw, hlisted, Func.kind?_of_value? hv⟩

/-- A reference to a function has the type of a function. -/
theorem runs_functionRef (n : Nat) (h : Stands c p f) (htarget : p.function? target = some g') :
    Runs (functionRef c target) p (Leaves n c p f [] (fun id p' f' =>
      f'.instructions = f.instructions ∧ ∃ type params results variadic,
        f'.value? id = some ⟨.functionRef target, some type, none⟩ ∧
        p'.types.kind? type = some (.signature params results variadic))) := by
  have htype : functionType target p = intern (.signature (g'.signature.allParams.map Param.type)
      g'.signature.results g'.signature.variadic) p := by
    show (function target p >>= fun r => intern (.signature (r.1.signature.allParams.map Param.type)
      r.1.signature.results r.1.signature.variadic) r.2) = _
    rw [function_eq htarget]
    rfl
  have hrun := runs_push_typed n (.functionRef target) (.signature
    (g'.signature.allParams.map Param.type) g'.signature.results g'.signature.variadic) none h
  refine .congr ?_ (hrun.mono ?_)
  · exact congrArg (· >>= fun r => push c ⟨.functionRef target, some r.1, none⟩ r.2) htype
  · rintro id p' ⟨f', hs, hw, hlisted, type, hv, hkind⟩
    exact ⟨f', hs, hw, hlisted, type, _, _, _, hv, hkind⟩

end

/-! ## Instructions -/

section

variable {tk : TypeKind} {elem arr type target : TypeId} {value address : ValueId} {i length : Nat}
  {members : List Member} {m : Member} {results : List ValueId} {w : Value}

/-- Adding an instruction of a type that is added first. -/
theorem runs_emit_typed (n : Nat) (kind : ValueKind) (tk : TypeKind) (h : Stands c p f)
    (hplaced : f.Placed ⟨f.values.size⟩ kind)
    (hn : ∀ base index, kind = .indexAddr base index → n ≤ base.index) :
    Runs (do emit c kind (some (← intern tk))) p (Leaves n c p f kind.asCall.toList
      (fun id p' f' => ∃ type, Adds f ⟨kind, some type, none⟩ id f' ∧
        p'.types.kind? type = some tk)) := by
  refine (runs_intern tk).bind ?_
  rintro type _ ⟨types, rfl, hgrow, htype⟩
  refine .writeTypes hgrow ((runs_emit n kind _ none (h.withTypes types) hplaced hn).mono ?_)
  rintro id p' ⟨f', hs, hw, hadds, htypes⟩
  exact ⟨f', hs, hw, type, hadds, htypes ▸ htype⟩

/-- The same of a type made of another one. -/
theorem runs_emit_from (n : Nat) (kind : ValueKind) (tk : TypeId → TypeKind) (type : TypeId)
    (h : Stands c p f) (hplaced : f.Placed ⟨f.values.size⟩ kind)
    (hn : ∀ base index, kind = .indexAddr base index → n ≤ base.index) :
    Runs (do emit c kind (← internFrom tk (some type))) p (Leaves n c p f kind.asCall.toList
      (fun id p' f' => ∃ of, Adds f ⟨kind, some of, none⟩ id f' ∧
        p'.types.kind? of = some (tk type))) :=
  .congr rfl (runs_emit_typed n kind (tk type) h hplaced hn)

/-- **A fresh place** is a pointer to what it is a place for. -/
theorem runs_newObject (n : Nat) (h : Stands c p f) :
    Runs (newObject c elem) p (Leaves n c p f [] (fun id p' f' => ∃ type,
      Adds f ⟨.alloc true, some type, none⟩ id f' ∧
        p'.types.kind? type = some (.pointer elem))) :=
  runs_emit_typed n (.alloc true) (.pointer elem) h rfl nofun

theorem runs_makeInterface (n : Nat) (h : Stands c p f) :
    Runs (makeInterface c value) p (Leaves n c p f [] (fun id _ f' =>
      f'.kind? id = some (.makeInterface value))) := by
  refine (runs_emit_typed n (.makeInterface value) (.interface []) h rfl nofun).mono ?_
  rintro id p' ⟨f', hs, hw, type, hadds, -⟩
  exact ⟨f', hs, hw, hadds.kind?⟩

/-- **The address of a field** of a record is a pointer to the field's type. -/
theorem runs_fieldAddr (n : Nat) (h : Stands c p f) (hbase : f.value? base = some w)
    (hw : w.type = some type) (hfields : p.types.structFields type = .ok (some members))
    (hm : members[i]? = some m) :
    Runs (fieldAddr c base i) p (Leaves n c p f [] (fun id p' f' => ∃ type,
      Adds f ⟨.fieldAddr base i, some type, none⟩ id f' ∧
        p'.types.kind? type = some (.pointer m.type))) := by
  have htype : withType w.type (fun id => fieldType id i) p = .ok (some m.type, p) := by
    rw [hw]
    show (ask (fun t => t.structFields type) p >>= fun r => Except.ok
      ((r.1.bind (fun fs => fs[i]?)).map Member.type, r.2)) = _
    rw [ask_eq hfields, ok_bind, Option.bind_some, hm]
    rfl
  exact .next (typeOf_eq h.function hbase)
    (.next htype (runs_emit_from n (.fieldAddr base i) .pointer m.type h rfl nofun))

theorem runs_load (n : Nat) (h : Stands c p f) (haddress : f.value? address = some w)
    (hw : w.type = some type) (htype : p.types.Has type) :
    Runs (load c address) p (Leaves n c p f [] (fun id _ f' =>
      f'.kind? id = some (.unOp .deref address))) := by
  obtain ⟨k, hk⟩ := TypeTable.exists_kind_of_has htype
  have hload : withType w.type (fun id => ask (fun t => t.pointee id)) p
      = .ok (k.pointee?, p) := by
    rw [hw]
    show ask (fun t => t.pointee type) p = _
    exact ask_eq (TypeTable.pointee_of_kind? hk)
  refine .next (typeOf_eq h.function haddress) (.next hload ?_)
  refine (runs_emit n (.unOp .deref address) k.pointee? none h rfl nofun).mono ?_
  rintro id p' ⟨f', hs, hw, hadds, -⟩
  exact ⟨f', hs, hw, hadds.kind?⟩

/-- The elements of an array are found behind a pointer to it. -/
theorem elemType_eq (hw : w.type = some type) (htype : p.types.kind? type = some (.pointer arr))
    (harr : p.types.kind? arr = some (.array elem length)) :
    withType w.type elemType p = .ok (some elem, p) := by
  rw [hw]
  show ask (fun t => t.deref type >>= t.elem) p = .ok (some elem, p)
  refine ask_eq ?_
  show (p.types.pointee type >>= fun e => Except.ok (e.getD type)) >>= p.types.elem
    = .ok (some elem)
  rw [TypeTable.pointee_of_kind? htype, ok_bind, ok_bind]
  show p.types.elem arr = .ok (some elem)
  unfold TypeTable.elem
  rw [TypeTable.underlying_of_isBare harr rfl, ok_bind, TypeTable.kind_of_kind? harr]
  rfl

/-- **The address of an element** of an array of the function. -/
theorem runs_indexAddr (h : Stands c p f) (hbase : f.value? base = some w)
    (hw : w.type = some type) (htype : p.types.kind? type = some (.pointer arr))
    (harr : p.types.kind? arr = some (.array elem length))
    (hplaced : f.Placed ⟨f.values.size⟩ (.indexAddr base index)) (hn : n ≤ base.index) :
    Runs (indexAddr c base index) p (Leaves n c p f [] (fun id _ f' => ∃ type,
      Adds f ⟨.indexAddr base index, type, none⟩ id f')) := by
  refine .next (typeOf_eq h.function hbase) (.next (elemType_eq hw htype harr) ?_)
  refine (runs_emit_from n (.indexAddr base index) .pointer elem h hplaced ?_).mono ?_
  · rintro _ _ ⟨⟩
    exact hn
  · rintro id p' ⟨f', hs, hw, of, hadds, -⟩
    exact ⟨f', hs, hw, some of, hadds⟩

theorem runs_slice (n : Nat) (h : Stands c p f) (hbase : f.value? base = some w)
    (hw : w.type = some type) (htype : p.types.kind? type = some (.pointer arr))
    (harr : p.types.kind? arr = some (.array elem length)) :
    Runs (slice c base) p (Leaves n c p f [] (fun id _ f' =>
      f'.kind? id = some (.slice base))) := by
  refine .next (typeOf_eq h.function hbase) (.next (elemType_eq hw htype harr) ?_)
  refine (runs_emit_from n (.slice base) .slice elem h rfl nofun).mono ?_
  rintro id p' ⟨f', hs, hw, of, hadds, -⟩
  exact ⟨f', hs, hw, hadds.kind?⟩

theorem runs_store (n : Nat) (h : Stands c p f)
    (hplaced : f.Placed ⟨f.values.size⟩ (.store address value)) :
    Runs (store c address value) p (Leaves n c p f [] (fun id _ f' =>
      Adds f ⟨.store address value, none, none⟩ id f')) := by
  refine (runs_emit n (.store address value) none none h hplaced nofun).mono ?_
  rintro id p' ⟨f', hs, hw, hadds, -⟩
  exact ⟨f', hs, hw, hadds⟩

end

/-! ## Calls and blocks -/

section

variable {target : FunctionId} {g' : Func} {args results : List ValueId} {next : BlockId}

/-- Working out the type of a call may add a type, and does nothing else. -/
theorem runs_resultType (results : List TypeId) : Runs (resultType results) p (fun _ p' =>
    ∃ types, p' = { p with types } ∧ p.types.GrowsTo types) := by
  rcases results with _ | ⟨first, _ | ⟨second, rest⟩⟩
  · exact .pure ⟨p.types, rfl, .refl _⟩
  · exact .pure ⟨p.types, rfl, .refl _⟩
  · refine .congr (y := intern (.tuple (first :: second :: rest)) >>= fun id => pure (some id))
      rfl ?_
    refine (runs_intern _).bind ?_
    rintro _ _ ⟨types, hp, hgrow, -⟩
    exact .pure ⟨types, hp, hgrow⟩

/-- **A direct call** names its callee by a reference made for it. -/
theorem runs_call (n : Nat) (args : List ValueId) (h : Stands c p f)
    (htarget : p.function? target = some g') :
    Runs (call c target args) p (fun _ p' => ∃ ref f', Stands c p' f' ∧
      Writes n c.function p f [(ref, args)] p' f' ∧
      f'.kind? ref = some (.functionRef target)) := by
  refine (runs_functionRef n h htarget).bind ?_
  rintro ref p₁ ⟨f₁, hs, hw, -, type, params, results, variadic, hv, htype⟩
  refine .next (typeOf_eq hs.function hv) (.bind
    (.next (ask_eq (TypeTable.kind_of_kind? htype)) (runs_resultType results)) ?_)
  rintro result _ ⟨types, rfl, hgrow⟩
  have hemit := runs_emit n (.call ref args) result none (hs.withTypes types) rfl nofun
  refine hemit.mono ?_
  rintro id p' ⟨f', hs', hw', hadds, -⟩
  have hw'' := Writes.of_types hgrow hw'
  exact ⟨ref, f', hs', hw.trans hw'' hs.tidy, hw'.body.kind? (Func.kind?_of_value? hv)⟩

theorem runs_ret (n : Nat) (results : List ValueId) (h : Stands c p f) :
    Runs (ret c results) p (Leaves n c p f [] (fun _ _ _ => True)) := by
  refine (runs_emit n (.ret results) none none h rfl nofun).mono ?_
  rintro id p' ⟨f', hs, hw, -⟩
  exact ⟨f', hs, hw, trivial⟩

/-- The function with an empty block more. -/
def extended (f : Func) : Func := { f with blocks := f.blocks.push (.empty ⟨f.blocks.size⟩) }

theorem instructions_extended (f : Func) : (extended f).instructions = f.instructions := by
  unfold Func.instructions extended
  rw [Array.toList_push, List.flatMap_append]
  exact List.append_nil _

theorem growsTo_extended (n : Nat) (f : Func) : f.GrowsTo n (extended f) [] := by
  refine ⟨rfl, fun _ _ h => h, [], ?_, rfl, nofun⟩
  rw [instructions_extended, List.append_nil]

theorem Stands.extend (h : Stands c p f) :
    Stands c (p.replace c.function (extended f)) (extended f) := by
  refine ⟨Program.function?_replace h.function, ?_, ?_, ?_, ?_⟩
  · show c.block.index < (f.blocks.push _).size
    rw [Array.size_push]
    exact Nat.lt_succ_of_lt h.block
  · intro i b hi hb
    have hb' : (f.blocks.push (.empty ⟨f.blocks.size⟩))[i]? = some b := hb
    rw [Array.getElem?_push] at hb'
    split at hb'
    · obtain rfl := Option.some.inj hb'
      rfl
    · exact h.rest i b hi hb'
  · rw [instructions_extended]
    exact h.tidy.increasing
  · intro id hid
    rw [instructions_extended] at hid
    obtain ⟨kind, hk, hplaced⟩ := h.tidy.placed id hid
    exact ⟨kind, hk, hplaced.grow (growsTo_extended 0 f)⟩

/-- **Going on in a new block**: a jump to it ends the current one. -/
def cut (c : Cursor) : Build Cursor := do
  let next ← newBlock c
  let _ ← jump c next
  return c.switchTo next

theorem runs_cut (n : Nat) (h : Stands c p f) : Runs (cut c) p (fun c' p' => ∃ f',
    Stands c' p' f' ∧ c'.function = c.function ∧ Writes n c.function p f [] p' f') := by
  have hnew : newBlock c p = .ok (⟨f.blocks.size⟩, p.replace c.function (extended f)) := by
    show (function c.function p >>= fun r => setFunction c.function (extended r.1) r.2
      >>= fun s => Except.ok ((⟨r.1.blocks.size⟩ : BlockId), s.2)) = _
    rw [function_eq h.function, ok_bind, setFunction_eq h.function]
    rfl
  have hw : Writes n c.function p f [] (p.replace c.function (extended f)) (extended f) :=
    ⟨.refl _, fun _ hid => Program.function?_replace_of_ne hid, growsTo_extended n f⟩
  have hjump := runs_emit n (.jump ⟨f.blocks.size⟩) none none h.extend rfl nofun
  refine .next hnew (Runs.bind hjump ?_)
  rintro id p' ⟨f', hs, hw', hadds, -⟩
  have hsize : f'.blocks.size = f.blocks.size + 1 := hadds.blocks.trans (Array.size_push _)
  refine .pure ⟨f', ⟨hs.function, ?_, fun i b hi hb => ?_, hs.tidy⟩, rfl, hw.trans hw' ?_⟩
  · show f.blocks.size < f'.blocks.size
    rw [hsize]
    exact Nat.lt_succ_self _
  · -- the new block is the last one
    have hlt := (Array.getElem?_eq_some_iff.mp hb).1
    rw [hsize] at hlt
    exact absurd hlt (Nat.not_lt.mpr hi)
  · exact h.extend.tidy

/-! ## Opening a body -/

/-- **A function that is declared and has no body yet.** -/
structure Declared (f : Func) : Prop where
  /-- It has no blocks, -/
  blocks : f.blocks = #[]
  /-- no values, -/
  values : f.values = #[]
  /-- and no values for its parameters. -/
  params : f.params = []

theorem openFunc_eq (h : Declared f) : openFunc f = { f with
    params := f.signature.allParams.zipIdx.map (fun q => ⟨q.2⟩)
    values := (f.signature.allParams.zipIdx.map (fun q =>
      (⟨.parameter q.2, some q.1.type, some q.1.name⟩ : Value))).toArray
    blocks := #[.empty ⟨0⟩] } := by
  unfold openFunc
  rw [h.values, h.params]
  simp

theorem instructions_openFunc (h : Declared f) : (openFunc f).instructions = [] := by
  rw [openFunc_eq h]
  rfl

/-- **Opening a body** leaves the parameters, and one empty block. -/
theorem body_eq {id : FunctionId} (h : p.function? id = some f) (hf : Declared f) :
    body id p = .ok (⟨id, ⟨0⟩⟩, p.replace id (openFunc f)) := by
  have hbody : f.hasBody = false := by
    unfold Func.hasBody
    rw [hf.blocks]
    rfl
  show (function id p >>= fun r => (do
    unless r.1.hasBody do setFunction id (openFunc r.1)
    return (⟨id, ⟨0⟩⟩ : Cursor) : Build Cursor) r.2) = _
  rw [function_eq h, ok_bind, hbody]
  show (setFunction id (openFunc f) p >>= fun r => Except.ok ((⟨id, ⟨0⟩⟩ : Cursor), r.2)) = _
  rw [setFunction_eq h]
  rfl

theorem stands_openFunc {id : FunctionId} (h : p.function? id = some f) (hf : Declared f) :
    Stands ⟨id, ⟨0⟩⟩ (p.replace id (openFunc f)) (openFunc f) := by
  refine ⟨Program.function?_replace h, Nat.zero_lt_one, fun i b hi hb => ?_, ?_, ?_⟩
  · have hlt : i < 1 := (Array.getElem?_eq_some_iff.mp hb).1
    exact absurd hlt (Nat.not_lt.mpr hi)
  · rw [instructions_openFunc hf]
    exact .nil
  · rw [instructions_openFunc hf]
    exact nofun

/-- The parameter at place `i` is the value at position `i`. -/
theorem param_eq {q : Param} {i : Nat} (h : p.function? c.function = some (openFunc f))
    (hf : Declared f) (hq : f.signature.allParams[i]? = some q) :
    param c i p = .ok (⟨i⟩, p) ∧
      (openFunc f).value? ⟨i⟩ = some ⟨.parameter i, some q.type, some q.name⟩ := by
  have hzip : f.signature.allParams.zipIdx[i]? = some (q, i) := by
    rw [List.getElem?_zipIdx, hq]
    simp
  rw [openFunc_eq hf] at h ⊢
  constructor
  · show (function c.function p >>= fun r => (liftM (entryAt r.1.params.toArray i) : Build ValueId)
      r.2) = _
    rw [function_eq h, ok_bind]
    refine liftM_eq (entryAt_eq_ok_iff.mpr ?_)
    rw [List.getElem?_toArray, List.getElem?_map, hzip]
    rfl
  · show (List.toArray _)[i]? = _
    rw [List.getElem?_toArray, List.getElem?_map, hzip]
    rfl

end

end Build

end Crosswalk

import Crosswalk.Ordered
import Crosswalk.Program.Visitor

/-!
# Who reads a value

A function says of each instruction which values it reads. Read backwards, that
is the def-use index: of each value, which listed instructions read it, in
their order. An instruction that reads a value twice is one reader, and so is
one that is listed twice with no other reader in between.

## Filling the index

The index is filled by a visitor, operand after operand, and an instruction is
put to the readers of an operand unless it is the last of them already. To look
no further back is enough: the operands of an instruction follow one another,
so whatever was put in between was put to other values. Of each value, then, the
visitor leaves what a list of all its readers comes to when its runs are cut
down (`readers_eq`). Entries are compared as a whole, which is to compare
positions, since at one position of a function there is one instruction.

## Walking the readers

From a value one reaches its readers, from those of them that produce a value
their readers in turn, and so on. The walk goes depth first, visits a reader
before the readers of that reader, and visits none twice, so it ends even where
a value is read by what it reads.
-/

namespace Crosswalk

/-! ## Runs -/

/-- A list with one more member, unless it ends with it. -/
def addLast {α : Type} [DecidableEq α] (l : List α) (a : α) : List α :=
  if l.getLast? = some a then l else l ++ [a]

/-- A list with every run of one member cut down to a single one. -/
def collapseRuns {α : Type} [DecidableEq α] : List α → List α
  | [] => []
  | [a] => [a]
  | a :: b :: l => if a = b then collapseRuns (b :: l) else a :: collapseRuns (b :: l)

section Runs

variable {α : Type} [DecidableEq α]

@[simp] theorem mem_collapseRuns {x : α} {l : List α} : x ∈ collapseRuns l ↔ x ∈ l := by
  fun_induction collapseRuns l with
  | case1 => simp
  | case2 => simp
  | case3 b l ih => rw [ih]; simp
  | case4 a b l _ ih => rw [List.mem_cons, ih, List.mem_cons (a := x) (b := a)]

@[simp] theorem addLast_addLast (l : List α) (a : α) :
    addLast (addLast l a) a = addLast l a := by
  have hlast : (addLast l a).getLast? = some a := by
    unfold addLast
    split
    · assumption
    · exact List.getLast?_concat
  exact if_pos hlast

/-- Members added behind a last one are cut down together with it. -/
theorem foldl_addLast_concat (l rest : List α) (a : α) :
    rest.foldl addLast (l ++ [a]) = l ++ collapseRuns (a :: rest) := by
  induction rest generalizing l a with
  | nil => rfl
  | cons b rest ih =>
    rw [List.foldl_cons, collapseRuns, addLast, List.getLast?_concat]
    by_cases h : a = b
    · rw [if_pos (congrArg some h), if_pos h, ih, h]
    · rw [if_neg (fun heq => h (Option.some.inj heq)), if_neg h, ih, List.append_assoc]
      rfl

/-- **Members added one after the other leave their runs cut down.** -/
theorem foldl_addLast (l : List α) : l.foldl addLast [] = collapseRuns l := by
  cases l with
  | nil => rfl
  | cons a l => exact foldl_addLast_concat [] l a

end Runs

/-! ## The index -/

/-- Puts an instruction to the readers of an operand, unless it is the last of
them. -/
def noteOperand (readers : OrderedMap ValueId (List Use)) (u : Use) (operand : ValueId) :
    OrderedMap ValueId (List Use) :=
  readers.insert operand (addLast ((readers.get? operand).getD []) u)

/-- The visitor that fills an index. -/
def indexing : ProgramVisitor (OrderedMap ValueId (List Use)) where
  operand := noteOperand

/-- **The listed instructions of a function, and which of them read a value.** -/
structure UseIndex where
  /-- One entry per listing, in order. -/
  uses : List Use
  /-- The readers of each value that is read at all. -/
  byOperand : OrderedMap ValueId (List Use)
  /-- They are what the visitor makes of the listed instructions. -/
  byOperand_eq : byOperand = uses.foldl indexing.instruction .empty
deriving DecidableEq, Repr

namespace UseIndex

/-- The index of a list of instructions. -/
def ofUses (uses : List Use) : UseIndex := ⟨uses, uses.foldl indexing.instruction .empty, rfl⟩

/-- The index of a function. Every listed instruction must exist. -/
def build (f : Func) : Lookup UseIndex := return ofUses (← f.listed)

/-- **The instructions that read `v`**, in order. -/
def readers (index : UseIndex) (v : ValueId) : List Use := (index.byOperand.get? v).getD []

/-- The positions of the instructions that read `v`, in order. -/
def referrers (index : UseIndex) (v : ValueId) : List ValueId := (index.readers v).map Use.user

/-- Where the walk goes on after visiting `u`: to its readers, which only what
produces a value has. -/
def next (index : UseIndex) (u : Use) : List Use :=
  if u.value.kind.producesValue then index.readers u.user else []

/-! ### What the index holds -/

@[ext] theorem ext {index index' : UseIndex} (h : index.uses = index'.uses) : index = index' := by
  obtain ⟨uses, byOperand, rfl⟩ := index
  obtain ⟨uses', byOperand', rfl⟩ := index'
  obtain rfl := h
  rfl

@[simp] theorem uses_ofUses (uses : List Use) : (ofUses uses).uses = uses := rfl

@[simp] theorem ofUses_uses (index : UseIndex) : ofUses index.uses = index := ext rfl

/-- An operand gives its own readers one more, and nothing else. -/
theorem getD_noteOperand (m : OrderedMap ValueId (List Use)) (u : Use) (operand v : ValueId) :
    ((noteOperand m u operand).get? v).getD []
      = if v = operand then addLast ((m.get? v).getD []) u else (m.get? v).getD [] := by
  unfold noteOperand
  rw [OrderedMap.get?_insert]
  split
  · rename_i h
    rw [h, Option.getD_some]
  · rfl

/-- However often an instruction reads a value, it is added to its readers once. -/
theorem getD_foldl_noteOperand (m : OrderedMap ValueId (List Use)) (u : Use)
    (operands : List ValueId) (v : ValueId) :
    ((operands.foldl (fun m operand => noteOperand m u operand) m).get? v).getD []
      = if v ∈ operands then addLast ((m.get? v).getD []) u else (m.get? v).getD [] := by
  induction operands generalizing m with
  | nil => rfl
  | cons operand operands ih =>
    rw [List.foldl_cons, ih, getD_noteOperand]
    by_cases h : v = operand
    · by_cases hmem : v ∈ operands
      · rw [if_pos hmem, if_pos h, if_pos (List.mem_cons_of_mem _ hmem), addLast_addLast]
      · rw [if_neg hmem, if_pos h, if_pos (h ▸ List.mem_cons_self)]
    · rw [if_neg h]
      simp only [List.mem_cons, h, false_or]

/-- The types that the visitor is shown leave it as it is. -/
theorem foldl_indexing_type (m : OrderedMap ValueId (List Use)) (types : List TypeId) :
    types.foldl indexing.type m = m := by
  induction types with
  | nil => rfl
  | cons _ types ih => exact ih

/-- An instruction is added to the readers of what it reads. -/
theorem getD_instruction (m : OrderedMap ValueId (List Use)) (u : Use) (v : ValueId) :
    ((indexing.instruction m u).get? v).getD []
      = if u.reads v then addLast ((m.get? v).getD []) u else (m.get? v).getD [] := by
  unfold ProgramVisitor.instruction Use.reads
  rw [foldl_indexing_type]
  simp only [decide_eq_true_iff]
  exact getD_foldl_noteOperand m u _ v

/-- Of a list of instructions, those that read a value are added to its readers. -/
theorem getD_foldl_instruction (m : OrderedMap ValueId (List Use)) (uses : List Use)
    (v : ValueId) :
    ((uses.foldl indexing.instruction m).get? v).getD []
      = (uses.filter (fun u => u.reads v)).foldl addLast ((m.get? v).getD []) := by
  induction uses generalizing m with
  | nil => rfl
  | cons u uses ih =>
    rw [List.foldl_cons, ih, getD_instruction, List.filter_cons]
    split <;> rfl

/-- **The readers of a value are the listed instructions that read it**, with
every run cut down. -/
theorem readers_eq (index : UseIndex) (v : ValueId) :
    index.readers v = collapseRuns (index.uses.filter (fun u => u.reads v)) := by
  unfold readers
  rw [index.byOperand_eq, getD_foldl_instruction, ← foldl_addLast]
  rfl

/-- **A round through the function fills its index.** -/
theorem function_indexing (f : Func) :
    indexing.function .empty f = (build f).map byOperand := by
  unfold ProgramVisitor.function ProgramVisitor.signature build
  rw [foldl_indexing_type, foldl_indexing_type]
  cases f.listed <;> rfl

theorem mem_readers {index : UseIndex} {v : ValueId} {u : Use} :
    u ∈ index.readers v ↔ u ∈ index.uses ∧ u.reads v = true := by
  simp [readers_eq]

theorem mem_uses_of_mem_next {index : UseIndex} {u w : Use} (h : w ∈ index.next u) :
    w ∈ index.uses := by
  unfold next at h
  split at h
  · exact (mem_readers.mp h).1
  · exact absurd h List.not_mem_nil

/-! ## The walk -/

/-- The entries not yet visited. -/
def unseen (index : UseIndex) (seen : List ValueId) : List Use :=
  index.uses.filter (fun u => decide (u.user ∉ seen))

/-- A visit leaves fewer entries to visit. -/
theorem unseen_cons_lt {index : UseIndex} {seen : List ValueId} {u : Use}
    (hu : u ∈ index.uses) (hs : u.user ∉ seen) :
    (index.unseen (u.user :: seen)).length < (index.unseen seen).length := by
  have hsub : index.unseen (u.user :: seen)
      = (index.unseen seen).filter (fun w => decide (w.user ≠ u.user)) := by
    unfold unseen
    rw [List.filter_filter]
    exact List.filter_congr (fun w _ => by simp)
  rw [hsub, List.length_filter_lt_length_iff_exists]
  exact ⟨u, List.mem_filter.mpr ⟨hu, by simpa using hs⟩, by simp⟩

/-- The visits still to be made when `pending` are next in line and `seen` have
been made. -/
def visitsFrom (index : UseIndex) (pending : List Use) (known : ∀ u ∈ pending, u ∈ index.uses)
    (seen : List ValueId) : List Use :=
  match pending with
  | [] => []
  | u :: rest =>
    if _ : u.user ∈ seen then
      index.visitsFrom rest (fun w hw => known w (List.mem_cons_of_mem u hw)) seen
    else
      u :: index.visitsFrom (index.next u ++ rest)
        (fun w hw => (List.mem_append.mp hw).elim mem_uses_of_mem_next
          (fun hr => known w (List.mem_cons_of_mem u hr)))
        (u.user :: seen)
termination_by ((index.unseen seen).length, pending.length)
decreasing_by
  · exact Prod.Lex.right _ (Nat.lt_succ_self _)
  · exact Prod.Lex.left _ _ (unseen_cons_lt (known u List.mem_cons_self) ‹_›)

/-- **The order in which a walk from `root` visits the instructions it
reaches.** The root itself is not visited unless it is reached. -/
def visits (index : UseIndex) (root : ValueId) : List Use :=
  index.visitsFrom (index.readers root) (fun _ hu => (mem_readers.mp hu).1) []

/-- Shows the members of a list to a visitor, up to the first at which it
answers `false`. The second part of the answer says that it never did. -/
def visitWhile {σ : Type} (visit : σ → Use → σ × Bool) : List Use → σ → σ × Bool
  | [], s => (s, true)
  | u :: us, s =>
    match visit s u with
    | (s, true) => visitWhile visit us s
    | (s, false) => (s, false)

/-- **The walk from `root`**, with a visitor that keeps a state and may stop the
walk. -/
def walk {σ : Type} (index : UseIndex) (root : ValueId) (visit : σ → Use → σ × Bool) (s : σ) :
    σ × Bool :=
  visitWhile visit (index.visits root) s

end UseIndex

end Crosswalk

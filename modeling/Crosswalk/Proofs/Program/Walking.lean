import Crosswalk.Proofs.Program.Sound
import Crosswalk.Proofs.Program.Unpacking

/-!
# Walks are depth-first traversals

The def-use index is filled operand by operand, and its walk is made with a stack of pending
entries. Here both are held against the function that they are made from: the *consumers* of a
value are the listed instructions that read it, and a walk goes from instruction to consumer, on
from those that produce a value.

The order of a walk is said by a relation of its own, `DepthFirst`, in which what lies below an
instruction is traversed to its end before the next one is looked at. The visits of a walk are the
only list that stands in this relation to its root (`Program.walk_exact`), and a visitor sees of
them what comes up to its first refusal. The same holds of a recursion that carries one visited
set and one answer through all of its branches (`UseIndex.walks_iff`).
-/

namespace Crosswalk

/-! ## Depth-first traversals -/

/-- **A depth-first traversal in preorder.** From `pending`, and with `seen` visited before, the
latest first, it makes these visits. -/
inductive DepthFirst {α : Type} (next : α → List α) : List α → List α → List α → Prop
  | done {seen : List α} : DepthFirst next seen [] []
  | skip {seen rest visits : List α} {u : α} (hu : u ∈ seen)
      (h : DepthFirst next seen rest visits) : DepthFirst next seen (u :: rest) visits
  | visit {seen rest below visits : List α} {u : α} (hu : u ∉ seen)
      (hbelow : DepthFirst next (u :: seen) (next u) below)
      (h : DepthFirst next (below.reverse ++ u :: seen) rest visits) :
      DepthFirst next seen (u :: rest) (u :: (below ++ visits))

namespace DepthFirst

variable {α : Type} {next : α → List α} {seen pending visits visits' : List α}

/-- **There is one way to go.** -/
theorem unique (h : DepthFirst next seen pending visits)
    (h' : DepthFirst next seen pending visits') : visits = visits' := by
  induction h generalizing visits' with
  | done => cases h'; rfl
  | skip hu _ ih =>
    cases h' with
    | skip _ h' => exact ih h'
    | visit hu' _ _ => exact absurd hu hu'
  | visit hu _ _ ihbelow ih =>
    cases h' with
    | skip hu' _ => exact absurd hu' hu
    | visit _ hbelow' h' =>
      obtain rfl := ihbelow hbelow'
      obtain rfl := ih h'
      rfl

/-- A traversal of two lists is one of the first and then one of the second. -/
theorem split {first second : List α} (h : DepthFirst next seen (first ++ second) visits) :
    ∃ front back, visits = front ++ back ∧ DepthFirst next seen first front ∧
      DepthFirst next (front.reverse ++ seen) second back := by
  induction first generalizing seen visits with
  | nil => exact ⟨[], visits, rfl, .done, h⟩
  | cons u first ih =>
    cases h with
    | skip hu h =>
      obtain ⟨front, back, rfl, hfront, hback⟩ := ih h
      exact ⟨front, back, rfl, .skip hu hfront, hback⟩
    | @visit _ _ below _ _ hu hbelow h =>
      obtain ⟨front, back, rfl, hfront, hback⟩ := ih h
      refine ⟨u :: (below ++ front), back, ?_, .visit hu hbelow hfront, ?_⟩
      · rw [List.cons_append, List.append_assoc]
      · rwa [List.reverse_cons, List.reverse_append, List.append_assoc, List.append_assoc]

end DepthFirst

/-! ## Visitors -/

namespace Visitor

section

variable {σ α : Type} (visit : σ → α → σ × Bool) (s : σ) (l : List α)

/-- **The state of a visitor** that has been shown all of a list. -/
def stateAfter : σ := l.foldl (fun s u => (visit s u).1) s

/-- What the visitor answers at place `k`, if it is shown the list up to there. -/
def answerAt (k : Nat) : Option Bool :=
  l[k]?.map (fun u => (visit (stateAfter visit s (l.take k)) u).2)

/-- **The visitor first answers `false` at place `k`.** -/
structure StopsAt (k : Nat) : Prop where
  /-- It answers `false` there. -/
  refusal : answerAt visit s l k = some false
  /-- It answers `true` at all places before. -/
  earlier : ∀ j < k, answerAt visit s l j = some true

end

variable {σ α : Type} {visit : σ → α → σ × Bool} {s : σ} {u : α} {l : List α} {k : Nat}

theorem stopsAt_cons_zero_iff : StopsAt visit s (u :: l) 0 ↔ (visit s u).2 = false :=
  ⟨fun h => Option.some.inj h.refusal, fun h => ⟨congrArg some h, nofun⟩⟩

/-- A visitor that goes on stops where it stops from there. -/
theorem stopsAt_cons_succ_iff (hu : (visit s u).2 = true) :
    StopsAt visit s (u :: l) (k + 1) ↔ StopsAt visit (visit s u).1 l k := by
  constructor
  · intro h
    exact ⟨h.refusal, fun j hj => h.earlier (j + 1) (Nat.succ_lt_succ hj)⟩
  · intro h
    refine ⟨h.refusal, fun j hj => ?_⟩
    cases j with
    | zero => exact congrArg some hu
    | succ j => exact h.earlier j (Nat.lt_of_succ_lt_succ hj)

end Visitor

namespace UseIndex

open Visitor

variable {σ : Type} {visit : σ → Use → σ × Bool} {s : σ} {l : List Use} {k : Nat}

theorem visitWhile_cons_of_true {u : Use} (hu : (visit s u).2 = true) :
    visitWhile visit (u :: l) s = visitWhile visit l (visit s u).1 := by
  rw [visitWhile]
  split <;> rename_i h <;> rw [h] at hu ⊢
  cases hu

theorem visitWhile_cons_of_false {u : Use} (hu : (visit s u).2 = false) :
    visitWhile visit (u :: l) s = ((visit s u).1, false) := by
  rw [visitWhile]
  split <;> rename_i h <;> rw [h] at hu ⊢
  cases hu

/-- **A visitor that stops has seen what comes up to there**, and no more. -/
theorem visitWhile_of_stopsAt (h : StopsAt visit s l k) :
    visitWhile visit l s = (stateAfter visit s (l.take (k + 1)), false) := by
  induction l generalizing s k with
  | nil => exact nomatch h.refusal
  | cons u l ih =>
    cases k with
    | zero =>
      rw [visitWhile_cons_of_false (stopsAt_cons_zero_iff.mp h)]
      rfl
    | succ k =>
      have hu : (visit s u).2 = true := Option.some.inj (h.earlier 0 (Nat.succ_pos k))
      rw [visitWhile_cons_of_true hu, ih ((stopsAt_cons_succ_iff hu).mp h)]
      rfl

/-- **A visitor that never stops sees all.** -/
theorem visitWhile_of_not_stopsAt (h : ∀ k, ¬ StopsAt visit s l k) :
    visitWhile visit l s = (stateAfter visit s l, true) := by
  induction l generalizing s with
  | nil => rfl
  | cons u l ih =>
    have hu : (visit s u).2 = true := by
      rw [← Bool.not_eq_false]
      exact fun hu => h 0 (stopsAt_cons_zero_iff.mpr hu)
    rw [visitWhile_cons_of_true hu, ih (fun k hk => h (k + 1) ((stopsAt_cons_succ_iff hu).mpr hk))]
    rfl

/-! ## Walks as a recursion

The walk is defined from the list of its visits. A recursion that calls itself on the readers of
each instruction passes on what has been visited and the state of the visitor, and comes back from
all of its calls as soon as the visitor refuses to go on. -/

/-- **The recursion**: from a set of visits and a state, through what is pending, to another set
and another state, with the answer whether to go on. -/
inductive Walks (index : UseIndex) (visit : σ → Use → σ × Bool) :
    List ValueId → σ → List Use → List ValueId → σ → Bool → Prop
  | done {seen : List ValueId} {s : σ} : Walks index visit seen s [] seen s true
  | skip {seen seen' : List ValueId} {s t : σ} {u : Use} {rest : List Use} {go : Bool}
      (hu : u.user ∈ seen) (h : Walks index visit seen s rest seen' t go) :
      Walks index visit seen s (u :: rest) seen' t go
  | refuse {seen : List ValueId} {s t : σ} {u : Use} {rest : List Use} (hu : u.user ∉ seen)
      (hv : visit s u = (t, false)) : Walks index visit seen s (u :: rest) (u.user :: seen) t false
  | refuseBelow {seen seen' : List ValueId} {s s₁ t : σ} {u : Use} {rest : List Use}
      (hu : u.user ∉ seen) (hv : visit s u = (s₁, true))
      (hbelow : Walks index visit (u.user :: seen) s₁ (index.next u) seen' t false) :
      Walks index visit seen s (u :: rest) seen' t false
  | goOn {seen seen₁ seen' : List ValueId} {s s₁ s₂ t : σ} {u : Use} {rest : List Use} {go : Bool}
      (hu : u.user ∉ seen) (hv : visit s u = (s₁, true))
      (hbelow : Walks index visit (u.user :: seen) s₁ (index.next u) seen₁ s₂ true)
      (h : Walks index visit seen₁ s₂ rest seen' t go) :
      Walks index visit seen s (u :: rest) seen' t go

/-- The recursion on two lists goes through the first and then, unless it comes back before,
through the second. -/
theorem Walks.split {index : UseIndex} {seen seen' : List ValueId} {t : σ} {first second : List Use}
    {go : Bool} (h : Walks index visit seen s (first ++ second) seen' t go) :
    (∃ seen₁ s₁, Walks index visit seen s first seen₁ s₁ true ∧
      Walks index visit seen₁ s₁ second seen' t go) ∨
    (go = false ∧ Walks index visit seen s first seen' t false) := by
  induction first generalizing seen s with
  | nil => exact .inl ⟨seen, s, .done, h⟩
  | cons u first ih =>
    cases h with
    | skip hu h =>
      rcases ih h with ⟨seen₁, s₁, hfirst, hsecond⟩ | ⟨hgo, hfirst⟩
      · exact .inl ⟨seen₁, s₁, .skip hu hfirst, hsecond⟩
      · exact .inr ⟨hgo, .skip hu hfirst⟩
    | refuse hu hv => exact .inr ⟨rfl, .refuse hu hv⟩
    | refuseBelow hu hv hbelow => exact .inr ⟨rfl, .refuseBelow hu hv hbelow⟩
    | goOn hu hv hbelow h =>
      rcases ih h with ⟨seen₁, s₁, hfirst, hsecond⟩ | ⟨hgo, hfirst⟩
      · exact .inl ⟨seen₁, s₁, .goOn hu hv hbelow hfirst, hsecond⟩
      · exact .inr ⟨hgo, .goOn hu hv hbelow hfirst⟩

/-- **The recursion goes one way.** -/
theorem Walks.unique {index : UseIndex} {pending : List Use} {seen seen₁ seen₂ : List ValueId}
    {t₁ t₂ : σ} {go₁ go₂ : Bool} (h : Walks index visit seen s pending seen₁ t₁ go₁)
    (h' : Walks index visit seen s pending seen₂ t₂ go₂) :
    seen₁ = seen₂ ∧ t₁ = t₂ ∧ go₁ = go₂ := by
  induction h generalizing seen₂ t₂ go₂ with
  | done =>
    cases h'
    exact ⟨rfl, rfl, rfl⟩
  | skip hu _ ih =>
    cases h' with
    | skip _ h' => exact ih h'
    | refuse hu' _ => exact absurd hu hu'
    | refuseBelow hu' _ _ => exact absurd hu hu'
    | goOn hu' _ _ _ => exact absurd hu hu'
  | refuse hu hv =>
    cases h' with
    | skip hu' _ => exact absurd hu' hu
    | refuse _ hv' => exact ⟨rfl, (Prod.mk.inj (hv.symm.trans hv')).1, rfl⟩
    | refuseBelow _ hv' _ => cases hv.symm.trans hv'
    | goOn _ hv' _ _ => cases hv.symm.trans hv'
  | refuseBelow hu hv _ ih =>
    cases h' with
    | skip hu' _ => exact absurd hu' hu
    | refuse _ hv' => cases hv.symm.trans hv'
    | refuseBelow _ hv' h' =>
      obtain rfl := (Prod.mk.inj (hv.symm.trans hv')).1
      exact ih h'
    | goOn _ hv' hbelow' _ =>
      obtain rfl := (Prod.mk.inj (hv.symm.trans hv')).1
      exact nomatch (ih hbelow').2.2
  | goOn hu hv _ _ ihbelow ih =>
    cases h' with
    | skip hu' _ => exact absurd hu' hu
    | refuse _ hv' => cases hv.symm.trans hv'
    | refuseBelow _ hv' hbelow' =>
      obtain rfl := (Prod.mk.inj (hv.symm.trans hv')).1
      exact nomatch (ihbelow hbelow').2.2
    | goOn _ hv' hbelow' h' =>
      obtain rfl := (Prod.mk.inj (hv.symm.trans hv')).1
      obtain ⟨rfl, rfl, -⟩ := ihbelow hbelow'
      exact ih h'

/-- The visitor that is shown the visits still to be made is where the recursion leads. -/
theorem walks_visitsFrom {index : UseIndex} {pending : List Use}
    (known : ∀ u ∈ pending, u ∈ index.uses) (seen : List ValueId) (s : σ) :
    ∃ seen', Walks index visit seen s pending seen'
      (visitWhile visit (index.visitsFrom pending known seen) s).1
      (visitWhile visit (index.visitsFrom pending known seen) s).2 := by
  fun_induction visitsFrom index pending known seen generalizing s with
  | case1 seen => exact ⟨seen, .done⟩
  | case2 seen u rest known hmem _ ih =>
    obtain ⟨seen', h⟩ := ih s
    exact ⟨seen', .skip hmem h⟩
  | case3 seen u rest known hmem _ ih =>
    cases hu : (visit s u).2 with
    | false =>
      rw [visitWhile_cons_of_false hu]
      exact ⟨_, .refuse hmem (Prod.ext rfl hu)⟩
    | true =>
      rw [visitWhile_cons_of_true hu]
      obtain ⟨seen', h⟩ := ih (visit s u).1
      rcases h.split with ⟨seen₁, s₁, hbelow, hrest⟩ | ⟨hgo, hbelow⟩
      · exact ⟨seen', .goOn hmem (Prod.ext rfl hu) hbelow hrest⟩
      · exact ⟨seen', hgo ▸ .refuseBelow hmem (Prod.ext rfl hu) hbelow⟩

/-- **The walk is the recursion**, which comes to an end even where values are read by what they
read. -/
theorem walks_iff {index : UseIndex} {root : ValueId} {t : σ} {go : Bool} :
    (∃ seen, Walks index visit [] s (index.readers root) seen t go) ↔
      index.walk root visit s = (t, go) := by
  have hwalk : ∃ seen, Walks index visit [] s (index.readers root) seen
      (index.walk root visit s).1 (index.walk root visit s).2 := walks_visitsFrom _ [] s
  obtain ⟨seen, hwalk⟩ := hwalk
  constructor
  · rintro ⟨seen', h⟩
    obtain ⟨-, ht, hgo⟩ := hwalk.unique h
    exact Prod.ext ht hgo
  · intro h
    rw [h] at hwalk
    exact ⟨seen, hwalk⟩

end UseIndex

/-! ## Consumers -/

namespace Func

variable {f : Func} {root u v : ValueId}

/-- Whether the value at `u` reads `v`. -/
def reads (f : Func) (u v : ValueId) : Bool := (f.kind? u).any (fun k => decide (v ∈ k.operands))

/-- **The listed instructions that read `v`**, in order. -/
def consumers (f : Func) (v : ValueId) : List ValueId :=
  f.instructions.filter (fun u => f.reads u v)

/-- **Where a walk goes on from `u`**: to its consumers, if it produces a value. -/
def onward (f : Func) (u : ValueId) : List ValueId :=
  if (f.kind? u).any ValueKind.producesValue then f.consumers u else []

/-- **What can be reached from `root`**, going from value to consumer. -/
inductive ReachedFrom (f : Func) (root : ValueId) : ValueId → Prop
  | consumer {u : ValueId} (h : u ∈ f.consumers root) : ReachedFrom f root u
  | onward {u v : ValueId} (h : ReachedFrom f root u) (hv : v ∈ f.onward u) : ReachedFrom f root v

/-- **The depth-first preorder** of what can be reached from `root`. -/
def Preorder (f : Func) (root : ValueId) (order : List ValueId) : Prop :=
  DepthFirst f.onward [] (f.consumers root) order

end Func

namespace UseIndex

variable {index : UseIndex} {f : Func} {root v : ValueId} {u : Use}

namespace Lists

/-- **The index answers the consumers.** -/
theorem map_user_readers (h : index.Lists f) (hlisted : f.instructions.Nodup) (v : ValueId) :
    (index.readers v).map Use.user = f.consumers v := by
  have hnodup : index.uses.Nodup := .of_map Use.user (h.users ▸ hlisted)
  have hreads : ∀ u ∈ index.uses, u.reads v = f.reads u.user v := by
    intro u hu
    unfold Func.reads
    rw [h.values hu]
    rfl
  calc (index.readers v).map Use.user
      = (index.uses.filter (fun u => f.reads u.user v)).map Use.user := by
        rw [readers_of_nodup hnodup, List.filter_congr hreads]
    _ = (index.uses.map Use.user).filter (fun u => f.reads u v) := by
        rw [List.filter_map]
        rfl
    _ = f.consumers v := by
        rw [h.users]
        rfl

theorem map_user_next (h : index.Lists f) (hlisted : f.instructions.Nodup) (hu : u ∈ index.uses) :
    (index.next u).map Use.user = f.onward u.user := by
  unfold next Func.onward
  rw [h.values hu, Option.any_some]
  split
  · exact h.map_user_readers hlisted u.user
  · rfl

/-- What the index reaches is what can be reached. -/
theorem reached_iff (h : index.Lists f) (hlisted : f.instructions.Nodup) :
    (∃ u, index.Reached root u ∧ u.user = v) ↔ f.ReachedFrom root v := by
  constructor
  · rintro ⟨u, hu, rfl⟩
    induction hu with
    | reader hu => exact .consumer (h.map_user_readers hlisted root ▸ List.mem_map_of_mem hu)
    | next hu hw ih =>
      exact ih.onward (h.map_user_next hlisted hu.mem_uses ▸ List.mem_map_of_mem hw)
  · intro hv
    induction hv with
    | consumer hv =>
      obtain ⟨u, hu, rfl⟩ := List.mem_map.mp ((h.map_user_readers hlisted root).symm ▸ hv)
      exact ⟨u, .reader hu, rfl⟩
    | onward _ hv ih =>
      obtain ⟨u, hu, rfl⟩ := ih
      rw [← h.map_user_next hlisted hu.mem_uses] at hv
      obtain ⟨w, hw, rfl⟩ := List.mem_map.mp hv
      exact ⟨w, hu.next hw, rfl⟩

/-- The visits still to be made are a traversal of what is pending. -/
theorem depthFirst_visitsFrom (h : index.Lists f) (hlisted : f.instructions.Nodup)
    {pending : List Use} (known : ∀ u ∈ pending, u ∈ index.uses) (seen : List ValueId) :
    DepthFirst f.onward seen (pending.map Use.user)
      ((index.visitsFrom pending known seen).map Use.user) := by
  fun_induction visitsFrom index pending known seen with
  | case1 => exact .done
  | case2 seen u rest known hmem _ ih => exact .skip hmem ih
  | case3 seen u rest known hmem _ ih =>
    -- what is pushed onto the stack is traversed before what was pending
    rw [List.map_append, h.map_user_next hlisted (known u List.mem_cons_self)] at ih
    obtain ⟨below, visits, heq, hbelow, hvisits⟩ := ih.split
    rw [List.map_cons, List.map_cons, heq]
    exact .visit hmem hbelow hvisits

/-- **A walk makes its visits in depth-first preorder.** -/
theorem preorder_visits (h : index.Lists f) (hlisted : f.instructions.Nodup) (root : ValueId) :
    f.Preorder root ((index.visits root).map Use.user) := by
  unfold Func.Preorder
  rw [← h.map_user_readers hlisted root]
  exact h.depthFirst_visitsFrom hlisted _ []

theorem entries_visits (h : index.Lists f) (hu : u ∈ index.visits root) :
    f.value? u.user = some u.value :=
  h.entries u (reached_of_mem_visits hu).mem_uses

end Lists

end UseIndex

namespace Program

/-- **The def-use index and its walks are exact.** A round of the indexing visitor through a
function that lists no instruction twice leaves the consumers of every value, in order, and these
the index of the function answers. From every root a walk comes to an end, and shows to its
visitor the depth-first preorder of what can be reached, each instruction once, up to the first at
which the visitor refuses to go on. -/
theorem walk_exact {p : Program} {id : FunctionId} {f : Func} (hp : p.validate = .ok ())
    (hf : p.function? id = some f) (hlisted : f.instructions.Nodup) :
    ∃ index, UseIndex.build f = .ok index ∧ indexing.function .empty f = .ok index.byOperand ∧
      (∀ v, index.referrers v = f.consumers v ∧ (f.consumers v).Nodup) ∧
      ∀ root, ∃ visits : List Use, (∀ u ∈ visits, f.value? u.user = some u.value) ∧
        (∀ order, f.Preorder root order ↔ order = visits.map Use.user) ∧
        (visits.map Use.user).Nodup ∧
        (∀ v, v ∈ visits.map Use.user ↔ f.ReachedFrom root v) ∧
        ∀ {σ : Type} (visit : σ → Use → σ × Bool) (s : σ),
          (∀ t go, (∃ seen, index.Walks visit [] s (index.readers root) seen t go) ↔
            index.walk root visit s = (t, go)) ∧
          (∀ k, Visitor.StopsAt visit s visits k → index.walk root visit s
            = (Visitor.stateAfter visit s (visits.take (k + 1)), false)) ∧
          ((∀ k, ¬ Visitor.StopsAt visit s visits k) → index.walk root visit s
            = (Visitor.stateAfter visit s visits, true)) := by
  have hsound := (validate_eq_ok_iff.mp hp).functions id f hf
  obtain ⟨index, hindex, hl⟩ := Func.exists_index (f := f) (fun v hv => by
    obtain ⟨w, hw, -⟩ := hsound.listed v hv
    exact ⟨w, hw⟩)
  have hunique : ∀ u ∈ index.uses, ∀ w ∈ index.uses, u.user = w.user → u = w :=
    fun u hu w hw => hl.eq_of_user_eq hu hw
  have hround : indexing.function .empty f = .ok index.byOperand := by
    rw [UseIndex.function_indexing, hindex]
    rfl
  refine ⟨index, hindex, hround,
    fun v => ⟨hl.map_user_readers hlisted v, hlisted.filter _⟩, fun root => ?_⟩
  have hpreorder := hl.preorder_visits hlisted root
  refine ⟨index.visits root, fun u hu => hl.entries_visits hu, fun order => ⟨fun h => ?_, ?_⟩,
    index.nodup_visits root, fun v => ?_, fun visit s => ⟨fun t go => UseIndex.walks_iff, ?_, ?_⟩⟩
  · exact DepthFirst.unique h hpreorder
  · rintro rfl
    exact hpreorder
  · rw [← hl.reached_iff hlisted, List.mem_map]
    simp only [UseIndex.mem_visits_iff hunique]
  · exact fun k hk => UseIndex.visitWhile_of_stopsAt hk
  · exact UseIndex.visitWhile_of_not_stopsAt

/-- A call that is given a box of its own value. -/
def knotFunc : Func where
  id := ⟨0⟩
  name := "Knot"
  package := "example.com/cards"
  file := none
  signature := ⟨none, [⟨"f", ⟨0⟩⟩], [], false⟩
  params := [⟨0⟩]
  blocks := #[⟨⟨0⟩, [⟨2⟩, ⟨1⟩, ⟨3⟩], none⟩]
  values := #[⟨.parameter 0, some ⟨0⟩, none⟩, ⟨.call ⟨0⟩ [⟨2⟩, ⟨2⟩], some ⟨0⟩, none⟩,
    ⟨.makeInterface ⟨1⟩, some ⟨0⟩, none⟩, ⟨.ret [⟨2⟩], none, none⟩]
  synthetic := none

/-- A program with a function in which two values read each other. -/
def knotProgram : Program where
  package := "example.com/cards"
  types := ⟨#[.interface []]⟩
  functions := #[knotFunc]

/-- The depth-first preorder goes around the knot once. -/
theorem knotFunc_preorder : knotFunc.Preorder ⟨0⟩ [⟨1⟩, ⟨2⟩, ⟨3⟩] := by
  have hreturn : DepthFirst knotFunc.onward [⟨2⟩, ⟨1⟩] [⟨1⟩, ⟨3⟩] [⟨3⟩] :=
    .skip (by decide) (@DepthFirst.visit ValueId _ _ [] [] [] ⟨3⟩ (by decide) .done .done)
  have hbox : DepthFirst knotFunc.onward [⟨1⟩] [⟨2⟩] [⟨2⟩, ⟨3⟩] :=
    @DepthFirst.visit ValueId _ _ [] [⟨3⟩] [] ⟨2⟩ (by decide) hreturn .done
  exact @DepthFirst.visit ValueId knotFunc.onward [] [] [⟨2⟩, ⟨3⟩] [] ⟨1⟩ (by decide) hbox .done

/-- The call reads the box twice and is one consumer of it. A visitor that stops at its second
visit has made two. -/
theorem knotProgram_walk : ∃ index, UseIndex.build knotFunc = .ok index ∧
    indexing.function .empty knotFunc = .ok index.byOperand ∧ index.referrers ⟨2⟩ = [⟨1⟩, ⟨3⟩] ∧
    index.walk ⟨0⟩ (fun visited _ => (visited + 1, decide (visited < 1))) 0 = (2, false) := by
  have hf : knotProgram.function? ⟨0⟩ = some knotFunc := rfl
  obtain ⟨index, hindex, hround, hreferrers, hwalk⟩ := walk_exact (by decide +kernel) hf (by decide)
  refine ⟨index, hindex, hround, (hreferrers ⟨2⟩).1.trans (by decide), ?_⟩
  obtain ⟨visits, -, horder, -, -, hvisitor⟩ := hwalk ⟨0⟩
  have hvisits : visits.map Use.user = [⟨1⟩, ⟨2⟩, ⟨3⟩] := ((horder _).mp knotFunc_preorder).symm
  obtain ⟨u, v, w, rfl⟩ := List.length_eq_three.mp
    (List.length_map Use.user ▸ congrArg List.length hvisits)
  obtain ⟨-, hstops, -⟩ := hvisitor (fun visited _ => (visited + 1, decide (visited < 1))) 0
  refine hstops 1 ⟨rfl, fun j hj => ?_⟩
  obtain rfl := Nat.lt_one_iff.mp hj
  rfl

end Program

end Crosswalk

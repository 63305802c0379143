import Crosswalk.Proofs.Program.Visits

/-!
# Walks past an instruction that nothing reads

An instruction that is listed somewhere and read by nothing is a *bystander*. It reads
values, so the walks from these values come by it, but they go nowhere from there. Every
other instruction is visited as if it were not listed (`UseIndex.Joins.filter_visits`).

## Repetitions

That is not quite as plain as it sounds, because of instructions that are listed twice in a
row. Without the bystander the two are one reader; with it in between they are two. The
second is passed over, as it has been seen by then. So what a walk does is compared by the
*firsts* of what is pending: the first of each instruction that has not been seen.
-/

namespace Crosswalk

theorem findSome?_collapseRuns {α β : Type} [DecidableEq α] (g : α → Option β) (l : List α) :
    (collapseRuns l).findSome? g = l.findSome? g := by
  fun_induction collapseRuns l with
  | case1 => rfl
  | case2 => rfl
  | case3 b l ih =>
    rw [ih, List.findSome?_cons, List.findSome?_cons, List.findSome?_cons]
    cases g b <;> rfl
  | case4 a b l _ ih => rw [List.findSome?_cons, List.findSome?_cons, ih]

/-- Members that a question has no answer for may be left out. -/
theorem findSome?_filter_of_none {α β : Type} {g : α → Option β} {keep : α → Bool} {l : List α}
    (hg : ∀ a ∈ l, ¬ keep a = true → g a = none) : (l.filter keep).findSome? g = l.findSome? g := by
  induction l with
  | nil => rfl
  | cons a l ih =>
    have ih := ih (fun b hb => hg b (List.mem_cons_of_mem a hb))
    by_cases ha : keep a = true
    · rw [List.filter_cons_of_pos ha, List.findSome?_cons, List.findSome?_cons, ih]
    · rw [List.filter_cons_of_neg ha, ih, List.findSome?_cons, hg a List.mem_cons_self ha]

namespace UseIndex

variable {index index' : UseIndex} {call root v : ValueId} {pending pending' l m a b : List Use}
  {seen seen' : List ValueId} {u w : Use}

/-! ## Firsts -/

/-- **The first of each instruction** that has not been seen. -/
def firsts : List ValueId → List Use → List Use
  | _, [] => []
  | seen, u :: l => if u.user ∈ seen then firsts seen l else u :: firsts (u.user :: seen) l

theorem firsts_cons_of_mem (h : u.user ∈ seen) : firsts seen (u :: l) = firsts seen l := if_pos h

theorem firsts_cons_of_not_mem (h : u.user ∉ seen) :
    firsts seen (u :: l) = u :: firsts (u.user :: seen) l := if_neg h

/-- In which order instructions have been seen does not matter, nor how often. -/
theorem firsts_congr (h : ∀ v, v ∈ seen ↔ v ∈ seen') : firsts seen l = firsts seen' l := by
  induction l generalizing seen seen' with
  | nil => rfl
  | cons u l ih =>
    by_cases hu : u.user ∈ seen
    · rw [firsts_cons_of_mem hu, firsts_cons_of_mem ((h _).mp hu), ih h]
    · rw [firsts_cons_of_not_mem hu, firsts_cons_of_not_mem (fun hu' => hu ((h _).mpr hu'))]
      refine congrArg (u :: ·) (ih (fun v => ?_))
      rw [List.mem_cons, List.mem_cons, h v]

/-- The firsts when more has been seen. -/
theorem firsts_append_seen : firsts (seen ++ seen') l
    = (firsts seen' l).filter (fun u => decide (u.user ∉ seen)) := by
  induction l generalizing seen' with
  | nil => rfl
  | cons u l ih =>
    by_cases hu' : u.user ∈ seen'
    · rw [firsts_cons_of_mem hu', firsts_cons_of_mem (List.mem_append_right _ hu'), ih]
    have hcons : ∀ v, v ∈ seen ++ u.user :: seen' ↔ v ∈ u.user :: (seen ++ seen') := by
      intro v
      simp only [List.mem_append, List.mem_cons]
      exact or_left_comm
    rw [firsts_cons_of_not_mem hu']
    by_cases hu : u.user ∈ seen
    · rw [firsts_cons_of_mem (List.mem_append_left _ hu),
        List.filter_cons_of_neg (by simpa using hu), ← ih]
      refine firsts_congr (fun v => ?_)
      rw [hcons, List.mem_cons, or_iff_right_of_imp]
      rintro rfl
      exact List.mem_append_left _ hu
    · rw [firsts_cons_of_not_mem (by simpa using ⟨hu, hu'⟩),
        List.filter_cons_of_pos (by simpa using hu), ← ih, firsts_congr hcons]

/-- The firsts of two lists in a row. -/
theorem firsts_append : firsts seen (a ++ b)
    = firsts seen a ++ firsts (((firsts seen a).map Use.user).reverse ++ seen) b := by
  induction a generalizing seen with
  | nil => rfl
  | cons u a ih =>
    by_cases hu : u.user ∈ seen
    · rw [List.cons_append, firsts_cons_of_mem hu, firsts_cons_of_mem hu, ih]
    · rw [List.cons_append, firsts_cons_of_not_mem hu, firsts_cons_of_not_mem hu, ih,
        List.map_cons, List.reverse_cons, List.append_assoc]
      rfl

/-- **The firsts of two lists in a row depend on their firsts alone.** -/
theorem firsts_append_congr (ha : firsts seen a = firsts seen l)
    (hb : firsts seen b = firsts seen m) : firsts seen (a ++ b) = firsts seen (l ++ m) := by
  rw [firsts_append, firsts_append, ha, firsts_append_seen, firsts_append_seen, hb]

/-- Runs that are cut down do not change the firsts. -/
theorem firsts_filter_collapseRuns (keep : Use → Bool) :
    firsts seen ((collapseRuns l).filter keep) = firsts seen (l.filter keep) := by
  fun_induction collapseRuns l generalizing seen with
  | case1 => rfl
  | case2 => rfl
  | case3 u l ih =>
    rw [ih]
    cases hu : keep u with
    | false => rw [List.filter_cons_of_neg (a := u) (by simp [hu]) (l := u :: l)]
    | true =>
      rw [List.filter_cons_of_pos (a := u) hu (l := u :: l), List.filter_cons_of_pos hu]
      by_cases hmem : u.user ∈ seen
      · rw [firsts_cons_of_mem hmem, firsts_cons_of_mem hmem, firsts_cons_of_mem hmem]
      · rw [firsts_cons_of_not_mem hmem, firsts_cons_of_not_mem hmem,
          firsts_cons_of_mem List.mem_cons_self]
  | case4 u w l _ ih =>
    cases hu : keep u with
    | false =>
      rw [List.filter_cons_of_neg (by simp [hu]), List.filter_cons_of_neg (by simp [hu]), ih]
    | true =>
      rw [List.filter_cons_of_pos hu, List.filter_cons_of_pos hu]
      by_cases hmem : u.user ∈ seen
      · rw [firsts_cons_of_mem hmem, firsts_cons_of_mem hmem, ih]
      · rw [firsts_cons_of_not_mem hmem, firsts_cons_of_not_mem hmem, ih]

theorem firsts_collapseRuns : firsts seen (collapseRuns l) = firsts seen l := by
  have h : firsts seen ((collapseRuns l).filter (fun _ => true))
      = firsts seen (l.filter (fun _ => true)) := firsts_filter_collapseRuns _
  rwa [List.filter_true, List.filter_true] at h

/-- A walk goes nowhere from instructions that have been seen. -/
theorem visitsFrom_of_firsts_nil (known : ∀ u ∈ pending, u ∈ index.uses)
    (h : firsts seen pending = []) : index.visitsFrom pending known seen = [] := by
  fun_induction visitsFrom index pending known seen with
  | case1 => rfl
  | case2 seen u rest known hmem _ ih => exact ih (firsts_cons_of_mem hmem ▸ h)
  | case3 seen u rest known hmem _ ih =>
    rw [firsts_cons_of_not_mem hmem] at h
    cases h

/-- **A walk goes on with the first instruction** that has not been seen. -/
theorem visitsFrom_of_firsts_cons (known : ∀ u ∈ pending, u ∈ index.uses)
    (h : firsts seen pending = u :: l) :
    ∃ (rest : List Use) (known' : ∀ w ∈ index.next u ++ rest, w ∈ index.uses),
      firsts (u.user :: seen) rest = l ∧
        index.visitsFrom pending known seen
          = u :: index.visitsFrom (index.next u ++ rest) known' (u.user :: seen) := by
  induction pending with
  | nil => cases h
  | cons w rest ih =>
    by_cases hmem : w.user ∈ seen
    · rw [firsts_cons_of_mem hmem] at h
      rw [visitsFrom, dif_pos hmem]
      exact ih _ h
    · rw [firsts_cons_of_not_mem hmem] at h
      obtain ⟨rfl, rfl⟩ := List.cons.inj h
      rw [visitsFrom, dif_neg hmem]
      exact ⟨rest, _, rfl, rfl⟩

/-! ## Bystanders -/

/-- The instructions other than `call`. -/
def others (call : ValueId) (l : List Use) : List Use :=
  l.filter (fun u => decide (u.user ≠ call))

theorem others_cons_of_eq (h : u.user = call) : others call (u :: l) = others call l :=
  List.filter_cons_of_neg (by simpa using h)

theorem others_cons_of_ne (h : u.user ≠ call) : others call (u :: l) = u :: others call l :=
  List.filter_cons_of_pos (by simpa using h)

theorem findSome?_others {β : Type} {g : Use → Option β}
    (hg : ∀ u ∈ l, u.user = call → g u = none) : (others call l).findSome? g = l.findSome? g :=
  findSome?_filter_of_none (fun u hu hno => hg u hu (by simpa using hno))

/-- **A bystander joins the instructions of an index**: it is listed among them, and none of
them reads it. -/
structure Joins (call : ValueId) (index index' : UseIndex) : Prop where
  /-- The others are those of the index. -/
  uses : others call index'.uses = index.uses
  /-- Nothing reads the bystander. -/
  unread : ∀ u ∈ index'.uses, u.reads call = false

namespace Joins

variable (h : Joins call index index')
include h

theorem readers_eq_nil : index'.readers call = [] := by
  refine List.eq_nil_iff_forall_not_mem.mpr (fun u hu => ?_)
  obtain ⟨hmem, hread⟩ := mem_readers.mp hu
  cases (h.unread u hmem).symm.trans hread

/-- The instructions that read a value are the same, the bystander apart. -/
theorem others_filter_reads (v : ValueId) :
    others call (index'.uses.filter (fun u => u.reads v))
      = index.uses.filter (fun u => u.reads v) := by
  unfold others
  rw [List.filter_comm]
  exact congrArg (List.filter (fun u => u.reads v)) h.uses

/-- The first reader of a value that a question has an answer for is the same, if it has
none for the bystander. -/
theorem findSome?_readers {β : Type} {g : Use → Option β}
    (hg : ∀ u ∈ index'.uses, u.user = call → g u = none) (v : ValueId) :
    (index'.readers v).findSome? g = (index.readers v).findSome? g := by
  rw [readers_eq, readers_eq, findSome?_collapseRuns, findSome?_collapseRuns,
    ← h.others_filter_reads v]
  refine (findSome?_others (fun u hu => hg u ?_)).symm
  exact List.mem_of_mem_filter hu

/-- The readers of a value are the same, the bystander apart. -/
theorem firsts_readers (v : ValueId) :
    firsts seen (others call (index'.readers v)) = firsts seen (index.readers v) := by
  calc firsts seen (others call (index'.readers v))
      = firsts seen (others call (index'.uses.filter (fun u => u.reads v))) := by
        rw [readers_eq]
        exact firsts_filter_collapseRuns _
    _ = firsts seen (index.uses.filter (fun u => u.reads v)) := by rw [h.others_filter_reads]
    _ = firsts seen (index.readers v) := by rw [readers_eq, firsts_collapseRuns]

theorem firsts_next (u : Use) :
    firsts seen (others call (index'.next u)) = firsts seen (index.next u) := by
  unfold next
  split
  · exact h.firsts_readers u.user
  · rfl

/-- From the bystander a walk goes nowhere. -/
theorem next_eq_nil (hu : u.user = call) : index'.next u = [] := by
  unfold next
  rw [hu, h.readers_eq_nil, ite_self]

/-- The visits still to be made are the same, the bystander apart. -/
theorem filter_visitsFrom (known : ∀ u ∈ pending, u ∈ index.uses)
    (known' : ∀ u ∈ pending', u ∈ index'.uses)
    (hseen : ∀ v, v ≠ call → (v ∈ seen ↔ v ∈ seen'))
    (hfirsts : firsts seen (others call pending') = firsts seen pending) :
    others call (index'.visitsFrom pending' known' seen')
      = index.visitsFrom pending known seen := by
  fun_induction visitsFrom index' pending' known' seen' generalizing pending seen with
  | case1 => exact (visitsFrom_of_firsts_nil known hfirsts.symm).symm
  | case2 seen' u rest known' hmem _ ih =>
    by_cases hu : u.user = call
    · rw [others_cons_of_eq hu] at hfirsts
      exact ih known hseen hfirsts
    · rw [others_cons_of_ne hu, firsts_cons_of_mem ((hseen _ hu).mpr hmem)] at hfirsts
      exact ih known hseen hfirsts
  | case3 seen' u rest known' hmem _ ih =>
    by_cases hu : u.user = call
    · -- the walk comes by the bystander and goes on with what is left
      rw [others_cons_of_eq hu] at hfirsts ⊢
      refine ih known (fun v hv => ?_) ?_
      · rw [hseen v hv, List.mem_cons, or_iff_right (fun heq => hv (heq.trans hu))]
      · rwa [h.next_eq_nil hu]
    · have hnew : u.user ∉ seen := fun hmem' => hmem ((hseen _ hu).mp hmem')
      rw [others_cons_of_ne hu, firsts_cons_of_not_mem hnew] at hfirsts
      obtain ⟨more, known'', hmore, hvisits⟩ := visitsFrom_of_firsts_cons known hfirsts.symm
      rw [others_cons_of_ne hu, hvisits]
      refine congrArg (u :: ·) (ih known'' (fun v hv => ?_) ?_)
      · rw [List.mem_cons, List.mem_cons, hseen v hv]
      · unfold others
        rw [List.filter_append]
        exact firsts_append_congr (h.firsts_next u) hmore.symm

/-- **A walk is the same**, except that it comes by the bystander. -/
theorem filter_visits (root : ValueId) :
    others call (index'.visits root) = index.visits root :=
  h.filter_visitsFrom _ _ (fun _ _ => Iff.rfl) (h.firsts_readers root)

end Joins

end UseIndex

end Crosswalk

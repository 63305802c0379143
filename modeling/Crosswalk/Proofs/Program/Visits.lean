import Crosswalk.Program.Uses
import Mathlib.Data.List.Nodup
import Mathlib.Logic.Relation

/-!
# What a walk visits, and in which order

A walk of the readers of a value may wander far: through every call that was
given something the value went into. It visits all that it can reach
(`mem_visits_iff`), each instruction once, and each after another one that it
reads (`exists_before_of_visitsFrom`).

Often only a few of its visits matter. As long as those hang together as a tree
of depth one below the root, with nothing else leading into it, they are visited
in the order in which they are listed, whatever is visited in between
(`filter_visits`). More generally they are visited in some order if, wherever the
walk has a choice, what it comes to by one reader stands before what it comes to by
a later one (`pairwise_visits`).
-/

namespace Crosswalk

theorem collapseRuns_of_nodup {α : Type} [DecidableEq α] {l : List α} (h : l.Nodup) :
    collapseRuns l = l := by
  fun_induction collapseRuns l with
  | case1 => rfl
  | case2 => rfl
  | case3 b l ih => exact absurd List.mem_cons_self (List.nodup_cons.mp h).1
  | case4 a b l _ ih => exact congrArg (a :: ·) (ih (List.nodup_cons.mp h).2)

namespace UseIndex

variable {index : UseIndex} {root v : ValueId} {pending : List Use} {seen : List ValueId}
  {own : Use → Bool} {u w : Use}

/-- Where no instruction is listed twice, the readers are those that are listed. -/
theorem readers_of_nodup (h : index.uses.Nodup) (v : ValueId) :
    index.readers v = index.uses.filter (fun u => u.reads v) := by
  rw [readers_eq, collapseRuns_of_nodup (h.filter _)]

/-- **What a walk from `root` can reach.** -/
inductive Reached (index : UseIndex) (root : ValueId) : Use → Prop
  | reader {u : Use} (h : u ∈ index.readers root) : Reached index root u
  | next {u w : Use} (h : Reached index root u) (hw : w ∈ index.next u) : Reached index root w

namespace Reached

theorem mem_uses (h : index.Reached root u) : u ∈ index.uses := by
  cases h with
  | reader h => exact (mem_readers.mp h).1
  | next _ hw => exact mem_uses_of_mem_next hw

/-- What is reached reads the root, or the value of something that is reached. -/
theorem exists_read (h : index.Reached root u) :
    u.reads root = true ∨ ∃ w, index.Reached root w ∧ u.reads w.user = true := by
  cases h with
  | reader h => exact .inl (mem_readers.mp h).2
  | @next w u h hw =>
    unfold UseIndex.next at hw
    split at hw
    · exact .inr ⟨w, h, (mem_readers.mp hw).2⟩
    · cases hw

end Reached

/-- A visited instruction and the chosen ones among its own readers. -/
def branch (index : UseIndex) (own : Use → Bool) (u : Use) : List Use :=
  u :: (index.next u).filter own

/-- The chosen visits that come of pending instructions, if no more than these and their
readers are chosen. -/
def branches (index : UseIndex) (own : Use → Bool) (pending : List Use) : List Use :=
  (pending.filter own).flatMap (index.branch own)

theorem branches_append (first second : List Use) :
    index.branches own (first ++ second)
      = index.branches own first ++ index.branches own second := by
  unfold branches
  rw [List.filter_append, List.flatMap_append]

theorem branches_cons_of_own {rest : List Use} (h : own u = true) :
    index.branches own (u :: rest) = index.branch own u ++ index.branches own rest := by
  unfold branches
  rw [List.filter_cons_of_pos h, List.flatMap_cons]

theorem branches_cons_of_not_own {rest : List Use} (h : own u = false) :
    index.branches own (u :: rest) = index.branches own rest := by
  unfold branches
  rw [List.filter_cons_of_neg (h ▸ Bool.false_ne_true)]

theorem own_of_mem_branches (h : w ∈ index.branches own pending) : own w = true := by
  obtain ⟨u, hu, hw⟩ := List.mem_flatMap.mp h
  rcases List.mem_cons.mp hw with rfl | hw
  · exact (List.mem_filter.mp hu).2
  · exact (List.mem_filter.mp hw).2

theorem mem_uses_of_mem_branches (hpending : ∀ u ∈ pending, u ∈ index.uses)
    (h : w ∈ index.branches own pending) : w ∈ index.uses := by
  obtain ⟨u, hu, hw⟩ := List.mem_flatMap.mp h
  rcases List.mem_cons.mp hw with rfl | hw
  · exact hpending w (List.mem_of_mem_filter hu)
  · exact mem_uses_of_mem_next (List.mem_of_mem_filter hw)

/-- A chosen visit is no visit of an instruction that is not chosen. -/
theorem user_ne_of_mem_branches
    (hunique : ∀ u ∈ index.uses, ∀ w ∈ index.uses, u.user = w.user → u = w)
    (hpending : ∀ u ∈ pending, u ∈ index.uses) (hu : u ∈ index.uses) (hown : own u = false)
    (hw : w ∈ index.branches own pending) : w.user ≠ u.user := by
  intro heq
  have hwu := hunique w (mem_uses_of_mem_branches hpending hw) u hu heq
  have howned := own_of_mem_branches hw
  rw [hwu, hown] at howned
  cases howned

/-- Among readers without chosen readers, only they themselves are visited. -/
theorem branches_of_leaves (h : ∀ w ∈ pending.filter own, (index.next w).filter own = []) :
    index.branches own pending = pending.filter own := by
  unfold branches
  calc (pending.filter own).flatMap (index.branch own)
      = (pending.filter own).flatMap (fun w => [w]) :=
        List.flatMap_congr (fun w hw => congrArg (w :: ·) (h w hw))
    _ = pending.filter own := List.flatMap_singleton' _

/-- **The order of the chosen visits still to be made**: those of the pending
instructions, each followed by the chosen ones among its readers. -/
theorem filter_visitsFrom (known : ∀ u ∈ pending, u ∈ index.uses)
    (hunique : ∀ u ∈ index.uses, ∀ w ∈ index.uses, u.user = w.user → u = w)
    (hother : ∀ u, index.Reached root u → own u = false → (index.next u).filter own = [])
    (hdepth : ∀ u, index.Reached root u → own u = true → ∀ w ∈ (index.next u).filter own,
      (index.next w).filter own = [])
    (hpending : ∀ u ∈ pending, index.Reached root u)
    (hnodup : ((index.branches own pending).map Use.user).Nodup)
    (hseen : ∀ u ∈ index.branches own pending, u.user ∉ seen) :
    (index.visitsFrom pending known seen).filter own = index.branches own pending := by
  fun_induction visitsFrom index pending known seen with
  | case1 => rfl
  | case2 seen u rest known hmem _ ih =>
    have hrest := fun w hw => hpending w (List.mem_cons_of_mem u hw)
    cases hu : own u with
    | true =>
      rw [branches_cons_of_own hu] at hseen
      exact absurd hmem (hseen u (List.mem_append_left _ List.mem_cons_self))
    | false =>
      rw [branches_cons_of_not_own hu] at hnodup hseen ⊢
      exact ih hrest hnodup hseen
  | case3 seen u rest known hmem _ ih =>
    have hu := hpending u List.mem_cons_self
    have hreached : ∀ w ∈ index.next u ++ rest, index.Reached root w := by
      intro w hw
      rcases List.mem_append.mp hw with hw | hw
      · exact .next hu hw
      · exact hpending w (List.mem_cons_of_mem u hw)
    cases hown : own u with
    | true =>
      -- the chosen readers of `u` come next, and none of their readers is chosen
      rw [branches_cons_of_own hown] at hnodup hseen ⊢
      rw [branches_append, branches_of_leaves (hdepth u hu hown)] at ih
      rw [List.filter_cons_of_pos hown]
      have hnodup' := List.nodup_cons.mp hnodup
      refine congrArg (u :: ·) (ih hreached hnodup'.2 (fun w hw hmem' => ?_))
      rcases List.mem_cons.mp hmem' with heq | hmem'
      · exact hnodup'.1 (heq ▸ List.mem_map_of_mem hw)
      · exact hseen w (List.mem_cons_of_mem u hw) hmem'
    | false =>
      have hnext : index.branches own (index.next u) = [] := by
        unfold branches
        rw [hother u hu hown]
        rfl
      rw [branches_cons_of_not_own hown] at hnodup hseen ⊢
      rw [branches_append, hnext, List.nil_append] at ih
      rw [List.filter_cons_of_neg (hown ▸ Bool.false_ne_true)]
      refine ih hreached hnodup (fun w hw hmem' => ?_)
      rcases List.mem_cons.mp hmem' with heq | hmem'
      · have hrest := fun w hw => (hpending w (List.mem_cons_of_mem u hw)).mem_uses
        exact user_ne_of_mem_branches hunique hrest hu.mem_uses hown hw heq
      · exact hseen w hw hmem'

/-- **The order of the chosen visits of a walk**: the chosen readers of the root, each
followed by the chosen ones among its own readers. -/
theorem filter_visits
    (hunique : ∀ u ∈ index.uses, ∀ w ∈ index.uses, u.user = w.user → u = w)
    (hother : ∀ u, index.Reached root u → own u = false → (index.next u).filter own = [])
    (hdepth : ∀ u, index.Reached root u → own u = true → ∀ w ∈ (index.next u).filter own,
      (index.next w).filter own = [])
    (hnodup : ((index.branches own (index.readers root)).map Use.user).Nodup) :
    (index.visits root).filter own = index.branches own (index.readers root) :=
  filter_visitsFrom _ hunique hother hdepth (fun _ hu => .reader hu) hnodup
    (fun _ _ => List.not_mem_nil)

/-- A walk visits only what it can reach. -/
theorem reached_of_mem_visitsFrom (known : ∀ u ∈ pending, u ∈ index.uses)
    (hpending : ∀ u ∈ pending, index.Reached root u)
    (hu : u ∈ index.visitsFrom pending known seen) : index.Reached root u := by
  fun_induction visitsFrom index pending known seen with
  | case1 => cases hu
  | case2 seen w rest known hmem _ ih =>
    exact ih (fun x hx => hpending x (List.mem_cons_of_mem w hx)) hu
  | case3 seen w rest known hmem _ ih =>
    have hw := hpending w List.mem_cons_self
    rcases List.mem_cons.mp hu with rfl | hu
    · exact hw
    · refine ih (fun x hx => ?_) hu
      rcases List.mem_append.mp hx with hx | hx
      · exact .next hw hx
      · exact hpending x (List.mem_cons_of_mem w hx)

theorem reached_of_mem_visits (hu : u ∈ index.visits root) : index.Reached root u :=
  reached_of_mem_visitsFrom _ (fun _ hw => .reader hw) hu

/-! ## Every instruction that can be reached is visited -/

/-- From `u` the walk may go on to `w`. -/
def Onward (index : UseIndex) (u w : Use) : Prop := w ∈ index.next u

/-- **No visit repeats an earlier one.** -/
theorem nodup_visitsFrom (known : ∀ u ∈ pending, u ∈ index.uses) (seen : List ValueId) :
    ((index.visitsFrom pending known seen).map Use.user).Nodup ∧
      ∀ u ∈ index.visitsFrom pending known seen, u.user ∉ seen := by
  fun_induction visitsFrom index pending known seen with
  | case1 => exact ⟨List.nodup_nil, nofun⟩
  | case2 seen u rest known hmem _ ih => exact ih
  | case3 seen u rest known hmem _ ih =>
    constructor
    · refine List.nodup_cons.mpr ⟨fun hu => ?_, ih.1⟩
      obtain ⟨w, hw, heq⟩ := List.mem_map.mp hu
      exact ih.2 w hw (heq ▸ List.mem_cons_self)
    · intro w hw
      rcases List.mem_cons.mp hw with rfl | hw
      · exact hmem
      · exact fun hseen => ih.2 w hw (List.mem_cons_of_mem _ hseen)

theorem nodup_visits (index : UseIndex) (root : ValueId) :
    ((index.visits root).map Use.user).Nodup :=
  (nodup_visitsFrom _ []).1

theorem mem_uses_of_onward (h : Relation.ReflTransGen index.Onward u w) (hu : u ∈ index.uses) :
    w ∈ index.uses := by
  rcases h.cases_tail with rfl | ⟨_, -, hw⟩
  · exact hu
  · exact mem_uses_of_mem_next hw

/-- **The readers of what has been seen** have been seen as well, or are pending. -/
def Open (index : UseIndex) (pending : List Use) (seen : List ValueId) : Prop :=
  ∀ u ∈ index.uses, u.user ∈ seen → ∀ w ∈ index.next u, w.user ∈ seen ∨ w ∈ pending

/-- What comes of something seen has been seen, or comes of something pending. -/
theorem Open.exists_pending (h : index.Open pending seen) (hu : u ∈ index.uses)
    (hseen : u.user ∈ seen) (hw : Relation.ReflTransGen index.Onward u w) :
    w.user ∈ seen ∨ ∃ x ∈ pending, Relation.ReflTransGen index.Onward x w := by
  induction hw using Relation.ReflTransGen.head_induction_on with
  | refl => exact .inl hseen
  | @head a b hab hbw ih =>
    rcases h a hu hseen b hab with hb | hb
    · exact ih (mem_uses_of_mem_next hab) hb
    · exact .inr ⟨b, hb, hbw⟩

/-- What comes of pending instructions is visited, unless it has been seen before. -/
theorem mem_visitsFrom (known : ∀ u ∈ pending, u ∈ index.uses)
    (hunique : ∀ u ∈ index.uses, ∀ w ∈ index.uses, u.user = w.user → u = w)
    (hopen : index.Open pending seen) (hu : u ∈ pending)
    (hw : Relation.ReflTransGen index.Onward u w) :
    w.user ∈ seen ∨ w ∈ index.visitsFrom pending known seen := by
  fun_induction visitsFrom index pending known seen generalizing u with
  | case1 => cases hu
  | case2 seen v rest known hmem _ ih =>
    have hrest : index.Open rest seen := by
      intro x hx hseen y hy
      rcases hopen x hx hseen y hy with hy | hy
      · exact .inl hy
      · rcases List.mem_cons.mp hy with rfl | hy
        · exact .inl hmem
        · exact .inr hy
    rcases List.mem_cons.mp hu with rfl | hu
    · rcases hrest.exists_pending (known u List.mem_cons_self) hmem hw with hseen | ⟨x, hx, hxw⟩
      · exact .inl hseen
      · exact ih hrest hx hxw
    · exact ih hrest hu hw
  | case3 seen v rest known hmem _ ih =>
    have hv := known v List.mem_cons_self
    have hrest : index.Open (index.next v ++ rest) (v.user :: seen) := by
      intro x hx hseen y hy
      rcases List.mem_cons.mp hseen with heq | hseen
      · obtain rfl := hunique x hx v hv heq
        exact .inr (List.mem_append_left _ hy)
      · rcases hopen x hx hseen y hy with hy | hy
        · exact .inl (List.mem_cons_of_mem _ hy)
        · rcases List.mem_cons.mp hy with rfl | hy
          · exact .inl List.mem_cons_self
          · exact .inr (List.mem_append_right _ hy)
    -- what comes of `v` is `v` itself, or comes of one of its readers
    have hstep : w = v ∨ ∃ x ∈ index.next v ++ rest, Relation.ReflTransGen index.Onward x w := by
      rcases List.mem_cons.mp hu with rfl | hu
      · rcases hw.cases_head with heq | ⟨x, hx, hxw⟩
        · exact .inl heq.symm
        · exact .inr ⟨x, List.mem_append_left _ hx, hxw⟩
      · exact .inr ⟨u, List.mem_append_right _ hu, hw⟩
    rcases hstep with heq | ⟨x, hx, hxw⟩
    · exact .inr (List.mem_cons.mpr (.inl heq))
    · rcases ih hrest hx hxw with hseen | hvisit
      · rcases List.mem_cons.mp hseen with heq | hseen
        · have hwv := hunique w (mem_uses_of_onward hw (known u hu)) v hv heq
          exact .inr (List.mem_cons.mpr (.inl hwv))
        · exact .inl hseen
      · exact .inr (List.mem_cons_of_mem v hvisit)

theorem Reached.exists_reader (h : index.Reached root u) :
    ∃ w ∈ index.readers root, Relation.ReflTransGen index.Onward w u := by
  induction h with
  | reader h => exact ⟨_, h, .refl⟩
  | next _ hw ih =>
    obtain ⟨v, hv, hvu⟩ := ih
    exact ⟨v, hv, hvu.tail hw⟩

/-- **A walk visits just what it can reach.** -/
theorem mem_visits_iff
    (hunique : ∀ u ∈ index.uses, ∀ w ∈ index.uses, u.user = w.user → u = w) :
    u ∈ index.visits root ↔ index.Reached root u := by
  refine ⟨reached_of_mem_visits, fun h => ?_⟩
  obtain ⟨w, hw, hwu⟩ := h.exists_reader
  have hopen : index.Open (index.readers root) [] := fun _ _ hseen => absurd hseen List.not_mem_nil
  exact (mem_visitsFrom _ hunique hopen hw hwu).resolve_left List.not_mem_nil

/-! ## The order of visits -/

/-- **Every visit is of something pending, or of a reader of an earlier visit.** -/
theorem exists_before_of_visitsFrom {before after : List Use}
    (known : ∀ u ∈ pending, u ∈ index.uses)
    (h : index.visitsFrom pending known seen = before ++ u :: after) :
    u ∈ pending ∨ ∃ w ∈ before, u ∈ index.next w := by
  fun_induction visitsFrom index pending known seen generalizing before with
  | case1 => exact absurd h.symm (List.append_ne_nil_of_right_ne_nil _ (List.cons_ne_nil _ _))
  | case2 seen v rest known hmem _ ih => exact (ih h).imp_left (List.mem_cons_of_mem v)
  | case3 seen v rest known hmem _ ih =>
    cases before with
    | nil =>
      obtain ⟨rfl, -⟩ := List.cons.inj h
      exact .inl List.mem_cons_self
    | cons x before =>
      obtain ⟨rfl, htail⟩ := List.cons.inj h
      rcases ih htail with hu | ⟨w, hw, hu⟩
      · rcases List.mem_append.mp hu with hu | hu
        · exact .inr ⟨v, List.mem_cons_self, hu⟩
        · exact .inl (List.mem_cons_of_mem v hu)
      · exact .inr ⟨w, List.mem_cons_of_mem v hw, hu⟩

/-- A visit comes of something pending. -/
theorem exists_pending_of_mem_visitsFrom (known : ∀ u ∈ pending, u ∈ index.uses)
    (hw : w ∈ index.visitsFrom pending known seen) :
    ∃ u ∈ pending, Relation.ReflTransGen index.Onward u w := by
  fun_induction visitsFrom index pending known seen with
  | case1 => cases hw
  | case2 seen v rest known hmem _ ih =>
    obtain ⟨u, hu, huw⟩ := ih hw
    exact ⟨u, List.mem_cons_of_mem v hu, huw⟩
  | case3 seen v rest known hmem _ ih =>
    rcases List.mem_cons.mp hw with rfl | hw
    · exact ⟨w, List.mem_cons_self, .refl⟩
    · obtain ⟨u, hu, huw⟩ := ih hw
      rcases List.mem_append.mp hu with hu | hu
      · exact ⟨v, List.mem_cons_self, huw.head hu⟩
      · exact ⟨u, List.mem_cons_of_mem v hu, huw⟩

/-- **What comes of `u` stands before what comes of `w`**, as far as it is chosen. -/
def Apart (index : UseIndex) (chosen : Use → Prop) (R : Use → Use → Prop) (u w : Use) : Prop :=
  ∀ x y, Relation.ReflTransGen index.Onward u x → Relation.ReflTransGen index.Onward w y →
    chosen x → chosen y → x = y ∨ R x y

variable {chosen : Use → Prop} {R : Use → Use → Prop}

/-- What comes of an instruction whose readers are read by nothing. -/
theorem mem_of_onward_of_shallow {x : Use} (hu : ∀ w ∈ index.next u, index.next w = [])
    (h : Relation.ReflTransGen index.Onward u x) : x ∈ u :: index.next u := by
  rcases h.cases_head with rfl | ⟨w, hw, hwx⟩
  · exact List.mem_cons_self
  rcases hwx.cases_head with rfl | ⟨v, hv, -⟩
  · exact List.mem_cons_of_mem u hw
  · unfold Onward at hv
    rw [hu w hw] at hv
    exact absurd hv List.not_mem_nil

theorem apart_of_shallow (hu : ∀ x ∈ index.next u, index.next x = [])
    (hw : ∀ y ∈ index.next w, index.next y = [])
    (h : ∀ x ∈ u :: index.next u, ∀ y ∈ w :: index.next w, chosen x → chosen y → x = y ∨ R x y) :
    index.Apart chosen R u w :=
  fun x y hx hy => h x (mem_of_onward_of_shallow hu hx) y (mem_of_onward_of_shallow hw hy)

/-- The chosen visits still to be made stand in order, if the pending instructions and all
readers do. -/
theorem pairwise_visitsFrom (known : ∀ u ∈ pending, u ∈ index.uses)
    (hleaf : ∀ u, chosen u → index.next u = [])
    (hreaders : ∀ u, index.Reached root u → (index.next u).Pairwise (index.Apart chosen R))
    (hreached : ∀ u ∈ pending, index.Reached root u)
    (hpending : pending.Pairwise (index.Apart chosen R)) :
    (index.visitsFrom pending known seen).Pairwise (fun u w => chosen u → chosen w → R u w) := by
  fun_induction visitsFrom index pending known seen with
  | case1 => exact .nil
  | case2 seen u rest known hmem _ ih =>
    exact ih (fun w hw => hreached w (List.mem_cons_of_mem u hw)) (List.pairwise_cons.mp hpending).2
  | case3 seen u rest known hmem _ ih =>
    have hu := hreached u List.mem_cons_self
    obtain ⟨hfirst, hrest⟩ := List.pairwise_cons.mp hpending
    have hreached' : ∀ w ∈ index.next u ++ rest, index.Reached root w := by
      intro w hw
      rcases List.mem_append.mp hw with hw | hw
      · exact .next hu hw
      · exact hreached w (List.mem_cons_of_mem u hw)
    -- what comes of a reader of `u` comes of `u`
    have hpending' : (index.next u ++ rest).Pairwise (index.Apart chosen R) := by
      refine List.pairwise_append.mpr ⟨hreaders u hu, hrest, fun a ha b hb x y hx hy => ?_⟩
      exact hfirst b hb x y (hx.head ha) hy
    refine List.pairwise_cons.mpr ⟨fun y hy hown howny => ?_, ih hreached' hpending'⟩
    obtain ⟨b, hb, hby⟩ := exists_pending_of_mem_visitsFrom _ hy
    rw [hleaf u hown, List.nil_append] at hb
    refine (hfirst b hb u y .refl hby hown howny).resolve_left ?_
    rintro rfl
    exact (nodup_visitsFrom _ _).2 u hy List.mem_cons_self

/-- **The chosen visits of a walk stand in order**, if wherever it has a choice, what comes
of one reader stands before what comes of a later one. -/
theorem pairwise_visits (hleaf : ∀ u, chosen u → index.next u = [])
    (hroot : (index.readers root).Pairwise (index.Apart chosen R))
    (hreaders : ∀ u, index.Reached root u → (index.next u).Pairwise (index.Apart chosen R)) :
    (index.visits root).Pairwise (fun u w => chosen u → chosen w → R u w) :=
  pairwise_visitsFrom _ hleaf hreaders (fun _ hu => .reader hu) hroot

/-! ## Following a walk

The walk is made by a recursion that does not compute by itself. Followed for a given
number of turns, it does. -/

/-- The visits still to be made, if there are no more than `n` turns to them. -/
def visitsWithin (index : UseIndex) : Nat → List Use → List ValueId → Option (List Use)
  | 0, _, _ => none
  | _ + 1, [], _ => some []
  | n + 1, u :: rest, seen =>
    if u.user ∈ seen then index.visitsWithin n rest seen
    else (index.visitsWithin n (index.next u ++ rest) (u.user :: seen)).map (u :: ·)

theorem visitsFrom_of_visitsWithin {n : Nat} {l : List Use} (known : ∀ u ∈ pending, u ∈ index.uses)
    (h : index.visitsWithin n pending seen = some l) : index.visitsFrom pending known seen = l := by
  fun_induction visitsFrom index pending known seen generalizing n l with
  | case1 seen =>
    cases n with
    | zero => cases h
    | succ n => exact Option.some.inj h
  | case2 seen u rest known hmem _ ih =>
    cases n with
    | zero => cases h
    | succ n =>
      rw [visitsWithin, if_pos hmem] at h
      exact ih h
  | case3 seen u rest known hmem _ ih =>
    cases n with
    | zero => cases h
    | succ n =>
      rw [visitsWithin, if_neg hmem] at h
      obtain ⟨l, hl, rfl⟩ := Option.map_eq_some_iff.mp h
      exact congrArg (u :: ·) (ih hl)

/-- **A walk that is followed to its end** has made these visits. -/
theorem visits_of_visitsWithin {n : Nat} {l : List Use}
    (h : index.visitsWithin n (index.readers root) [] = some l) : index.visits root = l :=
  visitsFrom_of_visitsWithin _ h

end UseIndex

end Crosswalk

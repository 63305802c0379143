import Mathlib.Data.List.Forall2
import Mathlib.Data.List.Nodup

/-!
# Lists side by side

Two lists that come of one another place by place are related by
`List.Forall₂`. These are the facts about it that the library does not have.
-/

namespace Crosswalk

/-- Relations that chain do so place by place along lists. -/
theorem forall₂_trans {α β γ : Type} {R : α → β → Prop} {S : β → γ → Prop} {T : α → γ → Prop}
    (hT : ∀ a b c, R a b → S b c → T a c) : ∀ {as : List α} {bs : List β} {cs : List γ},
      List.Forall₂ R as bs → List.Forall₂ S bs cs → List.Forall₂ T as cs
  | _, _, _, .nil, .nil => .nil
  | _, _, _, .cons h hs, .cons h' hs' => .cons (hT _ _ _ h h') (forall₂_trans hT hs hs')

/-- Place by place, only the members of the two lists matter. -/
theorem forall₂_imp_mem {α β : Type} {R S : α → β → Prop} :
    ∀ {as : List α} {bs : List β}, (∀ a ∈ as, ∀ b ∈ bs, R a b → S a b) →
      List.Forall₂ R as bs → List.Forall₂ S as bs
  | _, _, _, .nil => .nil
  | _, _, h, .cons hab htail =>
    .cons (h _ List.mem_cons_self _ List.mem_cons_self hab)
      (forall₂_imp_mem (fun _ ha _ hb =>
        h _ (List.mem_cons_of_mem _ ha) _ (List.mem_cons_of_mem _ hb)) htail)

variable {α β γ : Type} {R : α → β → Prop} {as : List α} {bs : List β} {a : α} {b : β}

/-- Every member of the second list stands beside one of the first. -/
theorem exists_beside (h : List.Forall₂ R as bs) (hb : b ∈ bs) : ∃ a ∈ as, R a b := by
  induction h with
  | nil => cases hb
  | cons hab _ ih =>
    rcases List.mem_cons.mp hb with rfl | hb
    · exact ⟨_, List.mem_cons_self, hab⟩
    · obtain ⟨a, ha, hab⟩ := ih hb
      exact ⟨a, List.mem_cons_of_mem _ ha, hab⟩

/-- Every member of the first list stands beside one of the second. -/
theorem exists_beside_left (h : List.Forall₂ R as bs) (ha : a ∈ as) : ∃ b ∈ bs, R a b :=
  exists_beside h.flip ha

/-- What agrees place by place under two readings reads the same. -/
theorem map_eq_map_of_forall₂ {f : α → γ} {g : β → γ}
    (h : List.Forall₂ (fun a b => f a = g b) as bs) : as.map f = bs.map g := by
  induction h with
  | nil => rfl
  | cons hab _ ih => exact congrArg₂ List.cons hab ih

theorem mapM_eq_mapM_of_forall₂ {m : Type → Type} [Monad m] [LawfulMonad m] {f : α → m γ}
    {g : β → m γ} (h : List.Forall₂ (fun a b => f a = g b) as bs) : as.mapM f = bs.mapM g := by
  induction h with
  | nil => rfl
  | cons hab _ ih => rw [List.mapM_cons, List.mapM_cons, hab, ih]

/-- Where each member is what comes of the one beside it, so is the list. -/
theorem eq_map_of_forall₂ {f : α → β} (h : List.Forall₂ (fun a b => b = f a) as bs) :
    bs = as.map f := by
  induction h with
  | nil => rfl
  | cons hab _ ih => exact congrArg₂ List.cons hab ih

/-- Where only one thing may stand beside a member, what stands beside all of them comes of them
by a function. -/
theorem exists_map_of_forall₂ [Inhabited β] (h : List.Forall₂ R as bs)
    (hunique : ∀ a b b', R a b → R a b' → b = b') :
    ∃ f : α → β, bs = as.map f ∧ ∀ a ∈ as, R a (f a) := by
  classical
  let f : α → β := fun a => if ha : ∃ b, R a b then ha.choose else default
  have hf : ∀ a b, R a b → R a (f a) := by
    intro a b hab
    have ha : ∃ b, R a b := ⟨b, hab⟩
    have hchosen : f a = ha.choose := dif_pos ha
    exact hchosen ▸ ha.choose_spec
  refine ⟨f, eq_map_of_forall₂ (h.imp (fun a b hab => hunique a b _ hab (hf a b hab))), ?_⟩
  intro a ha
  obtain ⟨b, -, hab⟩ := exists_beside_left h ha
  exact hf a b hab

/-- Where every member has something beside it in the second list, a choice of such members
can be laid out place by place. -/
theorem exists_forall₂_of_forall_exists (h : ∀ a ∈ as, ∃ b ∈ bs, R a b) :
    ∃ cs, List.Forall₂ R as cs ∧ ∀ c ∈ cs, c ∈ bs := by
  induction as with
  | nil => exact ⟨[], .nil, fun _ hc => absurd hc List.not_mem_nil⟩
  | cons a as ih =>
    obtain ⟨b, hb, hab⟩ := h a List.mem_cons_self
    obtain ⟨cs, hcs, hsub⟩ := ih (fun a ha => h a (List.mem_cons_of_mem _ ha))
    refine ⟨b :: cs, .cons hab hcs, fun c hc => ?_⟩
    rcases List.mem_cons.mp hc with rfl | hc
    · exact hb
    · exact hsub c hc

theorem flatMap_eq_flatMap_of_forall₂ {f : α → List γ} {g : β → List γ}
    (h : List.Forall₂ (fun a b => f a = g b) as bs) : as.flatMap f = bs.flatMap g := by
  rw [List.flatMap_def, List.flatMap_def, map_eq_map_of_forall₂ h]

/-- Members that nothing comes of may be left out. -/
theorem flatMap_filter_of_eq_nil {f : α → List β} {keep : α → Bool}
    (h : ∀ a ∈ as, ¬ keep a = true → f a = []) : (as.filter keep).flatMap f = as.flatMap f := by
  induction as with
  | nil => rfl
  | cons a as ih =>
    have ih := ih (fun b hb => h b (List.mem_cons_of_mem a hb))
    by_cases ha : keep a = true
    · rw [List.filter_cons_of_pos ha, List.flatMap_cons, List.flatMap_cons, ih]
    · rw [List.filter_cons_of_neg ha, List.flatMap_cons, h a List.mem_cons_self ha, ih,
        List.nil_append]

/-- What comes of the members of many lists comes of one list after the other. -/
theorem flatMap_flatten (f : α → List β) (ls : List (List α)) :
    ls.flatten.flatMap f = (ls.map (List.flatMap f)).flatten := by
  induction ls with
  | nil => rfl
  | cons l ls ih =>
    rw [List.flatten_cons, List.flatMap_append, ih, List.map_cons, List.flatten_cons]

/-- What is added to the last member that something comes of, is added at the end. -/
theorem flatMap_set {f : α → List β} {l : List α} {i : Nat} {a b : α} {more : List β}
    (ha : l[i]? = some a) (hb : f b = f a ++ more)
    (hrest : ∀ j c, i < j → l[j]? = some c → f c = []) :
    (l.set i b).flatMap f = l.flatMap f ++ more := by
  induction l generalizing i with
  | nil => cases ha
  | cons c l ih =>
    cases i with
    | zero =>
      obtain rfl := Option.some.inj ha
      have hnil : l.flatMap f = [] := by
        refine List.flatMap_eq_nil_iff.mpr (fun c hc => ?_)
        obtain ⟨j, hj⟩ := List.mem_iff_getElem?.mp hc
        exact hrest (j + 1) c (Nat.succ_pos j) hj
      rw [List.set_cons_zero, List.flatMap_cons, List.flatMap_cons, hnil, hb, List.append_nil,
        List.append_nil]
    | succ i =>
      rw [List.set_cons_succ, List.flatMap_cons, List.flatMap_cons, List.append_assoc,
        ih ha (fun j d hj hd => hrest (j + 1) d (Nat.succ_lt_succ hj) hd)]

/-! ## Sorted lists -/

/-- **Lists that are sorted alike stay side by side.** -/
theorem forall₂_mergeSort {le : α → α → Bool} {le' : β → β → Bool}
    (hle : ∀ a b a' b', R a b → R a' b' → le a a' = le' b b') (h : List.Forall₂ R as bs) :
    List.Forall₂ R (as.mergeSort le) (bs.mergeSort le') := by
  obtain ⟨hlength, hpairs⟩ := List.forall₂_iff_zip.mp h
  -- sorting the pairs by what is on the left sorts what is on the right too
  let pairs := (as.zip bs).mergeSort (fun x y => le x.1 y.1)
  have hleft : pairs.map Prod.fst = as.mergeSort le := by
    have hsort : pairs.map Prod.fst = ((as.zip bs).map Prod.fst).mergeSort le :=
      List.map_mergeSort (fun _ _ _ _ => rfl)
    rw [hsort, List.map_fst_zip (Nat.le_of_eq hlength)]
  have hright : pairs.map Prod.snd = bs.mergeSort le' := by
    have hsort : pairs.map Prod.snd = ((as.zip bs).map Prod.snd).mergeSort le' :=
      List.map_mergeSort (fun x hx y hy => hle _ _ _ _ (hpairs hx) (hpairs hy))
    rw [hsort, List.map_snd_zip (Nat.le_of_eq hlength.symm)]
  rw [← hleft, ← hright, List.forall₂_map_left_iff, List.forall₂_map_right_iff]
  exact List.forall₂_same.mpr (fun x hx => hpairs (List.mem_mergeSort.mp hx))

/-- **Sorted lists whose members correspond are side by side**, if no two members of the first
have one key. -/
theorem forall₂_of_pairwise {le : α → α → Prop} {le' : β → β → Prop} {key : α → γ} {key' : β → γ}
    (hsorted : as.Pairwise le) (hsorted' : bs.Pairwise le')
    (hle : ∀ a b a' b', R a b → R a' b' → le a a' → le' b b')
    (hkey : ∀ a b, R a b → key a = key' b)
    (hanti : ∀ b b', le' b b' → le' b' b → key' b = key' b') (hnodup : (as.map key).Nodup)
    (hnodup' : bs.Nodup) (hforth : ∀ a ∈ as, ∃ b ∈ bs, R a b) (hback : ∀ b ∈ bs, ∃ a ∈ as, R a b)
    (hunique : ∀ a, ∀ b ∈ bs, ∀ b' ∈ bs, R a b → R a b' → b = b') : List.Forall₂ R as bs := by
  obtain ⟨cs, hcs, hsub⟩ := exists_forall₂_of_forall_exists hforth
  have hkeys : (cs.map key').Nodup := map_eq_map_of_forall₂ (hcs.imp hkey) ▸ hnodup
  have hperm : cs.Perm bs := by
    refine (List.perm_ext_iff_of_nodup (.of_map _ hkeys) hnodup').mpr (fun b => ?_)
    refine ⟨hsub b, fun hb => ?_⟩
    obtain ⟨a, ha, hab⟩ := hback b hb
    obtain ⟨c, hc, hac⟩ := exists_beside_left hcs ha
    exact hunique a b hb c (hsub c hc) hab hac ▸ hc
  have hsortedCs : cs.Pairwise le' := by
    clear hkeys hperm hsub hback hforth hnodup
    induction hcs with
    | nil => exact .nil
    | cons hab hrest ih =>
      obtain ⟨hfirst, hsorted⟩ := List.pairwise_cons.mp hsorted
      refine .cons (fun c hc => ?_) (ih hsorted)
      obtain ⟨a, ha, hac⟩ := exists_beside hrest hc
      exact hle _ _ _ _ hab hac (hfirst a ha)
  rw [← hperm.eq_of_pairwise (fun c b hc hb h h' => ?_) hsortedCs hsorted']
  · exact hcs
  · exact List.inj_on_of_nodup_map hkeys hc (hperm.mem_iff.mpr hb) (hanti c b h h')

/-! ## Keys -/

/-- **Where no two members have one key, a key has one member.** -/
theorem filter_eq_singleton [DecidableEq β] {key : α → β} (h : (as.map key).Nodup) (ha : a ∈ as) :
    as.filter (fun c => key c = key a) = [a] := by
  induction as with
  | nil => cases ha
  | cons c as ih =>
    obtain ⟨hc, h⟩ := List.nodup_cons.mp h
    rcases List.mem_cons.mp ha with rfl | ha
    · have hnone : as.filter (fun c => key c = key a) = [] := by
        refine List.filter_eq_nil_iff.mpr (fun c hmem heq => hc ?_)
        exact of_decide_eq_true heq ▸ List.mem_map_of_mem hmem
      rw [List.filter_cons_of_pos (by simp), hnone]
    · have hne : key c ≠ key a := fun heq => hc (heq ▸ List.mem_map_of_mem ha)
      rw [List.filter_cons_of_neg (by simpa using hne), ih h ha]

/-- **Sorted by a key, nothing is lost**: the members with each of the keys, one key
after another, are all the members. -/
theorem flatMap_filter_perm [DecidableEq β] {key : α → β} {keys : List β} (hkeys : keys.Nodup)
    (hall : ∀ a ∈ as, key a ∈ keys) :
    (keys.flatMap (fun k => as.filter (fun a => key a = k))).Perm as := by
  induction keys generalizing as with
  | nil =>
    rw [List.eq_nil_iff_forall_not_mem.mpr (fun a ha => List.not_mem_nil (hall a ha))]
    rfl
  | cons k keys ih =>
    obtain ⟨hk, hkeys⟩ := List.nodup_cons.mp hkeys
    -- what has another key has it among the members without the key `k`
    have hrest : keys.flatMap (fun k' => as.filter (fun a => key a = k'))
        = keys.flatMap (fun k' => (as.filter (fun a => !decide (key a = k))).filter
          (fun a => key a = k')) := by
      refine List.flatMap_congr (fun k' hk' => ?_)
      rw [List.filter_filter]
      refine List.filter_congr (fun a _ => ?_)
      by_cases heq : key a = k'
      · have hne : key a ≠ k := fun h => hk (h ▸ heq ▸ hk')
        simp [heq, heq ▸ hne]
      · simp [heq]
    rw [List.flatMap_cons, hrest]
    refine ((ih hkeys (fun a ha => ?_)).append_left _).trans (List.filter_append_perm _ as)
    obtain ⟨ha, hne⟩ := List.mem_filter.mp ha
    rcases List.mem_cons.mp (hall a ha) with heq | hmem
    · rw [heq, decide_eq_true rfl] at hne
      cases hne
    · exact hmem

/-- A member of a list with one more in front is this one, or a member of the list. -/
theorem exists_split_cons {α : Type} {a b : α} {l : List α} {P : List α → Prop} :
    (∃ before after, a :: l = before ++ b :: after ∧ P before) ↔
      b = a ∧ P [] ∨ ∃ before after, l = before ++ b :: after ∧ P (a :: before) := by
  constructor
  · rintro ⟨before, after, h, hP⟩
    cases before with
    | nil => exact .inl ⟨(List.cons.inj h).1.symm, hP⟩
    | cons c before =>
      obtain ⟨rfl, htail⟩ := List.cons.inj h
      exact .inr ⟨before, after, htail, hP⟩
  · rintro (⟨rfl, hP⟩ | ⟨before, after, rfl, hP⟩)
    · exact ⟨[], l, rfl, hP⟩
    · exact ⟨a :: before, after, rfl, hP⟩

/-- Where every member gives something, what a list gives stands beside it. -/
theorem forall₂_filterMap {α β : Type} {f : α → Option β} {l : List α}
    (h : ∀ a ∈ l, ∃ b, f a = some b) : List.Forall₂ (fun a b => f a = some b) l (l.filterMap f) := by
  induction l with
  | nil => exact .nil
  | cons a l ih =>
    obtain ⟨b, hb⟩ := h a List.mem_cons_self
    rw [List.filterMap_cons_some hb]
    exact .cons hb (ih (fun c hc => h c (List.mem_cons_of_mem a hc)))

/-- What a change leaves as it is of every member, it leaves as it is of the list. -/
theorem map_modify_of_eq {f : α → β} {change : α → α} (h : ∀ a, f (change a) = f a) (as : List α)
    (i : Nat) : (as.modify i change).map f = as.map f := by
  induction as generalizing i with
  | nil => rw [List.modify_nil]
  | cons a as ih =>
    cases i with
    | zero => rw [List.modify_zero_cons, List.map_cons, List.map_cons, h]
    | succ i => rw [List.modify_succ_cons, List.map_cons, List.map_cons, ih]

/-- What is put into a list and left out again does not matter. -/
theorem filter_insertIdx_of_neg {keep : α → Bool} (h : ¬ keep a = true) (as : List α) (i : Nat) :
    (as.insertIdx i a).filter keep = as.filter keep := by
  induction as generalizing i with
  | nil =>
    cases i with
    | zero => exact List.filter_cons_of_neg h
    | succ i => rfl
  | cons b as ih =>
    cases i with
    | zero => exact List.filter_cons_of_neg h
    | succ i => rw [List.insertIdx_succ_cons, List.filter_cons, List.filter_cons, ih]

end Crosswalk

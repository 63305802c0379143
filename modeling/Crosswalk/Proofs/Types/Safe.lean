import Crosswalk.Proofs.Types.Assignability
import Crosswalk.Proofs.Types.Shown
import Crosswalk.Record

/-!
# Safe questions about types

Whatever is asked about a closed table follows no position past its end, if it is asked
of positions that exist; and the positions that are answered exist again. Taking layers
off ends by itself. Comparing and showing types descends into them, so there it matters
whether a type is met again inside itself.

## What a type is shown by

A type is shown by its parts, a name by itself. There is one exception: the last
parameter of a variadic function is shown by its elements, which are looked for behind
its names. So a name may lead back to a function type that it is declared by way of.
-/

namespace Crosswalk

namespace TypeTable

variable {t : TypeTable} {id a b : TypeId} {k : TypeKind} {n : Nat} {loops : Prop}

/-- **Showing the type at `a` involves showing the one at `b`.** -/
inductive Unfolds (t : TypeTable) (a : TypeId) : TypeId → Prop
  /-- It is a part of the literal at `a`. -/
  | part {b : TypeId} (h : t.Contains a b) : Unfolds t a b
  /-- It is what the last parameter of a variadic function takes any number of. -/
  | rest {params results : List TypeId} {p b : TypeId}
      (hk : t.kind? a = some (.signature params results true)) (hp : params.getLast? = some p)
      (hb : t.elem p = .ok (some b)) : Unfolds t a b

/-- **No type is met again inside itself**, neither as a part of a literal nor as what a
variadic function takes. -/
def Acyclic (t : TypeTable) : Prop := ∀ id, ¬ Relation.TransGen t.Unfolds id id

/-- **A table whose types can be compared**: it is closed, and no literal goes deeper than
there are entries, unless that is excused. -/
structure Grounded (loops : Prop) (t : TypeTable) : Prop where
  /-- Every position that is mentioned exists. -/
  closed : t.Closed
  /-- Literals have an end. -/
  shallow : loops ∨ ∀ id, t.Shallow (t.size + 1) id

/-- **A table that walks can be trusted to**: it is closed, and it goes round in no
circle unless that is excused. -/
structure Tame (loops : Prop) (t : TypeTable) : Prop where
  /-- Every position that is mentioned exists. -/
  closed : t.Closed
  /-- No type is met again inside itself. -/
  acyclic : loops ∨ t.Acyclic

/-! ## Layers -/

namespace Has

theorem kind_safe (hid : t.Has id) : (t.kind id).Safe loops (fun k => t.kind? id = some k) := by
  obtain ⟨k, hk⟩ := exists_kind_of_has hid
  exact .of_eq_ok (kind_of_kind? hk) hk

theorem isError_safe (hid : t.Has id) : (t.isError id).Safe loops (fun _ => True) := by
  refine hid.kind_safe.bind (fun k _ => ?_)
  split <;> exact trivial

theorem isNamed_safe (hid : t.Has id) : (t.isNamed id).Safe loops (fun _ => True) := by
  obtain ⟨k, hk⟩ := exists_kind_of_has hid
  exact .of_eq_ok (isNamed_of_kind? hk) trivial

end Has

namespace Closed

theorem pointee_safe (ht : t.Closed) (hid : t.Has id) :
    (t.pointee id).Safe loops (fun found => ∀ e ∈ found, t.Has e) := by
  obtain ⟨k, hk⟩ := exists_kind_of_has hid
  refine .of_eq_ok (pointee_of_kind? hk) (fun e he => ?_)
  obtain rfl := TypeKind.pointee?_eq_some he
  exact ht id _ hk e List.mem_cons_self

theorem deref_safe (ht : t.Closed) (hid : t.Has id) : (t.deref id).Safe loops t.Has := by
  refine (ht.pointee_safe hid).bind (fun found hfound => ?_)
  cases found with
  | none => exact hid
  | some e => exact hfound e rfl

theorem has_of_inside? (ht : t.Closed) (hk : t.kind? a = some k) (hin : k.inside? = some b) :
    t.Has b := by
  cases k with
  | pointer elem => exact Option.some.inj hin ▸ ht a _ hk _ List.mem_cons_self
  | named name package underlying =>
    exact Option.some.inj hin ▸ ht a _ hk _ List.mem_cons_self
  | _ => cases hin

theorem unname_safe (ht : t.Closed) (hid : t.Has id) : (t.unname id).Safe loops t.Has := by
  obtain ⟨k, hk⟩ := exists_kind_of_has hid
  refine .of_eq_ok (unname_of_kind? hk) ?_
  cases hu : k.declared? with
  | none => exact hid
  | some u => exact ht.has_of_inside? hk (TypeKind.inside?_eq_of_declared? hu)

theorem peelUpTo_safe (ht : t.Closed) (hid : t.Has id) :
    (t.peelUpTo n id).Safe loops (fun peeled => t.Has peeled.shape) := by
  induction n generalizing id with
  | zero => exact hid
  | succ n ih =>
    obtain ⟨k, hk⟩ := exists_kind_of_has hid
    cases hin : k.inside? with
    | none => exact .of_eq_ok (peelUpTo_of_inside?_eq_none hk hin) hid
    | some u =>
      obtain ⟨layer, hpeel⟩ := peelUpTo_succ_of_inside? (n := n) hk hin
      rw [hpeel]
      exact (ih (ht.has_of_inside? hk hin)).bind (fun _ hshape => hshape)

theorem peel_safe (ht : t.Closed) (hid : t.Has id) :
    (t.peel id).Safe loops (fun peeled => t.Has peeled.shape) :=
  ht.peelUpTo_safe hid

theorem peelNamesUpTo_safe (ht : t.Closed) (hid : t.Has id) :
    (t.peelNamesUpTo n id).Safe loops (fun peeled => t.Has peeled.shape) := by
  induction n generalizing id with
  | zero => exact hid
  | succ n ih =>
    obtain ⟨k, hk⟩ := exists_kind_of_has hid
    rw [peelNamesUpTo, kind_of_kind? hk, ok_bind]
    split
    · exact (ih (ht id _ hk _ List.mem_cons_self)).bind (fun _ hshape => hshape)
    · exact hid

theorem isReferenceShaped_safe (ht : t.Closed) (hid : t.Has id) :
    (t.isReferenceShaped id).Safe loops (fun _ => True) := by
  refine (ht.peelNamesUpTo_safe hid).bind (fun peeled hshape => ?_)
  refine hshape.kind_safe.bind (fun k _ => ?_)
  split <;> exact trivial

/-- **The elements of a slice or an array** exist. -/
theorem elem_safe (ht : t.Closed) (hid : t.Has id) :
    (t.elem id).Safe loops (fun found => ∀ e ∈ found, t.Has e) := by
  refine (ht.underlying_safe hid).bind (fun u hu => ?_)
  refine hu.kind_safe.bind (fun k hk => ?_)
  split
  · exact fun e he => Option.some.inj he ▸ ht u _ hk _ List.mem_cons_self
  · exact fun e he => Option.some.inj he ▸ ht u _ hk _ List.mem_cons_self
  · exact nofun

theorem sliceShape_safe (ht : t.Closed) (hid : t.Has id) :
    (t.sliceShape id).Safe loops (fun found => ∀ s ∈ found, t.Has s) := by
  refine (ht.peel_safe hid).bind (fun peeled hshape => ?_)
  refine hshape.kind_safe.bind (fun k _ => ?_)
  split
  · exact fun s hs => Option.some.inj hs ▸ hshape
  · exact nofun

/-- The types of a struct's fields exist. -/
theorem structFields_safe (ht : t.Closed) (hid : t.Has id) :
    (t.structFields id).Safe loops
      (fun found => ∀ members ∈ found, ∀ m ∈ members, t.Has m.type) := by
  refine (ht.peel_safe hid).bind (fun peeled hshape => ?_)
  refine hshape.kind_safe.bind (fun k hk => ?_)
  split
  · intro members hmembers m hm
    obtain rfl := Option.some.inj hmembers
    exact ht _ _ hk _ (List.mem_map_of_mem hm)
  · exact nofun

/-- **The record behind a type** and the types of its fields exist. -/
theorem resolve_safe (ht : t.Closed) (hid : t.Has id) :
    (RecordType.resolve t id).Safe loops
      (fun found => ∀ r ∈ found, ∀ f ∈ r.fields, t.Has f.type) := by
  refine (ht.peel_safe hid).bind (fun peeled hshape => ?_)
  refine (ht.structFields_safe hshape).bind (fun found hfound => ?_)
  intro r hr f hf
  obtain ⟨members, hmembers, rfl⟩ := Option.map_eq_some_iff.mp hr
  obtain ⟨i, hi, rfl⟩ := List.mem_mapIdx.mp hf
  exact hfound members hmembers _ (List.getElem_mem hi)

end Closed

/-! ## Descending into types -/

theorem Unfolds.has (ht : t.Closed) (h : t.Unfolds a b) : t.Has b := by
  cases h with
  | part h => exact h.has ht
  | rest hk hp hb =>
    have hhas := ht a _ hk _ (List.mem_append_left _ (List.mem_of_getLast? hp))
    have hsafe : (t.elem _).Safe False (fun found => ∀ e ∈ found, t.Has e) := ht.elem_safe hhas
    exact hsafe.answer hb b rfl

namespace Tame

/-- **No type is shown at a greater depth than the table has entries.** -/
theorem within (ht : t.Tame loops) (id : TypeId) : loops ∨ Within t.Unfolds (t.size + 1) id :=
  ht.acyclic.imp_right (fun h => within_of_acyclic index_injective
    (fun _ _ hab => has_iff_lt.mp (hab.has ht.closed)) h id)

/-- Where no type is met again inside itself, no literal is. -/
theorem grounded (ht : t.Tame loops) : t.Grounded loops := by
  refine ⟨ht.closed, ?_⟩
  by_cases h : loops
  · exact .inl h
  · exact .inr (fun id => shallow_of_within
      (((ht.within id).resolve_left h).of_imp (fun _ _ => .part)))

end Tame

namespace Grounded

theorem identical_safe (ht : t.Grounded loops) (ha : t.Has a) (hb : t.Has b) :
    (t.identical a b).Safe loops (fun _ => True) :=
  identicalTo_safe ht.closed (ht.shallow.imp_right (fun h => h a)) ha hb

theorem assignable_safe (ht : t.Grounded loops) (ha : t.Has a) (hb : t.Has b) :
    (t.assignable a b).Safe loops (fun _ => True) :=
  ht.closed.assignable_safe ht.shallow ha hb

end Grounded

/-! ## Showing types -/

/-- What stands in the spelling of a type is met in showing it. -/
theorem Unfolds.of_shows (h : t.Shows a b) : t.Unfolds a b := by
  obtain ⟨k, hk, hb⟩ := h
  cases k with
  | named name package underlying => exact hb.elim
  | signature params results variadic =>
    rcases hb with hb | hb
    · unfold ShownParam at hb
      split at hb
      · rename_i hvariadic
        subst hvariadic
        rcases hb with hb | ⟨p, hp, hb⟩
        · exact .part ⟨_, hk, rfl, List.mem_append_left _ (List.mem_of_mem_dropLast hb)⟩
        · obtain ⟨found, hfound, hb⟩ := bind_eq_ok_iff.mp hb
          obtain rfl := Except.ok.inj hb
          cases found with
          | none => exact .part ⟨_, hk, rfl, List.mem_append_left _ (List.mem_of_getLast? hp)⟩
          | some e => exact .rest hk hp hfound
      · exact .part ⟨_, hk, rfl, List.mem_append_left _ hb⟩
    · exact .part ⟨_, hk, rfl, List.mem_append_right _ hb⟩
  | _ => exact .part ⟨_, hk, rfl, hb⟩

/-- What a variadic parameter takes any number of is there. -/
theorem Closed.restElem_safe {params results : List TypeId} {p : TypeId} (ht : t.Closed)
    (hk : t.kind? id = some (.signature params results true)) (hp : params.getLast? = some p) :
    (t.restElem p).Safe loops (fun _ => True) := by
  have hpart : p ∈ (TypeKind.signature params results true).parts :=
    List.mem_append_left _ (List.mem_of_getLast? hp)
  exact (ht.elem_safe (ht id _ hk p hpart)).bind (fun _ _ => trivial)

/-- **Showing a type** follows no position past the end. One that is past the end itself is
shown as such. -/
theorem displayTo_safe (ht : t.Closed) (h : loops ∨ Within t.Unfolds n id) :
    (t.displayTo n id).Safe loops (fun _ => True) := by
  induction n generalizing id with
  | zero => exact h.resolve_right not_false
  | succ n ih =>
    cases hk : t.kind? id with
    | none =>
      rw [displayTo, hk]
      exact trivial
    | some k =>
      refine (displayTo_succ (P := fun _ _ => True) hk (fun b hb => ?_) ?_).mono
        (fun _ _ => trivial)
      · exact ih (h.imp_right (fun h => h b (.of_shows ⟨k, hk, hb⟩)))
      · rintro params results p rfl hp
        exact ht.restElem_safe hk hp

theorem Tame.display_safe (ht : t.Tame loops) (id : TypeId) :
    (t.display id).Safe loops (fun _ => True) :=
  displayTo_safe ht.closed (ht.within id)

end TypeTable

end Crosswalk

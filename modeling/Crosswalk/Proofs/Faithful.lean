import Crosswalk.Json.Basic
import Crosswalk.Proofs.Lists
import Mathlib.Data.List.Basic

/-!
# Readings that undo writings

A document is read piece by piece, and written the same way. So what has to be shown of a
reading is shown of its pieces: that it gives back whatever was written, as long as that is of
the width that documents have room for, and that it gives nothing wider
(`Json.Faithful`). The second half is what lets the first one be used on whatever was read.

Only numbers are ever too wide. Texts, truth values and absent values are not, and lists and
records are as wide as what they are made of.
-/

namespace Crosswalk.Json

variable {α β : Type} {read : Json → Option α} {write : α → Json} {fits : α → Prop}
  {names : List String} {members : List (String × Json)}

/-- **A reading that undoes a writing**, on all that fits. -/
structure Faithful (read : Json → Option α) (write : α → Json) (fits : α → Prop) : Prop where
  /-- What fits is read as it was written. -/
  undoes : ∀ a, fits a → read (write a) = some a
  /-- What is read fits. -/
  only : ∀ j a, read j = some a → fits a

namespace Faithful

theorem text : Faithful text? .string (fun _ => True) := ⟨fun _ _ => rfl, fun _ _ _ => trivial⟩

theorem nat (limit : Nat) : Faithful (nat? limit) ofNat (fun n => n < limit) := by
  refine ⟨fun n hn => ?_, fun j n h => ?_⟩
  · simp [nat?, ofNat, int?, hn]
  · unfold nat? at h
    split at h
    · split at h
      · exact Option.some.inj h ▸ ‹_›
      · cases h
    · cases h

theorem int64 : Faithful int64? .integer (fun i => Width.isInt64 i = true) := by
  refine ⟨fun i hi => ?_, fun j i h => ?_⟩
  · simp [int64?, int?, hi]
  · exact (Option.filter_eq_some_iff.mp h).2

/-- What is wrapped is as wide as what it wraps. -/
theorem wrap (wrap : α → β) (unwrap : β → α) (h : Faithful read write fits)
    (hwrap : ∀ b, wrap (unwrap b) = b) (hunwrap : ∀ a, unwrap (wrap a) = a) :
    Faithful (fun j => (read j).map wrap) (fun b => write (unwrap b)) (fun b => fits (unwrap b)) := by
  refine ⟨fun b hb => ?_, fun j b hb => ?_⟩
  · simp [h.undoes _ hb, hwrap]
  · obtain ⟨a, ha, rfl⟩ := Option.map_eq_some_iff.mp hb
    exact (hunwrap a).symm ▸ h.only j a ha

/-- **A list** is read item by item. -/
theorem list (h : Faithful read write fits) :
    Faithful (Document.list? read) (ofList write) (fun as => ∀ a ∈ as, fits a) := by
  have hlist : ∀ items, Document.list? read (.array items) = items.mapM read := fun _ => rfl
  refine ⟨fun as has => ?_, fun j as hj => ?_⟩
  · unfold ofList
    rw [hlist]
    induction as with
    | nil => rfl
    | cons a as ih =>
      have hrest := ih (fun b hb => has b (List.mem_cons_of_mem a hb))
      simp [h.undoes a (has a List.mem_cons_self), hrest]
  · obtain ⟨items, -, hitems⟩ := Option.bind_eq_some_iff.mp hj
    clear hj
    induction items generalizing as with
    | nil =>
      obtain rfl := Option.some.inj hitems
      exact nofun
    | cons item items ih =>
      rw [List.mapM_cons] at hitems
      obtain ⟨a, ha, hitems⟩ := Option.bind_eq_some_iff.mp hitems
      obtain ⟨rest, hrest, has⟩ := Option.bind_eq_some_iff.mp hitems
      obtain rfl := Option.some.inj has
      exact List.forall_mem_cons.mpr ⟨h.only item a ha, ih rest hrest⟩

/-- **A value that may be missing** is written as `null` then, which no other value is. -/
theorem nullable (h : Faithful read write fits) (hnull : ∀ a, write a ≠ .null) :
    Faithful (nullable read) (ofOption write) (fun o => ∀ a ∈ o, fits a) := by
  have hread : ∀ j, j ≠ .null → Json.nullable read j = (read j).map some := by
    intro j hj
    unfold Json.nullable
    split
    · exact absurd rfl hj
    · rfl
  refine ⟨fun o ho => ?_, fun j o hj => ?_⟩
  · cases o with
    | none => rfl
    | some a =>
      refine (hread _ (hnull a)).trans ?_
      simp [h.undoes a (ho a rfl)]
  · by_cases hnull : j = .null
    · subst hnull
      obtain rfl := Option.some.inj hj
      exact nofun
    · rw [hread j hnull] at hj
      obtain ⟨a, ha, rfl⟩ := Option.map_eq_some_iff.mp hj
      simpa using h.only j a ha

end Faithful

/-! ## Cases -/

@[simp] theorem case?_ofCase (tag : String) (content : Json) :
    (ofCase tag content).case? = some (tag, some content) := rfl

@[simp] theorem bareCase?_string (tag : String) : (Json.string tag).bareCase? = some tag := rfl

/-! ## Records -/

/-- **A record** whose fields are named in order has just these fields. -/
theorem fields?_object (hnames : members.map Prod.fst = names) (hnodup : names.Nodup) :
    (Json.object members).fields? names = some ⟨members, false⟩ := by
  have hknown : members.filter (fun m => m.1 ∈ names) = members :=
    List.filter_eq_self.mpr (fun m hm => by simpa [← hnames] using ⟨m.2, hm⟩)
  unfold fields?
  simp only [hknown, hnames, hnodup, if_true]

variable {f : Fields Json} {name : String} {a : α} {default : α}

/-- A field is looked for among the given ones, one after another. -/
@[simp] theorem get?_cons {given : String} {j : Json} {entries : List (String × Json)}
    {byPlace : Bool} : (⟨(given, j) :: entries, byPlace⟩ : Fields Json).get? name =
      if given = name then some j else (⟨entries, byPlace⟩ : Fields Json).get? name := by
  unfold Fields.get?
  rw [List.find?_cons]
  by_cases h : given = name <;> simp [h]

/-- A field that must be given is read from what is given. -/
theorem Faithful.of_required (h : Faithful read write fits) (ha : f.required name read = some a) :
    fits a := by
  obtain ⟨j, -, hj⟩ := Option.bind_eq_some_iff.mp ha
  exact h.only j a hj

/-- A field that may be left out is read, or stands at its default. -/
theorem Faithful.of_withDefault (h : Faithful read write fits) (hdefault : fits default)
    (ha : f.withDefault name default read = some a) : fits a := by
  unfold Fields.withDefault at ha
  split at ha
  · exact h.only _ a ha
  · exact Option.some.inj ha ▸ hdefault

end Crosswalk.Json

import Crosswalk.Proofs.Safe
import Crosswalk.Proofs.Types.Chain
import Crosswalk.Types.Spelling
import Mathlib.Logic.Relation

/-!
# What a type is shown by

The text of a type is put together from the texts of what stands in it (`TypeTable.Shows`): its
parts, unless it is a name, which is shown by itself. There is one exception. The last parameter
of a variadic function is not shown as it is declared but by its elements, and these are looked
for behind its names.

Nothing is asked of the table for that. A position past its end is shown as such, wherever it is
met (`TypeTable.Composed`). But behind names nothing is asked either whether there is anything: a
name for a position past the end, as the last parameter of a variadic function, leaves the
function without a text (`TypeTable.strays_iff`).
-/

namespace Crosswalk

/-! ## Texts in texts -/

/-- **One text stands in another.** -/
def Occurs (part whole : String) : Prop := ∃ before after, whole = before ++ part ++ after

namespace Occurs

variable {a b c sep : String} {texts : List String}

theorem refl (a : String) : Occurs a a := ⟨"", "", by simp⟩

theorem trans (h : Occurs a b) (h' : Occurs b c) : Occurs a c := by
  obtain ⟨before, after, rfl⟩ := h
  obtain ⟨before', after', rfl⟩ := h'
  exact ⟨before' ++ before, after ++ after', by simp only [String.append_assoc]⟩

theorem append_left (h : Occurs a b) (before : String) : Occurs a (before ++ b) :=
  h.trans ⟨before, "", by simp⟩

theorem append_right (h : Occurs a b) (after : String) : Occurs a (b ++ after) :=
  h.trans ⟨"", after, by simp⟩

/-- A text stands among texts that are put together. -/
theorem of_mem (h : Occurs a b) (hb : b ∈ texts) : Occurs a (String.intercalate sep texts) := by
  induction texts with
  | nil => cases hb
  | cons first rest ih =>
    cases rest with
    | nil =>
      obtain rfl := List.mem_singleton.mp hb
      simpa using h
    | cons second rest =>
      rw [String.intercalate_cons_cons]
      rcases List.mem_cons.mp hb with rfl | hb
      · exact (h.append_right sep).append_right _
      · exact (ih hb).append_left _

end Occurs

theorem occurs_functionSpelling {params results : List String} :
    ∀ text ∈ params ++ results, Occurs text (functionSpelling params results) := by
  have hhead : ∀ text ∈ params, Occurs text
      ("func(" ++ String.intercalate ", " params ++ ")") := fun text htext =>
    (((Occurs.refl text).of_mem htext).append_left _).append_right _
  intro text htext
  unfold functionSpelling
  dsimp only
  rcases List.mem_append.mp htext with htext | htext
  · have hhead := hhead text htext
    split
    · exact hhead
    · exact (hhead.append_right _).append_right _
    · exact ((hhead.append_right _).append_right _).append_right _
  · split
    · cases htext
    · obtain rfl := List.mem_singleton.mp htext
      exact (Occurs.refl _).append_left _
    · exact (((Occurs.refl text).of_mem htext).append_left _).append_right _

namespace TypeTable

variable {t : TypeTable} {id a b p u : TypeId} {k : TypeKind} {n : Nat} {text : String}
  {variadic : Bool} {params : List TypeId} {excused : Fault → Prop}
  {P : TypeId → String → Prop}

/-! ## Descending into spellings -/

/-- What stands among the spelled parameters of a function. -/
def ShownParam (t : TypeTable) (variadic : Bool) (params : List TypeId) (b : TypeId) : Prop :=
  if variadic then b ∈ params.dropLast ∨ ∃ p, params.getLast? = some p ∧ t.restElem p = .ok b
  else b ∈ params

/-- What stands in the spelling of an entry. -/
def ShownIn (t : TypeTable) : TypeKind → TypeId → Prop
  | .named .., _ => False
  | .signature params results variadic, b => t.ShownParam variadic params b ∨ b ∈ results
  | k, b => b ∈ k.parts

/-- **The type `b` stands in the spelling of `a`.** -/
def Shows (t : TypeTable) (a b : TypeId) : Prop := ∃ k, t.kind? a = some k ∧ t.ShownIn k b

theorem shownParam_cons_cons {q : TypeId} :
    t.ShownParam variadic (p :: q :: params) b ↔ b = p ∨ t.ShownParam variadic (q :: params) b := by
  cases variadic <;> simp [ShownParam, or_assoc]

/-! ## Past the end -/

theorem kind_of_missing (h : t.kind? id = none) : t.kind id = .error .dangling := by
  rw [kind, entryAt, show t.kinds[id.index]? = none from h]

/-- **From `p` names lead past the end** of the table. -/
inductive Strays (t : TypeTable) : TypeId → Prop
  /-- There is nothing at the position. -/
  | missing {p : TypeId} (h : t.kind? p = none) : Strays t p
  /-- The name is declared as something from which names lead past the end. -/
  | named {p u : TypeId} (hp : t.Declares p u) (h : Strays t u) : Strays t p

theorem Declares.unique (h : t.Declares p a) (h' : t.Declares p b) : a = b := by
  obtain ⟨name, package, hk⟩ := h
  obtain ⟨name', package', hk'⟩ := h'
  exact (TypeKind.named.inj (Option.some.inj (hk.symm.trans hk'))).2.2

theorem not_declares (h : t.kind? p = none) (a : TypeId) : ¬ t.Declares p a := by
  rintro ⟨name, package, hk⟩
  cases h.symm.trans hk

namespace Strays

theorem of_declares (h : t.Strays a) (hab : t.Declares a b) : t.Strays b := by
  cases h with
  | missing h => exact absurd hab (not_declares h b)
  | named ha h => exact hab.unique ha ▸ h

/-- What leads past the end does not come back. -/
theorem not_transGen (h : t.Strays a) : ¬ Relation.TransGen t.Declares a a := by
  induction h with
  | missing h =>
    intro hcycle
    obtain ⟨b, hb, -⟩ := Relation.TransGen.head'_iff.mp hcycle
    exact not_declares h b hb
  | named hp h ih =>
    intro hcycle
    obtain ⟨b, hb, hback⟩ := Relation.TransGen.head'_iff.mp hcycle
    obtain rfl := hb.unique hp
    exact ih (.tail' hback hb)

/-- The end is reached in fewer steps than are taken. -/
theorem within (h : t.Strays a) : Within t.Declares (t.size + 1) a := by
  refine (within_iff index_injective ?_).mpr (fun b hab => ?_)
  · rintro b c ⟨name, package, hk⟩
    exact has_iff_lt.mp (has_of_kind? hk)
  · have hstrays : t.Strays b := by
      induction hab with
      | refl => exact h
      | tail _ hbc ih => exact ih.of_declares hbc
    exact hstrays.not_transGen

theorem underlyingUpTo (h : t.Strays a) (hn : Within t.Declares n a) :
    t.underlyingUpTo n a = .error .dangling := by
  induction n generalizing a with
  | zero => exact hn.elim
  | succ n ih =>
    cases h with
    | missing h =>
      rw [TypeTable.underlyingUpTo, kind_of_missing h]
      rfl
    | named hp h =>
      have hrest := ih h (hn _ hp)
      obtain ⟨name, package, hk⟩ := hp
      rw [underlyingUpTo_succ_of_named hk, hrest]

end Strays

/-- What is found behind names is there, unless they lead past the end. -/
theorem strays_of_underlyingUpTo (h : ∀ u, t.underlyingUpTo n a = .ok u → ¬ t.Has u) :
    t.Strays a := by
  induction n generalizing a with
  | zero => exact .missing (Option.not_isSome_iff_eq_none.mp (h a rfl))
  | succ n ih =>
    cases hk : t.kind? a with
    | none => exact .missing hk
    | some k =>
      cases hu : k.declared? with
      | none => exact absurd (has_of_kind? hk) (h a (underlyingUpTo_of_isBare hk hu))
      | some u =>
        obtain ⟨name, package, rfl⟩ := TypeKind.declared?_eq_some hu
        rw [underlyingUpTo_succ_of_named hk] at h
        exact .named ⟨name, package, hk⟩ (ih h)

/-- **Looking for elements faults just where names lead past the end.** -/
theorem restElem_eq_error_iff {f : Fault} :
    t.restElem p = .error f ↔ f = .dangling ∧ t.Strays p := by
  have hfaults : t.Strays p → t.restElem p = .error .dangling := fun h => by
    have hunder : t.underlying p = .error .dangling := h.underlyingUpTo h.within
    rw [restElem, elem, hunder]
    rfl
  constructor
  · intro h
    have hstrays : t.Strays p := by
      refine strays_of_underlyingUpTo (n := t.size + 1) (fun u hu hhas => ?_)
      obtain ⟨k, hk⟩ := exists_kind_of_has hhas
      have hunder : t.underlying p = .ok u := hu
      rw [restElem, elem, hunder, ok_bind, kind_of_kind? hk, ok_bind] at h
      split at h <;> cases h
    exact ⟨Except.error.inj (h.symm.trans (hfaults hstrays)), hstrays⟩
  · rintro ⟨rfl, hstrays⟩
    exact hfaults hstrays

theorem exists_restElem_iff : (∃ e, t.restElem p = .ok e) ↔ ¬ t.Strays p := by
  cases h : t.restElem p with
  | ok e =>
    refine iff_of_true ⟨e, rfl⟩ (fun hstrays => ?_)
    cases h.symm.trans (restElem_eq_error_iff.mpr ⟨rfl, hstrays⟩)
  | error f => exact iff_of_false nofun (not_not_intro (restElem_eq_error_iff.mp h).2)

/-! ## Putting texts together -/

/-- **A text for an entry** in which there is one for each type that stands in the entry, and what
a variadic parameter takes has been found. -/
structure Composed (t : TypeTable) (P : TypeId → String → Prop) (k : TypeKind) (text : String) :
    Prop where
  /-- What a variadic parameter takes any number of. -/
  rest : ∀ params results p, k = .signature params results true → params.getLast? = some p →
    ∃ e, t.restElem p = .ok e
  /-- What stands in the entry. -/
  inner : ∀ b, t.ShownIn k b → ∃ part, P b part ∧ Occurs part text

theorem spellParams_ends {spell : TypeId → Lookup String}
    (hspell : ∀ b, t.ShownParam variadic params b → Ends excused (P b) (spell b))
    (hrest : variadic = true → ∀ p, params.getLast? = some p →
      Ends excused (fun _ => True) (t.restElem p)) :
    Ends excused (fun texts =>
        (variadic = true → ∀ p, params.getLast? = some p → ∃ e, t.restElem p = .ok e) ∧
          ∀ b, t.ShownParam variadic params b → ∃ text ∈ texts, ∃ part, P b part ∧ Occurs part text)
      (spellParams spell t.restElem variadic params) := by
  induction params with
  | nil => exact .pure ⟨nofun, fun b hb => by simp [ShownParam] at hb⟩
  | cons p params ih =>
    cases params with
    | nil =>
      rw [spellParams]
      split
      · rename_i hvariadic
        subst hvariadic
        refine (hrest rfl p rfl).known.bind (fun e ⟨he, _⟩ => ?_)
        have hshown : ∀ b, t.ShownParam true [p] b ↔ b = e := by
          simp [ShownParam, he, eq_comm]
        refine (hspell e ((hshown e).mpr rfl)).bind (fun part hpart => .pure ⟨?_, fun b hb => ?_⟩)
        · rintro - q hq
          obtain rfl := Option.some.inj hq
          exact ⟨e, he⟩
        · obtain rfl := (hshown b).mp hb
          exact ⟨_, List.mem_cons_self, part, hpart, (Occurs.refl part).append_left _⟩
      · rename_i hplain
        have hshown : ∀ b, t.ShownParam variadic [p] b ↔ b = p := by
          simp [ShownParam, hplain]
        refine (hspell p ((hshown p).mpr rfl)).bind (fun part hpart => .pure ⟨?_, fun b hb => ?_⟩)
        · exact fun hvariadic => absurd hvariadic hplain
        · obtain rfl := (hshown b).mp hb
          exact ⟨part, List.mem_cons_self, part, hpart, .refl part⟩
    | cons q params =>
      rw [spellParams]
      refine (hspell p (shownParam_cons_cons.mpr (.inl rfl))).bind (fun part hpart => ?_)
      refine (ih (fun b hb => hspell b (shownParam_cons_cons.mpr (.inr hb)))
        (fun hvariadic r hr => hrest hvariadic r (by rw [List.getLast?_cons_cons, hr]))).bind ?_
      rintro texts ⟨hfound, htexts⟩
      refine .pure ⟨fun hvariadic r hr => ?_, fun b hb => ?_⟩
      · rw [List.getLast?_cons_cons] at hr
        exact hfound hvariadic r hr
      · rcases shownParam_cons_cons.mp hb with rfl | hb
        · exact ⟨part, List.mem_cons_self, part, hpart, .refl part⟩
        · obtain ⟨text, htext, h⟩ := htexts b hb
          exact ⟨text, List.mem_cons_of_mem part htext, h⟩

/-- **Showing one layer of a type** puts together the texts of what is inside. -/
theorem displayTo_succ (hk : t.kind? id = some k)
    (hparts : ∀ b, t.ShownIn k b → Ends excused (P b) (t.displayTo n b))
    (hrest : ∀ params results p, k = .signature params results true → params.getLast? = some p →
      Ends excused (fun _ => True) (t.restElem p)) :
    Ends excused (t.Composed P k) (t.displayTo (n + 1) id) := by
  -- a type that shows others, one by one
  have hall : ∀ {bs : List TypeId}, (∀ b ∈ bs, t.ShownIn k b) →
      Ends excused (List.Forall₂ P bs) (bs.mapM (t.displayTo n)) :=
    fun h => .forall₂_mapM (fun b hb => hparts b (h b hb))
  -- a type that shows one other
  have hone : ∀ b before, (∀ c, t.ShownIn k c ↔ c = b) →
      (∀ params results p, k = .signature params results true → params.getLast? ≠ some p) →
      Ends excused (t.Composed P k) (do return before ++ (← t.displayTo n b)) := by
    intro b before hshown hno
    refine (hparts b ((hshown b).mpr rfl)).bind (fun part hpart => .pure ⟨?_, fun c hc => ?_⟩)
    · exact fun params results p hk hp => absurd hp (hno params results p hk)
    · obtain rfl := (hshown c).mp hc
      exact ⟨part, hpart, (Occurs.refl part).append_left before⟩
  unfold displayTo
  rw [hk]
  cases k with
  | basic b => exact .pure ⟨nofun, nofun⟩
  | named name package underlying => cases package <;> exact .pure ⟨nofun, nofun⟩
  | pointer elem | slice elem | array elem length =>
    exact hone elem _ (by simp [ShownIn, TypeKind.parts]) nofun
  | map key value =>
    refine (hparts key List.mem_cons_self).bind (fun keyText hkey => ?_)
    refine (hparts value (List.mem_cons_of_mem _ List.mem_cons_self)).bind
      (fun valueText hvalue => .pure ⟨nofun, fun b hb => ?_⟩)
    rcases List.mem_pair.mp hb with rfl | rfl
    · exact ⟨keyText, hkey, (((Occurs.refl keyText).append_left _).append_right _).append_right _⟩
    · exact ⟨valueText, hvalue, (Occurs.refl valueText).append_left _⟩
  | struct fields =>
    have hfields : Ends excused
        (List.Forall₂ (fun f text => ∃ part, P f.type part ∧ Occurs part text) fields)
        (fields.mapM (fun f => do return f.name ++ " " ++ (← t.displayTo n f.type))) := by
      refine .forall₂_mapM (fun f hf => ?_)
      refine (hparts f.type (List.mem_map_of_mem hf)).bind (fun part hpart => .pure ?_)
      exact ⟨part, hpart, (Occurs.refl part).append_left _⟩
    refine hfields.bind (fun shown hshown => .pure ⟨nofun, fun b hb => ?_⟩)
    obtain ⟨f, hf, rfl⟩ := List.mem_map.mp hb
    obtain ⟨text, htext, part, hpart, hocc⟩ := exists_beside_left hshown hf
    exact ⟨part, hpart, ((hocc.of_mem htext).append_left _).append_right _⟩
  | interface methods => exact .pure ⟨nofun, nofun⟩
  | signature params results variadic =>
    have hrest' : variadic = true → ∀ p, params.getLast? = some p →
        Ends excused (fun _ => True) (t.restElem p) := fun h p => hrest params results p (h ▸ rfl)
    refine (spellParams_ends (fun b hb => hparts b (.inl hb)) hrest').bind (fun ps hps => ?_)
    refine (hall (fun b hb => .inr hb)).bind (fun rs hrs => ?_)
    refine .pure ⟨?_, fun b hb => ?_⟩
    · rintro params' results' p hk' hp
      obtain ⟨rfl, rfl, rfl⟩ := TypeKind.signature.inj hk'
      exact hps.1 rfl p hp
    · rcases hb with hb | hb
      · obtain ⟨text, htext, part, hpart, hocc⟩ := hps.2 b hb
        exact ⟨part, hpart, hocc.trans
          (occurs_functionSpelling text (List.mem_append_left _ htext))⟩
      · obtain ⟨text, htext, hpart⟩ := exists_beside_left hrs hb
        exact ⟨text, hpart, occurs_functionSpelling text (List.mem_append_right _ htext)⟩
  | tuple elems =>
    refine (hall (fun b hb => hb)).bind (fun shown hshown => .pure ⟨nofun, fun b hb => ?_⟩)
    obtain ⟨text, htext, hpart⟩ := exists_beside_left hshown hb
    exact ⟨text, hpart, (((Occurs.refl text).of_mem htext).append_left _).append_right _⟩

/-! ## What can be shown -/

/-- **A type that can be shown**: no variadic function that is met takes elements of what is past
the end, and no type is met again inside itself. -/
structure Showable (t : TypeTable) (id : TypeId) : Prop where
  /-- The names of what a variadic function takes do not lead past the end. -/
  found : ∀ a, Relation.ReflTransGen t.Shows id a → ∀ params results p,
    t.kind? a = some (.signature params results true) → params.getLast? = some p → ¬ t.Strays p
  /-- Nothing stands in its own spelling. -/
  ends : ∀ a, Relation.ReflTransGen t.Shows id a → ¬ Relation.TransGen t.Shows a a

theorem Showable.of_shows (h : t.Showable a) (hab : t.Shows a b) : t.Showable b where
  found := fun c hc => h.found c (.head hab hc)
  ends := fun c hc => h.ends c (.head hab hc)

/-- No type is shown at a greater depth than the table has entries, if none is met again. -/
theorem within_shows_iff : Within t.Shows (t.size + 1) id ↔
    ∀ a, Relation.ReflTransGen t.Shows id a → ¬ Relation.TransGen t.Shows a a := by
  refine within_iff index_injective ?_
  rintro a b ⟨k, hk, -⟩
  exact has_iff_lt.mp (has_of_kind? hk)

theorem Showable.exists_displayTo (h : t.Showable id) (hn : Within t.Shows n id) :
    ∃ text, t.displayTo n id = .ok text := by
  induction n generalizing id with
  | zero => exact hn.elim
  | succ n ih =>
    cases hk : t.kind? id with
    | none => exact ⟨_, by rw [displayTo, hk]; rfl⟩
    | some k =>
      have hends : Ends (fun _ => False) (t.Composed (fun _ _ => True) k)
          (t.displayTo (n + 1) id) := by
        refine displayTo_succ hk (fun b hb => ?_) (fun params results p hsig hp => ?_)
        · have hshows : t.Shows id b := ⟨k, hk, hb⟩
          obtain ⟨text, htext⟩ := ih (h.of_shows hshows) (hn b hshows)
          exact .of_eq_ok htext trivial
        · subst hsig
          obtain ⟨e, he⟩ := exists_restElem_iff.mpr (h.found id .refl params results p hk hp)
          exact .of_eq_ok he trivial
      cases htext : t.displayTo (n + 1) id with
      | ok text => exact ⟨text, rfl⟩
      | error f => exact (hends.stop htext).elim

/-- **A text was put together from those of all that is met**: there was an end to it, what is past
the end stands in it as such, and what is looked for behind names was there. -/
theorem displayTo_eq_ok (h : t.displayTo n id = .ok text) : Within t.Shows n id ∧
    ∀ a, Relation.ReflTransGen t.Shows id a →
      (t.kind? a = none → Occurs ("<invalid " ++ a.label ++ ">") text) ∧
      ∀ params results p, t.kind? a = some (.signature params results true) →
        params.getLast? = some p → ¬ t.Strays p := by
  induction n generalizing id text with
  | zero => cases h
  | succ n ih =>
    cases hk : t.kind? id with
    | none =>
      have hleaf : ∀ b, ¬ t.Shows id b := by
        rintro b ⟨k, hk', -⟩
        cases hk.symm.trans hk'
      refine ⟨fun b hb => absurd hb (hleaf b), fun a ha => ?_⟩
      obtain rfl : a = id := (ha.cases_head.resolve_right (fun ⟨b, hb, _⟩ => hleaf b hb)).symm
      refine ⟨fun _ => ?_, fun params results p hsig => nomatch hk.symm.trans hsig⟩
      rw [displayTo, hk] at h
      obtain rfl := Except.ok.inj h
      exact .refl _
    | some k =>
      have hends : Ends (fun _ => True) (t.Composed (fun b part => t.displayTo n b = .ok part) k)
          (t.displayTo (n + 1) id) :=
        displayTo_succ hk (fun b _ => .of_any _)
          (fun _ _ _ _ _ => (Ends.of_any _).mono (fun _ _ => trivial))
      have hcomposed := hends.answer h
      refine ⟨?_, fun a ha => ?_⟩
      · rintro b ⟨k', hk', hb⟩
        obtain rfl := Option.some.inj (hk.symm.trans hk')
        obtain ⟨part, hpart, -⟩ := hcomposed.inner b hb
        exact (ih hpart).1
      rcases ha.cases_head with rfl | ⟨b, ⟨k', hk', hb⟩, ha⟩
      · refine ⟨fun hnone => (nomatch hk.symm.trans hnone), fun params results p hsig hp => ?_⟩
        have hk' := Option.some.inj (hk.symm.trans hsig)
        exact exists_restElem_iff.mp (hcomposed.rest params results p hk' hp)
      · obtain rfl := Option.some.inj (hk.symm.trans hk')
        obtain ⟨part, hpart, hocc⟩ := hcomposed.inner b hb
        obtain ⟨hinvalid, hfound⟩ := (ih hpart).2 a ha
        exact ⟨fun hnone => (hinvalid hnone).trans hocc, hfound⟩

/-- **Just what can be shown is shown.** -/
theorem exists_display_iff : (∃ text, t.display id = .ok text) ↔ t.Showable id := by
  constructor
  · rintro ⟨text, h⟩
    obtain ⟨hwithin, hmet⟩ := displayTo_eq_ok h
    exact ⟨fun a ha => (hmet a ha).2, within_shows_iff.mp hwithin⟩
  · exact fun h => h.exists_displayTo (within_shows_iff.mpr h.ends)

end TypeTable

end Crosswalk

import Crosswalk.Proofs.Source.Layout
import Crosswalk.Source.Expr

/-!
# Types in front of an operand

A conversion is written as a type in front of an operand in parentheses. This is read as
something else if the type begins with `*`, which would be taken for a dereference, or if it ends
in a function type without results, which would take the operand for its results. So pointer
types and function types are put in parentheses. A slice, an array or a map may end in such a
function type as well, though, and is not put in parentheses: these are the types for which a
conversion is read as something else (`TypeTable.conversion_parenthesized_iff`).

What a type ends in is said twice, of the type and of its spelling (`TypeTable.EndsOpen` and
`Absorbs`). Unless there are parentheses in names, the two come to the same, since parentheses
are balanced in spellings.
-/

namespace Crosswalk

/-! ## What a type ends in -/

/-- What a slice, an array or a map holds. -/
def TypeKind.entry? : TypeKind → Option TypeId
  | .slice elem | .array elem _ | .map _ elem => some elem
  | _ => none

/-- A name without stars begins with none. -/
theorem TypeKind.Starred.not_cleanNames {home : String} {k : TypeKind} (h : k.Starred home) :
    ¬ k.CleanNames := by
  cases k with
  | named name package u => exact fun hclean => (hclean '*' (List.mem_of_head? h.2)).2.2 rfl
  | basic | pointer | slice | array | map | struct | interface | signature | tuple => cases h

namespace TypeTable

/-- **The type ends in a function type without results.** -/
inductive EndsOpen (t : TypeTable) : TypeId → Prop
  /-- It is one. -/
  | here {id : TypeId} {params : List TypeId} {variadic : Bool}
      (h : t.kind? id = some (.signature params [] variadic)) : EndsOpen t id
  /-- It ends in a type that does. -/
  | last {id inner : TypeId} {k : TypeKind} (h : t.kind? id = some k)
      (hlast : k.last? = some inner) (hopen : EndsOpen t inner) : EndsOpen t id

/-- **A conversion to the type would be read as something else**, as it is written. -/
inductive Misread (t : TypeTable) (home : String) : TypeId → Prop
  /-- The type is a slice, an array or a map, and ends in a function type without results. -/
  | entry {id inner : TypeId} {k : TypeKind} (h : t.kind? id = some k)
      (hentry : k.entry? = some inner) (hopen : t.EndsOpen inner) : Misread t home id
  /-- The type goes by a bare name that begins with a star. -/
  | starred {id : TypeId} {k : TypeKind} (h : t.kind? id = some k) (hstar : k.Starred home) :
      Misread t home id

/-- The names in the table hold no parentheses and stars. -/
def CleanNames (t : TypeTable) : Prop := ∀ k ∈ t.kinds, k.CleanNames

variable {t : TypeTable} {home : String} {n : Nat} {id : TypeId} {k : TypeKind} {text : String}

theorem CleanNames.kind (h : t.CleanNames) (hk : t.kind? id = some k) : k.CleanNames :=
  h k (Array.mem_of_getElem? hk)

theorem balanced_of_spelledTo (hclean : t.CleanNames) (h : t.SpelledTo home n id text) :
    Balanced text.toList := by
  induction n generalizing id text with
  | zero => exact absurd h not_spelledTo_zero
  | succ n ih =>
    obtain ⟨k, hk, hlaid⟩ := h.exists_laidOut
    exact hlaid.balanced (fun b s hb => ih hb) (hclean.kind hk)

/-- **What ends in a function type without results is spelled so.** -/
theorem EndsOpen.exists_append (hopen : t.EndsOpen id) (h : t.SpelledTo home n id text) :
    ∃ before params, text = before ++ functionSpelling params [] ∧
      (t.CleanNames → Balanced (String.intercalate ", " params).toList) := by
  induction hopen generalizing n text with
  | here hk =>
    obtain ⟨m, k, hk', hlaid⟩ := h.exists_layer
    obtain rfl := Option.some.inj (hk.symm.trans hk')
    cases hlaid with
    | signature hps hrs =>
      obtain rfl := List.forall₂_nil_left_iff.mp hrs
      exact ⟨"", _, String.empty_append.symm, fun hclean =>
        LaidOut.balanced_params hps (fun b s hb => balanced_of_spelledTo hclean hb)⟩
  | last hk hlast _ ih =>
    obtain ⟨m, k, hk', hlaid⟩ := h.exists_layer
    obtain rfl := Option.some.inj (hk.symm.trans hk')
    obtain ⟨front, last, rfl, hinner, -⟩ := hlaid.exists_last hlast
    obtain ⟨before, params, rfl, hparams⟩ := ih hinner
    exact ⟨front ++ before, params, String.append_assoc.symm, hparams⟩

/-- **What is spelled so ends in a function type without results**, if names hold no
parentheses. -/
theorem endsOpen_of_absorbs (hclean : t.CleanNames) (h : t.SpelledTo home n id text)
    (habsorbs : Absorbs text) : t.EndsOpen id := by
  induction n generalizing id text with
  | zero => exact absurd h not_spelledTo_zero
  | succ n ih =>
    obtain ⟨k, hk, hlaid⟩ := h.exists_laidOut
    rcases hlaid.of_absorbs (fun b s hb => balanced_of_spelledTo hclean hb) (hclean.kind hk)
      habsorbs with ⟨params, variadic, rfl⟩ | ⟨inner, hlast⟩
    · exact .here hk
    · obtain ⟨front, last, rfl, hinner, hbreaks⟩ := hlaid.exists_last hlast
      exact .last hk hlast
        (ih hinner (habsorbs.of_append hbreaks (balanced_of_spelledTo hclean hinner)))

/-- **When a text ends in what takes an operand for its results**: when the type does, if names
hold no parentheses. -/
theorem absorbs_iff_endsOpen (hclean : t.CleanNames) (h : t.SpelledTo home n id text) :
    Absorbs text ↔ t.EndsOpen id := by
  refine ⟨endsOpen_of_absorbs hclean h, fun hopen => ?_⟩
  obtain ⟨before, params, htext, hparams⟩ := hopen.exists_append h
  exact ⟨before, params, htext, hparams hclean⟩

theorem SpelledTo.head?_eq_star_iff (h : t.SpelledTo home n id text) :
    text.toList.head? = some '*' ↔ (∃ elem, t.kind? id = some (.pointer elem)) ∨
      ∃ k, t.kind? id = some k ∧ k.Starred home := by
  obtain ⟨m, k, hk, hlaid⟩ := h.exists_layer
  rw [hlaid.head?_eq_star_iff, hk]
  simp

/-! ## Conversions -/

/-- **What is misread is not put in parentheses**, -/
theorem Misread.needsParens (h : t.Misread home id) : t.needsParens id = false := by
  cases h with
  | @entry inner k hk hentry =>
    rw [TypeTable.needsParens, hk]
    cases k with
    | slice | array | map => rfl
    | basic | named | pointer | struct | interface | signature | tuple => cases hentry
  | @starred k hk hstar =>
    rw [TypeTable.needsParens, hk]
    cases k with
    | named => rfl
    | basic | pointer | slice | array | map | struct | interface | signature | tuple => cases hstar

/-- though it ought to be. -/
theorem Misread.begins_or_endsOpen (h : t.Misread home id) (hspelled : t.SpelledTo home n id text) :
    text.toList.head? = some '*' ∨ t.EndsOpen id := by
  cases h with
  | @entry inner k hk hentry hopen =>
    refine .inr (.last hk ?_ hopen)
    cases k with
    | slice | array | map => exact hentry
    | basic | named | pointer | struct | interface | signature | tuple => cases hentry
  | starred hk hstar => exact .inl (hspelled.head?_eq_star_iff.mpr (.inr ⟨_, hk, hstar⟩))

/-- **What else ought to be in parentheses is.** -/
theorem needsParens_of_not_misread (h : ¬ t.Misread home id) (hspelled : t.SpelledTo home n id text)
    (hneeded : text.toList.head? = some '*' ∨ t.EndsOpen id) : t.needsParens id = true := by
  rcases hneeded with hstar | hopen
  · rcases hspelled.head?_eq_star_iff.mp hstar with ⟨elem, hk⟩ | ⟨k, hk, hstar⟩
    · rw [needsParens, hk]
    · exact absurd (.starred hk hstar) h
  · cases hopen with
    | here hk => rw [needsParens, hk]
    | @last _ inner k hk hlast hopen =>
      rw [needsParens, hk]
      cases k with
      | pointer | signature => rfl
      | slice | array | map => exact absurd (.entry hk hlast hopen) h
      | basic | named | struct | interface | tuple => cases hlast

theorem lowerSteps_append {steps more : List CoercionStep} {l : Lowered} :
    t.lowerSteps home (steps ++ more) l
      = t.lowerSteps home steps l >>= fun l => t.lowerSteps home more l := by
  induction steps generalizing l with
  | nil => rfl
  | cons step steps ih =>
    show (t.lowerStep home l step >>= fun l => t.lowerSteps home (steps ++ more) l) = _
    simp only [ih]
    exact (bind_assoc ..).symm

/-- **The text of a conversion** is that of the type, with or without parentheses, before that of
the operand in parentheses. -/
theorem exists_of_lower_convert {steps : List CoercionStep} {complete : Bool} {source : Expr}
    {l : Lowered}
    (h : t.lower home (.coerce (steps ++ [.convert id]) complete) source names = .ok l names') :
    ∃ operand between text,
      t.lower home (.coerce steps complete) source names = .ok operand between ∧
      t.spell home id between = .ok text names' ∧ l.expr.text
        = Expr.parenthesize (t.needsParens id) text ++ "(" ++ operand.expr.text ++ ")" := by
  have hsteps : (t.lowerSteps home steps ⟨[], source⟩ >>= fun l =>
      t.lowerSteps home [.convert id] l) names = .ok l names' := lowerSteps_append ▸ h
  obtain ⟨operand, between, hoperand, hlast⟩ := Writing.bind_eq_ok_iff.mp hsteps
  obtain ⟨l', names₁, hconvert, hlast⟩ := Writing.bind_eq_ok_iff.mp hlast
  obtain ⟨rfl, rfl⟩ := Writing.pure_eq_ok_iff.mp hlast
  obtain ⟨text, names₂, htext, hconvert⟩ := Writing.bind_eq_ok_iff.mp hconvert
  obtain ⟨rfl, rfl⟩ := Writing.pure_eq_ok_iff.mp hconvert
  exact ⟨operand, between, text, hoperand, htext, rfl⟩

/-- A text in parentheses is not the text. -/
theorem parenthesized_ne {text operand : String} :
    text ++ "(" ++ operand ++ ")" ≠ "(" ++ text ++ ")(" ++ operand ++ ")" := by
  intro h
  have hlength := congrArg String.length h
  simp only [String.length_append] at hlength
  have hopening : "(".length = 1 := rfl
  have hclosing : ")(".length = 2 := rfl
  omega

/-- **When a conversion is read as one.** Take a conversion to a type around whatever comes of the
steps before it, in a file of any package. The type is written with or without parentheses, before
the operand in parentheses. That the type is put in parentheses if its spelling begins with `*` or
ends in a function type without results is true of just those types that are no slices, arrays or
maps that end so, and whose bare name, if they go by one, does not begin with a star. What ends in
a function type without results is spelled so, and if there are no parentheses and stars in names,
then nothing else is, and nothing but a pointer begins with a star. -/
theorem conversion_parenthesized_iff {steps : List CoercionStep} {complete : Bool} {source : Expr}
    {l : Lowered}
    (h : t.lower home (.coerce (steps ++ [.convert id]) complete) source names = .ok l names') :
    ∃ operand between text,
      t.lower home (.coerce steps complete) source names = .ok operand between ∧
      t.spell home id between = .ok text names' ∧
      (l.expr.text = "(" ++ text ++ ")(" ++ operand.expr.text ++ ")" ∨
        l.expr.text = text ++ "(" ++ operand.expr.text ++ ")") ∧
      ((text.toList.head? = some '*' ∨ t.EndsOpen id →
          l.expr.text = "(" ++ text ++ ")(" ++ operand.expr.text ++ ")") ↔ ¬ t.Misread home id) ∧
      (t.EndsOpen id → ∃ before params, text = before ++ functionSpelling params []) ∧
      (t.CleanNames → (Absorbs text ↔ t.EndsOpen id) ∧
        (text.toList.head? = some '*' ↔ ∃ elem, t.kind? id = some (.pointer elem))) := by
  obtain ⟨operand, between, text, hoperand, htext, hl⟩ := exists_of_lower_convert h
  have hspelled : t.SpelledTo home (t.size + 1) id text := ⟨_, _, htext⟩
  have hwith : t.needsParens id = true →
      l.expr.text = "(" ++ text ++ ")(" ++ operand.expr.text ++ ")" := by
    intro hparens
    rw [hl, hparens, ← String.toList_inj]
    simp [Expr.parenthesize]
  have hwithout : t.needsParens id = false →
      l.expr.text = text ++ "(" ++ operand.expr.text ++ ")" := by
    intro hparens
    rw [hl, hparens]
    rfl
  refine ⟨operand, between, text, hoperand, htext, ?_, ⟨fun hkept hmisread => ?_, fun hno hneeded =>
    hwith (needsParens_of_not_misread hno hspelled hneeded)⟩, fun hopen => ?_, fun hclean =>
    ⟨absorbs_iff_endsOpen hclean hspelled, ?_⟩⟩
  · cases hparens : t.needsParens id with
    | true => exact .inl (hwith hparens)
    | false => exact .inr (hwithout hparens)
  · exact parenthesized_ne ((hwithout hmisread.needsParens).symm.trans
      (hkept (hmisread.begins_or_endsOpen hspelled)))
  · obtain ⟨before, params, htext, -⟩ := hopen.exists_append hspelled
    exact ⟨before, params, htext⟩
  · have hnot : ¬ ∃ k, t.kind? id = some k ∧ k.Starred home := by
      rintro ⟨k, hk, hstar⟩
      exact hstar.not_cleanNames (hclean.kind hk)
    rw [hspelled.head?_eq_star_iff, or_iff_left hnot]

/-- Hooks that take no results, slices of them, and functions that answer one. -/
def hookTypes : TypeTable :=
  ⟨#[.basic .string, .signature [] [] false, .slice ⟨1⟩, .signature [⟨0⟩] [⟨1⟩] false]⟩

/-- A conversion to a type that ends in a hook is read as one if the type is a function type, -/
theorem hookTypes_function_parenthesized : ∃ l, hookTypes.lower "example.com/demo"
      (.coerce ([.deref] ++ [.convert ⟨3⟩]) true) (.place "src.Hook") .empty = .ok l .empty ∧
    hookTypes.EndsOpen ⟨3⟩ ∧ Absorbs "func(string) func()" ∧
    l.expr.text = "(func(string) func())(*src.Hook)" := by
  have hlower : hookTypes.lower "example.com/demo" (.coerce ([.deref] ++ [.convert ⟨3⟩]) true)
      (.place "src.Hook") .empty = .ok ⟨[], .convert "(func(string) func())"
        (.deref (.place "src.Hook"))⟩ .empty := rfl
  have hopen : hookTypes.EndsOpen ⟨3⟩ := @EndsOpen.last _ _ ⟨1⟩ _ rfl rfl (.here rfl)
  have hclean : hookTypes.CleanNames := by
    simp [CleanNames, hookTypes, TypeKind.CleanNames]
  have hkept : ¬ hookTypes.Misread "example.com/demo" ⟨3⟩ := by
    rintro (⟨hk, hentry, -⟩ | ⟨hk, hstar⟩)
    · obtain rfl := Option.some.inj hk
      cases hentry
    · obtain rfl := Option.some.inj hk
      exact hstar
  obtain ⟨operand, between, text, hoperand, htext, -, hiff, -, htexts⟩ :=
    conversion_parenthesized_iff hlower
  obtain ⟨rfl, rfl⟩ := EStateM.Result.ok.inj hoperand
  obtain ⟨rfl, -⟩ := EStateM.Result.ok.inj htext
  exact ⟨_, hlower, hopen, (htexts hclean).1.mpr hopen, hiff.mpr hkept (.inr hopen)⟩

/-- **and is not if it is a slice**: the hooks would take the operand for their results. -/
theorem hookTypes_slice_absorbs_operand : ∃ l text, hookTypes.lower "example.com/demo"
      (.coerce [.convert ⟨2⟩] true) (.place "src.Hooks") .empty = .ok l .empty ∧
    hookTypes.spell "example.com/demo" ⟨2⟩ .empty = .ok text .empty ∧
    hookTypes.EndsOpen ⟨2⟩ ∧ Absorbs text ∧
    l.expr.text = text ++ "(src.Hooks)" ∧ l.expr.text ≠ "(" ++ text ++ ")(src.Hooks)" := by
  have hopen : hookTypes.EndsOpen ⟨2⟩ := @EndsOpen.last _ _ ⟨1⟩ _ rfl rfl (.here rfl)
  have habsorbs : Absorbs "[]func()" := ⟨"[]", [], by decide, .plain nofun⟩
  exact ⟨⟨[], .convert "[]func()" (.place "src.Hooks")⟩, "[]func()", rfl, rfl, hopen, habsorbs,
    by decide, by decide⟩

end TypeTable

end Crosswalk

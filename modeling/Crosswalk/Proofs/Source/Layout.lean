import Crosswalk.Proofs.Lists
import Crosswalk.Proofs.Source.Mentions
import Crosswalk.Proofs.Source.Naming

/-!
# How spellings are laid out

The spelling of a type is put together from those of its parts, one layer for each kind of type
(`LaidOut`). What it begins with can be read off the outermost layer. What it ends in cannot: a
pointer, a slice, an array, a map and a function type with one result end in what another type
ends in, and so on. It matters whether that is at last a function type without results, because
such a type would take for its results what stands behind it in parentheses (`Absorbs`).

If names hold no parentheses, then parentheses are balanced in spellings (`LaidOut.balanced`), and
whether the text of a spelling ends in a function type without results can be told layer by layer
as well (`LaidOut.of_absorbs`, `Absorbs.of_append`).
-/

namespace Crosswalk

/-! ## Parentheses -/

/-- **Parentheses are balanced.** -/
inductive Balanced : List Char → Prop
  /-- There are none. -/
  | plain {cs : List Char} (h : ∀ c ∈ cs, c ≠ '(' ∧ c ≠ ')') : Balanced cs
  /-- One after the other. -/
  | append {cs ds : List Char} (h : Balanced cs) (h' : Balanced ds) : Balanced (cs ++ ds)
  /-- In parentheses. -/
  | paren {cs : List Char} (h : Balanced cs) : Balanced ('(' :: (cs ++ [')']))

/-- **The text ends in a function type without results**, so that an operand behind it in
parentheses would be taken for its results. -/
def Absorbs (text : String) : Prop :=
  ∃ before params, text = before ++ functionSpelling params [] ∧
    Balanced (String.intercalate ", " params).toList

namespace Balanced

variable {cs ds as bs back : List Char}

/-- As many are closed as are opened, and on the way no more. -/
theorem count (h : Balanced cs) : cs.count ')' = cs.count '(' ∧
    ∀ front, front <+: cs → front.count ')' ≤ front.count '(' := by
  induction h with
  | plain h =>
    have hnone : ∀ front, front <+: _ → front.count ')' = 0 := fun front hfront =>
      List.count_eq_zero.mpr (fun hc => (h _ (hfront.subset hc)).2 rfl)
    refine ⟨?_, fun front hfront => (hnone front hfront).trans_le (Nat.zero_le _)⟩
    rw [hnone _ (List.prefix_refl _), List.count_eq_zero.mpr (fun hc => (h _ hc).1 rfl)]
  | append _ _ ih ih' =>
    obtain ⟨htotal, hsome⟩ := ih
    obtain ⟨htotal', hsome'⟩ := ih'
    refine ⟨by rw [List.count_append, List.count_append, htotal, htotal'], fun front hfront => ?_⟩
    obtain ⟨back, hback⟩ := hfront
    rcases List.append_eq_append_iff.mp hback with ⟨more, rfl, -⟩ | ⟨more, rfl, rfl⟩
    · exact hsome front (List.prefix_append front more)
    · rw [List.count_append, List.count_append, htotal]
      exact Nat.add_le_add_left (hsome' more (List.prefix_append more back)) _
  | paren _ ih =>
    obtain ⟨htotal, hsome⟩ := ih
    refine ⟨by simp [htotal], fun front hfront => ?_⟩
    rcases List.prefix_cons_iff.mp hfront with rfl | ⟨more, rfl, hmore⟩
    · exact le_rfl
    · rcases List.prefix_concat_iff.mp hmore with rfl | hmore
      · simp [htotal]
      · have hle := hsome more hmore
        rw [List.count_cons_self, List.count_cons_of_ne (by decide)]
        exact hle.trans (Nat.le_succ _)

/-- At the end of a balanced text no fewer are closed than are opened. -/
theorem count_of_suffix (h : Balanced cs) (hback : back <:+ cs) :
    back.count '(' ≤ back.count ')' := by
  obtain ⟨front, rfl⟩ := hback
  obtain ⟨htotal, hsome⟩ := h.count
  have hfront := hsome front (List.prefix_append front back)
  rw [List.count_append, List.count_append] at htotal
  omega

/-- **There is one place at which the last part in parentheses is opened.** -/
theorem front_unique (has : Balanced as) (hbs : Balanced bs)
    (h : cs ++ '(' :: as = ds ++ '(' :: bs) : cs = ds := by
  have hnot : ∀ {as bs more : List Char} {c : Char}, Balanced as → Balanced bs →
      '(' :: as ≠ c :: more ++ '(' :: bs := by
    intro as bs more c has hbs heq
    obtain ⟨-, rfl⟩ := List.cons.inj heq
    have hle := has.count_of_suffix (List.suffix_append more _)
    rw [List.count_cons_self, List.count_cons_of_ne (by decide), hbs.count.1] at hle
    omega
  rcases List.append_eq_append_iff.mp h with ⟨more, rfl, hmore⟩ | ⟨more, rfl, hmore⟩
  · cases more with
    | nil => exact (List.append_nil cs).symm
    | cons c more => exact absurd hmore (hnot has hbs)
  · cases more with
    | nil => exact List.append_nil ds
    | cons c more => exact absurd hmore (hnot hbs has)

theorem of_not_mem (ho : '(' ∉ cs) (hc : ')' ∉ cs) : Balanced cs :=
  .plain (fun _ h => ⟨fun heq => ho (heq ▸ h), fun heq => hc (heq ▸ h)⟩)

/-- Whether a text has parentheses can be looked up. -/
theorem plain_text {text : String}
    (h : text.toList.all (fun c => c != '(' && c != ')') = true) : Balanced text.toList :=
  .plain (by simpa using h)

theorem append_text {a b : String} (ha : Balanced a.toList) (hb : Balanced b.toList) :
    Balanced (a ++ b).toList := by
  rw [String.toList_append]
  exact ha.append hb

theorem paren_text {a : String} (ha : Balanced a.toList) : Balanced ("(" ++ a ++ ")").toList := by
  rw [String.toList_append, String.toList_append]
  exact ha.paren

/-- Texts with something between them. -/
theorem intercalate {sep : String} {texts : List String} (hsep : Balanced sep.toList)
    (h : ∀ text ∈ texts, Balanced text.toList) : Balanced (sep.intercalate texts).toList := by
  induction texts with
  | nil => exact .plain nofun
  | cons text texts ih =>
    obtain ⟨htext, htexts⟩ := List.forall_mem_cons.mp h
    cases texts with
    | nil => simpa using htext
    | cons text' texts =>
      rw [String.intercalate_cons_cons]
      exact (htext.append_text hsep).append_text (ih htexts)

end Balanced

/-! ## What a text ends in -/

/-- **The text does not run into a function type** that stands behind it. -/
def Breaks (front : List Char) : Prop := ∀ c ∈ front.getLast?, c ∉ "func)".toList

/-- **A function type without results at the end of a text stands in the second half of it**, if
the first half does not run into it and parentheses are balanced in the second. -/
theorem exists_of_append_eq {front text before params : List Char} (hfront : Breaks front)
    (htext : Balanced text) (hparams : Balanced params)
    (h : front ++ text = before ++ "func".toList ++ '(' :: (params ++ [')'])) :
    ∃ more, text = more ++ "func".toList ++ '(' :: (params ++ [')']) := by
  rcases List.append_eq_append_iff.mp h with ⟨more, hmore, htext'⟩ | ⟨more, hfront', hmore⟩
  · rcases List.append_eq_append_iff.mp hmore with ⟨rest, rfl, hname⟩ | ⟨rest, rfl, rfl⟩
    · -- the name of the function type would begin in the first half
      rcases List.eq_nil_or_concat rest with rfl | ⟨rest, c, rfl⟩
      · exact ⟨[], htext'.trans (congrArg (· ++ _) hname.symm)⟩
      · have hc : c ∈ "func".toList := by
          rw [hname]
          simp
        exact absurd (List.mem_append_left [')'] hc) (hfront c (by simp))
    · exact ⟨rest, htext'⟩
  · cases more with
    | nil => exact absurd (by decide) (hfront 'c' (by simp [hfront']))
    | cons c more =>
      -- the parameters would begin in the first half, so too many are closed in the second
      rw [List.cons_append, List.cons.injEq] at hmore
      obtain ⟨rfl, hmore⟩ := hmore
      rcases List.eq_nil_or_concat text with rfl | ⟨text, last, rfl⟩
      · refine absurd (by decide) (hfront ')' ?_)
        rw [hfront', ← more.append_nil, ← hmore, ← List.cons_append, ← List.append_assoc]
        exact List.getLast?_concat
      · rw [List.concat_eq_append, ← List.append_assoc] at hmore
        obtain ⟨rfl, hlast⟩ := List.append_inj' hmore rfl
        obtain rfl := List.singleton_inj.mp hlast
        have hle := hparams.count_of_suffix (List.suffix_append more text)
        have htotal := htext.count.1
        rw [List.concat_eq_append, List.count_append, List.count_append,
          List.count_singleton_self, List.count_singleton] at htotal
        simp at htotal
        omega

theorem toList_functionSpelling_nil (params : List String) :
    (functionSpelling params []).toList
      = "func".toList ++ '(' :: ((String.intercalate ", " params).toList ++ [')']) := by
  show ("func(" ++ String.intercalate ", " params ++ ")").toList = _
  rw [String.toList_append, String.toList_append]
  rfl

/-- What takes an operand for its results ends in a parenthesis. -/
theorem Absorbs.getLast? {text : String} (h : Absorbs text) : text.toList.getLast? = some ')' := by
  obtain ⟨before, params, rfl, -⟩ := h
  rw [String.toList_append, toList_functionSpelling_nil, ← List.cons_append, ← List.append_assoc,
    ← List.append_assoc]
  exact List.getLast?_concat

theorem Absorbs.of_append {front text : String} (h : Absorbs (front ++ text))
    (hfront : Breaks front.toList) (htext : Balanced text.toList) : Absorbs text := by
  obtain ⟨before, params, heq, hparams⟩ := h
  have hlist := congrArg String.toList heq
  rw [String.toList_append, String.toList_append, toList_functionSpelling_nil,
    ← List.append_assoc] at hlist
  obtain ⟨more, hmore⟩ := exists_of_append_eq hfront htext hparams hlist
  refine ⟨String.ofList more, params, ?_, hparams⟩
  rw [← String.toList_inj, String.toList_append, String.toList_ofList,
    toList_functionSpelling_nil, hmore, List.append_assoc]

/-! ## One layer of a spelling -/

namespace TypeKind

/-- **The type that the spelling of a type ends in**, if it ends in one. -/
def last? : TypeKind → Option TypeId
  | .pointer elem | .slice elem | .array elem _ | .map _ elem | .signature _ [elem] _ => some elem
  | _ => none

end TypeKind

/-- **How a type is spelled whose parts are spelled as `R` says.** -/
inductive LaidOut (home : String) (R : TypeId → String → Prop) : TypeKind → String → Prop
  /-- A predeclared type. -/
  | basic {b : BasicType} : LaidOut home R (.basic b) b.spelling
  /-- A named type of the package itself, or without a package. -/
  | own {name : String} {package : Option String} {u : TypeId} (h : ∀ p ∈ package, p = home) :
      LaidOut home R (.named name package u) name
  /-- A named type of another package. -/
  | foreign {name package : String} {u : TypeId} (h : package ≠ home) :
      LaidOut home R (.named name (some package) u) (qualified package name)
  /-- A pointer. -/
  | pointer {elem : TypeId} {text : String} (h : R elem text) :
      LaidOut home R (.pointer elem) ("*" ++ text)
  /-- A slice. -/
  | slice {elem : TypeId} {text : String} (h : R elem text) :
      LaidOut home R (.slice elem) ("[]" ++ text)
  /-- An array. -/
  | array {elem : TypeId} {length : Nat} {text : String} (h : R elem text) :
      LaidOut home R (.array elem length) ("[" ++ toString length ++ "]" ++ text)
  /-- A map. -/
  | map {key value : TypeId} {k v : String} (hk : R key k) (hv : R value v) :
      LaidOut home R (.map key value) ("map[" ++ k ++ "]" ++ v)
  /-- A struct. -/
  | struct {fields : List Member} {texts : List String}
      (h : ∀ text ∈ texts, ∃ f ∈ fields, ∃ type, R f.type type ∧
        text = if f.embedded then type else f.name ++ " " ++ type) :
      LaidOut home R (.struct fields)
        ("struct\x7b " ++ String.intercalate "; " texts ++ " \x7d")
  /-- An interface without methods. -/
  | interface : LaidOut home R (.interface []) "interface\x7b\x7d"
  /-- A function type. -/
  | signature {params results : List TypeId} {variadic : Bool} {ps rs : List String}
      (hps : ∀ p ∈ ps, ∃ b text, R b text ∧ (p = text ∨ p = "..." ++ text))
      (hrs : List.Forall₂ R results rs) :
      LaidOut home R (.signature params results variadic) (functionSpelling ps rs)

namespace TypeTable

variable {t : TypeTable} {home : String} {n : Nat} {id : TypeId} {text : String}
  {names names' : Names}

/-- The spelling of a type, found within the given depth. -/
def SpelledTo (t : TypeTable) (home : String) (n : Nat) (id : TypeId) (text : String) : Prop :=
  ∃ names names', t.spellTo home n id names = .ok text names'

theorem spelledTo_of_spellParams {variadic : Bool} {params : List TypeId} {ps : List String}
    (h : spellParams (t.spellTo home n) (fun p => liftM (t.restElem p)) variadic params names
      = .ok ps names') :
    ∀ p ∈ ps, ∃ b text, t.SpelledTo home n b text ∧ (p = text ∨ p = "..." ++ text) := by
  induction params generalizing names names' ps with
  | nil =>
    obtain ⟨rfl, -⟩ := Writing.pure_eq_ok_iff.mp h
    exact nofun
  | cons p params ih =>
    cases params with
    | nil =>
      unfold spellParams at h
      split at h
      · obtain ⟨elem, between, -, h⟩ := Writing.bind_eq_ok_iff.mp h
        obtain ⟨text, between', htext, h⟩ := Writing.bind_eq_ok_iff.mp h
        obtain ⟨rfl, -⟩ := Writing.pure_eq_ok_iff.mp h
        exact List.forall_mem_singleton.mpr ⟨elem, text, ⟨_, _, htext⟩, .inr rfl⟩
      · obtain ⟨text, between, htext, h⟩ := Writing.bind_eq_ok_iff.mp h
        obtain ⟨rfl, -⟩ := Writing.pure_eq_ok_iff.mp h
        exact List.forall_mem_singleton.mpr ⟨p, text, ⟨_, _, htext⟩, .inl rfl⟩
    | cons q params =>
      obtain ⟨text, between, htext, h⟩ := Writing.bind_eq_ok_iff.mp h
      obtain ⟨rest, between', hrest, h⟩ := Writing.bind_eq_ok_iff.mp h
      obtain ⟨rfl, -⟩ := Writing.pure_eq_ok_iff.mp h
      exact List.forall_mem_cons.mpr ⟨⟨p, text, ⟨_, _, htext⟩, .inl rfl⟩, ih hrest⟩

theorem not_spelledTo_zero : ¬ t.SpelledTo home 0 id text := by
  rintro ⟨names, names', h⟩
  cases h

/-- **A spelling is laid out by the kind of its type.** -/
theorem SpelledTo.exists_laidOut (h : t.SpelledTo home (n + 1) id text) :
    ∃ k, t.kind? id = some k ∧ LaidOut home (t.SpelledTo home n) k text := by
  obtain ⟨names, names', h⟩ := h
  rw [spellTo] at h
  cases hk : t.kind? id with
  | none =>
    rw [hk] at h
    exact absurd h unsupported_ne_ok
  | some k =>
    rw [hk] at h
    refine ⟨k, rfl, ?_⟩
    cases k with
    | basic b =>
      cases b with
      | untypedNil => exact absurd h unsupported_ne_ok
      | _ =>
        obtain ⟨rfl, -⟩ := Writing.pure_eq_ok_iff.mp h
        exact .basic
    | named name package u =>
      cases package with
      | none =>
        obtain ⟨rfl, -⟩ := Writing.pure_eq_ok_iff.mp h
        exact .own (fun p hp => absurd hp (Option.not_mem_none p))
      | some package =>
        dsimp only at h
        split at h
        · rename_i hhome
          obtain ⟨rfl, -⟩ := Writing.pure_eq_ok_iff.mp h
          exact .own (fun p hp => Option.some.inj hp ▸ hhome)
        · rename_i hforeign
          obtain ⟨called, between, hcalled, h⟩ := Writing.bind_eq_ok_iff.mp h
          obtain ⟨rfl, -⟩ := Writing.pure_eq_ok_iff.mp h
          obtain ⟨rfl, -⟩ := importPackage_eq_ok hcalled
          exact .foreign hforeign
    | pointer elem =>
      obtain ⟨inner, between, hinner, h⟩ := Writing.bind_eq_ok_iff.mp h
      obtain ⟨rfl, -⟩ := Writing.pure_eq_ok_iff.mp h
      exact .pointer ⟨_, _, hinner⟩
    | slice elem =>
      obtain ⟨inner, between, hinner, h⟩ := Writing.bind_eq_ok_iff.mp h
      obtain ⟨rfl, -⟩ := Writing.pure_eq_ok_iff.mp h
      exact .slice ⟨_, _, hinner⟩
    | array elem length =>
      obtain ⟨inner, between, hinner, h⟩ := Writing.bind_eq_ok_iff.mp h
      obtain ⟨rfl, -⟩ := Writing.pure_eq_ok_iff.mp h
      exact .array ⟨_, _, hinner⟩
    | map key value =>
      obtain ⟨k, between, hkey, h⟩ := Writing.bind_eq_ok_iff.mp h
      obtain ⟨v, between', hvalue, h⟩ := Writing.bind_eq_ok_iff.mp h
      obtain ⟨rfl, -⟩ := Writing.pure_eq_ok_iff.mp h
      exact .map ⟨_, _, hkey⟩ ⟨_, _, hvalue⟩
    | struct fields =>
      obtain ⟨texts, between, htexts, h⟩ := Writing.bind_eq_ok_iff.mp h
      obtain ⟨rfl, -⟩ := Writing.pure_eq_ok_iff.mp h
      refine .struct (fun text htext => ?_)
      obtain ⟨f, hf, before, after, hwritten⟩ :=
        exists_beside (Writing.forall₂_of_mapM htexts) htext
      obtain ⟨type, between', htype, hwritten⟩ := Writing.bind_eq_ok_iff.mp hwritten
      obtain ⟨rfl, -⟩ := Writing.pure_eq_ok_iff.mp hwritten
      exact ⟨f, hf, type, ⟨_, _, htype⟩, rfl⟩
    | interface methods =>
      dsimp only at h
      split at h
      · rename_i hempty
        obtain ⟨rfl, -⟩ := Writing.pure_eq_ok_iff.mp h
        obtain rfl := List.isEmpty_iff.mp hempty
        exact .interface
      · exact absurd h unsupported_ne_ok
    | signature params results variadic =>
      obtain ⟨ps, between, hps, h⟩ := Writing.bind_eq_ok_iff.mp h
      obtain ⟨rs, between', hrs, h⟩ := Writing.bind_eq_ok_iff.mp h
      obtain ⟨rfl, -⟩ := Writing.pure_eq_ok_iff.mp h
      exact .signature (spelledTo_of_spellParams hps) (Writing.forall₂_of_mapM hrs)
    | tuple elems => exact absurd h unsupported_ne_ok

/-- The same, whatever the depth. -/
theorem SpelledTo.exists_layer (h : t.SpelledTo home n id text) :
    ∃ m k, t.kind? id = some k ∧ LaidOut home (t.SpelledTo home m) k text := by
  cases n with
  | zero => exact absurd h not_spelledTo_zero
  | succ n => exact ⟨n, h.exists_laidOut⟩

end TypeTable

/-! ## What a spelling begins with and ends in -/

/-- **A name without parentheses and stars.** -/
def CleanName (name : String) : Prop := ∀ c ∈ name.toList, c ≠ '(' ∧ c ≠ ')' ∧ c ≠ '*'

namespace TypeKind

/-- The names that are spelled with a type hold no parentheses and stars. -/
def CleanNames : TypeKind → Prop
  | .named name _ _ => CleanName name
  | .struct fields => ∀ f ∈ fields, CleanName f.name
  | _ => True

/-- The type goes by a bare name, and the name begins with a star. -/
def Starred (home : String) : TypeKind → Prop
  | .named name package _ => (∀ p ∈ package, p = home) ∧ name.toList.head? = some '*'
  | _ => False

end TypeKind

namespace LaidOut

variable {home : String} {R : TypeId → String → Prop} {k : TypeKind} {text : String}
  {inner : TypeId}

theorem breaks_of_getLast? {front : List Char} {c : Char} (h : front.getLast? = some c)
    (hc : c ∉ "func)".toList) : Breaks front := by
  intro d hd
  exact Option.some.inj (h.symm.trans hd) ▸ hc

/-- **A spelling that ends in another one does not run into it.** -/
theorem exists_last (h : LaidOut home R k text) (hlast : k.last? = some inner) :
    ∃ front last, text = front ++ last ∧ R inner last ∧ Breaks front.toList := by
  have hbreaks : ∀ (before last : String) (c : Char), last.toList = [c] → c ∉ "func)".toList →
      Breaks (before ++ last).toList := by
    intro before last c hchars hc
    refine breaks_of_getLast? ?_ hc
    rw [String.toList_append, hchars]
    exact List.getLast?_concat
  cases h with
  | pointer h =>
    obtain rfl := Option.some.inj hlast
    exact ⟨"*", _, rfl, h, breaks_of_getLast? rfl (by decide)⟩
  | slice h =>
    obtain rfl := Option.some.inj hlast
    exact ⟨"[]", _, rfl, h, breaks_of_getLast? rfl (by decide)⟩
  | array h =>
    obtain rfl := Option.some.inj hlast
    exact ⟨_, _, rfl, h, hbreaks _ "]" ']' rfl (by decide)⟩
  | map _ h =>
    obtain rfl := Option.some.inj hlast
    exact ⟨_, _, rfl, h, hbreaks _ "]" ']' rfl (by decide)⟩
  | signature hps hrs =>
    cases hrs with
    | nil => cases hlast
    | cons h hrs =>
      cases hrs with
      | nil =>
        obtain rfl := Option.some.inj hlast
        exact ⟨_, _, rfl, h, hbreaks _ " " ' ' rfl (by decide)⟩
      | cons => cases hlast
  | basic | own | foreign | struct | interface => cases hlast

/-- **What begins with a star** is a pointer, or a bare name that does. -/
theorem head?_eq_star_iff (h : LaidOut home R k text) :
    text.toList.head? = some '*' ↔ (∃ elem, k = .pointer elem) ∨ k.Starred home := by
  cases h with
  | pointer => simp
  | own hown => simpa [TypeKind.Starred] using fun _ => hown
  | @foreign name package u hforeign =>
    have hnot : ¬ (qualified package name).toList.head? = some '*' := by
      obtain ⟨hne, hchars⟩ := packageAlias_chars package
      obtain ⟨c, cs, hcs⟩ := List.exists_cons_of_ne_nil hne
      rw [qualified, String.toList_append, String.toList_append, hcs]
      intro hc
      have hstar := hchars '*' (hcs ▸ Option.some.inj hc ▸ List.mem_cons_self)
      exact absurd hstar (by decide +kernel)
    simpa [TypeKind.Starred, hforeign] using hnot
  | @basic b => cases b <;> simp [TypeKind.Starred, BasicType.spelling]
  | slice | array | map | struct | interface => simp [TypeKind.Starred]
  | @signature params results variadic ps rs _ _ =>
    have hfunc : ∃ more, functionSpelling ps rs = "func(" ++ more := by
      unfold functionSpelling
      dsimp only
      split
      · exact ⟨_, String.append_assoc⟩
      · exact ⟨_, by simp only [String.append_assoc]; rfl⟩
      · exact ⟨_, by simp only [String.append_assoc]; rfl⟩
    obtain ⟨more, hmore⟩ := hfunc
    rw [hmore]
    simp [TypeKind.Starred]

theorem functionSpelling_several {ps rs : List String} {r r' : String} :
    functionSpelling ps (r :: r' :: rs) = "func(" ++ String.intercalate ", " ps ++ ")" ++ " "
      ++ ("(" ++ String.intercalate ", " (r :: r' :: rs) ++ ")") := by
  show "func(" ++ String.intercalate ", " ps ++ ")" ++ " ("
    ++ String.intercalate ", " (r :: r' :: rs) ++ ")" = _
  rw [← String.toList_inj]
  simp

/-- Several results of a function type stand in parentheses of their own. -/
theorem not_absorbs_results {ps : List String} {r r' : String} {rs : List String}
    (hrs : Balanced (String.intercalate ", " (r :: r' :: rs)).toList) :
    ¬ Absorbs (functionSpelling ps (r :: r' :: rs)) := by
  rintro ⟨before, params, heq, hparams⟩
  have hlist := congrArg String.toList heq
  rw [functionSpelling_several, @String.toList_append before, toList_functionSpelling_nil] at hlist
  generalize String.intercalate ", " (r :: r' :: rs) = results at hrs hlist
  generalize "func(" ++ String.intercalate ", " ps ++ ")" = head at hlist
  generalize String.intercalate ", " params = inside at hparams hlist
  have hclosed : (head ++ " ").toList ++ '(' :: results.toList ++ [')']
      = before.toList ++ "func".toList ++ '(' :: inside.toList ++ [')'] := by
    simpa using hlist
  obtain ⟨hopened, -⟩ := List.append_inj' hclosed rfl
  -- a blank and the name of a function type cannot both stand in front of the last parenthesis
  have hlast := congrArg List.getLast? (Balanced.front_unique hrs hparams hopened)
  rw [String.toList_append, List.getLast?_append, List.getLast?_append] at hlast
  cases hlast

/-- **Only two sorts of types can end in a function type without results**: one that is such a
type, and one that ends in another. -/
theorem of_absorbs (h : LaidOut home R k text) (hR : ∀ b s, R b s → Balanced s.toList)
    (hk : k.CleanNames) (habsorbs : Absorbs text) :
    (∃ params variadic, k = .signature params [] variadic) ∨ ∃ inner, k.last? = some inner := by
  have hlast := habsorbs.getLast?
  have hmem : ')' ∈ text.toList := List.mem_of_getLast? hlast
  cases h with
  | pointer | slice | array | map => exact .inr ⟨_, rfl⟩
  | @basic b => exact absurd hmem (by cases b <;> decide)
  | own => exact absurd rfl (hk _ hmem).2.1
  | @foreign name package =>
    rw [qualified, String.toList_append, String.toList_append, List.mem_append,
      List.mem_append] at hmem
    rcases hmem with (hmem | hmem) | hmem
    · exact absurd ((packageAlias_chars package).2 _ hmem) (by decide +kernel)
    · exact absurd hmem (by decide)
    · exact absurd rfl (hk _ hmem).2.1
  | struct =>
    rw [String.toList_append, List.getLast?_append] at hlast
    cases hlast
  | interface => exact absurd hmem (by decide)
  | signature hps hrs =>
    cases hrs with
    | nil => exact .inl ⟨_, _, rfl⟩
    | cons h hrs =>
      cases hrs with
      | nil => exact .inr ⟨_, rfl⟩
      | cons h' hrs =>
        refine absurd habsorbs (not_absorbs_results (.intercalate (.plain_text (by decide)) ?_))
        intro text htext
        obtain ⟨b, -, hb⟩ := exists_beside (.cons h (.cons h' hrs)) htext
        exact hR b text hb

theorem balanced_params {ps : List String}
    (hps : ∀ p ∈ ps, ∃ b text, R b text ∧ (p = text ∨ p = "..." ++ text))
    (hR : ∀ b s, R b s → Balanced s.toList) :
    Balanced (String.intercalate ", " ps).toList := by
  refine .intercalate (.plain_text (by decide)) (fun p hp => ?_)
  obtain ⟨b, text, htext, rfl | rfl⟩ := hps p hp
  · exact hR _ _ htext
  · exact .append_text (.plain_text (by decide)) (hR _ _ htext)

theorem balanced_functionSpelling {ps rs : List String}
    (hps : Balanced (String.intercalate ", " ps).toList) (hrs : ∀ r ∈ rs, Balanced r.toList) :
    Balanced (functionSpelling ps rs).toList := by
  have hparams : Balanced ("func(" ++ String.intercalate ", " ps ++ ")").toList := by
    have hfunc := Balanced.append_text (a := "func") (.plain_text (by decide)) hps.paren_text
    simpa using hfunc
  have hresults : Balanced (String.intercalate ", " rs).toList :=
    .intercalate (.plain_text (by decide)) hrs
  match rs with
  | [] => exact hparams
  | [r] => exact (hparams.append_text (.plain_text (by decide))).append_text (hrs r (by simp))
  | r :: r' :: rs =>
    rw [functionSpelling_several]
    exact (hparams.append_text (.plain_text (by decide))).append_text hresults.paren_text

/-- **Parentheses are balanced in spellings**, if names hold none. -/
theorem balanced (h : LaidOut home R k text) (hR : ∀ b s, R b s → Balanced s.toList)
    (hk : k.CleanNames) : Balanced text.toList := by
  have hname : ∀ {name}, CleanName name → Balanced name.toList := fun h =>
    .plain (fun c hc => ⟨(h c hc).1, (h c hc).2.1⟩)
  have hdigits : ∀ length : Nat, Balanced (toString length).toList := by
    intro length
    have hdigit : ∀ c ∈ (toString length).toList, c.isDigit = true := by
      intro c hc
      have hc : c ∈ (String.ofList (Nat.toDigits 10 length)).toList := hc
      rw [String.toList_ofList] at hc
      exact Nat.isDigit_of_mem_toDigits (by decide) (by decide) hc
    exact .of_not_mem (fun h => absurd (hdigit _ h) (by decide))
      (fun h => absurd (hdigit _ h) (by decide))
  have hopening : Balanced "[".toList := .plain_text (by decide)
  have hclosing : Balanced "]".toList := .plain_text (by decide)
  cases h with
  | @basic b => exact .plain_text (by cases b <;> decide)
  | own => exact hname hk
  | @foreign name package =>
    obtain ⟨-, hchars⟩ := packageAlias_chars package
    have halias : Balanced (packageAlias package).toList :=
      .of_not_mem (fun h => absurd (hchars _ h) (by decide +kernel))
        (fun h => absurd (hchars _ h) (by decide +kernel))
    exact (halias.append_text (.plain_text (by decide))).append_text (hname hk)
  | pointer h => exact .append_text (.plain_text (by decide)) (hR _ _ h)
  | slice h => exact .append_text (.plain_text (by decide)) (hR _ _ h)
  | array h =>
    exact ((hopening.append_text (hdigits _)).append_text hclosing).append_text (hR _ _ h)
  | map hkey hvalue =>
    have hmap : Balanced "map[".toList := .plain_text (by decide)
    exact ((hmap.append_text (hR _ _ hkey)).append_text hclosing).append_text (hR _ _ hvalue)
  | struct h =>
    have hstruct : Balanced "struct\x7b ".toList := .plain_text (by decide)
    refine (hstruct.append_text (.intercalate (.plain_text (by decide)) ?_)).append_text
      (.plain_text (by decide))
    intro text htext
    obtain ⟨f, hf, type, htype, rfl⟩ := h text htext
    split
    · exact hR _ _ htype
    · exact ((hname (hk f hf)).append_text (.plain_text (by decide))).append_text (hR _ _ htype)
  | interface => exact .plain_text (by decide)
  | signature hps hrs =>
    refine balanced_functionSpelling (balanced_params hps hR) (fun r hr => ?_)
    obtain ⟨b, -, hb⟩ := exists_beside hrs hr
    exact hR b r hb

end LaidOut

end Crosswalk

import Crosswalk.Proofs.Text.Identifier
import Crosswalk.Source.Imports

/-!
# The names of packages

A package is called by the last segment of its path, and its name is told apart from other texts
only by asking which of its characters are alphanumeric and whether it begins with a digit of
ASCII. That is enough to make a name of most segments, but not of all
(`packageAlias_yieldsName`): characters that are alphanumeric and have no place in an identifier
stay where they are, and so do digits of other scripts in front and the words that the language
keeps for itself.

A segment that is an identifier already is not changed, and only a name that is the segment can be
left out of an import declaration.
-/

namespace Crosswalk

/-- What stands in the name of a package for a character of the segment. -/
def substitute (c : Char) : Char := if isNameChar c then c else '_'

variable {c : Char} {cs : List Char} {path : String}

theorem packageAlias_toList (path : String) : (packageAlias path).toList
    = guardFirst ((Text.lastSegment path).toList.map substitute) := String.toList_ofList

theorem isNameChar_eq_true_iff :
    isNameChar c = true ↔ Text.isAlphanumeric c = true ∨ c = '_' := by
  unfold isNameChar
  rw [Bool.or_eq_true, decide_eq_true_iff]

/-! ## What is substituted -/

/-- What holds of the underscore holds of a substitute, unless it is a character that was left. -/
theorem of_substitute_iff {p : Char → Bool} (hp : p '_' = true) :
    p (substitute c) = true ↔ (Text.isAlphanumeric c = true → p c = true) := by
  unfold substitute
  split
  · rename_i hname
    rcases isNameChar_eq_true_iff.mp hname with h | rfl
    · exact ⟨fun hc _ => hc, fun hc => hc h⟩
    · exact iff_of_true hp (fun _ => hp)
  · rename_i hname
    exact iff_of_true hp (fun h => absurd (isNameChar_eq_true_iff.mpr (.inl h)) hname)

theorem substitute_eq_or (c : Char) : substitute c = c ∨ substitute c = '_' := by
  unfold substitute
  split
  · exact .inl rfl
  · exact .inr rfl

theorem isNameChar_substitute (c : Char) : isNameChar (substitute c) = true :=
  (of_substitute_iff (isNameChar_eq_true_iff.mpr (.inr rfl))).mpr
    (fun h => isNameChar_eq_true_iff.mpr (.inl h))

/-- Digits of ASCII are left, and nothing else becomes one. -/
theorem isDigit_substitute (c : Char) : (substitute c).isDigit = c.isDigit := by
  unfold substitute
  split
  · rfl
  · rename_i hname
    exact (Bool.eq_false_iff.mpr (fun hdigit =>
      hname (isNameChar_eq_true_iff.mpr (.inl (Text.isAlphanumeric_of_isDigit hdigit))))).symm

theorem map_substitute_of_forall (h : ∀ c ∈ cs, isNameChar c = true) :
    cs.map substitute = cs :=
  (List.map_congr_left (fun c hc => if_pos (h c hc))).trans (List.map_id cs)

theorem guardFirst_eq (cs : List Char) :
    guardFirst cs = '_' :: cs ∨ guardFirst cs = cs ∧ cs ≠ [] := by
  cases cs with
  | nil => exact .inl rfl
  | cons c cs =>
    rw [guardFirst]
    split
    · exact .inl rfl
    · exact .inr ⟨rfl, List.cons_ne_nil c cs⟩

/-- **The identifier of a package is not empty**, and of characters that may stand in one. -/
theorem packageAlias_chars (path : String) : (packageAlias path).toList ≠ [] ∧
    ∀ c ∈ (packageAlias path).toList, isNameChar c = true := by
  have hmapped : ∀ c ∈ (Text.lastSegment path).toList.map substitute, isNameChar c = true :=
    List.forall_mem_map.mpr (fun c _ => isNameChar_substitute c)
  rw [packageAlias_toList]
  rcases guardFirst_eq ((Text.lastSegment path).toList.map substitute) with h | ⟨h, hne⟩
  · rw [h]
    exact ⟨List.cons_ne_nil _ _,
      List.forall_mem_cons.mpr ⟨isNameChar_eq_true_iff.mpr (.inr rfl), hmapped⟩⟩
  · rw [h]
    exact ⟨hne, hmapped⟩

/-- Without an underscore in it, the name is the segment. -/
theorem packageAlias_of_notMem (h : '_' ∉ (packageAlias path).toList) :
    packageAlias path = Text.lastSegment path := by
  refine String.toList_injective ?_
  rw [packageAlias_toList] at h ⊢
  rcases guardFirst_eq ((Text.lastSegment path).toList.map substitute) with hguard | ⟨hguard, -⟩
  · rw [hguard] at h
    exact absurd List.mem_cons_self h
  · rw [hguard] at h ⊢
    have hleft : ∀ c ∈ (Text.lastSegment path).toList, substitute c = c := fun c hc =>
      (substitute_eq_or c).resolve_right (fun hunderscore =>
        h (hunderscore ▸ List.mem_map_of_mem hc))
    exact (List.map_congr_left hleft).trans (List.map_id _)

/-! ## Segments that a name is made of -/

/-- **A segment that a name is made of**: what is alphanumeric in it can stand in an identifier,
what it begins with can begin one or is seen not to, and the language does not keep it for
itself. -/
structure YieldsName (segment : String) : Prop where
  /-- What is alphanumeric can stand in an identifier. -/
  chars : ∀ c ∈ segment.toList, Text.isAlphanumeric c = true → Text.isIdentifierChar c = true
  /-- What is alphanumeric and comes first is a letter or a digit of ASCII. -/
  first : ∀ c ∈ segment.toList.head?, Text.isAlphanumeric c = true →
    Text.beginsIdentifier c = true ∨ c.isDigit = true
  /-- The language does not keep it for itself. -/
  word : segment ∉ Text.keywords

theorem isIdentifier_ofList_cons_iff : Text.isIdentifier (String.ofList (c :: cs)) = true
    ↔ Text.beginsIdentifier c = true ∧ ∀ d ∈ cs, Text.isIdentifierChar d = true := by
  rw [Text.isIdentifier, String.toList_ofList, Bool.and_eq_true, List.all_eq_true]

/-- Only what is alphanumeric can be out of place. -/
theorem forall_substitute_iff :
    (∀ d ∈ cs.map substitute, Text.isIdentifierChar d = true) ↔
      ∀ d ∈ cs, Text.isAlphanumeric d = true → Text.isIdentifierChar d = true := by
  rw [List.forall_mem_map]
  exact forall₂_congr (fun _ _ => of_substitute_iff
    (Text.isIdentifierChar_of_beginsIdentifier Text.beginsIdentifier_underscore))

/-- **What comes first is out of place where it is no letter and nothing is put in front of it.** -/
theorem isIdentifier_guardFirst_iff :
    Text.isIdentifier (String.ofList (guardFirst (cs.map substitute))) = true ↔
      (∀ c ∈ cs, Text.isAlphanumeric c = true → Text.isIdentifierChar c = true) ∧
        ∀ c ∈ cs.head?, Text.isAlphanumeric c = true →
          Text.beginsIdentifier c = true ∨ c.isDigit = true := by
  have hunderscore := Text.beginsIdentifier_underscore
  cases cs with
  | nil =>
    exact iff_of_true (isIdentifier_ofList_cons_iff.mpr ⟨hunderscore, List.forall_mem_nil _⟩)
      ⟨List.forall_mem_nil _, fun _ h => nomatch h⟩
  | cons c cs =>
    rw [List.map_cons, guardFirst, isDigit_substitute]
    simp only [List.head?_cons, Option.mem_some_iff, forall_eq']
    split
    · rename_i hdigit
      rw [isIdentifier_ofList_cons_iff, ← List.map_cons, forall_substitute_iff]
      exact ⟨fun h => ⟨h.2, fun _ => .inr hdigit⟩, fun h => ⟨hunderscore, h.1⟩⟩
    · rename_i hdigit
      rw [isIdentifier_ofList_cons_iff, forall_substitute_iff, of_substitute_iff hunderscore,
        List.forall_mem_cons]
      constructor
      · rintro ⟨hfirst, hrest⟩
        exact ⟨⟨fun h => Text.isIdentifierChar_of_beginsIdentifier (hfirst h), hrest⟩,
          fun h => .inl (hfirst h)⟩
      · rintro ⟨⟨-, hrest⟩, hfirst⟩
        exact ⟨fun h => (hfirst h).resolve_right hdigit, hrest⟩

/-- A segment that is an identifier is the name as it stands. -/
theorem packageAlias_of_isIdentifier (h : Text.isIdentifier (Text.lastSegment path) = true) :
    packageAlias path = Text.lastSegment path := by
  refine String.toList_injective ?_
  rw [packageAlias_toList]
  rw [← String.ofList_toList (s := Text.lastSegment path)] at h
  cases hchars : (Text.lastSegment path).toList with
  | nil => simp [hchars, Text.isIdentifier] at h
  | cons c cs =>
    rw [hchars, isIdentifier_ofList_cons_iff] at h
    obtain ⟨hfirst, hrest⟩ := h
    have hall : ∀ d ∈ c :: cs, Text.isIdentifierChar d = true :=
      List.forall_mem_cons.mpr ⟨Text.isIdentifierChar_of_beginsIdentifier hfirst, hrest⟩
    have hname : ∀ d ∈ c :: cs, isNameChar d = true := fun d hd =>
      isNameChar_eq_true_iff.mpr (Text.isAlphanumeric_of_isIdentifierChar (hall d hd))
    rw [map_substitute_of_forall hname, guardFirst, Text.isDigit_of_beginsIdentifier hfirst]
    rfl

theorem packageAlias_mem_keywords_iff :
    packageAlias path ∈ Text.keywords ↔ Text.lastSegment path ∈ Text.keywords := by
  have hplain : ∀ word ∈ Text.keywords, '_' ∉ word.toList ∧ Text.isIdentifier word = true := by
    decide +kernel
  constructor
  · intro h
    rwa [packageAlias_of_notMem (hplain _ h).1] at h
  · intro h
    rwa [packageAlias_of_isIdentifier (hplain _ h).2]

/-- A declaration leaves the name out where it is the segment, and only there. -/
theorem spec_eq_quoted_iff : Imports.spec path = "\"" ++ path ++ "\""
    ↔ packageAlias path = Text.lastSegment path := by
  unfold Imports.spec
  split
  · rename_i h
    exact iff_of_true rfl h.symm
  · rename_i h
    refine iff_of_false (fun heq => ?_) (fun h' => h h'.symm)
    have hlength := congrArg String.length heq
    simp at hlength

/-- **A name that can be written is made of just those segments that yield one.** A declaration
leaves the name out only where it is the segment, and a segment that is an identifier is not
changed. -/
theorem packageAlias_yieldsName (path : String) :
    ((Text.isIdentifier (packageAlias path) = true ∧ packageAlias path ∉ Text.keywords) ↔
      YieldsName (Text.lastSegment path)) ∧
    (Imports.spec path = "\"" ++ path ++ "\"" ↔ packageAlias path = Text.lastSegment path) ∧
    (Text.isIdentifier (Text.lastSegment path) = true →
      packageAlias path = Text.lastSegment path) := by
  refine ⟨?_, spec_eq_quoted_iff, packageAlias_of_isIdentifier⟩
  rw [packageAlias_mem_keywords_iff]
  constructor
  · rintro ⟨hname, hword⟩
    obtain ⟨hchars, hfirst⟩ := isIdentifier_guardFirst_iff.mp hname
    exact ⟨hchars, hfirst, hword⟩
  · rintro ⟨hchars, hfirst, hword⟩
    exact ⟨isIdentifier_guardFirst_iff.mpr ⟨hchars, hfirst⟩, hword⟩

/-- **Not every segment yields a name**: a superscript is alphanumeric but has no place in an
identifier, a digit of another script cannot come first, and a word can be kept by the language.
The first of these names is even left out of the declaration. -/
theorem not_yieldsName :
    (packageAlias "example.com/x²" = "x²" ∧ Text.isIdentifier "x²" = false ∧
      Imports.spec "example.com/x²" = "\"example.com/x²\"") ∧
    (packageAlias "example.com/٣d" = "٣d" ∧ Text.isIdentifier "٣d" = false) ∧
    (packageAlias "example.com/type" = "type" ∧ "type" ∈ Text.keywords) := by
  decide +kernel

end Crosswalk

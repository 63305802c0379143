import Mathlib.Data.List.Basic

/-!
# The lines of a text

A line break ends a line; at the end of a text it may be missing. So a text that is put together
from lines, each with its line break, has these lines, provided that none of them holds a line
break itself, and whatever follows adds lines but changes none (`Text.lines_ended_append`).

A line break in what is meant as one line makes it more than one. It is still all there, line by
line (`Text.ended_lines`), but what was put in front of it stands in front of the first line only
(`Text.lines_append_ended`).
-/

namespace Crosswalk.Text

variable {c : Char} {l cs : List Char} {ls : List (List Char)}

/-- Lines with a character more in front of the first. -/
def consFirst (c : Char) : List (List Char) → List (List Char)
  | [] => [[c]]
  | l :: ls => (c :: l) :: ls

/-- **The lines of a text.** -/
def lines : List Char → List (List Char)
  | [] => []
  | c :: cs => if c = '\n' then [] :: lines cs else consFirst c (lines cs)

theorem lines_cons (c : Char) (cs : List Char) :
    lines (c :: cs) = if c = '\n' then [] :: lines cs else consFirst c (lines cs) := rfl

/-- The text of lines, each with a line break at its end. -/
def ended (ls : List (List Char)) : List Char := ls.flatMap (fun l => l ++ ['\n'])

theorem ended_cons : ended (l :: ls) = l ++ '\n' :: ended ls := by
  simp [ended]

theorem ended_append (ls ls' : List (List Char)) : ended (ls ++ ls') = ended ls ++ ended ls' :=
  List.flatMap_append

theorem newline_not_mem_of_mem_lines (hl : l ∈ lines cs) : '\n' ∉ l := by
  induction cs generalizing l with
  | nil => cases hl
  | cons c cs ih =>
    rw [lines_cons] at hl
    split at hl
    · rcases List.mem_cons.mp hl with rfl | hl
      · exact List.not_mem_nil
      · exact ih hl
    · rename_i hc
      cases hlines : lines cs with
      | nil =>
        rw [hlines] at hl
        obtain rfl := List.mem_singleton.mp hl
        simpa using Ne.symm hc
      | cons first rest =>
        rw [hlines] at hl ih
        rcases List.mem_cons.mp hl with rfl | hl
        · simp [Ne.symm hc, ih List.mem_cons_self]
        · exact ih (List.mem_cons_of_mem _ hl)

theorem lines_line_append (hl : '\n' ∉ l) (cs : List Char) :
    lines (l ++ '\n' :: cs) = l :: lines cs := by
  induction l with
  | nil => rfl
  | cons c l ih =>
    obtain ⟨hc, hl⟩ := not_or.mp (List.mem_cons.not.mp hl)
    rw [List.cons_append, lines_cons, if_neg (Ne.symm hc), ih hl]
    rfl

/-- **Lines that have been ended are lines**, whatever follows. -/
theorem lines_ended_append (hls : ∀ l ∈ ls, '\n' ∉ l) (cs : List Char) :
    lines (ended ls ++ cs) = ls ++ lines cs := by
  induction ls with
  | nil => rfl
  | cons l ls ih =>
    obtain ⟨hl, hls⟩ := List.forall_mem_cons.mp hls
    rw [ended_cons, List.append_assoc, List.cons_append, lines_line_append hl, ih hls]
    rfl

/-- Once its last line is ended, a text has a first one. -/
theorem exists_lines_ended (cs : List Char) :
    ∃ first rest, lines (cs ++ ['\n']) = first :: rest := by
  cases cs with
  | nil => exact ⟨[], [], rfl⟩
  | cons c cs =>
    rw [List.cons_append, lines_cons]
    split
    · exact ⟨_, _, rfl⟩
    · cases lines (cs ++ ['\n']) <;> exact ⟨_, _, rfl⟩

/-- **A text is in its lines**, once its last line is ended. -/
theorem ended_lines (cs : List Char) : ended (lines (cs ++ ['\n'])) = cs ++ ['\n'] := by
  induction cs with
  | nil => rfl
  | cons c cs ih =>
    rw [List.cons_append, lines_cons]
    split
    · rename_i hc
      rw [ended_cons, ih, hc]
      rfl
    · obtain ⟨first, rest, hlines⟩ := exists_lines_ended cs
      rw [hlines, ended_cons] at ih
      rw [hlines, consFirst, ended_cons, List.cons_append, ih]

/-- Of two texts of ended lines one begins as the other, if what follows makes them equal. -/
theorem prefix_or_prefix_of_ended {ls' : List (List Char)} {after after' : List Char}
    (hls : ∀ l ∈ ls, '\n' ∉ l) (hls' : ∀ l ∈ ls', '\n' ∉ l)
    (h : ended ls ++ after = ended ls' ++ after') : ls <+: ls' ∨ ls' <+: ls := by
  have hlines := congrArg lines h
  rw [lines_ended_append hls, lines_ended_append hls'] at hlines
  exact List.prefix_or_prefix_of_prefix (List.prefix_append ls (lines after))
    (hlines ▸ List.prefix_append ls' (lines after'))

/-- **What is put in front of a text** stands in front of its first line only. -/
theorem lines_append_ended {front first : List Char} {rest : List (List Char)}
    (hfront : '\n' ∉ front) (h : lines (cs ++ ['\n']) = first :: rest) :
    lines (front ++ cs ++ ['\n']) = (front ++ first) :: rest := by
  have hplain : ∀ l ∈ first :: rest, '\n' ∉ l := fun l hl => newline_not_mem_of_mem_lines (h ▸ hl)
  obtain ⟨hfirst, hrest⟩ := List.forall_mem_cons.mp hplain
  have hrest' := lines_ended_append hrest []
  rw [List.append_nil, lines, List.append_nil] at hrest'
  rw [List.append_assoc, ← ended_lines cs, h, ended_cons, ← List.append_assoc,
    lines_line_append (by simp [hfront, hfirst]), hrest']

/-- A line break at the end of a text is only missed if there is one already. -/
theorem lines_ended (cs : List Char) :
    lines (cs ++ ['\n']) = lines cs ∨ lines (cs ++ ['\n']) = lines cs ++ [[]] := by
  induction cs with
  | nil => exact .inr rfl
  | cons c cs ih =>
    rw [List.cons_append, lines_cons, lines_cons]
    split
    · rcases ih with ih | ih
      · exact .inl (congrArg _ ih)
      · exact .inr (congrArg _ ih)
    · cases hlines : lines cs with
      | nil =>
        rw [hlines] at ih
        rcases ih with ih | ih
        · exact .inl (congrArg _ ih)
        · exact .inl (by rw [ih]; rfl)
      | cons first rest =>
        rw [hlines] at ih
        rcases ih with ih | ih
        · exact .inl (congrArg (consFirst c) ih)
        · exact .inr (congrArg (consFirst c) ih)

/-! ## Lines as texts -/

variable {s front : String}

/-- **The lines of a text that is one line or more.** The empty text is one, which is empty. -/
def linesOf (s : String) : List String :=
  if s = "" then [""] else (lines s.toList).map String.ofList

theorem length_linesOf_pos (s : String) : 0 < (linesOf s).length := by
  unfold linesOf
  split
  · exact Nat.zero_lt_one
  · rename_i hs
    rw [List.length_map, List.length_pos_iff]
    have hne : s.toList ≠ [] := fun h => hs (String.toList_eq_nil_iff.mp h)
    obtain ⟨c, cs, hchars⟩ := List.exists_cons_of_ne_nil hne
    rw [hchars, lines_cons]
    split
    · exact List.cons_ne_nil _ _
    · cases lines cs <;> exact List.cons_ne_nil _ _

/-- The lines that a text makes when a line break is put behind it. -/
def endedLines (s : String) : List String := (lines (s.toList ++ ['\n'])).map String.ofList

theorem newline_not_mem_endedLines {l : String} (hl : l ∈ endedLines s) : '\n' ∉ l.toList := by
  obtain ⟨cs, hcs, rfl⟩ := List.mem_map.mp hl
  rw [String.toList_ofList]
  exact newline_not_mem_of_mem_lines hcs

/-- They are its lines, and an empty one if there was a line break already. -/
theorem endedLines_cases (s : String) :
    endedLines s = linesOf s ∨ endedLines s = linesOf s ++ [""] := by
  unfold endedLines linesOf
  split
  · rename_i hs
    subst hs
    exact .inl rfl
  · refine (lines_ended s.toList).imp (fun h => by rw [h]) (fun h => ?_)
    rw [h, List.map_append]
    rfl

theorem endedLines_of_not_mem (hs : '\n' ∉ s.toList) : endedLines s = [s] := by
  unfold endedLines
  rw [lines_line_append hs]
  exact congrArg (fun l => [l]) String.ofList_toList

theorem exists_endedLines_append (hfront : '\n' ∉ front.toList) (s : String) :
    ∃ first rest, endedLines s = first :: rest ∧
      endedLines (front ++ s) = (front ++ first) :: rest := by
  obtain ⟨first, rest, h⟩ := exists_lines_ended s.toList
  refine ⟨String.ofList first, rest.map String.ofList, ?_, ?_⟩
  · rw [endedLines, h, List.map_cons]
  · rw [endedLines, String.toList_append, lines_append_ended hfront h, List.map_cons,
      String.ofList_append, String.ofList_toList]

theorem ended_endedLines (s : String) :
    ended ((endedLines s).map String.toList) = s.toList ++ ['\n'] := by
  have hsame : (endedLines s).map String.toList = lines (s.toList ++ ['\n']) := by
    rw [endedLines, List.map_map]
    exact (List.map_congr_left (fun l _ => String.toList_ofList)).trans (List.map_id _)
  rw [hsame, ended_lines]

end Crosswalk.Text

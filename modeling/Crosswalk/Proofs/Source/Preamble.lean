import Crosswalk.Proofs.Source.Partition
import Crosswalk.Proofs.Text.Lines
import Mathlib.Algebra.Order.BigOperators.Group.List

/-!
# What stands in front of the package clause

A generated file begins with the comment that the settings ask for, an entry of the header being
written as one comment, and with the constraint that keeps it out of some builds. Nothing but blank
lines and comments may stand in front of a package clause.

A comment ends with its line. An entry that is a text of several lines is commented out in its
first line alone, and the others stand in the file as they are; and a tag with a line break in it
breaks the constraint in two. These are the only ways in which a preamble goes wrong
(`Emitter.preamble_commented_iff`). A line break at the end of an entry does no harm: what it adds
is an empty line.

The statements are about the text of a file. Where the package clause stands in it is not taken
from how the file is put together: an entry may hold a line that looks like one.
-/

namespace Crosswalk

/-- There is nothing on the line but blanks. -/
def Text.IsBlank (line : String) : Prop := ∀ c ∈ line.toList, c.isWhitespace = true

/-- The line is a comment. -/
def Text.IsComment (line : String) : Prop := ∃ text, line = "//" ++ text

/-- **Lines that introduce a file**, with a header and a tag that excludes it from builds. -/
structure Introduces (header : List String) (tag : String) (ls : List String) : Prop where
  /-- Each is blank or a comment. -/
  comments : ∀ l ∈ ls, Text.IsBlank l ∨ Text.IsComment l
  /-- The lines of the header are among them, commented out. -/
  header : ((header.flatMap Text.linesOf).map (fun l => "// " ++ l)).Subperm ls
  /-- So is the constraint, if there is a tag. -/
  constraint : tag ≠ "" → "//go:build !" ++ tag ∈ ls

/-- **A text begins with lines and a package clause**, in this order. -/
structure InFront (ls : List String) (package text : String) : Prop where
  /-- They are lines. -/
  plain : ∀ l ∈ ls, '\n' ∉ l.toList
  /-- The clause follows the last of them. -/
  text_eq : ∃ rest, text =
    String.join (ls.map (fun l => l ++ "\n")) ++ ("package " ++ package ++ "\n" ++ rest)

/-- **The text of a file is introduced**: the lines in front of a package clause introduce it. -/
def Introduced (header : List String) (tag package text : String) : Prop :=
  ∃ ls, InFront ls package text ∧ Introduces header tag ls

open Text

variable {header ls : List String} {tag s l : String}

/-! ## How much is written -/

theorem sum_length_flatMap (f : String → List String) (header : List String) :
    ((header.flatMap f).map String.length).sum
      = (header.map (fun s => ((f s).map String.length).sum)).sum := by
  rw [List.map_flatMap, List.flatMap_def, List.sum_flatten, List.map_map]
  rfl

theorem sum_length_commented (ls : List String) :
    ((ls.map (fun l => "// " ++ l)).map String.length).sum
      = 3 * ls.length + (ls.map String.length).sum := by
  induction ls with
  | nil => rfl
  | cons l ls ih =>
    have hlength : ("// " ++ l).length = 3 + l.length := String.length_append _ _
    simp only [List.map_cons, List.sum_cons, List.length_cons, ih, hlength]
    omega

/-- An entry is written with its own characters, and those that begin a comment, once. -/
theorem sum_length_endedLines (s : String) :
    ((endedLines ("// " ++ s)).map String.length).sum
      = 3 + ((linesOf s).map String.length).sum := by
  obtain ⟨first, rest, hlines, hfront⟩ := exists_endedLines_append
    (by decide : '\n' ∉ "// ".toList) s
  have hsame : ((endedLines s).map String.length).sum = ((linesOf s).map String.length).sum := by
    rcases endedLines_cases s with h | h
    · rw [h]
    · rw [h, List.map_append, List.sum_append]
      rfl
  have hlength : ("// " ++ first).length = 3 + first.length := String.length_append _ _
  rw [← hsame, hlines, hfront]
  simp only [List.map_cons, List.sum_cons, hlength]
  omega

/-- **Entries of more than one line are not commented out.** For that each line of them needs to
be longer by what begins a comment, but an entry is longer by that once. -/
theorem length_linesOf_of_subperm
    (h : ((header.flatMap linesOf).map (fun l => "// " ++ l)).Subperm
      (header.flatMap (fun s => endedLines ("// " ++ s)))) :
    ∀ s ∈ header, (linesOf s).length = 1 := by
  obtain ⟨ls, hperm, hsub⟩ := h
  have hle := (hsub.map String.length).sum_le_sum (fun _ _ => Nat.zero_le _)
  rw [(hperm.map String.length).sum_nat, List.map_flatMap, sum_length_flatMap,
    sum_length_flatMap] at hle
  simp only [sum_length_commented, sum_length_endedLines] at hle
  intro s hs
  by_contra hone
  have hmore : ∀ s ∈ header, 3 + ((linesOf s).map String.length).sum
      ≤ 3 * (linesOf s).length + ((linesOf s).map String.length).sum := by
    intro s _
    have hpos := length_linesOf_pos s
    omega
  refine Nat.not_lt.mpr hle (List.sum_lt_sum _ _ hmore ⟨s, hs, ?_⟩)
  have hpos := length_linesOf_pos s
  omega

/-! ## In front of a package clause -/

theorem toList_join_append (ls : List String) (after : String) :
    (String.join (ls.map (fun l => l ++ "\n")) ++ after).toList
      = ended (ls.map String.toList) ++ after.toList := by
  simp [String.toList_join, ended, List.flatMap_map]

/-- A word that a text begins with is in its first line. -/
theorem prefix_line_of_prefix {word line after : List Char} (hword : '\n' ∉ word)
    (h : word <+: line ++ '\n' :: after) : word <+: line := by
  obtain ⟨after', h⟩ := h
  rcases List.append_eq_append_iff.mp h with ⟨rest, rfl, -⟩ | ⟨rest, rfl, hrest⟩
  · exact List.prefix_append _ _
  · cases rest with
    | nil =>
      rw [List.append_nil]
    | cons c rest =>
      obtain ⟨rfl, -⟩ := List.cons.inj hrest
      exact absurd (List.mem_append_right _ List.mem_cons_self) hword

namespace InFront

variable {more ls' : List String} {package text : String}

theorem prefix_or_prefix (h : InFront ls package text) (h' : InFront ls' package text) :
    ls <+: ls' ∨ ls' <+: ls := by
  have hof : ∀ ls : List String, (ls.map String.toList).map String.ofList = ls := fun ls => by
    simp [Function.comp_def]
  obtain ⟨rest, htext⟩ := h.text_eq
  obtain ⟨rest', htext'⟩ := h'.text_eq
  have hchars := congrArg String.toList (htext.symm.trans htext')
  rw [toList_join_append, toList_join_append] at hchars
  have hprefix := prefix_or_prefix_of_ended (List.forall_mem_map.mpr h.plain)
    (List.forall_mem_map.mpr h'.plain) hchars
  rw [← hof ls, ← hof ls']
  exact hprefix.imp (fun hprefix => hprefix.map _) (fun hprefix => hprefix.map _)

/-- Lines between one package clause and the next begin with the former. -/
theorem package_prefix (h : InFront ls package text) (h' : InFront (ls ++ l :: more) package text) :
    "package ".toList <+: l.toList := by
  obtain ⟨rest, htext⟩ := h.text_eq
  obtain ⟨rest', htext'⟩ := h'.text_eq
  have hchars := congrArg String.toList (htext.symm.trans htext')
  rw [toList_join_append, toList_join_append, List.map_append, ended_append, List.append_assoc,
    List.append_cancel_left_eq, List.map_cons, ended_cons, List.append_assoc,
    List.cons_append] at hchars
  have hword : '\n' ∉ "package ".toList := by decide
  have hclause : "package ".toList <+: ("package " ++ package ++ "\n" ++ rest).toList := by
    rw [String.append_assoc, String.append_assoc, String.toList_append]
    exact List.prefix_append _ _
  rw [hchars] at hclause
  exact prefix_line_of_prefix hword hclause

/-- **Lines that are no package clauses stand in front of each.** -/
theorem prefix_of_forall (h : InFront ls package text) (h' : InFront ls' package text)
    (hls : ∀ l ∈ ls, ¬ "package ".toList <+: l.toList) : ls <+: ls' := by
  rcases h.prefix_or_prefix h' with hprefix | ⟨more, rfl⟩
  · exact hprefix
  · cases more with
    | nil =>
      rw [List.append_nil]
    | cons l more =>
      exact absurd (h'.package_prefix h) (hls l (by simp))

end InFront

/-! ## The lines of a preamble -/

namespace SourceFile

variable {f : SourceFile}

/-- The lines that are written in front of the package clause. -/
def front (f : SourceFile) : List String := f.preamble.flatMap (fun l => endedLines l.text)

/-- Those of them that follow the header. -/
def frontAfterHeader (f : SourceFile) : List String :=
  (if f.header.isEmpty then [] else [""]) ++
    (if f.excludedTag = "" then [] else endedLines ("//go:build !" ++ f.excludedTag) ++ [""])

theorem front_eq (f : SourceFile) :
    f.front = f.header.flatMap (fun s => endedLines ("// " ++ s)) ++ f.frontAfterHeader := by
  have hblank : endedLines "" = [""] := rfl
  unfold front preamble frontAfterHeader
  rw [List.flatMap_append, ← List.append_assoc]
  congr 1
  · cases f.header with
    | nil => rfl
    | cons s header => simp [List.flatMap_map, hblank]
  · split
    · rfl
    · simp [hblank]

theorem newline_not_mem_front (hl : l ∈ f.front) : '\n' ∉ l.toList := by
  obtain ⟨line, -, hl⟩ := List.mem_flatMap.mp hl
  exact newline_not_mem_endedLines hl

theorem depth_of_mem_preamble {line : Line} (h : line ∈ f.preamble) : line.depth = 0 := by
  unfold preamble at h
  rcases List.mem_append.mp h with h | h
  · split at h
    · cases h
    · rcases List.mem_append.mp h with h | h
      · obtain ⟨text, -, rfl⟩ := List.mem_map.mp h
        rfl
      · obtain rfl := List.mem_singleton.mp h
        rfl
  · split at h
    · cases h
    · rcases List.mem_cons.mp h with rfl | h
      · rfl
      · obtain rfl := List.mem_singleton.mp h
        rfl

end SourceFile

/-- Lines that are not indented are written as they are, each with its line break. -/
theorem toList_renderLines {lines : List Line} (h : ∀ line ∈ lines, line.depth = 0) :
    (renderLines lines).toList
      = ended ((lines.flatMap (fun line => endedLines line.text)).map String.toList) := by
  induction lines with
  | nil => rfl
  | cons line lines ih =>
    obtain ⟨hline, hlines⟩ := List.forall_mem_cons.mp h
    have hrender : line.render.toList = line.text.toList ++ ['\n'] := by
      obtain ⟨depth, text⟩ := line
      obtain rfl : depth = 0 := hline
      rw [Line.render_zero, String.toList_append]
      rfl
    rw [renderLines, List.map_cons, String.join_cons, String.toList_append, hrender,
      ← ended_endedLines, List.flatMap_cons, List.map_append, ended_append]
    exact congrArg _ (ih hlines)

namespace SourceFile

variable {f : SourceFile}

/-- **Where the package clause stands**: behind the lines of the preamble. -/
theorem inFront_front (f : SourceFile) : InFront f.front f.package f.render where
  plain _ := newline_not_mem_front
  text_eq := by
    have hfront : renderLines f.preamble = String.join (f.front.map (fun l => l ++ "\n")) := by
      have hjoin := toList_join_append f.front ""
      rw [String.append_empty, String.toList_empty, List.append_nil] at hjoin
      rw [← String.toList_inj, hjoin,
        toList_renderLines (fun _ hline => depth_of_mem_preamble hline)]
      rfl
    refine ⟨renderLines (importLines f.imports) ++ FunctionDecl.texts f.decls, ?_⟩
    rw [← hfront, f.render_eq]
    simp only [String.append_assoc]

/-! ## When a preamble introduces the file -/

/-- An entry of one line is commented out; a line break at its end adds an empty line. -/
theorem endedLines_of_length_eq_one (h : (linesOf s).length = 1) :
    ∃ line, linesOf s = [line] ∧ (endedLines ("// " ++ s) = ["// " ++ line] ∨
      endedLines ("// " ++ s) = ["// " ++ line, ""]) := by
  obtain ⟨line, hline⟩ := List.length_eq_one_iff.mp h
  obtain ⟨first, rest, hlines, hfront⟩ := exists_endedLines_append
    (by decide : '\n' ∉ "// ".toList) s
  refine ⟨line, hline, (endedLines_cases s).imp (fun h => ?_) (fun h => ?_)⟩
  · rw [hlines, hline] at h
    obtain ⟨rfl, rfl⟩ := List.cons.inj h
    exact hfront
  · rw [hlines, hline] at h
    obtain ⟨rfl, rfl⟩ := List.cons.inj h
    exact hfront

theorem endedLines_constraint (htag : '\n' ∉ tag.toList) :
    endedLines ("//go:build !" ++ tag) = ["//go:build !" ++ tag] :=
  endedLines_of_not_mem (by simp [htag])

/-- What follows the header is the constraint, and lines that are empty. -/
theorem mem_frontAfterHeader (htag : '\n' ∉ f.excludedTag.toList) (hl : l ∈ f.frontAfterHeader) :
    l = "" ∨ l = "//go:build !" ++ f.excludedTag := by
  unfold frontAfterHeader at hl
  rw [endedLines_constraint htag] at hl
  rcases List.mem_append.mp hl with hl | hl
  · split at hl
    · cases hl
    · exact .inl (List.mem_singleton.mp hl)
  · split at hl
    · cases hl
    · simpa [or_comm] using hl

theorem constraint_mem_front (htag : '\n' ∉ f.excludedTag.toList) (hne : f.excludedTag ≠ "") :
    "//go:build !" ++ f.excludedTag ∈ f.front := by
  rw [front_eq, frontAfterHeader, if_neg hne, endedLines_constraint htag]
  simp

/-- **Entries and tags of one line make a preamble of comments.** -/
theorem introduces_front (hheader : ∀ s ∈ f.header, (linesOf s).length = 1)
    (htag : '\n' ∉ f.excludedTag.toList) : Introduces f.header f.excludedTag f.front where
  comments l hl := by
    have hblank : IsBlank "" := fun c hc => by cases hc
    have hcomment : ∀ text, IsComment ("// " ++ text) := fun text =>
      ⟨" " ++ text, by rw [← String.append_assoc]; rfl⟩
    rw [front_eq] at hl
    rcases List.mem_append.mp hl with hl | hl
    · obtain ⟨s, hs, hl⟩ := List.mem_flatMap.mp hl
      obtain ⟨line, -, hlines | hlines⟩ := endedLines_of_length_eq_one (hheader s hs)
      · rw [hlines] at hl
        obtain rfl := List.mem_singleton.mp hl
        exact .inr (hcomment line)
      · rw [hlines] at hl
        rcases List.mem_cons.mp hl with rfl | hl
        · exact .inr (hcomment line)
        · obtain rfl := List.mem_singleton.mp hl
          exact .inl hblank
    · rcases mem_frontAfterHeader htag hl with rfl | rfl
      · exact .inl hblank
      · exact .inr ⟨"go:build !" ++ f.excludedTag, by rw [← String.append_assoc]; rfl⟩
  header := by
    have hentry : ∀ s ∈ f.header, ((linesOf s).map (fun l => "// " ++ l)).Sublist
        (endedLines ("// " ++ s)) := by
      intro s hs
      obtain ⟨line, hline, hlines | hlines⟩ := endedLines_of_length_eq_one (hheader s hs)
      · rw [hline, hlines]
        exact .refl _
      · rw [hline, hlines]
        exact .cons_cons _ (List.nil_sublist _)
    rw [List.map_flatMap, front_eq]
    exact ((List.Sublist.flatMap_right _ hentry).trans (List.sublist_append_left _ _)).subperm
  constraint := constraint_mem_front htag

/-- The package clause is neither blank nor a comment. -/
theorem not_comment_of_package (h : "package ".toList <+: l.toList) :
    ¬ (IsBlank l ∨ IsComment l) := by
  rintro (hblank | ⟨text, rfl⟩)
  · have hp := hblank 'p' (h.subset List.mem_cons_self)
    cases hp
  · rw [String.toList_append] at h
    obtain ⟨after, h⟩ := h
    cases (List.cons.inj h).1

/-- **What introduces a file is in its preamble.** The package clause it stands in front of is no
later than that of the file, which is no comment. -/
theorem prefix_front (h : InFront ls f.package f.render)
    (hcomments : ∀ l ∈ ls, IsBlank l ∨ IsComment l) : ls <+: f.front :=
  h.prefix_of_forall f.inFront_front
    (fun l hl hpackage => not_comment_of_package hpackage (hcomments l hl))

/-- Where the header is among the lines, commented out, its entries are one line each. -/
theorem length_linesOf_of_introduces (htag : '\n' ∉ f.excludedTag.toList)
    (h : ((f.header.flatMap linesOf).map (fun l => "// " ++ l)).Subperm f.front) :
    ∀ s ∈ f.header, (linesOf s).length = 1 := by
  have hall : ((f.header.flatMap linesOf).map (fun l => "// " ++ l)).filter
      (fun l => decide ("// ".toList <+: l.toList))
        = (f.header.flatMap linesOf).map (fun l => "// " ++ l) := by
    refine List.filter_eq_self.mpr (fun l hl => ?_)
    obtain ⟨line, -, rfl⟩ := List.mem_map.mp hl
    exact decide_eq_true (by rw [String.toList_append]; exact List.prefix_append _ _)
  have hnone : f.frontAfterHeader.filter (fun l => decide ("// ".toList <+: l.toList)) = [] := by
    refine List.filter_eq_nil_iff.mpr (fun l hl => ?_)
    rcases mem_frontAfterHeader htag hl with rfl | rfl
    · decide
    · rintro hspace
      rw [decide_eq_true_iff, String.toList_append] at hspace
      obtain ⟨after, hspace⟩ := hspace
      simp at hspace
  have hsub := h.filter (fun l => decide ("// ".toList <+: l.toList))
  rw [hall, front_eq, List.filter_append, hnone, List.append_nil] at hsub
  exact length_linesOf_of_subperm (hsub.trans List.filter_sublist.subperm)

/-- **A file is introduced** if the entries of its header are one line each, and so is its tag,
and in no other case. -/
theorem introduced_iff (f : SourceFile) : Introduced f.header f.excludedTag f.package f.render ↔
    (∀ s ∈ f.header, (linesOf s).length = 1) ∧ '\n' ∉ f.excludedTag.toList := by
  constructor
  · rintro ⟨ls, hls, h⟩
    have hprefix := prefix_front hls h.comments
    have htag : '\n' ∉ f.excludedTag.toList := by
      by_cases hempty : f.excludedTag = ""
      · rw [hempty]
        exact List.not_mem_nil
      · have hline := hls.plain _ (h.constraint hempty)
        rw [String.toList_append] at hline
        exact fun hmem => hline (List.mem_append_right _ hmem)
    exact ⟨length_linesOf_of_introduces htag (h.header.trans hprefix.sublist.subperm), htag⟩
  · rintro ⟨hheader, htag⟩
    exact ⟨f.front, f.inFront_front, introduces_front hheader htag⟩

end SourceFile

namespace Emitter

variable {e : Emitter} {plans : List Plan} {files : List GeneratedFile} {file : GeneratedFile}

/-- Whatever a file holds, it is put together with the settings. -/
theorem exists_file_of_mem (h : e.emit plans = .ok files) (hfile : file ∈ files) :
    ∃ imports decls, file.source = e.file imports decls := by
  obtain ⟨stem, -, own, hown, hfile⟩ := (mem_files_iff h).mp hfile
  obtain ⟨source, test, hsource, htest, rfl⟩ := stemFiles_eq_ok hown
  rcases List.mem_cons.mp hfile with rfl | hfile
  · unfold sourceFile at hsource
    split at hsource
    · exact ⟨_, _, (Except.ok.inj hsource).symm⟩
    · cases hsource
  · obtain rfl := List.mem_singleton.mp hfile
    obtain ⟨decls, -, htest⟩ := bind_eq_ok_iff.mp htest
    exact ⟨_, decls, (Except.ok.inj htest).symm⟩

/-- **Each generated file is introduced**, in all its lines, if and only if the entries of the header
are one line each and so is the tag. What is generated in it makes no difference. -/
theorem preamble_commented_iff (h : e.emit plans = .ok files) (hfile : file ∈ files) :
    Introduced e.output.header e.output.buildTag e.packageName file.contents ↔
      (∀ entry ∈ e.output.header, (linesOf entry).length = 1) ∧
        '\n' ∉ e.output.buildTag.toList := by
  obtain ⟨imports, decls, hsource⟩ := exists_file_of_mem h hfile
  show Introduced _ _ _ file.source.render ↔ _
  rw [hsource]
  exact (e.file imports decls).introduced_iff

/-- The emitter of the letters, with a header of its own. -/
def noticeEmitter (header : List String) : Emitter :=
  .new letterTypes "example.com/letters" { header := header }

/-- A notice of two entries is commented out. That one of them has a line break at its end does
no harm. -/
theorem noticeEmitter_introduced : ∃ files file,
    (noticeEmitter ["Made by a machine.\n", "Do not edit."]).emit letterPlans = .ok files ∧
    file ∈ files ∧
    Introduced ["Made by a machine.\n", "Do not edit."] "typemapper" "letters" file.contents := by
  have hemitted : answersWith (fun _ => true)
      ((noticeEmitter ["Made by a machine.\n", "Do not edit."]).emit letterPlans) = true := by
    decide +kernel
  obtain ⟨files, hfiles, -⟩ := exists_of_answersWith hemitted
  obtain ⟨source, -, -, -, hfile, -⟩ := exists_files_of_mem_plans hfiles List.mem_cons_self
  exact ⟨files, _, hfiles, hfile,
    (preamble_commented_iff hfiles hfile).mpr ⟨by decide +kernel, by decide +kernel⟩⟩

/-- **A notice of one entry is not**: its second line stands in front of each package clause as it
is, and it is neither blank nor a comment. -/
theorem noticeEmitter_not_introduced : ∃ files file,
    (noticeEmitter ["Made by a machine.\nDo not edit."]).emit letterPlans = .ok files ∧
    file ∈ files ∧
    InFront ["// Made by a machine.", "Do not edit.", "", "//go:build !typemapper", ""] "letters"
      file.contents ∧
    (∀ ls, InFront ls "letters" file.contents → "Do not edit." ∈ ls) ∧
    ¬ (IsBlank "Do not edit." ∨ IsComment "Do not edit.") ∧
    ¬ Introduced ["Made by a machine.\nDo not edit."] "typemapper" "letters" file.contents := by
  have hemitted : answersWith (fun _ => true)
      ((noticeEmitter ["Made by a machine.\nDo not edit."]).emit letterPlans) = true := by
    decide +kernel
  obtain ⟨files, hfiles, -⟩ := exists_of_answersWith hemitted
  obtain ⟨source, -, -, -, hfile, -⟩ := exists_files_of_mem_plans hfiles List.mem_cons_self
  obtain ⟨imports, decls, hsource⟩ := exists_file_of_mem hfiles hfile
  obtain rfl : source = _ := hsource
  have hlines : ((noticeEmitter ["Made by a machine.\nDo not edit."]).file imports decls).front
      = ["// Made by a machine.", "Do not edit.", "", "//go:build !typemapper", ""] := by
    -- the header and the tag are all that it depends on
    have hempty : ((noticeEmitter ["Made by a machine.\nDo not edit."]).file [] []).front
        = ["// Made by a machine.", "Do not edit.", "", "//go:build !typemapper", ""] := by
      decide +kernel
    exact hempty
  have hfront := ((noticeEmitter ["Made by a machine.\nDo not edit."]).file imports
    decls).inFront_front
  rw [hlines] at hfront
  have hmem : ∀ ls, InFront ls "letters" _ → "Do not edit." ∈ ls := fun ls hls =>
    (hfront.prefix_of_forall hls (by decide)).subset (by decide)
  have hplain : ¬ (IsBlank "Do not edit." ∨ IsComment "Do not edit.") := by
    rintro (hblank | ⟨text, htext⟩)
    · exact absurd (hblank 'D' (by decide)) (by decide)
    · have hchars := congrArg String.toList htext
      rw [String.toList_append] at hchars
      cases (List.cons.inj hchars).1
  refine ⟨files, _, hfiles, hfile, hfront, hmem, hplain, ?_⟩
  rintro ⟨ls, hls, h⟩
  exact hplain (h.comments _ (hmem ls hls))

end Emitter

end Crosswalk

import Crosswalk.Files.Host
import Crosswalk.Proofs.Files.Path
import Crosswalk.Proofs.Files.Tree

/-!
# What commands do to a file tree

Writing a file changes what there is at one location, and making a folder puts it where there was
nothing. Neither takes anything away, so every path that was written leads to its location until
the end. What there is at a location after any number of writes is therefore the text that was
written last through a path that leads there (`World.Writes.entry?_eq`).
-/

namespace Crosswalk

namespace World

variable {w after later : World} {p : Path} {text : String} {location : Location}
  {paths : List Path} {files : List (Path × String)}

/-- **Whether a path leads to a location.** -/
def LeadsTo (w : World) (p : Path) (location : Location) : Prop :=
  w.tree.locate w.current p = .ok location

instance : Decidable (w.LeadsTo p location) :=
  inferInstanceAs (Decidable (w.tree.locate w.current p = .ok location))

theorem LeadsTo.unique {l l' : Location} (h : w.LeadsTo p l) (h' : w.LeadsTo p l') : l = l' :=
  Except.ok.inj (h.symm.trans h')

theorem leadsTo_iff : w.LeadsTo p location ↔ p.isEmpty = false ∧ p.isPossible = true ∧
    w.tree.follow (FileTree.origin w.current p) p.segments = .ok location := by
  unfold LeadsTo FileTree.locate
  cases p.isEmpty <;> cases p.isPossible <;> simp

/-- What is read at a path is the text of the file it leads to. -/
theorem LeadsTo.read?_eq (h : w.LeadsTo p location)
    (hfile : w.tree.entry? location = some (.file text)) : w.read? p = some text := by
  have hfound : w.lookUp? p = some (.file text) := by
    unfold lookUp? FileTree.lookUp?
    rw [h]
    exact hfile
  unfold read?
  rw [hfound]

/-- **A world whose tree has grown.** -/
structure GrowsTo (w after : World) : Prop where
  /-- Nothing is gone. -/
  tree : w.tree.GrowsTo after.tree
  /-- Paths begin where they began. -/
  current : after.current = w.current
  /-- Nothing was printed. -/
  printed : after.printed = w.printed

namespace GrowsTo

theorem refl (w : World) : w.GrowsTo w := ⟨.refl _, rfl, rfl⟩

theorem trans (h : w.GrowsTo after) (h' : after.GrowsTo later) : w.GrowsTo later :=
  ⟨h.tree.trans h'.tree, h'.current.trans h.current, h'.printed.trans h.printed⟩

/-- **A path goes on leading where it led.** -/
theorem leadsTo (h : w.GrowsTo after) (hl : w.LeadsTo p location) : after.LeadsTo p location := by
  obtain ⟨hne, hpossible, hl⟩ := leadsTo_iff.mp hl
  exact leadsTo_iff.mpr ⟨hne, hpossible, h.current ▸ h.tree.follow hl⟩

end GrowsTo

/-- **Putting something where there was no folder**, at a location that a path names for
something new. -/
theorem exists_put {segments rest : List String} {entry : Entry}
    (hnew : w.tree.locateNew w.current p segments = .ok (some location))
    (hsegments : p.segments = segments ++ rest) (hrest : ∀ s ∈ rest, s = "")
    (hlast : location.getLast? ≠ some "") (hfree : w.tree.hasFolder location = false)
    (hentry : rest = [] ∨ entry = .folder)
    (h : after = { w with tree := w.tree.put location entry }) :
    w.GrowsTo after ∧ after.LeadsTo p location ∧
      ∀ l, after.tree.entry? l = if l = location then some entry else w.tree.entry? l := by
  have hne := FileTree.ne_nil_of_locateNew hnew
  have hput : ∀ l, after.tree.entry? l = if l = location then some entry else w.tree.entry? l := by
    rw [h]
    exact FileTree.entry?_put hne
  have hgrows : w.GrowsTo after := h ▸ ⟨.put hne hfree, rfl, rfl⟩
  have hthere : after.tree.entry? location = some entry := by rw [hput, if_pos rfl]
  refine ⟨hgrows, ?_, hput⟩
  have hfollow := FileTree.follow_of_locateNew hnew hlast hgrows.tree (by rw [hthere]; rfl)
  obtain ⟨_, names, name, rfl, -, hpossible, -⟩ := FileTree.locateNew_eq_ok hnew
  refine leadsTo_iff.mpr ⟨?_, hpossible, ?_⟩
  · simp [Path.isEmpty, hsegments]
  · rw [hgrows.current, hsegments, FileTree.follow_append, hfollow, ok_bind]
    rcases hentry with rfl | rfl
    · rfl
    · exact FileTree.follow_of_empty (FileTree.hasFolder_iff.mpr hthere) hrest

/-! ## Names in a folder -/

/-- **Where the names in a folder are looked up**: where the segments of its path lead. The empty
path stands for the current folder. -/
def Enters (w : World) (folder : Path) (location : Location) : Prop :=
  w.tree.follow (FileTree.origin w.current folder) folder.segments = .ok location

/-- Where the front of a joined path leads is where names are looked up. -/
theorem follow_front_iff {folder : Path} {front : List String} {inside : Location}
    (hfront : front = folder.segments ∨ folder.segments = front ++ [""] ∨
      front = folder.segments ++ [""]) (hfolder : w.tree.hasFolder inside = true) :
    w.tree.follow (FileTree.origin w.current folder) front = .ok inside
      ↔ w.Enters folder inside := by
  unfold Enters
  rcases hfront with rfl | hsegments | rfl
  · exact Iff.rfl
  · rw [hsegments, FileTree.follow_concat_empty_iff hfolder]
  · exact FileTree.follow_concat_empty_iff hfolder

/-- **The path of a name in a folder** leads to that name, where the names in the folder are. -/
theorem LeadsTo.exists_enters {folder : Path} {name : String}
    (h : w.LeadsTo (folder.join name) location) (hslash : '/' ∉ name.toList)
    (hempty : name ≠ "") (hdot : name ≠ ".") (hdots : name ≠ "..") :
    ∃ inside, w.Enters folder inside ∧ location = inside ++ [name] := by
  obtain ⟨front, hjoin, hfront⟩ := Path.exists_join_eq hslash hempty folder
  rw [hjoin] at h
  obtain ⟨-, -, h⟩ := leadsTo_iff.mp h
  rw [FileTree.follow_append] at h
  obtain ⟨inside, hinside, h⟩ := bind_eq_ok_iff.mp h
  rw [FileTree.follow_cons] at h
  obtain ⟨there, hstep, h⟩ := bind_eq_ok_iff.mp h
  obtain rfl := Except.ok.inj h
  obtain ⟨hfolder, hstep⟩ := FileTree.step_eq_ok_iff.mp hstep
  refine ⟨inside, (follow_front_iff hfront hfolder).mp hinside, ?_⟩
  rcases hstep with ⟨hstays | hstays, -⟩ | ⟨hout, -⟩ | ⟨-, -, hthere⟩
  · exact absurd hstays hempty
  · exact absurd hstays hdot
  · exact absurd hout hdots
  · exact hthere

/-- What there is under the path of a name in a folder. -/
theorem Enters.lookUp?_join {folder : Path} {name : String} (h : w.Enters folder location)
    (hfolder : w.tree.hasFolder location = true) (hslash : '/' ∉ name.toList)
    (hname : FileTree.IsName name) (hpossible : (folder.join name).isPossible = true) :
    w.lookUp? (folder.join name) = w.tree.entry? (location ++ [name]) := by
  obtain ⟨front, hjoin, hfront⟩ := Path.exists_join_eq hslash hname.1 folder
  have hinside := (follow_front_iff hfront hfolder).mpr h
  rw [hjoin] at hpossible ⊢
  have hlocate : w.tree.locate w.current ⟨folder.lead, front ++ [name]⟩
      = w.tree.step location name := by
    rw [FileTree.locate_eq hpossible (by simp [Path.isEmpty])]
    show w.tree.follow (FileTree.origin w.current folder) (front ++ [name]) = _
    rw [FileTree.follow_append, hinside, ok_bind, FileTree.follow_cons]
    cases w.tree.step location name <;> rfl
  unfold lookUp? FileTree.lookUp?
  rw [hlocate, FileTree.step_of_isName hfolder hname]
  cases hentry : w.tree.entry? (location ++ [name]) with
  | some entry => exact hentry
  | none => rfl

/-! ## Writing -/

/-- **What writing a file does**: the path leads to a location, and that is where the text is. -/
theorem write_eq_true (h : w.write p text = (true, after)) :
    ∃ location, w.GrowsTo after ∧ after.LeadsTo p location ∧
      ∀ l, after.tree.entry? l = if l = location then some (.file text) else w.tree.entry? l := by
  unfold write at h
  split at h
  · rename_i location hnew
    split at h
    · cases h
    · rename_i hfree
      obtain ⟨hfolder, hlast⟩ :
          w.tree.hasFolder location = false ∧ location.getLast? ≠ some "" := by simpa using hfree
      exact ⟨location, exists_put hnew (List.append_nil _).symm nofun hlast hfolder (.inl rfl)
        (Prod.mk.inj h).2.symm⟩
  · cases h

/-- A file that cannot be written changes nothing. -/
theorem write_eq_false (h : w.write p text = (false, after)) : after = w := by
  unfold write at h
  split at h
  · split at h
    · exact (Prod.mk.inj h).2.symm
    · cases h
  · exact (Prod.mk.inj h).2.symm

/-- **When a file can be written**: its path names a location for something new, and there is no
folder. -/
theorem canWrite_iff : (w.write p text).1 = true ↔
    ∃ location, w.tree.locateNew w.current p p.segments = .ok (some location) ∧
      w.tree.hasFolder location = false ∧ location.getLast? ≠ some "" := by
  unfold write
  split
  · rename_i location hnew
    rw [hnew]
    split
    · rename_i hnot
      refine ⟨nofun, fun ⟨_, hsame, hfree, hlast⟩ => ?_⟩
      obtain rfl := Option.some.inj (Except.ok.inj hsame)
      simp [hfree, hlast] at hnot
    · rename_i hcan
      refine ⟨fun _ => ⟨location, rfl, ?_⟩, fun _ => rfl⟩
      simpa using hcan
  · rename_i hnone
    exact ⟨nofun, fun ⟨location, hnew, _⟩ => absurd hnew (hnone location)⟩

/-- Whether a file can be written does not depend on its text. -/
theorem canWrite_congr (text' : String) (h : (w.write p text).1 = true) :
    (w.write p text').1 = true :=
  canWrite_iff.mpr (canWrite_iff.mp h)

/-- **Writing one file does not hinder another** from being written. -/
theorem canWrite_of_write {q : Path} {text' : String} (h : (w.write p text).1 = true)
    (hother : w.write q text' = (true, after)) : (after.write p text).1 = true := by
  obtain ⟨location, hnew, hfree, hlast⟩ := canWrite_iff.mp h
  obtain ⟨_, hgrows, -, hentry⟩ := write_eq_true hother
  refine canWrite_iff.mpr ⟨location, hgrows.current ▸ hgrows.tree.locateNew hnew, ?_, hlast⟩
  rw [← Bool.not_eq_true, FileTree.hasFolder_iff, hentry]
  split
  · nofun
  · exact fun hfolder => by rw [FileTree.hasFolder_iff.mpr hfolder] at hfree; cases hfree

/-- **Writing files one after another.** -/
inductive Writes : World → List (Path × String) → World → Prop where
  /-- There is nothing to write. -/
  | nil (w : World) : Writes w [] w
  /-- One file is written, and then the others. -/
  | cons {w next after : World} {p : Path} {text : String} {files : List (Path × String)}
      (h : w.write p text = (true, next)) (hrest : Writes next files after) :
      Writes w ((p, text) :: files) after

/-- The file that was last written through a path that leads to a location. -/
def lastTo (w : World) (files : List (Path × String)) (location : Location) :
    Option (Path × String) :=
  files.reverse.find? (fun file => w.LeadsTo file.1 location)

theorem lastTo_eq_some {file : Path × String} (h : w.lastTo files location = some file) :
    file ∈ files ∧ w.LeadsTo file.1 location := by
  have hleads := List.find?_some h
  exact ⟨List.mem_reverse.mp (List.mem_of_find?_eq_some h), of_decide_eq_true hleads⟩

theorem exists_lastTo {file : Path × String} (hfile : file ∈ files)
    (h : w.LeadsTo file.1 location) : ∃ last, w.lastTo files location = some last :=
  Option.isSome_iff_exists.mp
    (List.find?_isSome.mpr ⟨file, List.mem_reverse.mpr hfile, decide_eq_true h⟩)

namespace Writes

theorem growsTo (h : w.Writes files after) : w.GrowsTo after := by
  induction h with
  | nil w => exact .refl w
  | cons h _ ih =>
    obtain ⟨_, hgrows, -⟩ := write_eq_true h
    exact hgrows.trans ih

/-- Every path that was written leads somewhere. -/
theorem exists_leadsTo (h : w.Writes files after) {file : Path × String} (hfile : file ∈ files) :
    ∃ location, after.LeadsTo file.1 location := by
  induction h with
  | nil w => cases hfile
  | cons h hrest ih =>
    rcases List.mem_cons.mp hfile with rfl | hfile
    · obtain ⟨location, -, hleads, -⟩ := write_eq_true h
      exact ⟨location, hrest.growsTo.leadsTo hleads⟩
    · exact ih hfile

/-- **What there is after writing**: at each location the text that was written last through a
path that leads there, or else what there was before. -/
theorem entry?_eq (h : w.Writes files after) (l : Location) : after.tree.entry? l =
    ((after.lastTo files l).map (fun file => Entry.file file.2)).or (w.tree.entry? l) := by
  induction h with
  | nil w => rfl
  | @cons w next after p text files h hrest ih =>
    obtain ⟨location, -, hleads, hentry⟩ := write_eq_true h
    have hleads := hrest.growsTo.leadsTo hleads
    have hsplit : after.lastTo ((p, text) :: files) l
        = (after.lastTo files l).or (if l = location then some (p, text) else none) := by
      unfold lastTo
      rw [List.reverse_cons, List.find?_append, List.find?_singleton]
      refine congrArg _ (if_congr ?_ rfl rfl)
      rw [decide_eq_true_iff]
      exact ⟨fun hl => hl.unique hleads, fun hl => hl ▸ hleads⟩
    rw [ih, hentry, hsplit]
    cases after.lastTo files l with
    | some file => rfl
    | none => split <;> rfl

/-- **A file that no other gets in the way of** is read back as it was written. -/
theorem read?_eq (h : w.Writes files after) {file : Path × String} (hfile : file ∈ files)
    (hown : ∀ other ∈ files, ∀ l, after.LeadsTo file.1 l → after.LeadsTo other.1 l → other = file) :
    after.read? file.1 = some file.2 := by
  obtain ⟨location, hleads⟩ := h.exists_leadsTo hfile
  obtain ⟨last, hlast⟩ := exists_lastTo hfile hleads
  obtain ⟨hmem, hlasts⟩ := lastTo_eq_some hlast
  refine hleads.read?_eq ?_
  rw [h.entry?_eq, hlast, hown last hmem location hleads hlasts]
  rfl

end Writes

/-! ## Making folders -/

/-- **What making a folder does**: the path leads to a location where there was nothing, and
there is a folder now. -/
theorem makeFolder_eq_made (h : w.makeFolder p = (.made, after)) :
    ∃ location, w.tree.entry? location = none ∧ w.GrowsTo after ∧ after.LeadsTo p location ∧
      ∀ l, after.tree.entry? l = if l = location then some .folder else w.tree.entry? l := by
  unfold makeFolder at h
  dsimp only at h
  split at h
  · cases h
  · cases h
  · split at h <;> cases h
  · rename_i location hnew
    split at h
    · cases h
    · rename_i hnone
      have hnone : w.tree.entry? location = none := by simpa using hnone
      obtain ⟨_, names, name, htrimmed, rfl, -⟩ := FileTree.locateNew_eq_ok hnew
      have hsplit : p.segments = (p.segments.reverse.dropWhile (· = "")).reverse
          ++ (p.segments.reverse.takeWhile (· = "")).reverse := by
        rw [← List.reverse_append, List.takeWhile_append_dropWhile, List.reverse_reverse]
      refine ⟨_, hnone, exists_put hnew hsplit ?_ ?_ ?_ (.inr rfl) (Prod.mk.inj h).2.symm⟩
      · intro s hs
        exact of_decide_eq_true (List.all_eq_true.mp List.all_takeWhile s (List.mem_reverse.mp hs))
      · -- a segment that says nothing would have been trimmed
        rw [List.getLast?_concat]
        rintro hname
        obtain rfl := Option.some.inj hname
        have hhead : (p.segments.reverse.dropWhile (· = "")).head? = some "" := by
          rw [← List.getLast?_reverse, htrimmed, List.getLast?_concat]
        have hfalse := List.head?_dropWhile_not (· = "") p.segments.reverse
        rw [hhead] at hfalse
        simp at hfalse
      · rw [← Bool.not_eq_true, FileTree.hasFolder_iff, hnone]
        nofun

/-- A folder that is not made changes nothing. -/
theorem makeFolder_eq_other {making : Making} (h : w.makeFolder p = (making, after))
    (hmade : making ≠ .made) : after = w := by
  unfold makeFolder at h
  dsimp only at h
  split at h
  · exact (Prod.mk.inj h).2.symm
  · exact (Prod.mk.inj h).2.symm
  · split at h <;> exact (Prod.mk.inj h).2.symm
  · split at h
    · exact (Prod.mk.inj h).2.symm
    · exact absurd (Prod.mk.inj h).1.symm hmade

/-- **Making folders**, each where there was nothing and where one of some paths leads. -/
structure MakesFolders (w : World) (paths : List Path) (after : World) : Prop where
  /-- Nothing is gone, and nothing is printed. -/
  growsTo : w.GrowsTo after
  /-- Whatever is new is a folder. -/
  entry : ∀ l, after.tree.entry? l = w.tree.entry? l ∨ (w.tree.entry? l = none ∧
    after.tree.entry? l = some .folder ∧ ∃ p ∈ paths, after.LeadsTo p l)

namespace MakesFolders

theorem refl (w : World) (paths : List Path) : w.MakesFolders paths w :=
  ⟨.refl w, fun _ => .inl rfl⟩

theorem trans (h : w.MakesFolders paths after) (h' : after.MakesFolders paths later) :
    w.MakesFolders paths later := by
  refine ⟨h.growsTo.trans h'.growsTo, fun l => ?_⟩
  rcases h'.entry l with hsame' | ⟨hnone', hneafter⟩ <;>
    rcases h.entry l with hsame | ⟨hnone, hnew, hp⟩
  · exact .inl (hsame'.trans hsame)
  · obtain ⟨p, hp, hleads⟩ := hp
    exact .inr ⟨hnone, hsame'.trans hnew, p, hp, h'.growsTo.leadsTo hleads⟩
  · exact .inr ⟨hsame ▸ hnone', hneafter⟩
  · rw [hnew] at hnone'
    cases hnone'

theorem mono {paths' : List Path} (h : w.MakesFolders paths after) (hsub : paths ⊆ paths') :
    w.MakesFolders paths' after := by
  refine ⟨h.growsTo, fun l => (h.entry l).imp_right ?_⟩
  rintro ⟨hnone, hnew, p, hp, hleads⟩
  exact ⟨hnone, hnew, p, hsub hp, hleads⟩

/-- An attempt to make one folder. -/
theorem of_makeFolder (w : World) (p : Path) : w.MakesFolders [p] (w.makeFolder p).2 := by
  by_cases hmade : (w.makeFolder p).1 = .made
  · obtain ⟨location, hnone, hgrows, hleads, hentry⟩ :=
      makeFolder_eq_made (Prod.ext hmade rfl : w.makeFolder p = (.made, (w.makeFolder p).2))
    refine ⟨hgrows, fun l => ?_⟩
    rw [hentry]
    split
    · rename_i hl
      exact .inr ⟨hl ▸ hnone, rfl, p, List.mem_cons_self, hl ▸ hleads⟩
    · exact .inl rfl
  · have hsame : (w.makeFolder p).2 = w :=
      makeFolder_eq_other (Prod.ext rfl rfl : w.makeFolder p = ((w.makeFolder p).1, _)) hmade
    rw [hsame]
    exact .refl w _

end MakesFolders

/-- **A step that does nothing but make folders** where some paths lead. -/
def Makes {α : Type} (paths : List Path) (x : StateM World α) : Prop :=
  ∀ w : World, w.MakesFolders paths (x w).2

namespace Makes

variable {α β : Type}

theorem pure (paths : List Path) (a : α) : Makes paths (Pure.pure a) := fun w => .refl w paths

theorem bind {x : StateM World α} {f : α → StateM World β} (h : Makes paths x)
    (hf : ∀ a, Makes paths (f a)) : Makes paths (x >>= f) :=
  fun w => (h w).trans (hf (x w).1 (x w).2)

theorem isFolder (paths : List Path) (p : Path) : Makes paths (Host.isFolder p) :=
  fun w => .refl w paths

theorem makeFolder (hp : p ∈ paths) : Makes paths (Host.makeFolder p) :=
  fun w => (MakesFolders.of_makeFolder w p).mono (List.cons_subset.mpr ⟨hp, List.nil_subset _⟩)

theorem ensureFolder (hp : p ∈ paths) : Makes paths (Host.ensureFolder p) := by
  refine .bind (.makeFolder hp) (fun making => ?_)
  cases making with
  | made => exact .pure paths true
  | noParent | refused => exact .isFolder paths p

theorem ensureUpwards {own : List Path} (hsub : own ⊆ paths) :
    Makes paths (Host.ensureUpwards own) := by
  induction own with
  | nil => exact .pure paths false
  | cons p above ih =>
    obtain ⟨hp, habove⟩ := List.cons_subset.mp hsub
    unfold Host.ensureUpwards
    split
    · exact .pure paths true
    refine .bind (.makeFolder hp) (fun making => ?_)
    cases making with
    | made => exact .pure paths true
    | refused => exact .isFolder paths p
    | noParent =>
      refine .bind (ih habove) (fun there => ?_)
      cases there with
      | false => exact .pure paths false
      | true => exact .ensureFolder hp

/-- **Making a folder and those above it** makes folders on the way there only. -/
theorem ensureFolders (p : Path) : Makes p.upwards (Host.ensureFolders p) :=
  .ensureUpwards (List.Subset.refl _)

end Makes

end World

end Crosswalk

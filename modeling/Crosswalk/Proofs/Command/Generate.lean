import Crosswalk.Proofs.Command.Session
import Crosswalk.Proofs.Files.Host
import Crosswalk.Proofs.Files.Path
import Crosswalk.Proofs.Source.TestNames

/-!
# Generating all or nothing

Generating reads everything, plans everything and puts all files into words before it touches
anything. So whatever goes wrong up to there leaves the world as it was, and a dry run shows what
a real run would write. A real run makes the folder for the files, and writes them one after
another.

## What is where afterwards

The name of a file is joined to the path of the folder, and the host follows the path. Each
location that such a path leads to has the text of the last file whose path leads there; all
else is as it was, apart from folders on the way to the output folder. Names without a slash
cannot get in each other's way: each is the name of a file of its own in the output folder. A
name with slashes leads wherever they take it, and two names may lead to one location
(`detourWorld_file_lost`).
-/

namespace Crosswalk

variable {w w' after : World} {named output : Option Path} {file folder : Path}
  {packageName : Option String} {files : List GeneratedFile}
  {answer : Except (Stop CommandError) Unit}

/-- **The paths and contents of files in a folder**, in order. -/
def placed (folder : Path) (files : List GeneratedFile) : List (Path × String) :=
  files.map (fun file => (folder.join file.name, file.contents))

/-! ## Showing and writing files -/

/-- **Files are shown** in order, each with its path. -/
theorem printFiles_inWorld (folder : Path) (files : List GeneratedFile) (w : World) :
    (printFiles folder files).inWorld w = (.ok (), { w with
      printed := w.printed ++
        String.join ((placed folder files).map (fun file => shown file.1 file.2)) }) := by
  induction files generalizing w with
  | nil =>
    show (Except.ok (), w) = _
    rw [placed, List.map_nil, List.map_nil, String.join_nil, String.append_empty]
  | cons file files ih =>
    have hjoin : w.printed ++ String.join ((placed folder (file :: files)).map
        (fun file => shown file.1 file.2))
        = w.printed ++ shown (folder.join file.name) file.contents ++
          String.join ((placed folder files).map (fun file => shown file.1 file.2)) := by
      rw [placed, List.map_cons, List.map_cons, String.join_cons, String.append_assoc]
      rfl
    rw [hjoin, printFiles, Session.inWorld_bind_of_ok (Session.inWorld_ask _ w), ih]
    rfl

/-- **Files are written** in order, up to one that cannot be written. -/
theorem exists_writes (hrun : (writeFiles folder files).inWorld w = (answer, after)) :
    ∃ done, done <+: placed folder files ∧ w.Writes done after ∧
      (answer = .ok () → done = placed folder files) := by
  induction files generalizing w with
  | nil =>
    obtain ⟨-, rfl⟩ := Prod.mk.inj hrun
    exact ⟨[], List.prefix_rfl, .nil w, fun _ => rfl⟩
  | cons file files ih =>
    rw [writeFiles, Session.inWorld_bind_of_ok (Session.inWorld_ask _ w)] at hrun
    rcases hwrite : w.write (folder.join file.name) file.contents with ⟨written, next⟩
    have hstep : (Host.write (folder.join file.name) file.contents : StateM World Bool) w
        = (written, next) := hwrite
    rw [hstep] at hrun
    cases written with
    | true =>
      obtain ⟨done, hprefix, hwrites, hall⟩ := ih hrun
      exact ⟨_ :: done, (List.prefix_cons_inj _).mpr hprefix, .cons hwrite hwrites,
        fun hok => congrArg _ (hall hok)⟩
    | false =>
      obtain ⟨rfl, rfl⟩ := Prod.mk.inj hrun
      obtain rfl := World.write_eq_false hwrite
      exact ⟨[], List.nil_prefix, .nil _, nofun⟩

/-- **All files are written** if each of them could be on its own. -/
theorem exists_writeFiles_eq_ok
    (hcan : ∀ file ∈ files, (w.write (folder.join file.name) file.contents).1 = true) :
    ∃ after, (writeFiles folder files).inWorld w = (.ok (), after) := by
  induction files generalizing w with
  | nil => exact ⟨w, rfl⟩
  | cons file files ih =>
    obtain ⟨hfirst, hrest⟩ := List.forall_mem_cons.mp hcan
    obtain ⟨next, hwrite⟩ : ∃ next, w.write (folder.join file.name) file.contents = (true, next) :=
      ⟨_, Prod.ext hfirst rfl⟩
    have hstep : (Host.write (folder.join file.name) file.contents : StateM World Bool) w
        = (true, next) := hwrite
    rw [writeFiles, Session.inWorld_bind_of_ok (Session.inWorld_ask _ w), hstep]
    exact ih (fun other hother => World.canWrite_of_write (hrest other hother) hwrite)

/-- **Making the output folder** makes folders on the way there only. -/
theorem makeOutputFolder_makes (folder : Path) (w : World) :
    w.MakesFolders folder.upwards ((makeOutputFolder folder).inWorld w).2 := by
  unfold makeOutputFolder
  cases folder.isEmpty with
  | true => exact .refl w _
  | false =>
    have hmakes := World.Makes.ensureFolders folder w
    show w.MakesFolders folder.upwards ((Session.ask (Host.ensureFolders folder) >>= _).inWorld w).2
    rw [Session.inWorld_bind_of_ok (Session.inWorld_ask _ w)]
    cases ((Host.ensureFolders folder : StateM World Bool) w).1 with
    | true => exact hmakes
    | false => exact hmakes

/-! ## Runs -/

/-- **Whatever goes wrong before the files are known** leaves the world as it was. -/
theorem generate_of_not_yields (hnone : ∀ files, ¬ w.Yields named file packageName files)
    (output : Option Path) (dryRun : Bool) :
    ∃ stop, (generate named file output packageName dryRun).inWorld w = (.error stop, w) := by
  obtain ⟨stop, hstop⟩ := (generatedFiles_finds named file packageName w).inWorld_eq_error hnone
  exact ⟨stop, Session.inWorld_bind_of_error hstop⟩

/-- **A dry run** prints the files and leaves the tree as it was. -/
theorem generate_dry (h : w.Yields named file packageName files) (output : Option Path) :
    (generate named file output packageName true).inWorld w = (.ok (), { w with
      printed := w.printed ++ String.join ((placed (outputFolder output file) files).map
        (fun file => shown file.1 file.2)) }) := by
  have hfound := (generatedFiles_finds named file packageName w).inWorld_eq_ok h
  rw [generate, Session.inWorld_bind_of_ok hfound]
  exact printFiles_inWorld _ files w

/-- **A real run** makes folders on the way to the output folder, writes the files in order, and
prints how many there were if it has written all. -/
theorem generate_real (h : w.Yields named file packageName files)
    (hrun : (generate named file output packageName false).inWorld w = (answer, after)) :
    ∃ made done written text, w.MakesFolders (outputFolder output file).upwards made ∧
      done <+: placed (outputFolder output file) files ∧ made.Writes done written ∧
      after = { written with printed := text } ∧
      (answer = .ok () → done = placed (outputFolder output file) files) := by
  have hfound := (generatedFiles_finds named file packageName w).inWorld_eq_ok h
  rw [generate, Session.inWorld_bind_of_ok hfound] at hrun
  have hmakes := makeOutputFolder_makes (outputFolder output file) w
  rcases Session.inWorld_bind_cases hrun with ⟨stop, hmade, rfl⟩ | ⟨_, made, hmade, hrun⟩
  · rw [hmade] at hmakes
    exact ⟨after, [], after, after.printed, hmakes, List.nil_prefix, .nil _, rfl, nofun⟩
  rw [hmade] at hmakes
  rcases Session.inWorld_bind_cases hrun with ⟨stop, hwritten, rfl⟩ | ⟨_, written, hwritten, hrun⟩
  · obtain ⟨done, hprefix, hwrites, -⟩ := exists_writes hwritten
    exact ⟨made, done, after, after.printed, hmakes, hprefix, hwrites, rfl, nofun⟩
  · obtain ⟨done, hprefix, hwrites, hall⟩ := exists_writes hwritten
    obtain ⟨rfl, rfl⟩ := Prod.mk.inj hrun
    exact ⟨made, done, written, _, hmakes, hprefix, hwrites, rfl, fun _ => hall rfl⟩

/-- **A real run succeeds** once there is an output folder and each file can be written there. -/
theorem exists_generate_eq_ok {made : World} (h : w.Yields named file packageName files)
    (hmade : (makeOutputFolder (outputFolder output file)).inWorld w = (.ok (), made))
    (hcan : ∀ generated ∈ files, (made.write ((outputFolder output file).join generated.name)
      generated.contents).1 = true) :
    ∃ after, (generate named file output packageName false).inWorld w = (.ok (), after) := by
  have hfound := (generatedFiles_finds named file packageName w).inWorld_eq_ok h
  obtain ⟨written, hwritten⟩ := exists_writeFiles_eq_ok hcan
  let told := written.printed ++ ("Generated " ++ toString files.length ++ " file(s).\n")
  refine ⟨{ written with printed := told }, ?_⟩
  rw [generate, Session.inWorld_bind_of_ok hfound]
  exact (Session.inWorld_bind_of_ok hmade).trans (Session.inWorld_bind_of_ok hwritten)

/-! ## What is where afterwards -/

/-- The names of generated files are names, and no two are the same. -/
theorem World.Yields.names (h : w.Yields named file packageName files) :
    (files.map GeneratedFile.name).Nodup ∧ ∀ file ∈ files, ∃ base, file.name = base ++ ".go" := by
  obtain ⟨program, settings, analysis, -, -, -, hfiles⟩ := h
  have hperm := Emitter.names_perm hfiles
  refine ⟨hperm.nodup_iff.mpr (Emitter.nodup_fileNames _ _), fun file hfile => ?_⟩
  obtain ⟨stem, -, hname⟩ := List.mem_flatMap.mp (hperm.mem_iff.mp (List.mem_map_of_mem hfile))
  rcases List.mem_pair.mp hname with hname | hname
  · exact ⟨_, hname⟩
  · have hend : "_test.go" = "_test" ++ ".go" := by decide
    refine ⟨stem ++ "." ++ settings.output.suffix ++ "_test", hname.trans ?_⟩
    show stem ++ "." ++ settings.output.suffix ++ "_test.go" = _
    rw [hend, ← String.append_assoc]

/-- **A file without a slash in its name** is in the folder, if it is anywhere. -/
theorem World.Yields.exists_enters {generated : GeneratedFile} {location : Location}
    (h : w.Yields named file packageName files) (hfile : generated ∈ files)
    (hslash : '/' ∉ generated.name.toList)
    (hleads : after.LeadsTo (folder.join generated.name) location) :
    ∃ inside, after.Enters folder inside ∧ location = inside ++ [generated.name] := by
  obtain ⟨base, hbase⟩ := h.names.2 generated hfile
  have hlong : 3 ≤ generated.name.length := by
    rw [hbase, String.length_append]
    exact Nat.le_add_left 3 _
  have hne : ∀ short : String, short.length < 3 → generated.name ≠ short :=
    fun short hshort h => absurd hlong (by rw [h]; exact Nat.not_le_of_lt hshort)
  exact hleads.exists_enters hslash (hne "" (by decide)) (hne "." (by decide))
    (hne ".." (by decide))

/-- **What is where after files were put into a folder.** -/
structure World.Holds (w : World) (folder : Path) (files : List GeneratedFile) (after : World) :
    Prop where
  /-- No two files have one name. -/
  names : (files.map GeneratedFile.name).Nodup
  /-- Every file is somewhere. -/
  somewhere : ∀ file ∈ files, ∃ location, after.LeadsTo (folder.join file.name) location
  /-- Where a file is, there is the text of the last file whose path leads there. -/
  last : ∀ location file, after.lastTo (placed folder files) location = some file →
    after.tree.entry? location = some (.file file.2)
  /-- Elsewhere all is as it was, apart from new folders on the way to the folder. -/
  elsewhere : ∀ location, (∀ file ∈ files, ¬ after.LeadsTo (folder.join file.name) location) →
    after.tree.entry? location = w.tree.entry? location ∨
      (w.tree.entry? location = none ∧ after.tree.entry? location = some .folder ∧
        ∃ p ∈ folder.upwards, after.LeadsTo p location)
  /-- Without slashes in their names, all files are in the folder, each with its own text. -/
  own : (∀ file ∈ files, '/' ∉ file.name.toList) → ∀ file ∈ files, ∃ inside,
    after.Enters folder inside ∧ after.LeadsTo (folder.join file.name) (inside ++ [file.name]) ∧
      after.read? (folder.join file.name) = some file.contents

/-- **Once all files are written**, they are where their paths lead. -/
theorem World.Writes.holds {made : World} (h : w.Yields named file packageName files)
    (hmakes : w.MakesFolders folder.upwards made)
    (hwrites : made.Writes (placed folder files) after) : w.Holds folder files after := by
  have hplaced : ∀ {file : GeneratedFile}, file ∈ files →
      (folder.join file.name, file.contents) ∈ placed folder files :=
    fun hfile => List.mem_map_of_mem hfile
  refine ⟨h.names.1, fun file hfile => hwrites.exists_leadsTo (hplaced hfile),
    fun location file hlast => ?_, fun location hnone => ?_, fun hslash file hfile => ?_⟩
  · rw [hwrites.entry?_eq, hlast]
    rfl
  · have hlast : after.lastTo (placed folder files) location = none := by
      rw [Option.eq_none_iff_forall_ne_some]
      intro last hlast
      obtain ⟨hmem, hleads⟩ := World.lastTo_eq_some hlast
      obtain ⟨file, hfile, rfl⟩ := List.mem_map.mp hmem
      exact hnone file hfile hleads
    rw [hwrites.entry?_eq, hlast, Option.map_none, Option.none_or]
    refine (hmakes.entry location).imp_right ?_
    rintro ⟨hnothing, hfolder, p, hp, hleads⟩
    exact ⟨hnothing, hfolder, p, hp, hwrites.growsTo.leadsTo hleads⟩
  · obtain ⟨location, hleads⟩ := hwrites.exists_leadsTo (hplaced hfile)
    obtain ⟨inside, henters, rfl⟩ := h.exists_enters hfile (hslash file hfile) hleads
    refine ⟨inside, henters, hleads, hwrites.read?_eq (hplaced hfile) ?_⟩
    -- another path that leads there is of a file of that name, and names are not shared
    intro other hother location hl hl'
    obtain ⟨file', hfile', rfl⟩ := List.mem_map.mp hother
    obtain rfl := hleads.unique hl
    obtain ⟨inside', henters', hsame⟩ := h.exists_enters hfile' (hslash file' hfile') hl'
    obtain rfl := Except.ok.inj (henters.symm.trans henters')
    have hname : file'.name = file.name := (List.cons.inj (List.append_cancel_left hsame)).1.symm
    rw [List.inj_on_of_nodup_map h.names.1 hfile' hfile hname]

/-- **What generating does**, whatever world it is done in. -/
structure Generation (w : World) (named : Option Path) (file : Path) (output : Option Path)
    (packageName : Option String) : Prop where
  /-- Where there are no settings, no program, or no plans and files of it, the run stops and
  leaves the world as it was. -/
  stops : (∀ files, ¬ w.Yields named file packageName files) → ∀ dryRun, ∃ stop,
    (generate named file output packageName dryRun).inWorld w = (.error stop, w)
  /-- A dry run prints the files and leaves the tree as it was. -/
  shows : ∀ files, w.Yields named file packageName files →
    (generate named file output packageName true).inWorld w = (.ok (), { w with
      printed := w.printed ++ String.join ((placed (outputFolder output file) files).map
        (fun file => shown file.1 file.2)) })
  /-- A real run makes folders on the way to the output folder, and then writes the files that a
  dry run shows, in their order: up to one that cannot be written, and all if it succeeds. -/
  writes : ∀ files answer after, w.Yields named file packageName files →
    (generate named file output packageName false).inWorld w = (answer, after) →
    ∃ made done written text, w.MakesFolders (outputFolder output file).upwards made ∧
      done <+: placed (outputFolder output file) files ∧ made.Writes done written ∧
      after = { written with printed := text } ∧
      (answer = .ok () → done = placed (outputFolder output file) files)
  /-- A real run that succeeds has put all files where their paths lead, and changed nothing
  else. -/
  holds : ∀ files after, w.Yields named file packageName files →
    (generate named file output packageName false).inWorld w = (.ok (), after) →
    w.Holds (outputFolder output file) files after

/-- **Generating is all or nothing.** -/
theorem generate_all_or_nothing (w : World) (named : Option Path) (file : Path)
    (output : Option Path) (packageName : Option String) :
    Generation w named file output packageName where
  stops hnone dryRun := generate_of_not_yields hnone output dryRun
  shows _ h := generate_dry h output
  writes _ _ _ h hrun := generate_real h hrun
  holds files after h hrun := by
    obtain ⟨made, done, written, text, hmakes, -, hwrites, rfl, hall⟩ := generate_real h hrun
    obtain rfl := hall rfl
    -- what is printed at the end changes nothing about the tree
    obtain ⟨hnames, hsomewhere, hlast, helsewhere, hown⟩ := hwrites.holds h hmakes
    exact ⟨hnames, hsomewhere, hlast, helsewhere, hown⟩

/-! ## One file by two names -/

namespace Program

/-- The program of the label types, with their methods declared in one file that is called by two
names. -/
def detourProgram : Program :=
  { twinProgram with
    functions := #[
      .external ⟨0⟩ "CreateMap" "github.com/paultyng/go-typemapper" ⟨none, [], [], false⟩,
      labelMethod ⟨1⟩ ⟨5⟩,
      { labelMethod ⟨2⟩ ⟨6⟩ with file := some "./cards.go" }] }

/-- What is planned for the two methods. -/
def detourPlans : List Plan :=
  [labelSpec ⟨1⟩ "(*cards.Label).ToCard" ⟨5⟩,
    { labelSpec ⟨2⟩ "(*cards.label).ToCard" ⟨6⟩ with file := some "./cards.go" }].map
    (fun spec => ⟨spec, .record [⟨⟨⟨"Text", ⟨0⟩, 0⟩, ⟨"Text", ⟨0⟩, 0⟩⟩, .assign⟩] []⟩)

theorem detourProgram_analyze :
    detourProgram.analyze {} = .ok ⟨.ofSorted (detourPlans.map Plan.spec), detourPlans⟩ :=
  analyze_of_specs (by decide +kernel) (by decide +kernel) (by decide +kernel) (by decide +kernel)

/-- The text of a method, written as tersely as it can be. -/
def labelMethodText (id receiver file : String) : String :=
  "[" ++ id ++ ",\"ToCard\",\"example.com/cards\",\"" ++ file ++ "\"," ++
  "[[\"label\"," ++ receiver ++ "],[[\"card\",7]]],[0,1],[[0,[2,3,5,6]]]," ++
  "[[\x7b\"parameter\":[0]\x7d," ++ receiver ++ ",\"label\"]," ++
  "[\x7b\"parameter\":[1]\x7d,7,\"card\"]," ++
  "[\x7b\"make_interface\":[0]\x7d,8],[\x7b\"make_interface\":[1]\x7d,8]," ++
  "[\x7b\"function_ref\":0\x7d,9]," ++
  "[\x7b\"call\":[4,[2,3]]\x7d],[\x7b\"return\":[[]]\x7d]]]"

/-- The text of a named type that is a struct with a text. -/
def labelTypeText (name : String) : String :=
  "\x7b\"named\":[\"" ++ name ++ "\",\"example.com/cards\",1]\x7d,"

/-- The text of the program. -/
def detourText : String :=
  "[\"example.com/cards\"," ++
  "[\x7b\"basic\":\"string\"\x7d,\x7b\"struct\":[[[\"Text\",0]]]\x7d," ++
  labelTypeText "Label" ++ labelTypeText "label" ++ labelTypeText "Card" ++
  "\x7b\"pointer\":2\x7d,\x7b\"pointer\":3\x7d,\x7b\"pointer\":4\x7d," ++
  "\x7b\"interface\":[[]]\x7d,\x7b\"signature\":[[],[]]\x7d]," ++
  "[[0,\"CreateMap\",\"github.com/paultyng/go-typemapper\",null,[]]," ++
  labelMethodText "1" "5" "cards.go" ++ "," ++ labelMethodText "2" "6" "./cards.go" ++ "]]"

theorem parse?_detourText : parse? detourText = some detourProgram := by
  unfold parse? Json.parse? detourText labelMethodText labelTypeText
  -- a long text is taken to characters piece by piece
  simp only [String.toList_append]
  decide +kernel

end Program

/-- The current folder with nothing in it but the program. -/
def detourWorld : World where
  tree := FileTree.empty.putFile ["cards.json"] Program.detourText
  current := []
  printed := ""

theorem detourWorld_hasProgram :
    detourWorld.HasProgram (.ofString "cards.json") Program.detourProgram :=
  World.holding_hasProgram Program.parse?_detourText

theorem detourWorld_hasSettings : detourWorld.HasSettings none (.ofString "cards.json") {} :=
  World.holding_hasSettings Program.detourText

/-- Four files are generated, and the sources in two of them differ. -/
theorem detourWorld_emits : ∃ files source source',
    detourWorld.Yields none (.ofString "cards.json") none files ∧
    ⟨"./cards.generated.go", source⟩ ∈ files ∧ ⟨"cards.generated.go", source'⟩ ∈ files ∧
    source.render ≠ source'.render ∧
    ∀ file ∈ files, file.name ∈ ["./cards.generated.go", "./cards.generated_test.go",
      "cards.generated.go", "cards.generated_test.go"] := by
  let e := Program.detourProgram.emitter {}
  have hstems : ∀ stem ∈ Emitter.stems Program.detourPlans, stem ∈ ["./cards", "cards"] := by
    have hplans : ∀ plan ∈ Program.detourPlans, plan.spec.stem ∈ ["./cards", "cards"] := by
      decide +kernel
    intro stem hstem
    obtain ⟨plan, hplan, rfl⟩ := Emitter.mem_stems.mp hstem
    exact hplans plan hplan
  obtain ⟨files, hfiles⟩ : ∃ files, e.emit Program.detourPlans = .ok files := by
    have hmade : ∀ stem ∈ ["./cards", "cards"], answersWith (fun _ => true)
        (e.stemFiles Program.detourPlans stem) = true := by decide +kernel
    refine Emitter.exists_emit_iff.mpr (fun stem hstem => ?_)
    obtain ⟨own, hown, -⟩ := exists_of_answersWith (hmade stem (hstems stem hstem))
    exact ⟨own, hown⟩
  have hdiffer : answersWith (fun source => answersWith (fun source' =>
        decide (SourceFile.render source ≠ SourceFile.render source'))
      (e.sourceFile (Emitter.ofStem Program.detourPlans "cards")))
      (e.sourceFile (Emitter.ofStem Program.detourPlans "./cards")) = true := by decide +kernel
  obtain ⟨source, hsource, hdiffer⟩ := exists_of_answersWith hdiffer
  obtain ⟨source', hsource', hdiffer⟩ := exists_of_answersWith hdiffer
  -- the second plan is of the one name of the file, and the first of the other
  have hsecond : Program.detourPlans[1] ∈ Program.detourPlans :=
    List.mem_cons_of_mem _ List.mem_cons_self
  have hfirst : Program.detourPlans[0] ∈ Program.detourPlans := List.mem_cons_self
  obtain ⟨found, -, hfound, -, hmem, -⟩ := Emitter.exists_files_of_mem_plans hfiles hsecond
  obtain ⟨found', -, hfound', -, hmem', -⟩ := Emitter.exists_files_of_mem_plans hfiles hfirst
  obtain rfl := Except.ok.inj (hsource.symm.trans hfound)
  obtain rfl := Except.ok.inj (hsource'.symm.trans hfound')
  refine ⟨files, source, source', ⟨_, _, _, detourWorld_hasProgram, detourWorld_hasSettings,
    Program.detourProgram_analyze, hfiles⟩, hmem, hmem', of_decide_eq_true hdiffer, ?_⟩
  intro file hfile
  have hname := (Emitter.names_perm hfiles).mem_iff.mp (List.mem_map_of_mem hfile)
  obtain ⟨stem, hstem, hname⟩ := List.mem_flatMap.mp hname
  have hnames : ∀ stem ∈ ["./cards", "cards"], ∀ name ∈ e.fileNames stem,
      name ∈ ["./cards.generated.go", "./cards.generated_test.go", "cards.generated.go",
        "cards.generated_test.go"] := by decide +kernel
  exact hnames stem (hstems stem hstem) file.name hname

/-- From the root a dot leads nowhere else. -/
theorem read?_detour (hw : w.current = []) : w.read? ⟨.nothing, [".", "cards.generated.go"]⟩
    = w.read? ⟨.nothing, ["cards.generated.go"]⟩ := by
  have hsame : ∀ t : FileTree, t.locate [] ⟨.nothing, [".", "cards.generated.go"]⟩
      = t.locate [] ⟨.nothing, ["cards.generated.go"]⟩ := by
    intro t
    rw [FileTree.locate_eq (by decide +kernel) rfl, FileTree.locate_eq (by decide +kernel) rfl]
    rfl
  unfold World.read? World.lookUp? FileTree.lookUp?
  rw [hw, hsame]

/-- **One file by two names**: the run succeeds and says that it has generated four files, but one
of the sources is lost. -/
theorem detourWorld_file_lost : ∃ files after,
    detourWorld.Yields none (.ofString "cards.json") none files ∧
    (generate none (.ofString "cards.json") none none false).inWorld detourWorld = (.ok (), after) ∧
    ∃ file ∈ files, after.read? ((outputFolder none (.ofString "cards.json")).join file.name)
      ≠ some file.contents := by
  obtain ⟨files, source, source', hyields, hmem, hmem', hdiffer, hnames⟩ := detourWorld_emits
  have hfolder : outputFolder none (.ofString "cards.json") = ⟨.nothing, []⟩ := by decide +kernel
  have hcan : ∀ file ∈ files, (detourWorld.write
      ((outputFolder none (.ofString "cards.json")).join file.name) file.contents).1 = true := by
    have hempty : ∀ name ∈ ["./cards.generated.go", "./cards.generated_test.go",
        "cards.generated.go", "cards.generated_test.go"],
        (detourWorld.write ((outputFolder none (.ofString "cards.json")).join name) "").1
          = true := by decide +kernel
    exact fun file hfile => World.canWrite_congr _ (hempty file.name (hnames file hfile))
  obtain ⟨after, hrun⟩ := exists_generate_eq_ok hyields (by rw [hfolder]; rfl) hcan
  refine ⟨files, after, hyields, hrun, ?_⟩
  by_contra hnone
  have hall : ∀ file ∈ files,
      after.read? ((outputFolder none (.ofString "cards.json")).join file.name)
        = some file.contents := by
    intro file hfile
    by_contra hnot
    exact hnone ⟨file, hfile, hnot⟩
  obtain ⟨made, done, written, text, hmakes, -, hwrites, rfl, -⟩ := generate_real hyields hrun
  have hcurrent : written.current = [] := hwrites.growsTo.current.trans hmakes.growsTo.current
  have hjoin : (⟨.nothing, []⟩ : Path).join "./cards.generated.go"
      = ⟨.nothing, [".", "cards.generated.go"]⟩ := by decide +kernel
  have hjoin' : (⟨.nothing, []⟩ : Path).join "cards.generated.go"
      = ⟨.nothing, ["cards.generated.go"]⟩ := by decide +kernel
  have hfirst := hall _ hmem
  have hsecond := hall _ hmem'
  rw [hfolder, hjoin] at hfirst
  rw [hfolder, hjoin'] at hsecond
  have hboth := read?_detour (w := { written with printed := text }) hcurrent
  exact hdiffer (Option.some.inj (hfirst.symm.trans (hboth.trans hsecond)))

end Crosswalk

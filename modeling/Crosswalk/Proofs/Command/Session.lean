import Crosswalk.Command.Run
import Crosswalk.Proofs.Outcome

/-!
# What a command reads

Before a command prints or writes anything, it reads: the settings, the program, and what it
makes of them. All of that leaves the world as it is, and whether there is an answer, and which,
is said by predicates of the world (`Session.Finds`). They are put together as the steps are.
-/

namespace Crosswalk

namespace Session

variable {α β : Type} {w w' : World} {P : α → Prop}

/-- **The run of a session in a world**: how it ends, and what has become of the world. -/
def inWorld (x : Session (StateM World) α) (w : World) : Except (Stop CommandError) α × World :=
  x.run w

theorem inWorld_ask (x : StateM World α) (w : World) :
    (ask x).inWorld w = (.ok (x w).1, (x w).2) := rfl

theorem inWorld_bind (x : Session (StateM World) α) (f : α → Session (StateM World) β) (w : World) :
    (x >>= f).inWorld w = match x.inWorld w with
      | (.ok a, w') => (f a).inWorld w'
      | (.error stop, w') => (.error stop, w') := by
  unfold inWorld
  rw [ExceptT.run_bind]
  show (x.run >>= _ : StateM World _) w = _
  have hbind : ∀ {γ δ : Type} (y : StateM World γ) (g : γ → StateM World δ),
      (y >>= g) w = g (y w).1 (y w).2 := fun _ _ => rfl
  rw [hbind]
  rcases x.run w with ⟨_ | _, _⟩ <;> rfl

theorem inWorld_bind_of_ok {x : Session (StateM World) α} {f : α → Session (StateM World) β} {a : α}
    (h : x.inWorld w = (.ok a, w')) : (x >>= f).inWorld w = (f a).inWorld w' := by
  rw [inWorld_bind, h]

/-- **A run of two steps** stops with the first, or goes on where the first has left the world. -/
theorem inWorld_bind_cases {x : Session (StateM World) α} {f : α → Session (StateM World) β}
    {answer : Except (Stop CommandError) β} (h : (x >>= f).inWorld w = (answer, w')) :
    (∃ stop, x.inWorld w = (.error stop, w') ∧ answer = .error stop) ∨
      ∃ a between, x.inWorld w = (.ok a, between) ∧ (f a).inWorld between = (answer, w') := by
  rw [inWorld_bind] at h
  rcases hx : x.inWorld w with ⟨stop | a, between⟩
  · rw [hx] at h
    obtain ⟨rfl, rfl⟩ := Prod.mk.inj h
    exact .inl ⟨stop, rfl, rfl⟩
  · rw [hx] at h
    exact .inr ⟨a, between, rfl, h⟩

theorem inWorld_bind_of_error {x : Session (StateM World) α} {f : α → Session (StateM World) β}
    {stop : Stop CommandError} (h : x.inWorld w = (.error stop, w')) :
    (x >>= f).inWorld w = (.error stop, w') := by
  rw [inWorld_bind, h]

/-! ## Steps that only look -/

/-- **A step that only looks**: it leaves the world as it is, and its answers are those that a
predicate says. -/
structure Finds (x : Session (StateM World) α) (w : World) (P : α → Prop) : Prop where
  /-- The world is left as it is. -/
  unchanged : (x.inWorld w).2 = w
  /-- What it answers. -/
  answers : ∀ a, (x.inWorld w).1 = .ok a ↔ P a

namespace Finds

variable {x : Session (StateM World) α} {Q : α → Prop}

/-- How the step runs if it answers. -/
theorem inWorld_eq_ok_iff (h : x.Finds w P) {a : α} : x.inWorld w = (.ok a, w) ↔ P a :=
  ⟨fun hx => (h.answers a).mp (by rw [hx]), fun ha => Prod.ext ((h.answers a).mpr ha) h.unchanged⟩

/-- Where there is something to be found, the step answers it. -/
theorem inWorld_eq_ok (h : x.Finds w P) {a : α} (ha : P a) : x.inWorld w = (.ok a, w) :=
  h.inWorld_eq_ok_iff.mpr ha

/-- Where there is nothing to be found, the step stops. -/
theorem inWorld_eq_error (h : x.Finds w P) (hnone : ∀ a, ¬ P a) :
    ∃ stop, x.inWorld w = (.error stop, w) := by
  cases hx : (x.inWorld w).1 with
  | ok a => exact absurd ((h.answers a).mp hx) (hnone a)
  | error stop => exact ⟨stop, Prod.ext hx h.unchanged⟩

theorem of_iff (h : x.Finds w P) (hiff : ∀ a, P a ↔ Q a) : x.Finds w Q :=
  ⟨h.unchanged, fun a => (h.answers a).trans (hiff a)⟩

theorem pure (a : α) (w : World) : (Pure.pure a : Session (StateM World) α).Finds w (· = a) :=
  ⟨rfl, fun _ => ⟨fun h => (Except.ok.inj h).symm, fun h => h ▸ rfl⟩⟩

theorem fail (e : CommandError) (w : World) :
    (Session.fail e : Session (StateM World) α).Finds w (fun _ => False) :=
  ⟨rfl, fun _ => ⟨nofun, nofun⟩⟩

theorem ofChecked (x : Checked CommandError α) (w : World) :
    (Session.ofChecked x).Finds w (x = .ok ·) := ⟨rfl, fun _ => Iff.rfl⟩

/-- A question to the host that leaves the world as it is. -/
theorem ask {x : StateM World α} {a : α} (h : x w = (a, w)) : (Session.ask x).Finds w (· = a) := by
  have hrun : (Session.ask x).inWorld w = (.ok a, w) := by rw [inWorld_ask, h]
  refine ⟨by rw [hrun], fun b => ?_⟩
  rw [hrun]
  exact ⟨fun heq => (Except.ok.inj heq).symm, fun heq => heq ▸ rfl⟩

/-- A step that answers what there is, and stops if there is nothing. -/
theorem ofOption {found : Option α} (e : CommandError) (hnone : found = none → x = Session.fail e)
    (hsome : ∀ a, found = some a → x = Pure.pure a) (w : World) : x.Finds w (found = some ·) := by
  cases found with
  | none => exact hnone rfl ▸ (Finds.fail e w).of_iff (fun _ => ⟨nofun, nofun⟩)
  | some a =>
    exact hsome a rfl ▸
      (Finds.pure a w).of_iff (fun _ => ⟨fun h => h ▸ rfl, fun h => (Option.some.inj h).symm⟩)

/-- **Looking for one thing after another.** -/
theorem bind {f : α → Session (StateM World) β} {R : α → β → Prop} (h : x.Finds w P)
    (hf : ∀ a, P a → (f a).Finds w (R a)) : (x >>= f).Finds w (fun b => ∃ a, P a ∧ R a b) := by
  by_cases hsome : ∃ a, P a
  · obtain ⟨a, ha⟩ := hsome
    have hx := h.inWorld_eq_ok ha
    refine ⟨?_, fun b => ?_⟩ <;> rw [inWorld_bind_of_ok hx]
    · exact (hf a ha).unchanged
    · rw [(hf a ha).answers]
      refine ⟨fun hb => ⟨a, ha, hb⟩, fun ⟨a', ha', hb⟩ => ?_⟩
      obtain rfl := Except.ok.inj (((h.answers a').mpr ha').symm.trans ((h.answers a).mpr ha))
      exact hb
  · obtain ⟨stop, hx⟩ := h.inWorld_eq_error (fun a ha => hsome ⟨a, ha⟩)
    refine ⟨?_, fun b => ?_⟩ <;> rw [inWorld_bind_of_error hx]
    exact ⟨nofun, fun ⟨a, ha, _⟩ => absurd ⟨a, ha⟩ hsome⟩

end Finds

theorem readFile_finds (p : Path) (w : World) :
    (readFile p : Session (StateM World) String).Finds w (w.read? p = some ·) := by
  have hread : (Session.ask (Host.read p) : Session (StateM World) _).Finds w (· = w.read? p) :=
    .ask rfl
  exact (hread.bind (fun _ _ =>
    .ofOption (.file .reading p) (fun h => by rw [h]) (fun _ h => by rw [h]) w)).of_iff
    (fun text => ⟨fun ⟨_, hfound, htext⟩ => hfound ▸ htext, fun htext => ⟨_, rfl, htext⟩⟩)

end Session

/-! ## Settings -/

namespace World

/-- The folders that are searched for settings, in order. -/
def searchedFolders (w : World) (program : Path) : List Path :=
  if w.lookUp? program = some .folder then program.upwards
  else (program.parent?.getD program).upwards

/-- **The file with the settings for a program**, if there is one: the file that is named, or
else the first that is there. -/
def settingsFile? (w : World) (named : Option Path) (program : Path) : Option Path :=
  match named with
  | some file => some file
  | none => ((w.searchedFolders program).map (·.join settingsName)).find?
      (fun file => (w.read? file).isSome)

/-- **The settings for a program**: those of the file, or without a file the default ones. -/
def HasSettings (w : World) (named : Option Path) (program : Path) (settings : Settings) : Prop :=
  match w.settingsFile? named program with
  | none => settings = {}
  | some file => ∃ text, w.read? file = some text ∧ Settings.parse? text = some settings

/-- **The program in a file.** -/
def HasProgram (w : World) (file : Path) (program : Program) : Prop :=
  ∃ text, w.read? file = some text ∧ Program.parse? text = some program

/-- A folder with nothing in it but the text of a program. -/
def holding (text : String) : World where
  tree := FileTree.empty.putFile ["cards.json"] text
  current := []
  printed := ""

variable {text : String} {p : Program}

theorem holding_hasProgram (h : Program.parse? text = some p) :
    (holding text).HasProgram (.ofString "cards.json") p :=
  ⟨text, rfl, h⟩

/-- Where there is only a program, the settings stand at their defaults. -/
theorem holding_hasSettings (text : String) :
    (holding text).HasSettings none (.ofString "cards.json") {} := by
  have hprogram : (holding text).lookUp? (.ofString "cards.json") = some (.file text) := rfl
  have hfolders : (holding text).searchedFolders (.ofString "cards.json") = [⟨.nothing, []⟩] := by
    unfold searchedFolders
    rw [hprogram, if_neg (by simp)]
    show Path.upwards ⟨.nothing, []⟩ = _
    rw [Path.upwards]
    rfl
  have hfile : (holding text).settingsFile? none (.ofString "cards.json") = none := by
    unfold settingsFile?
    rw [hfolders]
    rfl
  unfold HasSettings
  rw [hfile]

end World

/-! ## Reading -/

variable {w : World} {file : Path} {named : Option Path} {packageName : Option String}

theorem findSettings_run (w : World) (folders : List Path) :
    (findSettings folders : StateM World (Option Path)) w
      = ((folders.map (·.join settingsName)).find? (fun file => (w.read? file).isSome), w) := by
  induction folders with
  | nil => rfl
  | cons folder folders ih =>
    show (if (w.read? (folder.join settingsName)).isSome = true
      then pure (some (folder.join settingsName)) else findSettings folders : StateM World _) w = _
    rw [List.map_cons, List.find?_cons]
    cases (w.read? (folder.join settingsName)).isSome with
    | true => rfl
    | false => exact ih

theorem searchedFolders_run (program : Path) (w : World) :
    (searchedFolders program : StateM World (List Path)) w = (w.searchedFolders program, w) := by
  show (if decide (w.lookUp? program = some Entry.folder) = true then pure program.upwards
    else pure (program.parent?.getD program).upwards : StateM World _) w = _
  unfold World.searchedFolders
  by_cases h : w.lookUp? program = some .folder
  · rw [if_pos (decide_eq_true h), if_pos h]
    rfl
  · rw [if_neg (by simpa using h), if_neg h]
    rfl

theorem settingsFile_run (named : Option Path) (program : Path) (w : World) :
    (settingsFile named program : StateM World (Option Path)) w
      = (w.settingsFile? named program, w) := by
  cases named with
  | some file => rfl
  | none =>
    show (findSettings ((searchedFolders program : StateM World _) w).1 : StateM World _)
      ((searchedFolders program : StateM World _) w).2 = _
    rw [searchedFolders_run, findSettings_run]
    rfl

theorem loadSettings_finds (named : Option Path) (program : Path) (w : World) :
    (loadSettings named program : Session (StateM World) Settings).Finds w
      (w.HasSettings named program) := by
  have hfile : (Session.ask (settingsFile named program) : Session (StateM World) _).Finds w
      (· = w.settingsFile? named program) := .ask (settingsFile_run named program w)
  unfold World.HasSettings
  refine (hfile.bind (R := fun found settings => match found with
    | none => settings = {}
    | some file => ∃ text, w.read? file = some text ∧ Settings.parse? text = some settings)
    (fun found _ => ?_)).of_iff
    (fun settings => ⟨fun ⟨_, hfound, h⟩ => hfound ▸ h, fun h => ⟨_, rfl, h⟩⟩)
  cases found with
  | none => exact .pure ({} : Settings) w
  | some file => exact (Session.readFile_finds file w).bind (fun _ _ =>
    .ofOption (.settings file) (fun h => by rw [h]) (fun _ h => by rw [h]) w)

theorem loadProgram_finds (file : Path) (w : World) :
    (loadProgram file : Session (StateM World) Program).Finds w (w.HasProgram file) :=
  (Session.readFile_finds file w).bind (fun _ _ =>
    .ofOption (.program file) (fun h => by rw [h]) (fun _ h => by rw [h]) w)

/-- What both commands begin with. -/
theorem loadAndAnalyze_finds (named : Option Path) (file : Path) (w : World) :
    (loadAndAnalyze named file : Session (StateM World) (Program × Settings × Analysis)).Finds w
      (fun found => w.HasProgram file found.1 ∧ w.HasSettings named file found.2.1 ∧
        found.1.analyze found.2.1 = .ok found.2.2) := by
  refine ((loadSettings_finds named file w).bind (fun settings _ =>
    (loadProgram_finds file w).bind (fun program _ => (Session.Finds.ofChecked _ w).bind
      (fun analysis _ => .pure (program, settings, analysis) w)))).of_iff (fun found => ⟨?_, ?_⟩)
  · rintro ⟨settings, hsettings, program, hprogram, analysis, ha, rfl⟩
    exact ⟨hprogram, hsettings, mapCause_eq_ok_iff.mp ha⟩
  · rintro ⟨hprogram, hsettings, ha⟩
    exact ⟨_, hsettings, _, hprogram, _, mapCause_eq_ok_iff.mpr ha, rfl⟩

/-- **The files that a program yields**, with the settings for it. -/
def World.Yields (w : World) (named : Option Path) (file : Path) (packageName : Option String)
    (files : List GeneratedFile) : Prop :=
  ∃ program settings analysis, w.HasProgram file program ∧ w.HasSettings named file settings ∧
    program.analyze settings = .ok analysis ∧
    (program.emitter settings.output packageName).emit analysis.plans = .ok files

theorem generatedFiles_finds (named : Option Path) (file : Path) (packageName : Option String)
    (w : World) :
    (generatedFiles named file packageName : Session (StateM World) (List GeneratedFile)).Finds w
      (w.Yields named file packageName) := by
  refine ((loadAndAnalyze_finds named file w).bind (fun found _ =>
    Session.Finds.ofChecked _ w)).of_iff (fun files => ⟨?_, ?_⟩)
  · rintro ⟨⟨program, settings, analysis⟩, ⟨hprogram, hsettings, ha⟩, hfiles⟩
    exact ⟨program, settings, analysis, hprogram, hsettings, ha, mapCause_eq_ok_iff.mp hfiles⟩
  · rintro ⟨program, settings, analysis, hprogram, hsettings, ha, hfiles⟩
    exact ⟨(program, settings, analysis), ⟨hprogram, hsettings, ha⟩, mapCause_eq_ok_iff.mpr hfiles⟩

end Crosswalk

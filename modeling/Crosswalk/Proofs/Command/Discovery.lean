import Crosswalk.Proofs.Command.Session
import Crosswalk.Proofs.Files.Host

/-!
# Which settings are found

Without a file that is named, the settings for a program are those of its folder, or else of the
nearest folder above that has some. The folders above are found by taking the path of the program
apart, as it was written, and so there are only as many as it names.

That is enough where the path begins at the root and leads nowhere but down: then the folders it
names are all there are. A path that begins in the current folder stops there, whatever settings
there are above (`World.Reaches`). And where two dots lead out of a folder again, that folder is
searched for settings all the same (`diaryWorld_settings`).
-/

namespace Crosswalk

namespace World

variable {w : World} {p q : Path} {top folder location l : Location} {found : Option String}
  {settings : Settings}

/-! ## The nearest settings -/

/-- The text of the settings in a folder, if it has some. -/
def settingsAt? (w : World) (folder : Location) : Option String :=
  match w.tree.entry? (folder ++ [settingsName]) with
  | some (.file text) => some text
  | _ => none

/-- **The settings of the nearest folder that has some**, from one folder up to another, or none if
none of them has any. -/
def Nearest (w : World) (top folder : Location) : Option String → Prop
  | none => ∀ l, top <+: l → l <+: folder → w.settingsAt? l = none
  | some text => ∃ l, top <+: l ∧ l <+: folder ∧ w.settingsAt? l = some text ∧
      ∀ l', l <+: l' → l' <+: folder → l' ≠ l → w.settingsAt? l' = none

/-- What a text of settings amounts to, or the lack of one. -/
def Configures (found : Option String) (settings : Settings) : Prop :=
  match found with
  | none => settings = {}
  | some text => Settings.parse? text = some settings

/-- **The settings for what is in a folder**: the nearest, as far up as the root, or the default
ones if there are none. -/
def NearestSettings (w : World) (folder : Location) (settings : Settings) : Prop :=
  ∃ found, w.Nearest [] folder found ∧ Configures found settings

namespace Nearest

theorem unique {found' : Option String} (h : w.Nearest top folder found)
    (h' : w.Nearest top folder found') : found = found' := by
  have hnone : ∀ {text}, w.Nearest top folder (some text) → ¬ w.Nearest top folder none := by
    rintro text ⟨l, htop, hfolder, hl, -⟩ hnone
    cases hl.symm.trans (hnone l htop hfolder)
  cases found with
  | none =>
    cases found' with
    | none => rfl
    | some text => exact absurd h (hnone h')
  | some text =>
    cases found' with
    | none => exact absurd h' (hnone h)
    | some text' =>
      obtain ⟨l, htop, hfolder, hl, hbelow⟩ := h
      obtain ⟨l', htop', hfolder', hl', hbelow'⟩ := h'
      have heq : l' = l := by
        rcases List.prefix_or_prefix_of_prefix hfolder hfolder' with hle | hle
        · by_contra hne
          cases hl'.symm.trans (hbelow l' hle hfolder' hne)
        · by_contra hne
          cases hl.symm.trans (hbelow' l hle hfolder (Ne.symm hne))
      rw [← hl, ← hl', heq]

/-- There is only one folder from a folder up to itself. -/
theorem self (w : World) (top : Location) : w.Nearest top top (w.settingsAt? top) := by
  cases h : w.settingsAt? top with
  | none =>
    intro l hle hge
    rw [← hle.sublist.antisymm hge.sublist, h]
  | some text =>
    exact ⟨top, List.prefix_rfl, List.prefix_rfl, h,
      fun l hle hge hne => absurd (hge.sublist.antisymm hle.sublist) hne⟩

/-- **One folder further down** its own settings are nearer. -/
theorem down {name : String} (htop : top <+: folder) (h : w.Nearest top folder found) :
    w.Nearest top (folder ++ [name]) ((w.settingsAt? (folder ++ [name])).or found) := by
  cases hown : w.settingsAt? (folder ++ [name]) with
  | some text =>
    refine ⟨folder ++ [name], htop.trans (List.prefix_append _ _), List.prefix_rfl, hown, ?_⟩
    exact fun l hle hge hne => absurd (hge.sublist.antisymm hle.sublist) hne
  | none =>
    cases found with
    | none =>
      intro l hle hge
      rcases List.prefix_concat_iff.mp hge with rfl | hge
      · exact hown
      · exact h l hle hge
    | some text =>
      obtain ⟨l, hle, hge, hl, hbelow⟩ := h
      refine ⟨l, hle, hge.trans (List.prefix_append _ _), hl, fun l' hle' hge' hne => ?_⟩
      rcases List.prefix_concat_iff.mp hge' with rfl | hge'
      · exact hown
      · exact hbelow l' hle' hge' hne

/-- **Further up nothing else is found**, just if whatever there is further up is behind something
that is nearer. -/
theorem root_iff (htop : top <+: folder) (h : w.Nearest top folder found) :
    w.Nearest [] folder found ↔ ∀ l, l <+: top → l ≠ top → (w.settingsAt? l).isSome = true →
      ∃ l', top <+: l' ∧ l' <+: folder ∧ (w.settingsAt? l').isSome = true := by
  cases found with
  | some text =>
    obtain ⟨l', hle, hge, hl', hbelow⟩ := h
    refine iff_of_true ⟨l', List.nil_prefix, hge, hl', hbelow⟩ (fun _ _ _ _ => ?_)
    exact ⟨l', hle, hge, by rw [hl']; rfl⟩
  | none =>
    constructor
    · intro hnone l hle _ hsome
      rw [hnone l List.nil_prefix (hle.trans htop)] at hsome
      cases hsome
    · intro hreach l _ hge
      by_contra hne
      have hsome := Option.isSome_iff_ne_none.mpr hne
      rcases List.prefix_or_prefix_of_prefix hge htop with hle | hle
      · by_cases heq : l = top
        · exact hne (h l (heq ▸ List.prefix_rfl) hge)
        · obtain ⟨l', hle', hge', hsome'⟩ := hreach l hle heq hsome
          rw [h l' hle' hge'] at hsome'
          cases hsome'
      · exact hne (h l hle hge)

end Nearest

/-! ## Folders by their paths -/

/-- In a folder that a path enters, its settings are found by the path. -/
theorem Enters.read?_join (h : w.Enters q folder) (hfolder : w.tree.hasFolder folder = true)
    (hpossible : (q.join settingsName).isPossible = true) :
    w.read? (q.join settingsName) = w.settingsAt? folder := by
  have hname : FileTree.IsName settingsName := ⟨by decide, by decide, by decide, by decide⟩
  unfold read?
  rw [h.lookUp?_join hfolder (by decide) hname hpossible]
  rfl

/-- The text of the first settings that there are in some folders. -/
def firstSettings? (w : World) (folders : List Path) : Option String :=
  folders.findSome? (fun folder => w.read? (folder.join settingsName))

/-- The settings of the first folder come before those of all others. -/
theorem Enters.firstSettings?_cons (h : w.Enters q folder)
    (hfolder : w.tree.hasFolder folder = true) (hpossible : (q.join settingsName).isPossible = true)
    (above : List Path) :
    w.firstSettings? (q :: above) = (w.settingsAt? folder).or (w.firstSettings? above) := by
  unfold firstSettings?
  rw [List.findSome?_cons, h.read?_join hfolder hpossible]
  cases w.settingsAt? folder <;> rfl

/-- **One folder further up.** A path that leads nowhere but down stays where it begins, or the
path above it enters the folder of what it leads to. -/
theorem Enters.above_cases (h : w.Enters p location) (hplain : ".." ∉ p.segments) :
    (location = FileTree.origin w.current p ∧
      p.parent? = if p.lead = .dot then some ⟨.nothing, []⟩ else none) ∨
    ∃ q inside name, p.parent? = some q ∧ w.Enters q inside ∧ w.tree.hasFolder inside = true ∧
      ".." ∉ q.segments ∧ FileTree.origin w.current q = FileTree.origin w.current p ∧
      location = inside ++ [name] := by
  have hfollow := FileTree.follow_trimmed h
  rcases Path.parent?_cases p with ⟨htrimmed, hparent⟩ | ⟨front, last, htrimmed, htelling, hparent⟩
  · rw [htrimmed] at hfollow
    exact .inl ⟨(Except.ok.inj hfollow).symm, hparent⟩
  · have hdown : ∀ {s}, s ∈ front ++ [last] → s ≠ ".." := by
      rintro s hs rfl
      exact hplain (Path.mem_of_mem_trimmed (htrimmed ▸ hs))
    rw [htrimmed] at hfollow
    obtain ⟨inside, hinside, hhas, hlocation⟩ :=
      FileTree.follow_concat hfollow htelling (hdown (List.mem_append_right _ List.mem_cons_self))
    refine .inr ⟨_, inside, last, hparent, FileTree.follow_trimmed hinside, hhas, ?_, rfl,
      hlocation⟩
    exact fun hs => hdown (List.mem_append_left _ (Path.mem_of_mem_trimmed hs)) rfl

/-- **Going up a path that leads nowhere but down** is going up the folders, as far as to where the
path begins. -/
theorem nearest_upwards (q : Path) : ∀ folder, w.Enters q folder →
    w.tree.hasFolder folder = true → ".." ∉ q.segments →
    (∀ above ∈ q.upwards, (above.join settingsName).isPossible = true) →
    FileTree.origin w.current q <+: folder ∧
      w.Nearest (FileTree.origin w.current q) folder (w.firstSettings? q.upwards) := by
  induction q using Path.upwards.induct with
  | case1 p q hup ih =>
    intro folder henters hfolder hplain hpossible
    rw [Path.upwards_of_parent? hup] at hpossible ⊢
    obtain ⟨hown, habove⟩ := List.forall_mem_cons.mp hpossible
    rw [henters.firstSettings?_cons hfolder hown]
    rcases henters.above_cases hplain with
      ⟨rfl, hparent⟩ | ⟨q', inside, name, hparent, hinside, hhas, hplain', horigin, rfl⟩
    · -- only a dot was taken off, and the folder is the same
      obtain ⟨hdot, hq⟩ : p.lead = .dot ∧ q = ⟨.nothing, []⟩ := by
        rw [hup] at hparent
        split at hparent
        · rename_i hdot
          exact ⟨hdot, Option.some.inj hparent⟩
        · cases hparent
      have horigin : FileTree.origin w.current p = FileTree.origin w.current q := by
        unfold FileTree.origin
        rw [hdot, hq]
        rfl
      rw [horigin] at hfolder ⊢
      obtain ⟨-, hnearest⟩ := ih _ (by rw [hq]; rfl) hfolder (by rw [hq]; decide) habove
      rw [hnearest.unique (.self w _), Option.or_self]
      exact ⟨List.prefix_rfl, .self w _⟩
    · obtain rfl := Option.some.inj (hup.symm.trans hparent)
      obtain ⟨htop, hnearest⟩ := ih inside hinside hhas hplain' habove
      rw [horigin] at htop hnearest
      exact ⟨htop.trans (List.prefix_append _ _), hnearest.down htop⟩
  | case2 p hup =>
    intro folder henters hfolder hplain hpossible
    rw [Path.upwards_of_top hup] at hpossible ⊢
    have hnone : w.firstSettings? [] = none := rfl
    rw [henters.firstSettings?_cons hfolder (hpossible p List.mem_cons_self), hnone, Option.or_none]
    rcases henters.above_cases hplain with ⟨rfl, -⟩ | ⟨q, -, -, hparent, -⟩
    · exact ⟨List.prefix_rfl, .self w _⟩
    · cases hup.symm.trans hparent

/-! ## Where the search begins -/

/-- The text of the settings that are found for a program. -/
def settingsText? (w : World) (p : Path) : Option String :=
  w.firstSettings? (w.searchedFolders p)

/-- **The settings for a program** are what the text that is found amounts to. -/
theorem hasSettings_iff :
    w.HasSettings none p settings ↔ Configures (w.settingsText? p) settings := by
  unfold HasSettings settingsFile? settingsText? firstSettings?
  dsimp only
  induction w.searchedFolders p with
  | nil => exact Iff.rfl
  | cons folder folders ih =>
    rw [List.map_cons, List.find?_cons, List.findSome?_cons]
    cases hread : w.read? (folder.join settingsName) with
    | none => exact ih
    | some text =>
      refine ⟨fun ⟨text', htext', h⟩ => ?_, fun h => ⟨text, hread, h⟩⟩
      obtain rfl := Option.some.inj (hread.symm.trans htext')
      exact h

/-- The folder in which a search for settings begins: the location itself, or the folder that it
is in. -/
def folderAt (w : World) (location : Location) : Location :=
  if w.tree.hasFolder location then location else location.dropLast

/-- **The folders that are searched** are those upwards of a path to where the search begins. -/
theorem LeadsTo.searchedFolders_eq (h : w.LeadsTo p location)
    (hcurrent : w.tree.hasFolder w.current = true) (hplain : ".." ∉ p.segments) :
    ∃ q : Path, w.searchedFolders p = q.upwards ∧ w.Enters q (w.folderAt location) ∧
      w.tree.hasFolder (w.folderAt location) = true ∧ ".." ∉ q.segments ∧
      FileTree.origin w.current q = FileTree.origin w.current p := by
  have hlookUp : w.lookUp? p = w.tree.entry? location := by
    unfold lookUp? FileTree.lookUp?
    rw [h]
  have henters : w.Enters p location := (leadsTo_iff.mp h).2.2
  unfold searchedFolders folderAt
  rw [hlookUp]
  by_cases hfolder : w.tree.hasFolder location = true
  · rw [if_pos (FileTree.hasFolder_iff.mp hfolder), if_pos hfolder]
    exact ⟨p, rfl, henters, hfolder, hplain, rfl⟩
  · rw [if_neg (mt FileTree.hasFolder_iff.mpr hfolder), if_neg hfolder]
    rcases henters.above_cases hplain with
      ⟨rfl, -⟩ | ⟨q, inside, name, hparent, hinside, hhas, hplain', horigin, rfl⟩
    · -- a path begins in a folder
      refine absurd ?_ hfolder
      unfold FileTree.origin
      split
      · rfl
      · exact hcurrent
    · rw [hparent, List.dropLast_concat]
      exact ⟨q, rfl, hinside, hhas, hplain', horigin⟩

/-! ## When the nearest settings are found -/

/-- **A path that leads nowhere but down** to what is at a location. -/
structure Descends (w : World) (p : Path) (location : Location) : Prop where
  /-- It leads there. -/
  leads : w.LeadsTo p location
  /-- It does not lead out of any folder. -/
  plain : ".." ∉ p.segments
  /-- A system can be asked for settings in each of the folders that are searched. -/
  possible : ∀ folder ∈ w.searchedFolders p, (folder.join settingsName).isPossible = true

/-- **A path that begins high enough**: whatever settings there are above the folder that it begins
in, others are nearer. -/
def Reaches (w : World) (p : Path) (location : Location) : Prop :=
  ∀ l, l <+: FileTree.origin w.current p → l ≠ FileTree.origin w.current p →
    (w.settingsAt? l).isSome = true →
    ∃ l', FileTree.origin w.current p <+: l' ∧ l' <+: w.folderAt location ∧
      (w.settingsAt? l').isSome = true

/-- Above the root there is nothing, and so no settings either. -/
theorem reaches_of_root (hlead : p.lead = .root) : w.Reaches p location := by
  intro l hle hne
  have horigin : FileTree.origin w.current p = [] := if_pos hlead
  rw [horigin] at hle hne
  exact absurd (List.prefix_nil.mp hle) hne

/-- **The text that is found** is that of the nearest settings, just if the path begins high
enough. -/
theorem Descends.nearest_iff (h : w.Descends p location)
    (hcurrent : w.tree.hasFolder w.current = true) :
    w.Nearest [] (w.folderAt location) (w.settingsText? p) ↔ w.Reaches p location := by
  obtain ⟨q, hsearched, henters, hfolder, hplain, horigin⟩ :=
    h.leads.searchedFolders_eq hcurrent h.plain
  obtain ⟨htop, hnearest⟩ :=
    nearest_upwards q (w.folderAt location) henters hfolder hplain (hsearched ▸ h.possible)
  rw [horigin] at htop hnearest
  unfold settingsText?
  rw [hsearched]
  exact hnearest.root_iff htop

theorem Descends.hasSettings_iff_nearest (h : w.Descends p location)
    (hcurrent : w.tree.hasFolder w.current = true) (hreach : w.Reaches p location) :
    w.HasSettings none p settings ↔ w.NearestSettings (w.folderAt location) settings := by
  have hnearest := (h.nearest_iff hcurrent).mpr hreach
  rw [hasSettings_iff]
  constructor
  · exact fun hsettings => ⟨_, hnearest, hsettings⟩
  · rintro ⟨found, hfound, hsettings⟩
    rwa [hnearest.unique hfound]

end World

open World

variable {w : World} {p : Path} {location : Location}

/-- **The nearest settings are found** by a path that leads nowhere but down, just if it begins high
enough, and by each such path the same. Where there are no settings at all they are the default
ones. -/
theorem loadSettings_nearest (hcurrent : w.tree.hasFolder w.current = true)
    (h : w.Descends p location) :
    (w.Nearest [] (w.folderAt location) (w.settingsText? p) ↔ w.Reaches p location) ∧
    (w.Reaches p location →
      (loadSettings none p : Session (StateM World) Settings).Finds w
        (w.NearestSettings (w.folderAt location)) ∧
      ∀ q, w.Descends q location → w.Reaches q location → ∀ settings,
        ((loadSettings none p : Session (StateM World) Settings).inWorld w = (.ok settings, w) ↔
          (loadSettings none q : Session (StateM World) Settings).inWorld w
            = (.ok settings, w))) := by
  have hfinds : ∀ {q}, w.Descends q location → w.Reaches q location →
      (loadSettings none q : Session (StateM World) Settings).Finds w
        (w.NearestSettings (w.folderAt location)) := fun hq hreach =>
    (loadSettings_finds none _ w).of_iff (fun _ => hq.hasSettings_iff_nearest hcurrent hreach)
  refine ⟨h.nearest_iff hcurrent, fun hp => ⟨hfinds h hp, fun q hq hreach settings => ?_⟩⟩
  exact (hfinds h hp).inWorld_eq_ok_iff.trans (hfinds hq hreach).inWorld_eq_ok_iff.symm

/-! ## Programs with settings around them -/

/-- A program, settings in the folder above, and a folder beside it with a program and settings of
its own. -/
def diaryWorld : World where
  tree := FileTree.empty
    |>.putFile ["home", "typemapper.toml"] "[output]\nsuffix = \"diary\"\n"
    |>.putFile ["home", "work", "cards.json"] "[\"example.com/cards\",[],[]]"
    |>.putFile ["home", "work", "old", "cards.json"] "[\"example.com/old\",[],[]]"
    |>.putFile ["home", "work", "old", "typemapper.toml"] "[output]\nsuffix = \"old\"\n"
  current := ["home", "work"]
  printed := ""

/-- The folders that are searched, by the path of the program. -/
theorem diaryWorld_searchedFolders :
    diaryWorld.searchedFolders (.ofString "/home/work/cards.json")
        = [⟨.root, ["home", "work"]⟩, ⟨.root, ["home"]⟩, ⟨.root, []⟩] ∧
      diaryWorld.searchedFolders (.ofString "cards.json") = [⟨.nothing, []⟩] ∧
      diaryWorld.searchedFolders (.ofString "old/../cards.json")
        = [⟨.nothing, ["old", ".."]⟩, ⟨.nothing, ["old"]⟩, ⟨.nothing, []⟩] ∧
      diaryWorld.searchedFolders (.ofString "old/cards.json")
        = [⟨.nothing, ["old"]⟩, ⟨.nothing, []⟩] ∧
      diaryWorld.searchedFolders (.ofString "/home/work/old/cards.json")
        = [⟨.root, ["home", "work", "old"]⟩, ⟨.root, ["home", "work"]⟩, ⟨.root, ["home"]⟩,
          ⟨.root, []⟩] := by
  have hsearched : ∀ {p q : Path} {above : List Path}, diaryWorld.lookUp? p ≠ some .folder →
      p.parent? = some q → List.IsChain (fun p q => p.parent? = some q) (q :: above) →
      (∀ top ∈ (q :: above).getLast?, top.parent? = none) →
      diaryWorld.searchedFolders p = q :: above := by
    intro p q above hfile hparent habove htop
    unfold World.searchedFolders
    rw [if_neg hfile, hparent]
    exact Path.upwards_of_isChain habove htop
  refine ⟨hsearched ?_ ?_ ?_ ?_, hsearched ?_ ?_ ?_ ?_, hsearched ?_ ?_ ?_ ?_,
    hsearched ?_ ?_ ?_ ?_, hsearched ?_ ?_ ?_ ?_⟩ <;> decide +kernel

/-- The full paths lead nowhere but down, and so does that of the other program from the current
folder. -/
theorem diaryWorld_descends :
    diaryWorld.Descends (.ofString "/home/work/cards.json") ["home", "work", "cards.json"] ∧
      diaryWorld.Descends (.ofString "old/cards.json") ["home", "work", "old", "cards.json"] ∧
      diaryWorld.Descends (.ofString "/home/work/old/cards.json")
        ["home", "work", "old", "cards.json"] := by
  obtain ⟨hroot, -, -, hold, hrootOld⟩ := diaryWorld_searchedFolders
  refine ⟨⟨by decide +kernel, by decide +kernel, ?_⟩, ⟨by decide +kernel, by decide +kernel, ?_⟩,
    ⟨by decide +kernel, by decide +kernel, ?_⟩⟩
  · rw [hroot]
    decide +kernel
  · rw [hold]
    decide +kernel
  · rw [hrootOld]
    decide +kernel

/-- The other program has settings of its own, so its path begins high enough. -/
theorem diaryWorld_reaches_old :
    diaryWorld.Reaches (.ofString "old/cards.json") ["home", "work", "old", "cards.json"] :=
  fun _ _ _ _ => ⟨["home", "work", "old"], by decide +kernel⟩

/-- The texts of settings that are found. -/
theorem diaryWorld_settingsText? :
    diaryWorld.settingsText? (.ofString "/home/work/cards.json")
        = some "[output]\nsuffix = \"diary\"\n" ∧
      diaryWorld.settingsText? (.ofString "cards.json") = none ∧
      diaryWorld.settingsText? (.ofString "old/../cards.json")
        = some "[output]\nsuffix = \"old\"\n" := by
  obtain ⟨hroot, hcurrent, hdots, -⟩ := diaryWorld_searchedFolders
  unfold settingsText?
  rw [hroot, hcurrent, hdots]
  decide +kernel

/-- The settings that only say how files are called. -/
def suffixed (suffix : String) : Settings := { output := { suffix } }

/-- **What is found by three paths to one program**: the settings of the folder above, none at all,
and those of a folder that it is not in. Only the first are the nearest. -/
theorem diaryWorld_settings :
    (∀ name ∈ ["/home/work/cards.json", "cards.json", "old/../cards.json"],
      diaryWorld.LeadsTo (.ofString name) ["home", "work", "cards.json"]) ∧
    (loadSettings none (.ofString "/home/work/cards.json") :
      Session (StateM World) Settings).inWorld diaryWorld
        = (.ok (suffixed "diary"), diaryWorld) ∧
    (loadSettings none (.ofString "cards.json") : Session (StateM World) Settings).inWorld
      diaryWorld = (.ok {}, diaryWorld) ∧
    (loadSettings none (.ofString "old/../cards.json") :
      Session (StateM World) Settings).inWorld diaryWorld
        = (.ok (suffixed "old"), diaryWorld) ∧
    ∀ settings, diaryWorld.NearestSettings ["home", "work"] settings ↔
      settings = suffixed "diary" := by
  have hload : ∀ {p found settings}, diaryWorld.settingsText? p = found →
      Configures found settings →
      (loadSettings none p : Session (StateM World) Settings).inWorld diaryWorld
        = (.ok settings, diaryWorld) := by
    rintro p found settings rfl hsettings
    exact (loadSettings_finds none p _).inWorld_eq_ok (hasSettings_iff.mpr hsettings)
  have hdiary : Settings.parse? "[output]\nsuffix = \"diary\"\n" = some (suffixed "diary") := by
    decide +kernel
  have hold : Settings.parse? "[output]\nsuffix = \"old\"\n" = some (suffixed "old") := by
    decide +kernel
  have hfolder : diaryWorld.folderAt ["home", "work", "cards.json"] = ["home", "work"] := by
    decide +kernel
  obtain ⟨hroot, hcurrent, hdots⟩ := diaryWorld_settingsText?
  refine ⟨by decide +kernel, hload hroot hdiary, hload hcurrent rfl, hload hdots hold, ?_⟩
  intro settings
  rw [← hfolder, ← diaryWorld_descends.1.hasSettings_iff_nearest (by decide +kernel)
    (reaches_of_root (by decide +kernel)), hasSettings_iff, hroot]
  exact ⟨fun h => Option.some.inj (h.symm.trans hdiary), fun h => h ▸ hdiary⟩

/-- In the folder beside it a path in the current folder does as well as the full one. -/
theorem diaryWorld_nearest :
    diaryWorld.tree.hasFolder diaryWorld.current = true ∧
    diaryWorld.Descends (.ofString "old/cards.json") ["home", "work", "old", "cards.json"] ∧
    (loadSettings none (.ofString "old/cards.json") : Session (StateM World) Settings).Finds
      diaryWorld (diaryWorld.NearestSettings ["home", "work", "old"]) ∧
    ∀ settings,
      (loadSettings none (.ofString "old/cards.json") : Session (StateM World) Settings).inWorld
          diaryWorld = (.ok settings, diaryWorld) ↔
        (loadSettings none (.ofString "/home/work/old/cards.json") :
          Session (StateM World) Settings).inWorld diaryWorld = (.ok settings, diaryWorld) :=
  have hfolder : diaryWorld.folderAt ["home", "work", "old", "cards.json"]
      = ["home", "work", "old"] := by decide +kernel
  have hcurrent : diaryWorld.tree.hasFolder diaryWorld.current = true := by decide +kernel
  have ⟨_, hold, hrootOld⟩ := diaryWorld_descends
  have hfound := (loadSettings_nearest hcurrent hold).2 diaryWorld_reaches_old
  ⟨hcurrent, hold, hfolder ▸ hfound.1, hfound.2 _ hrootOld (reaches_of_root (by decide +kernel))⟩

end Crosswalk

import Crosswalk.Proofs.Plan.Delegates
import Crosswalk.Proofs.Source.Tests

/-!
# When two tests have one name

The tests of a package share one name space, and the name of a test is glued together: that of a
function from the name of the function, that of a method from the name of the receiver, with a
capital, an underscore and the name of the method. Distinct functions and methods can be glued
to one name in three ways (`Emitter.Clash`):

* two receivers differ only in the case of their first letter;
* an underscore in a name is taken for the one between the receiver and the method;
* a function has the name that receiver and method are glued to.

These are all the ways there are (`Emitter.testLabel_eq_iff`), so tests have distinct names
unless one of them occurs, or a method is tested under another name than that of its receiver
(`Program.testNames_nodup_iff`).
-/

namespace Crosswalk

/-- Two texts glued by an underscore are other two only if they are the same, or one of the
underscores stands inside one of the texts. -/
theorem glued_eq_iff {a b m n : String} :
    a ++ "_" ++ m = b ++ "_" ++ n ↔ (a = b ∧ m = n) ∨
      (∃ k, b = a ++ "_" ++ k ∧ m = k ++ "_" ++ n) ∨
      ∃ k, a = b ++ "_" ++ k ∧ n = k ++ "_" ++ m := by
  constructor
  · intro h
    have hlists : a.toList ++ '_' :: m.toList = b.toList ++ '_' :: n.toList := by
      simpa using congrArg String.toList h
    rcases List.append_eq_append_iff.mp hlists with ⟨k, hb, hm⟩ | ⟨k, ha, hn⟩
    · cases k with
      | nil =>
        obtain ⟨-, hm⟩ := List.cons.inj hm
        exact .inl ⟨String.toList_inj.mp (by simpa using hb.symm), String.toList_inj.mp hm⟩
      | cons c k =>
        obtain ⟨rfl, hm⟩ := List.cons.inj hm
        exact .inr (.inl ⟨.ofList k, String.toList_inj.mp (by simpa using hb),
          String.toList_inj.mp (by simpa using hm)⟩)
    · cases k with
      | nil =>
        obtain ⟨-, hn⟩ := List.cons.inj hn
        exact .inl ⟨String.toList_inj.mp (by simpa using ha), String.toList_inj.mp hn.symm⟩
      | cons c k =>
        obtain ⟨rfl, hn⟩ := List.cons.inj hn
        exact .inr (.inr ⟨.ofList k, String.toList_inj.mp (by simpa using ha),
          String.toList_inj.mp (by simpa using hn)⟩)
  · rintro (⟨rfl, rfl⟩ | ⟨k, rfl, rfl⟩ | ⟨k, rfl, rfl⟩)
    · rfl
    · simp only [String.append_assoc]
    · simp only [String.append_assoc]

namespace Emitter

variable {e : Emitter} {plan : Plan} {plans : List Plan} {files : List GeneratedFile}
  {x y : Option String × String}

/-- What the test of a mapping is named for: the receiver of a method, if it has a name, and the
name of the function. -/
def testKey (e : Emitter) (spec : MappingSpec) : Option String × String :=
  (e.testReceiver? spec, spec.name)

/-- **How the tests of distinct functions come to have one name.** -/
inductive Clash : Option String × String → Option String × String → Prop where
  /-- The receivers are the same with a capital, and the methods have one name. -/
  | capitals {receiver receiver' name : String} (hne : receiver ≠ receiver')
      (h : Text.capitalize receiver = Text.capitalize receiver') :
      Clash (some receiver, name) (some receiver', name)
  /-- One receiver is the other with an underscore and the front of the other's method. -/
  | underscore {receiver receiver' front name : String}
      (h : Text.capitalize receiver' = Text.capitalize receiver ++ "_" ++ front) :
      Clash (some receiver, front ++ "_" ++ name) (some receiver', name)
  /-- A function is called what a method and its receiver are glued to. -/
  | function {receiver name : String} :
      Clash (none, Text.capitalize receiver ++ "_" ++ name) (some receiver, name)

theorem testLabel_some (receiver name : String) : testLabel (some receiver) name
    = "Test" ++ (Text.capitalize receiver ++ "_" ++ name) := by
  simp only [testLabel, String.append_assoc]

theorem Clash.testLabel_eq (h : Clash x y) : testLabel x.1 x.2 = testLabel y.1 y.2 := by
  cases h with
  | capitals hne h => simp only [testLabel, h]
  | underscore h => simp only [testLabel, h, String.append_assoc]
  | function => exact (testLabel_some _ _).symm

/-- **Two tests have one name** if they are named for the same, or in one of the three ways. -/
theorem testLabel_eq_iff :
    testLabel x.1 x.2 = testLabel y.1 y.2 ↔ x = y ∨ Clash x y ∨ Clash y x := by
  refine ⟨fun h => ?_, ?_⟩
  · match x, y with
    | (none, m), (none, n) => exact .inl (congrArg _ ((String.append_right_inj _).mp h))
    | (none, m), (some r, n) =>
      rw [testLabel_some] at h
      obtain rfl : m = _ := (String.append_right_inj _).mp h
      exact .inr (.inl .function)
    | (some r, m), (none, n) =>
      rw [testLabel_some] at h
      obtain rfl : _ = n := (String.append_right_inj _).mp h
      exact .inr (.inr .function)
    | (some r, m), (some r', n) =>
      rw [testLabel_some, testLabel_some] at h
      rcases glued_eq_iff.mp ((String.append_right_inj _).mp h) with ⟨hr, rfl⟩ | ⟨k, hr, rfl⟩ |
        ⟨k, hr, rfl⟩
      · by_cases hne : r = r'
        · exact .inl (by rw [hne])
        · exact .inr (.inl (.capitals hne hr))
      · exact .inr (.inl (.underscore hr))
      · exact .inr (.inr (.underscore hr))
  · rintro (rfl | h | h)
    · rfl
    · exact h.testLabel_eq
    · exact h.testLabel_eq.symm

/-! ## All tests of a package -/

/-- The names of the tests in all files. -/
def testNames (e : Emitter) (plans : List Plan) (files : List GeneratedFile) : List String :=
  (files.filter (fun file => file.name ∈ (stems plans).map e.testFileName)).flatMap
    (fun file => file.source.decls.map FunctionDecl.name)

/-- Of the two files of a stem, one holds tests. -/
theorem testNames_stemFiles {own : List GeneratedFile} {stem : String} (hstem : stem ∈ stems plans)
    (h : e.stemFiles plans stem = .ok own) :
    e.testNames plans own = (ofStem plans stem).map
      (fun plan => testLabel (e.testReceiver? plan.spec) plan.spec.name) := by
  obtain ⟨source, test, -, htest, rfl⟩ := stemFiles_eq_ok h
  have hsource : e.sourceName stem ∉ (stems plans).map e.testFileName := by
    intro hmem
    obtain ⟨other, -, hother⟩ := List.mem_map.mp hmem
    exact sourceName_ne_testFileName e stem other hother.symm
  have hnames : test.decls.map FunctionDecl.name = (ofStem plans stem).map
      (fun plan => testLabel (e.testReceiver? plan.spec) plan.spec.name) := by
    refine (map_eq_map_of_forall₂ ((testFile_eq_ok htest).imp (fun plan stub hstub => ?_))).symm
    rw [test_eq hstub]
  have htests : [GeneratedFile.mk (e.sourceName stem) source, ⟨e.testFileName stem, test⟩].filter
      (fun file => file.name ∈ (stems plans).map e.testFileName)
        = [⟨e.testFileName stem, test⟩] := by
    have hmem : e.testFileName stem ∈ (stems plans).map e.testFileName := List.mem_map_of_mem hstem
    simp only [List.filter_cons, List.filter_nil, decide_eq_true hmem, decide_eq_false hsource,
      if_true, Bool.false_eq_true, if_false]
  show List.flatMap _ (List.filter _ [GeneratedFile.mk (e.sourceName stem) source,
    ⟨e.testFileName stem, test⟩]) = _
  rw [htests, List.flatMap_singleton]
  exact hnames

/-- **The tests in all files** are those of all plans. -/
theorem testNames_perm (h : e.emit plans = .ok files) : (e.testNames plans files).Perm
    (plans.map (fun plan => testLabel (e.testReceiver? plan.spec) plan.spec.name)) := by
  obtain ⟨ofStems, hstems, hperm⟩ := emit_eq_ok h
  refine ((hperm.filter _).flatMap_right _).trans ?_
  rw [List.filter_flatten, flatMap_flatten, List.map_map, ← List.flatMap_def]
  have hown : ofStems.flatMap (e.testNames plans) = ((stems plans).flatMap (ofStem plans)).map
      (fun plan => testLabel (e.testReceiver? plan.spec) plan.spec.name) := by
    rw [List.map_flatMap]
    refine (flatMap_eq_flatMap_of_forall₂ (forall₂_imp_mem ?_ hstems)).symm
    exact fun stem hstem own _ hmade => (testNames_stemFiles hstem hmade).symm
  refine (List.Perm.of_eq hown).trans (List.Perm.map _ ?_)
  exact flatMap_filter_perm (nodup_stems plans) (fun _ hplan => stem_mem_stems hplan)

/-- **Tests have distinct names** exactly if no two are named for the same and no two clash. -/
theorem testNames_nodup_iff_pairwise (h : e.emit plans = .ok files) :
    (e.testNames plans files).Nodup ↔ plans.Pairwise (fun p q =>
      e.testKey p.spec ≠ e.testKey q.spec ∧ ¬ Clash (e.testKey p.spec) (e.testKey q.spec) ∧
        ¬ Clash (e.testKey q.spec) (e.testKey p.spec)) := by
  rw [(testNames_perm h).nodup_iff, List.Nodup, List.pairwise_map]
  refine List.Pairwise.iff (fun p q => ?_)
  show testLabel (e.testKey p.spec).1 (e.testKey p.spec).2
    ≠ testLabel (e.testKey q.spec).1 (e.testKey q.spec).2 ↔ _
  rw [Ne, testLabel_eq_iff, not_or, not_or]

end Emitter

/-! ## Functions of one package -/

namespace Func

/-- The name of the type that a method is declared for. -/
def receiverName? (t : TypeTable) (f : Func) : Option String :=
  f.signature.receiver.bind (fun receiver => t.nameBehind? receiver.type)

/-- **Whether two functions can be declared in one package**: plain functions differ in their
names, methods in their names or in those of their receivers. -/
def DeclaredApart (t : TypeTable) (f g : Func) : Prop :=
  f.name = g.name → (f.isMethod = true ∨ g.isMethod = true) ∧
    ∀ receiver ∈ f.receiverName? t, receiver ∉ g.receiverName? t

end Func

namespace Program

variable {p : Program} {settings : Settings} {a : Analysis} {output : OutputSettings}
  {packageName : Option String} {files : List GeneratedFile} {f g : Func} {x y : Plan}

/-- Whether a function is one that a mapping is made of. -/
def IsMapping (p : Program) (settings : Settings) (f : Func) : Prop :=
  f ∈ p.functions ∧ p.isCandidate f = true ∧ ∃ spec, p.interpret settings f.id = .ok (some spec)

/-- **Whether the functions of a program can be declared in one package**, those that mappings
are made of. -/
def MappingsApart (p : Program) (settings : Settings) : Prop :=
  ∀ f g, p.IsMapping settings f → p.IsMapping settings g → f.id ≠ g.id → f.DeclaredApart p.types g

/-- **Whether a method is tested under another name than that of its receiver**, because it
maps something else. -/
def IsStray (p : Program) (e : Emitter) (plan : Plan) : Prop :=
  ∃ f, p.function? plan.spec.function = some f ∧ f.isMethod = true ∧
    ∀ receiver ∈ f.receiverName? p.types, receiver ∉ e.testReceiver? plan.spec

/-- A method is tested under the name of its receiver unless it is stray. -/
theorem receiverName?_of_not_isStray {e : Emitter} (hf : p.function? x.spec.function = some f)
    (hmethod : f.isMethod = true) (h : ¬ p.IsStray e x) :
    ∃ receiver, f.receiverName? p.types = some receiver ∧
      e.testReceiver? x.spec = some receiver := by
  by_contra hnone
  refine h ⟨f, hf, hmethod, fun receiver hreceiver htested => hnone ⟨receiver, hreceiver, htested⟩⟩

/-- What is tested under the name of a receiver is a method. -/
theorem sourceIsReceiver_of_testReceiver? {e : Emitter} {spec : MappingSpec} {receiver : String}
    (h : e.testReceiver? spec = some receiver) : spec.sourceIsReceiver = true := by
  unfold Emitter.testReceiver? at h
  split at h
  · assumption
  · cases h

/-- Functions that can be declared in one package are not tested for the same, unless one is
stray. -/
theorem isStray_of_testKey_eq {e : Emitter} (hf : p.function? x.spec.function = some f)
    (hg : p.function? y.spec.function = some g) (hfname : x.spec.name = f.name)
    (hgname : y.spec.name = g.name) (hfmethod : x.spec.sourceIsReceiver = f.isMethod)
    (hgmethod : y.spec.sourceIsReceiver = g.isMethod) (hapart : f.DeclaredApart p.types g)
    (hkey : e.testKey x.spec = e.testKey y.spec) : p.IsStray e x ∨ p.IsStray e y := by
  obtain ⟨hreceiver, hname⟩ := Prod.mk.inj hkey
  obtain ⟨hsome, hreceivers⟩ := hapart (hfname.symm.trans (hname.trans hgname))
  by_contra hnone
  obtain ⟨hx, hy⟩ := not_or.mp hnone
  -- if one of the two is a method, so is the other, and both are tested under one name
  have hboth : ∃ receiver, f.receiverName? p.types = some receiver ∧
      g.receiverName? p.types = some receiver := by
    rcases hsome with hmethod | hmethod
    · obtain ⟨receiver, hown, htested⟩ := receiverName?_of_not_isStray hf hmethod hx
      have hother := hgmethod ▸ sourceIsReceiver_of_testReceiver? (hreceiver ▸ htested)
      obtain ⟨receiver', hown', htested'⟩ := receiverName?_of_not_isStray hg hother hy
      obtain rfl := Option.some.inj (htested.symm.trans (hreceiver.trans htested'))
      exact ⟨receiver, hown, hown'⟩
    · obtain ⟨receiver, hown, htested⟩ := receiverName?_of_not_isStray hg hmethod hy
      have hother := hfmethod ▸ sourceIsReceiver_of_testReceiver? (hreceiver.trans htested)
      obtain ⟨receiver', hown', htested'⟩ := receiverName?_of_not_isStray hf hother hx
      obtain rfl := Option.some.inj (htested'.symm.trans (hreceiver.trans htested))
      exact ⟨receiver', hown', hown⟩
  obtain ⟨receiver, hfown, hgown⟩ := hboth
  exact hreceivers receiver hfown hgown

/-- No two plans are of one function. -/
theorem pairwise_function_ne (ha : p.analyze settings = .ok a) :
    a.plans.Pairwise (fun x y => x.spec.function ≠ y.spec.function) := by
  obtain ⟨hvalid, hcollect, -⟩ := analyze_eq_ok ha
  have hnodup := nodup_registry hvalid hcollect
  rw [← map_spec_plans ha, List.map_map] at hnodup
  exact List.pairwise_map.mp hnodup

/-- **When tests have distinct names.** The tests of a program whose functions can be declared in
one package have distinct names exactly if no two of them clash, and no method that is tested
under another name than that of its receiver is tested for the same as another mapping. -/
theorem testNames_nodup_iff (ha : p.analyze settings = .ok a)
    (hfiles : (p.emitter output packageName).emit a.plans = .ok files)
    (hapart : p.MappingsApart settings) :
    ((p.emitter output packageName).testNames a.plans files).Nodup ↔
      a.plans.Pairwise (fun x y =>
        ¬ Emitter.Clash ((p.emitter output packageName).testKey x.spec)
            ((p.emitter output packageName).testKey y.spec) ∧
        ¬ Emitter.Clash ((p.emitter output packageName).testKey y.spec)
            ((p.emitter output packageName).testKey x.spec) ∧
        ((p.emitter output packageName).testKey x.spec
            = (p.emitter output packageName).testKey y.spec →
          ¬ p.IsStray (p.emitter output packageName) x ∧
            ¬ p.IsStray (p.emitter output packageName) y)) := by
  rw [Emitter.testNames_nodup_iff_pairwise hfiles]
  constructor
  · exact fun h => h.imp (fun ⟨hkey, hclash, hclash'⟩ => ⟨hclash, hclash', fun h => absurd h hkey⟩)
  · intro h
    refine (h.and (pairwise_function_ne ha)).imp_of_mem (fun {x y} hx hy ⟨hxy, hne⟩ => ?_)
    obtain ⟨hclash, hclash', hstray⟩ := hxy
    refine ⟨fun hkey => ?_, hclash, hclash'⟩
    have hvalid := validate_eq_ok_iff.mp (analyze_eq_ok ha).1
    obtain ⟨f, hf, hfcandidate, hfread, hfid, hfname, hfmethod⟩ :=
      exists_function_of_mem_plans ha hx
    obtain ⟨g, hg, hgcandidate, hgread, hgid, hgname, hgmethod⟩ :=
      exists_function_of_mem_plans ha hy
    have hfg : f.DeclaredApart p.types g :=
      hapart f g ⟨hf, hfcandidate, _, hfread⟩ ⟨hg, hgcandidate, _, hgread⟩ (hfid ▸ hgid ▸ hne)
    rcases isStray_of_testKey_eq (hfid ▸ function?_of_mem hvalid hf)
      (hgid ▸ function?_of_mem hvalid hg) hfname hgname hfmethod hgmethod hfg hkey with hx | hy
    · exact (hstray hkey).1 hx
    · exact (hstray hkey).2 hy

/-- The tests of the mappings of contacts and labels have distinct names. -/
theorem tagProgram_testNames_nodup : ∃ a files, tagProgram.analyze {} = .ok a ∧
    (tagProgram.emitter {}).emit a.plans = .ok files ∧ tagProgram.MappingsApart {} ∧
    ((tagProgram.emitter {}).testNames a.plans files).Nodup := by
  have hemitted : answersWith (fun _ => true) ((tagProgram.emitter {}).emit tagPlans) = true := by
    decide +kernel
  obtain ⟨files, hfiles, -⟩ := exists_of_answersWith hemitted
  have hapart : tagProgram.MappingsApart {} := by
    intro f g hf hg hne hname
    have hcard : ∀ f ∈ tagProgram.functions.toList, tagProgram.isCandidate f = true →
        ∀ g ∈ tagProgram.functions.toList, tagProgram.isCandidate g = true → f.name = g.name →
        f.id = g.id := by decide +kernel
    exact absurd (hcard f (Array.mem_toList_iff.mpr hf.1) hf.2.1 g (Array.mem_toList_iff.mpr hg.1)
      hg.2.1 hname) hne
  refine ⟨_, files, tagProgram_analyze, hfiles, hapart,
    (testNames_nodup_iff tagProgram_analyze hfiles hapart).mpr ?_⟩
  have hclash : ∀ m n, ¬ Emitter.Clash (none, m) (none, n) := fun _ _ => nofun
  refine List.pairwise_pair.mpr ⟨hclash "ToCard" "ToTag", hclash "ToTag" "ToCard", fun h => ?_⟩
  exact absurd (congrArg Prod.snd h) (by decide)

/-! ## A label and its twin -/

/-- The method `ToCard` of a label type: `func (label *Label) ToCard(card *Card)`, which calls
`CreateMap(label, card)`. -/
def labelMethod (id : FunctionId) (receiver : TypeId) : Func where
  id := id
  name := "ToCard"
  package := "example.com/cards"
  file := some "cards.go"
  signature := ⟨some ⟨"label", receiver⟩, [⟨"card", ⟨7⟩⟩], [], false⟩
  params := [⟨0⟩, ⟨1⟩]
  blocks := #[⟨⟨0⟩, [⟨2⟩, ⟨3⟩, ⟨5⟩, ⟨6⟩], none⟩]
  values := #[⟨.parameter 0, some receiver, some "label"⟩, ⟨.parameter 1, some ⟨7⟩, some "card"⟩,
    ⟨.makeInterface ⟨0⟩, some ⟨8⟩, none⟩, ⟨.makeInterface ⟨1⟩, some ⟨8⟩, none⟩,
    ⟨.functionRef ⟨0⟩, some ⟨9⟩, none⟩, ⟨.call ⟨4⟩ [⟨2⟩, ⟨3⟩], none, none⟩,
    ⟨.ret [], none, none⟩]
  synthetic := none

/-- A program with two label types, one exported and the other not, that have a method of the
same name each. -/
def twinProgram : Program where
  package := "example.com/cards"
  types := ⟨#[.basic .string,
    TypeTable.plainStruct [("Text", ⟨0⟩)],
    .named "Label" (some "example.com/cards") ⟨1⟩,
    .named "label" (some "example.com/cards") ⟨1⟩,
    .named "Card" (some "example.com/cards") ⟨1⟩,
    .pointer ⟨2⟩,
    .pointer ⟨3⟩,
    .pointer ⟨4⟩,
    .interface [],
    .signature [] [] false]⟩
  functions := #[
    .external ⟨0⟩ "CreateMap" "github.com/paultyng/go-typemapper" ⟨none, [], [], false⟩,
    labelMethod ⟨1⟩ ⟨5⟩,
    labelMethod ⟨2⟩ ⟨6⟩]

/-- What the methods of the label types ask for. -/
def labelSpec (function : FunctionId) (qualifiedName : String) (receiver : TypeId) :
    MappingSpec where
  function := function
  name := "ToCard"
  qualifiedName := qualifiedName
  file := some "cards.go"
  sourceType := receiver
  destType := ⟨7⟩
  sourceBinding := "label"
  destBinding := "card"
  sourceIsReceiver := true
  destIsPreconstructed := false
  destIsReturned := false
  errorIsReturned := false
  recognizedPrefixes := .empty
  ignoredDestFields := .empty
  manualFieldOverrides := .empty
  delegateMappings := .empty

/-- What is planned for the methods of the label types. -/
def twinPlans : List Plan :=
  [labelSpec ⟨1⟩ "(*cards.Label).ToCard" ⟨5⟩, labelSpec ⟨2⟩ "(*cards.label).ToCard" ⟨6⟩].map
    (fun spec => ⟨spec, .record [⟨⟨⟨"Text", ⟨0⟩, 0⟩, ⟨"Text", ⟨0⟩, 0⟩⟩, .assign⟩] []⟩)

theorem twinProgram_analyze :
    twinProgram.analyze {} = .ok ⟨.ofSorted (twinPlans.map Plan.spec), twinPlans⟩ :=
  analyze_of_specs (by decide +kernel) (by decide +kernel) (by decide +kernel) (by decide +kernel)

/-- **Two methods are tested under one name**, although their receivers are different types: a
name space of tests in which receivers have capitals does not tell them apart. -/
theorem twinProgram_testNames_collide : ∃ a files, twinProgram.analyze {} = .ok a ∧
    (twinProgram.emitter {}).emit a.plans = .ok files ∧ twinProgram.MappingsApart {} ∧
    ¬ ((twinProgram.emitter {}).testNames a.plans files).Nodup := by
  have hemitted : answersWith (fun _ => true) ((twinProgram.emitter {}).emit twinPlans) = true := by
    decide +kernel
  obtain ⟨files, hfiles, -⟩ := exists_of_answersWith hemitted
  refine ⟨_, files, twinProgram_analyze, hfiles, ?_, fun hnodup => ?_⟩
  · intro f g hf hg hne hname
    have hlabels : ∀ f ∈ twinProgram.functions.toList, twinProgram.isCandidate f = true →
        ∀ g ∈ twinProgram.functions.toList, twinProgram.isCandidate g = true → f.id ≠ g.id →
        f.isMethod = true ∧ ∀ receiver ∈ f.receiverName? twinProgram.types,
          receiver ∉ g.receiverName? twinProgram.types := by decide +kernel
    obtain ⟨hmethod, hreceivers⟩ := hlabels f (Array.mem_toList_iff.mpr hf.1) hf.2.1 g
      (Array.mem_toList_iff.mpr hg.1) hg.2.1 hne
    exact ⟨.inl hmethod, hreceivers⟩
  · have hlabels : twinPlans.map (fun plan => Emitter.testLabel
        ((twinProgram.emitter {}).testReceiver? plan.spec) plan.spec.name)
        = ["TestLabel_ToCard", "TestLabel_ToCard"] := by decide +kernel
    have hperm := Emitter.testNames_perm hfiles
    rw [hlabels] at hperm
    exact absurd (hperm.nodup_iff.mp hnodup) (by decide)

end Program

end Crosswalk

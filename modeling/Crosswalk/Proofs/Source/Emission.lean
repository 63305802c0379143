import Crosswalk.Proofs.Lists
import Crosswalk.Proofs.Outcome
import Crosswalk.Proofs.Source.Lines
import Crosswalk.Proofs.Source.Writing
import Crosswalk.Source.Emission

/-!
# What is emitted for a plan

A function that goes field by field is, after what prepares the destination, one
block of statements for each field that is fed, one comment for each that is
not, and the return. Each block assigns once, to its field, after whatever
temporary variables the assignment needs. Nothing else in the function assigns
or comments, so both can be counted.
-/

namespace Crosswalk

namespace Emitter

variable {e : Emitter} {spec : MappingSpec} {plan : Plan} {destType : String}
  {fields : List PlannedField} {unmatched : List RecordField} {f : PlannedField}
  {body before after block : List Statement} {names names' : Names} {decl : FunctionDecl}

/-! ## Statements that neither assign nor comment -/

/-- No statement among these, or inside one of them, assigns or is a comment. -/
def Quiet (body : List Statement) : Prop :=
  ∀ s ∈ body.flatMap Statement.simples, s.place? = none ∧ s.comment? = none

theorem Quiet.of_simple {ss : List SimpleStatement}
    (h : ∀ s ∈ ss, s.place? = none ∧ s.comment? = none) : Quiet (ss.map .simple) := by
  intro s hs
  obtain ⟨statement, hstatement, hs⟩ := List.mem_flatMap.mp hs
  obtain ⟨s', hs', rfl⟩ := List.mem_map.mp hstatement
  obtain rfl := List.mem_singleton.mp hs
  exact h s hs'

theorem Quiet.places (h : Quiet body) :
    (body.flatMap Statement.simples).filterMap SimpleStatement.place? = [] :=
  List.filterMap_eq_nil_iff.mpr (fun s hs => (h s hs).1)

theorem Quiet.comments (h : Quiet body) :
    (body.flatMap Statement.simples).filterMap SimpleStatement.comment? = [] :=
  List.filterMap_eq_nil_iff.mpr (fun s hs => (h s hs).2)

theorem quiet_nil : Quiet [] := fun _ hs => absurd hs List.not_mem_nil

theorem quiet_singleton {s : SimpleStatement} (h : s.place? = none ∧ s.comment? = none) :
    Quiet [.simple s] := by
  intro s' hs'
  obtain rfl := List.mem_singleton.mp hs'
  exact h

theorem quiet_whenNil (spec : MappingSpec) :
    Quiet [.whenNil spec.destBinding [success spec]] := by
  intro s hs
  obtain rfl := List.mem_singleton.mp hs
  exact ⟨rfl, rfl⟩

/-! ## The parts of a body -/

/-- The place in the destination that a field is assigned to. -/
def placeOf (spec : MappingSpec) (f : PlannedField) : String :=
  spec.destBinding ++ "." ++ f.pair.dest.name

/-- The text of the comment that stands for a field nothing feeds. -/
def noMatchText (name : String) : String := "no match for \"" ++ name ++ "\""

/-- **The block of a field**: some temporary variables, and one assignment to the
field. -/
def Feeds (spec : MappingSpec) (f : PlannedField) (block : List Statement) : Prop :=
  ∃ temps value, Quiet temps ∧ block = temps ++ [.simple (.assign (placeOf spec f) value)]

theorem quiet_tempStatements (l : Lowered) : Quiet ((tempStatements l).map .simple) := by
  refine Quiet.of_simple (fun s hs => ?_)
  obtain ⟨temp, -, rfl⟩ := List.mem_map.mp hs
  exact ⟨rfl, rfl⟩

/-- **The body of a function that goes element by element**: the destination is a slice once names
are taken off, and what is appended to it is the conversion of an element. -/
theorem elementStatements_eq_ok {conversion : Conversion}
    (h : e.elementStatements spec destType conversion names = .ok body names') :
    (∃ under elem, e.types.underlying spec.destType = .ok under ∧
      e.types.kind? under = some (.slice elem)) ∧
    ∃ l, e.types.lower e.home conversion (.value (itemName spec)) names = .ok l names' ∧
      body = [.simple (if spec.destIsPreconstructed then .declare spec.destBinding destType
          else .assign spec.destBinding (spec.destBinding ++ "[:0]")),
        .forEach (itemName spec) spec.sourceBinding
          (tempStatements l ++ [.assign spec.destBinding
            ("append(" ++ spec.destBinding ++ ", " ++ l.expr.text ++ ")")])] := by
  obtain ⟨under, between, hlookup, h⟩ := Writing.bind_eq_ok_iff.mp h
  obtain ⟨hunder, rfl⟩ := Writing.liftM_eq_ok_iff.mp hlookup
  cases hk : e.types.kind? under with
  | none =>
    rw [hk] at h
    obtain ⟨shown, between', -, h⟩ := Writing.bind_eq_ok_iff.mp h
    cases h
  | some k =>
    rw [hk] at h
    cases k with
    | slice elem =>
      obtain ⟨l, between', hl, h⟩ := Writing.bind_eq_ok_iff.mp h
      obtain ⟨rfl, rfl⟩ := Writing.pure_eq_ok_iff.mp h
      exact ⟨⟨under, elem, hunder, hk⟩, l, hl, rfl⟩
    | _ =>
      obtain ⟨shown, between', -, h⟩ := Writing.bind_eq_ok_iff.mp h
      cases h

/-- **The body of a function that goes field by field**, in its parts. -/
def FieldByField (spec : MappingSpec) (fields : List PlannedField) (unmatched : List RecordField)
    (body : List Statement) : Prop :=
  ∃ before blocks after, body = before ++ blocks.flatten ++ unmatched.map noMatch ++ after ∧
    Quiet before ∧ Quiet after ∧ List.Forall₂ (Feeds spec) fields blocks

namespace Feeds

theorem places (h : Feeds spec f block) :
    (block.flatMap Statement.simples).filterMap SimpleStatement.place? = [placeOf spec f] := by
  obtain ⟨temps, value, hquiet, rfl⟩ := h
  rw [List.flatMap_append, List.filterMap_append, hquiet.places]
  rfl

theorem comments (h : Feeds spec f block) :
    (block.flatMap Statement.simples).filterMap SimpleStatement.comment? = [] := by
  obtain ⟨temps, value, hquiet, rfl⟩ := h
  rw [List.flatMap_append, List.filterMap_append, hquiet.comments]
  rfl

end Feeds

theorem places_blocks {blocks : List (List Statement)}
    (h : List.Forall₂ (Feeds spec) fields blocks) :
    (blocks.flatten.flatMap Statement.simples).filterMap SimpleStatement.place?
      = fields.map (placeOf spec) := by
  induction h with
  | nil => rfl
  | cons hblock _ ih =>
    rw [List.flatten_cons, List.flatMap_append, List.filterMap_append, hblock.places, ih]
    rfl

theorem comments_blocks {blocks : List (List Statement)}
    (h : List.Forall₂ (Feeds spec) fields blocks) :
    (blocks.flatten.flatMap Statement.simples).filterMap SimpleStatement.comment? = [] := by
  induction h with
  | nil => rfl
  | cons hblock _ ih =>
    rw [List.flatten_cons, List.flatMap_append, List.filterMap_append, hblock.comments, ih]
    rfl

theorem places_noMatch (unmatched : List RecordField) :
    ((unmatched.map noMatch).flatMap Statement.simples).filterMap SimpleStatement.place? = [] := by
  induction unmatched with
  | nil => rfl
  | cons f unmatched ih => exact ih

theorem comments_noMatch (unmatched : List RecordField) :
    ((unmatched.map noMatch).flatMap Statement.simples).filterMap SimpleStatement.comment?
      = unmatched.map (fun f => noMatchText f.name) := by
  induction unmatched with
  | nil => rfl
  | cons f unmatched ih => exact congrArg (noMatchText f.name :: ·) ih

namespace FieldByField

/-- **Each field is assigned once**, in order, and nothing else is assigned to. -/
theorem places (h : FieldByField spec fields unmatched decl.body) :
    decl.places = fields.map (placeOf spec) := by
  obtain ⟨before, blocks, after, hbody, hbefore, hafter, hblocks⟩ := h
  unfold FunctionDecl.places FunctionDecl.simples
  rw [hbody, List.flatMap_append, List.flatMap_append, List.flatMap_append, List.filterMap_append,
    List.filterMap_append, List.filterMap_append, hbefore.places, hafter.places,
    places_blocks hblocks, places_noMatch, List.append_nil, List.append_nil, List.nil_append]

/-- **Each unmatched field is commented on once**, in order, and there are no other comments. -/
theorem comments (h : FieldByField spec fields unmatched decl.body) :
    decl.comments = unmatched.map (fun f => noMatchText f.name) := by
  obtain ⟨before, blocks, after, hbody, hbefore, hafter, hblocks⟩ := h
  unfold FunctionDecl.comments FunctionDecl.simples
  rw [hbody, List.flatMap_append, List.flatMap_append, List.flatMap_append, List.filterMap_append,
    List.filterMap_append, List.filterMap_append, hbefore.comments, hafter.comments,
    comments_blocks hblocks, comments_noMatch, List.append_nil, List.nil_append, List.nil_append]

end FieldByField

/-! ## Files -/

variable {plans : List Plan} {source test : SourceFile} {files : List GeneratedFile} {stem : String}

theorem sourceFile_eq_ok (h : e.sourceFile plans = .ok source) :
    List.Forall₂ (fun plan decl => ∃ names names', e.function plan names = .ok decl names')
      plans source.decls := by
  unfold sourceFile at h
  split at h
  · obtain rfl := Except.ok.inj h
    exact Writing.forall₂_of_mapM ‹_›
  · cases h

theorem testFile_eq_ok (h : e.testFile plans = .ok test) :
    List.Forall₂ (fun plan decl => e.test plan = .ok decl) plans test.decls := by
  obtain ⟨decls, hdecls, h⟩ := bind_eq_ok_iff.mp h
  obtain rfl := Except.ok.inj h
  exact mapM_eq_ok_iff.mp hdecls

/-- The plans whose files have a stem. -/
def ofStem (plans : List Plan) (stem : String) : List Plan :=
  plans.filter (fun p => p.spec.stem = stem)

/-- **The two files of a stem** hold the functions and the tests of its plans. -/
theorem stemFiles_eq_ok (h : e.stemFiles plans stem = .ok files) :
    ∃ source test, e.sourceFile (ofStem plans stem) = .ok source ∧
      e.testFile (ofStem plans stem) = .ok test ∧
      files = [⟨stem ++ "." ++ e.output.suffix ++ ".go", source⟩,
        ⟨stem ++ "." ++ e.output.suffix ++ "_test.go", test⟩] := by
  obtain ⟨source, hsource, h⟩ := bind_eq_ok_iff.mp h
  obtain ⟨test, htest, h⟩ := bind_eq_ok_iff.mp h
  rw [liftM_eq_ok_iff] at htest
  exact ⟨source, test, hsource, htest, (Except.ok.inj h).symm⟩

/-- **The files are those of the stems**, in another order. -/
theorem emit_eq_ok (h : e.emit plans = .ok files) :
    ∃ ofStems, List.Forall₂ (fun stem own => e.stemFiles plans stem = .ok own) (stems plans) ofStems ∧
      files.Perm ofStems.flatten := by
  obtain ⟨ofStems, hstems, h⟩ := bind_eq_ok_iff.mp h
  obtain rfl := Except.ok.inj h
  exact ⟨ofStems, mapM_eq_ok_iff.mp hstems, List.mergeSort_perm _ _⟩

end Emitter

end Crosswalk

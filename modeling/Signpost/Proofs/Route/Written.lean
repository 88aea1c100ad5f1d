import Signpost.Proofs.Lists
import Signpost.Proofs.Path
import Signpost.Proofs.Route.Declared

/-!
# Written segments and the raw segments that answer them

What a written segment asks of a segment of a request as it was sent, without going through the
segment that it stands for.  Main statements: what a declared path stands for is read off its
written segments one by one, and a raw segment that answers a written one is admitted by it.
-/

namespace Signpost.Route

/-- Whether a segment, as it was sent, answers a written one.  A literal has to be what it decodes
to.  For a placeholder it must not be empty, and the pattern of the parameter, if there is one, has
to accept what it decodes to. -/
def Answers (patternOf : String → Option Pattern) (written raw : String) : Prop :=
  '/' ∉ raw.toList ∧
    match Placeholder.parse? written with
    | none => Text.Percent.decode raw = written
    | some p =>
      raw ≠ "" ∧ (p.name ≠ "" → ∀ pattern ∈ patternOf p.name,
        pattern.accepts (Text.Percent.decode raw) = true)

/-- Whether a written segment is a named placeholder whose parameter has a pattern. -/
def IsConstrained (patternOf : String → Option Pattern) (written : String) : Prop :=
  ∃ p, Placeholder.parse? written = some p ∧ p.name ≠ "" ∧ (patternOf p.name).isSome

namespace Segment

variable {patternOf : String → Option Pattern}

/-- What a written segment stands for, whether or not it may stand where it does. -/
def ofText (patternOf : String → Option Pattern) (written : String) : Segment :=
  match Placeholder.parse? written with
  | none => .literal written
  | some p => ofPlaceholder p (patternOf p.name)

private theorem eq_ofText_of_classify {last : Bool} {written : String} {segment : Segment}
    (h : classify patternOf last written = .ok segment) : segment = ofText patternOf written := by
  rw [classify] at h
  rw [ofText]
  cases hparse : Placeholder.parse? written with
  | none =>
    rw [hparse] at h
    exact (Except.ok.inj h).symm
  | some p =>
    rw [hparse] at h
    dsimp only at h
    split at h
    · contradiction
    · exact (Except.ok.inj h).symm

/-- Only a text that is no placeholder stands for a literal, which is the text. -/
theorem eq_of_ofText_eq_literal {written text : String}
    (h : ofText patternOf written = .literal text) : written = text := by
  rw [ofText] at h
  cases hparse : Placeholder.parse? written with
  | none =>
    rw [hparse] at h
    exact Segment.literal.inj h
  | some p =>
    rw [hparse] at h
    dsimp only at h
    rw [ofPlaceholder.eq_def] at h
    split at h
    · split at h <;> contradiction
    · contradiction

/-- Segments are understood one by one. -/
theorem exists_of_classifyAll_cons {first : String} {rest : List String} {segments : List Segment}
    (h : classifyAll patternOf (first :: rest) = .ok segments) :
    ∃ segment others, classify patternOf rest.isEmpty first = .ok segment ∧
      classifyAll patternOf rest = .ok others ∧ segments = segment :: others := by
  rw [classifyAll] at h
  cases hfirst : classify patternOf rest.isEmpty first with
  | error fault =>
    rw [hfirst] at h
    contradiction
  | ok segment =>
    cases hrest : classifyAll patternOf rest with
    | error fault =>
      rw [hfirst, hrest] at h
      contradiction
    | ok others =>
      rw [hfirst, hrest] at h
      exact ⟨segment, others, rfl, rfl, (Except.ok.inj h).symm⟩

/-- Segments that were understood are what they stand for one by one. -/
theorem eq_map_ofText_of_classifyAll {written : List String} {segments : List Segment}
    (h : classifyAll patternOf written = .ok segments) :
    segments = written.map (ofText patternOf) := by
  induction written generalizing segments with
  | nil => exact (Except.ok.inj h).symm
  | cons first rest ih =>
    obtain ⟨segment, others, hfirst, hrest, rfl⟩ := exists_of_classifyAll_cons h
    rw [List.map_cons, ← eq_ofText_of_classify hfirst, ← ih hrest]

/-- Of several segments that were understood only the last may be missing. -/
theorem isOptional_eq_false_of_classifyAll {initial : List String} {last : String}
    {segments : List Segment} (h : classifyAll patternOf (initial ++ [last]) = .ok segments) :
    ∀ text ∈ initial, ∀ p, Placeholder.parse? text = some p → p.isOptional = false := by
  induction initial generalizing segments with
  | nil => exact nofun
  | cons first rest ih =>
    obtain ⟨segment, others, hfirst, hrest, -⟩ := exists_of_classifyAll_cons h
    rw [List.forall_mem_cons]
    refine ⟨fun p hparse => ?_, ih hrest⟩
    have hnotLast : (rest.append [last]).isEmpty = false := by
      cases rest <;> rfl
    rw [hnotLast, classify, hparse] at hfirst
    cases hoptional : p.isOptional with
    | false => rfl
    | true =>
      dsimp only at hfirst
      rw [hoptional] at hfirst
      contradiction

/-- What a path is read as is what its segments are read as. -/
theorem classifyAll_of_ofPath {path : String} {constraints defaults : Patterns}
    {segments : List Segment} (h : ofPath path constraints defaults = .ok segments) :
    classifyAll (fun name => constraints.get? name <|> defaults.get? name) (Path.segments path) =
      .ok segments := by
  unfold ofPath at h
  cases hall : classifyAll (fun name => constraints.get? name <|> defaults.get? name)
      (Path.segments path) with
  | error fault =>
    rw [hall] at h
    contradiction
  | ok found =>
    rw [hall] at h
    exact congrArg Except.ok (Except.ok.inj h)

/-- A path that is accepted has the segments that its texts are read as. -/
theorem eq_map_ofText_of_ofPath {path : String} {constraints defaults : Patterns}
    {segments : List Segment} (h : ofPath path constraints defaults = .ok segments) :
    segments = (Path.segments path).map
      (ofText fun name => constraints.get? name <|> defaults.get? name) :=
  eq_map_ofText_of_classifyAll (classifyAll_of_ofPath h)

/-- A literal admits nothing but itself. -/
theorem admits_ofText_of_literal {written text : String}
    (hparse : Placeholder.parse? written = none) :
    (ofText patternOf written).Admits text ↔ text = written := by
  rw [ofText, hparse]
  rfl

/-- A placeholder admits what is not empty and what the pattern of its parameter, if there is one,
accepts. -/
theorem admits_ofText_of_placeholder {written text : String} {p : Placeholder}
    (hparse : Placeholder.parse? written = some p) :
    (ofText patternOf written).Admits text ↔
      text ≠ "" ∧ (p.name ≠ "" → ∀ pattern ∈ patternOf p.name, pattern.accepts text = true) := by
  rw [ofText, hparse]
  dsimp only
  cases hpattern : patternOf p.name with
  | none => simp [ofPlaceholder, Admits]
  | some pattern => by_cases hname : p.name = "" <;> simp [ofPlaceholder, Admits, hname]

/-- A raw segment without a slash answers a written one if what it decodes to is admitted. -/
theorem answers_iff {written raw : String} :
    Answers patternOf written raw ↔
      '/' ∉ raw.toList ∧ (ofText patternOf written).Admits (Text.Percent.decode raw) := by
  rw [Answers]
  cases hparse : Placeholder.parse? written with
  | none => rw [admits_ofText_of_literal hparse]
  | some p =>
    rw [admits_ofText_of_placeholder hparse, ne_eq (Text.Percent.decode raw),
      Text.Percent.decode_eq_empty_iff]

/-- What answers a written segment is admitted once it is decoded. -/
theorem admits_ofText {written raw : String} (h : Answers patternOf written raw) :
    (ofText patternOf written).Admits (Text.Percent.decode raw) :=
  (answers_iff.mp h).2

/-- Texts that answer a path are admitted, decoded, by its segments. -/
theorem forall₂_admits_ofText {written raws : List String}
    (h : List.Forall₂ (Answers patternOf) written raws) :
    List.Forall₂ Admits (written.map (ofText patternOf)) (raws.map Text.Percent.decode) := by
  rw [List.forall₂_map_left_iff, List.forall₂_map_right_iff]
  exact h.imp fun _ _ => admits_ofText

private theorem isConstrained_ofPlaceholder (p : Placeholder) (pattern : Option Pattern) :
    (ofPlaceholder p pattern).isConstrained = true ↔ p.name ≠ "" ∧ pattern.isSome := by
  cases pattern with
  | none => simp [ofPlaceholder, isConstrained]
  | some pattern => by_cases hname : p.name = "" <;> simp [ofPlaceholder, isConstrained, hname]

/-- A placeholder binds a text to its name, if it has one, whether or not it is constrained. -/
theorem bindings_ofPlaceholder (p : Placeholder) (pattern : Option Pattern) (text : String) :
    (ofPlaceholder p pattern).bindings text = if p.name = "" then [] else [(p.name, text)] := by
  cases pattern with
  | none => rfl
  | some pattern => by_cases hname : p.name = "" <;> simp [ofPlaceholder, bindings, hname]

private theorem isConstrained_ofText {written : String} :
    (ofText patternOf written).isConstrained = true ↔ IsConstrained patternOf written := by
  rw [ofText, IsConstrained]
  cases hparse : Placeholder.parse? written with
  | none => simp [isConstrained]
  | some p => simp [isConstrained_ofPlaceholder]

theorem isOptional_ofPlaceholder (p : Placeholder) (pattern : Option Pattern) :
    (ofPlaceholder p pattern).isOptional = p.isOptional := by
  cases pattern with
  | none => rfl
  | some pattern => by_cases hname : p.name = "" <;> simp [ofPlaceholder, isOptional, hname]

/-- A path has a pattern if one of its texts has. -/
theorem any_isConstrained_map_ofText {written : List String} :
    (written.map (ofText patternOf)).any isConstrained = true ↔
      ∃ text ∈ written, IsConstrained patternOf text := by
  simp only [List.any_map, List.any_eq_true, Function.comp_apply, isConstrained_ofText]

/-- A segment binds a text to its own name, if it has one. -/
theorem mem_bindings_ofText {written text : String} {pair : String × String} :
    pair ∈ (ofText patternOf written).bindings text ↔
      pair.2 = text ∧ pair.1 ≠ "" ∧ ∃ p, Placeholder.parse? written = some p ∧ p.name = pair.1 := by
  obtain ⟨name, value⟩ := pair
  rw [ofText]
  cases hparse : Placeholder.parse? written with
  | none => simp [bindings]
  | some p =>
    dsimp only
    rw [bindings_ofPlaceholder]
    by_cases hname : p.name = ""
    · rw [if_pos hname]
      simp [hname, eq_comm]
    · rw [if_neg hname, List.mem_singleton, Prod.mk.injEq]
      constructor
      · rintro ⟨rfl, rfl⟩
        exact ⟨rfl, hname, p, rfl, rfl⟩
      · rintro ⟨rfl, -, _, hp, rfl⟩
        rw [Option.some.inj hp]
        exact ⟨rfl, rfl⟩

/-- What several segments bind are the texts that stand for those with a name. -/
theorem mem_bindingsAll_ofText {written texts : List String} {pair : String × String} :
    pair ∈ bindingsAll (written.map (ofText patternOf)) texts ↔
      pair.1 ≠ "" ∧ ∃ text, (text, pair.2) ∈ written.zip texts ∧
        ∃ p, Placeholder.parse? text = some p ∧ p.name = pair.1 := by
  induction written generalizing texts with
  | nil => simp [bindingsAll]
  | cons first rest ih =>
    cases texts with
    | nil => simp [bindingsAll]
    | cons text texts =>
      have hcons : bindingsAll ((first :: rest).map (ofText patternOf)) (text :: texts) =
          (ofText patternOf first).bindings text ++
            bindingsAll (rest.map (ofText patternOf)) texts := rfl
      rw [hcons, List.mem_append, mem_bindings_ofText, ih, List.zip_cons_cons]
      constructor
      · rintro (⟨rfl, hname, hparse⟩ | ⟨hname, written, hmem, hparse⟩)
        · exact ⟨hname, first, List.mem_cons_self, hparse⟩
        · exact ⟨hname, written, List.mem_cons_of_mem _ hmem, hparse⟩
      · rintro ⟨hname, written, hmem, hparse⟩
        rcases List.mem_cons.mp hmem with heq | hmem
        · obtain ⟨rfl, htext⟩ := Prod.mk.inj heq
          exact Or.inl ⟨htext, hname, hparse⟩
        · exact Or.inr ⟨hname, written, hmem, hparse⟩

/-- Several segments bind nothing to a name that is none of theirs. -/
theorem ne_of_mem_bindingsAll_ofText {written : List String} {x : String}
    (h : ∀ text ∈ written, ∀ p, Placeholder.parse? text = some p → p.name ≠ x)
    {texts : List String} {pair : String × String}
    (hpair : pair ∈ bindingsAll (written.map (ofText patternOf)) texts) : pair.1 ≠ x := by
  obtain ⟨-, text, hmem, p, hparse, hname⟩ := mem_bindingsAll_ofText.mp hpair
  exact hname ▸ h text (List.of_mem_zip hmem).1 p hparse

end Segment

/-- A raw segment that answers a written one can stand between two slashes if the written one
can. -/
theorem isPart_of_answers {patternOf : String → Option Pattern} {written raw : String}
    (hwritten : Path.IsPart written) (h : Answers patternOf written raw) : Path.IsPart raw := by
  obtain ⟨hslash, h⟩ := h
  refine ⟨?_, hslash⟩
  cases hparse : Placeholder.parse? written with
  | none =>
    rw [hparse] at h
    have hdecoded : Text.Percent.decode raw ≠ "" := fun hempty => hwritten.1 (h.symm.trans hempty)
    exact fun hraw => hdecoded (Text.Percent.decode_eq_empty_iff.mpr hraw)
  | some p =>
    rw [hparse] at h
    exact h.1

/-- Texts that answer proper parts are proper parts. -/
theorem forall_isPart_of_answers {patternOf : String → Option Pattern}
    {written raws : List String} (h : List.Forall₂ (Answers patternOf) written raws)
    (hwritten : ∀ text ∈ written, Path.IsPart text) : ∀ raw ∈ raws, Path.IsPart raw := by
  induction h with
  | nil => exact hwritten
  | cons hfirst _ ih =>
    rw [List.forall_mem_cons] at hwritten ⊢
    exact ⟨isPart_of_answers hwritten.1 hfirst, ih hwritten.2⟩

end Signpost.Route

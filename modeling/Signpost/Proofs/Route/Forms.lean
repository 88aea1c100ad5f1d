import Signpost.Proofs.OptionalTail

/-!
# What a single route answers

The requests that a route answers on its own are those whose texts stand for its segments, one by
one: for all of them or, if the last may be missing, for those before it.  The short form is out of
reach behind a segment that has a pattern.  Main statement: these are the requests that a tree with
one declared route answers, with the bindings of the form that they take.
-/

namespace Signpost.Route

universe u

variable {α : Type u}

/-- The forms of a declared path in which requests reach it: the whole of it, and what comes before
its last segment if that may be missing and no pattern is in the way. -/
inductive IsForm (patternOf : String → Option Pattern) (written : List String) : List String → Prop
  /-- All segments. -/
  | whole : IsForm patternOf written written
  /-- All segments but the last. -/
  | short {initial : List String} {last : String} {p : Placeholder}
    (hwritten : written = initial ++ [last]) (hlast : Placeholder.parse? last = some p)
    (hoptional : p.isOptional = true) (hplain : ∀ text ∈ initial, ¬IsConstrained patternOf text) :
    IsForm patternOf written initial

namespace History

private theorem value?_behind_cons (segment : Segment) (segments : List Segment)
    (history : History α) :
    (history.behind (segment :: segments)).value? = none := by
  simp [value?, latestWhere?, behind]

/-- A text that a segment does not admit rules out the insertions that go on with the segment. -/
theorem narrow?_behind_of_not_admits {segment : Segment} {text : String} (h : ¬segment.Admits text)
    (history : History α) : (history.behind [segment]).narrow? text = none := by
  obtain t | ⟨name, isOptional⟩ | ⟨name, pattern, isOptional⟩ := segment
  · have ht : t ≠ text := fun heq => h heq.symm
    simp [narrow?, afterLiteral, constrained, plain, behind, ht]
  · have htext : text = "" := not_not.mp h
    rw [narrow?, afterLiteral_behind_variable, if_neg (not_not.mpr rfl), if_pos htext]
  · rw [narrow?, afterLiteral_behind_constrained, constrained_behind_constrained,
      if_neg (not_not.mpr rfl)]
    split
    · rfl
    next htext =>
      have hrefused : ¬pattern.accepts text = true := fun haccepts => h ⟨htext, haccepts⟩
      have hnone : (history.map fun entry => (name, pattern, entry)).find?
          (fun entry => entry.2.1.accepts text) = none := by
        simp [hrefused]
      have hplain : (history.behind [.constrained name pattern isOptional]).plain = [] := by
        simp [plain, behind]
      rw [hnone, hplain]
      rfl

/-- Insertions that begin with the same segments are only found by texts that begin with texts for
them. -/
theorem exists_of_resolve?_behind {segments : List Segment} {history : History α}
    (hne : history ≠ []) {texts : List String} {found : α × List (String × String)}
    (h : (history.behind segments).resolve? texts = some found) :
    ∃ front back, texts = front ++ back ∧ List.Forall₂ Segment.Admits segments front := by
  induction segments generalizing history texts found with
  | nil => exact ⟨[], texts, rfl, .nil⟩
  | cons segment rest ih =>
    cases texts with
    | nil =>
      rw [resolve?, value?_behind_cons] at h
      contradiction
    | cons text texts =>
      rw [behind_cons, resolve?] at h
      by_cases hadmits : segment.Admits text
      · have hleft : (if segment.isConstrained then (history.behind rest).take 1
            else history.behind rest) = (history.leftBehind [segment]).behind rest := by
          cases hsegment : segment.isConstrained <;> simp [leftBehind, hsegment, take_behind]
        rw [narrow?_behind_singleton hadmits (behind_ne_nil hne), hleft] at h
        dsimp only at h
        obtain ⟨found', hfound', -⟩ := Option.map_eq_some_iff.mp h
        obtain ⟨front, back, rfl, hfront⟩ := ih (leftBehind_ne_nil hne [segment]) hfound'
        exact ⟨text :: front, back, rfl, .cons hadmits hfront⟩
      · rw [narrow?_behind_of_not_admits hadmits] at h
        contradiction

variable {value : α} {texts : List String} {found : α × List (String × String)}

/-- One insertion is found by texts for its segments and by no others. -/
theorem resolve?_behind_end_iff {segments : List Segment} :
    (History.behind segments [([], value)]).resolve? texts = some found ↔
      List.Forall₂ Segment.Admits segments texts ∧
        found = (value, Segment.bindingsAll segments texts) := by
  have hne : ([([], value)] : History α) ≠ [] := List.cons_ne_nil _ _
  have hleft : History.leftBehind segments [([], value)] = [([], value)] := by
    simp [leftBehind]
  constructor
  · intro h
    obtain ⟨front, back, rfl, hfront⟩ := exists_of_resolve?_behind hne h
    rw [resolve?_behind hfront hne, hleft] at h
    cases back with
    | nil =>
      rw [List.append_nil]
      refine ⟨hfront, ?_⟩
      simpa [resolve?, value?] using h.symm
    | cons text more => simp [resolve?, narrow?, afterLiteral, constrained, plain] at h
  · rintro ⟨hadmits, rfl⟩
    have hresolve := resolve?_behind hadmits hne []
    rw [List.append_nil, hleft] at hresolve
    simpa [resolve?, value?] using hresolve

private theorem bindingsAll_concat {initial : List Segment} {tail : Segment} {texts : List String}
    {text : String} (h : List.Forall₂ Segment.Admits initial texts) :
    Segment.bindingsAll (initial ++ [tail]) (texts ++ [text]) =
      Segment.bindingsAll initial texts ++ tail.bindings text := by
  rw [Segment.bindingsAll, List.zipWith_append h.length_eq, List.flatten_append,
    Segment.bindingsAll]
  simp

/-- A route with an optional tail is found by texts for all its segments and, if no segment before
the tail has a pattern, by texts for those. -/
theorem resolve?_ofOptional_iff {initial : List Segment} {tail : Segment} :
    (ofOptional initial tail value).resolve? texts = some found ↔
      (List.Forall₂ Segment.Admits (initial ++ [tail]) texts ∧
        found = (value, Segment.bindingsAll (initial ++ [tail]) texts)) ∨
      (¬initial.any Segment.isConstrained = true ∧ List.Forall₂ Segment.Admits initial texts ∧
        found = (value, Segment.bindingsAll initial texts)) := by
  constructor
  · intro h
    obtain ⟨front, back, rfl, hfront⟩ := exists_of_resolve?_behind (List.cons_ne_nil _ _) h
    cases back with
    | nil =>
      rw [List.append_nil] at h ⊢
      rw [resolve?_ofOptional_short hfront] at h
      split at h
      · contradiction
      next hplain => exact Or.inr ⟨hplain, hfront, (Option.some.inj h).symm⟩
    | cons text more =>
      obtain ⟨ended, hended, hleft⟩ := exists_leftBehind_eq initial tail value
      -- Texts go on, so that only the insertion that goes on with the tail counts.
      have htail : History.resolve? (text :: more) ([([tail], value)] ++ ended) =
          (History.behind [tail] [([], value)]).resolve? (text :: more) := by
        rcases hended with rfl | rfl
        · rfl
        · rw [resolve?, narrow?_append_end]
          rfl
      rw [ofOptional, resolve?_behind hfront (List.cons_ne_nil _ _), hleft, htail] at h
      obtain ⟨found', hfound', rfl⟩ := Option.map_eq_some_iff.mp h
      obtain ⟨hback, rfl⟩ := resolve?_behind_end_iff.mp hfound'
      obtain ⟨_, rest, hadmits, hrest, heq⟩ := List.forall₂_cons_left_iff.mp hback
      obtain rfl := List.forall₂_nil_left_iff.mp hrest
      obtain ⟨rfl, rfl⟩ := List.cons.inj heq
      refine Or.inl ⟨List.rel_append hfront hback, ?_⟩
      rw [bindingsAll_concat hfront]
      simp [Segment.bindingsAll]
  · rintro (⟨hwhole, rfl⟩ | ⟨hplain, hshort, rfl⟩)
    · obtain ⟨front, text, rfl, hfront, htail⟩ := forall₂_concat_iff.mp hwhole
      rw [resolve?_ofOptional_whole hfront htail, bindingsAll_concat hfront]
    · rw [resolve?_ofOptional_short hshort, if_neg hplain]

end History

section Declared

variable {patternOf : String → Option Pattern} {written : List String}

private theorem Segment.isOptional_ofText {text : String} :
    (ofText patternOf text).isOptional = true ↔
      ∃ p, Placeholder.parse? text = some p ∧ p.isOptional = true := by
  rw [ofText]
  cases hparse : Placeholder.parse? text with
  | none => simp [isOptional]
  | some p => simp [isOptional_ofPlaceholder]

/-- A form is made of segments of the path. -/
theorem IsForm.subset {form : List String} (h : IsForm patternOf written form) :
    form ⊆ written := by
  cases h with
  | whole => exact List.Subset.refl _
  | short hwritten =>
    rw [hwritten]
    exact List.subset_append_left _ _

/-- A form leaves out no segment that has to be there. -/
theorem IsForm.mem_of_not_isOptional {form : List String} (h : IsForm patternOf written form)
    {text : String} (htext : text ∈ written)
    (hrequired : ∀ p, Placeholder.parse? text = some p → p.isOptional = false) : text ∈ form := by
  cases h with
  | whole => exact htext
  | short hwritten hlast hoptional =>
    rw [hwritten, List.mem_append] at htext
    rcases htext with htext | htext
    · exact htext
    · obtain rfl := List.mem_singleton.mp htext
      have hnot := hrequired _ hlast
      rw [hoptional] at hnot
      contradiction

/-- A path has a last segment that may be missing, or it is declared as a whole only. -/
theorem IsForm.cases (patternOf : String → Option Pattern) (written : List String) :
    (∃ initial last p, written = initial ++ [last] ∧ Placeholder.parse? last = some p ∧
      p.isOptional = true) ∨
    ((written.map (Segment.ofText patternOf)).getLast?.any Segment.isOptional = false ∧
      ∀ form, IsForm patternOf written form ↔ form = written) := by
  by_cases h : ∃ initial last p, written = initial ++ [last] ∧
      Placeholder.parse? last = some p ∧ p.isOptional = true
  · exact Or.inl h
  refine Or.inr ⟨?_, fun form => ⟨?_, fun hform => hform ▸ .whole⟩⟩
  · rw [List.getLast?_map, Option.any_map, Option.any_eq_false]
    intro last hlast
    obtain ⟨initial, rfl⟩ := List.getLast?_eq_some_iff.mp hlast
    rw [Bool.eq_false_iff]
    intro hoptional
    obtain ⟨p, hparse, hp⟩ := Segment.isOptional_ofText.mp hoptional
    exact h ⟨initial, last, p, rfl, hparse, hp⟩
  · rintro (_ | ⟨hwritten, hlast, hoptional, -⟩)
    · rfl
    · exact absurd ⟨_, _, _, hwritten, hlast, hoptional⟩ h

/-- A route is found by texts for one of its forms. -/
theorem History.resolve?_ofRoute_iff (patternOf : String → Option Pattern) (written : List String)
    (value : α) (texts : List String) (found : α × List (String × String)) :
    (ofRoute (written.map (Segment.ofText patternOf)) value).resolve? texts = some found ↔
      ∃ form, IsForm patternOf written form ∧
        List.Forall₂ Segment.Admits (form.map (Segment.ofText patternOf)) texts ∧
        found = (value, Segment.bindingsAll (form.map (Segment.ofText patternOf)) texts) := by
  rcases IsForm.cases patternOf written with ⟨initial, last, p, rfl, hlast, hoptional⟩ |
    ⟨hnever, hforms⟩
  · have htail : (Segment.ofText patternOf last).isOptional = true :=
      Segment.isOptional_ofText.mpr ⟨p, hlast, hoptional⟩
    have hmap : (initial ++ [last]).map (Segment.ofText patternOf) =
        initial.map (Segment.ofText patternOf) ++ [Segment.ofText patternOf last] := by simp
    rw [hmap, ofRoute_of_isOptional htail, resolve?_ofOptional_iff,
      Segment.any_isConstrained_map_ofText, ← hmap]
    constructor
    · rintro (⟨hwhole, rfl⟩ | ⟨hplain, hshort, rfl⟩)
      · exact ⟨_, .whole, hwhole, rfl⟩
      · have hform : IsForm patternOf (initial ++ [last]) initial :=
          .short rfl hlast hoptional fun text htext hconstrained =>
            hplain ⟨text, htext, hconstrained⟩
        exact ⟨initial, hform, hshort, rfl⟩
    · rintro ⟨form, _ | ⟨hwritten, -, -, hplain⟩, hadmits, rfl⟩
      · exact Or.inl ⟨hadmits, rfl⟩
      · obtain ⟨rfl, -⟩ := List.append_inj' hwritten rfl
        exact Or.inr ⟨fun ⟨text, htext, hconstrained⟩ => hplain text htext hconstrained, hadmits,
          rfl⟩
  · have hwhole : ofRoute (written.map (Segment.ofText patternOf)) value =
        behind (written.map (Segment.ofText patternOf)) [([], value)] := by
      rw [ofRoute, hnever, if_neg Bool.false_ne_true]
      simp [behind]
    rw [hwhole, resolve?_behind_end_iff]
    constructor
    · exact fun h => ⟨written, .whole, h⟩
    · rintro ⟨form, hform, h⟩
      obtain rfl := (hforms form).mp hform
      exact h

/-- The parameters of a request that takes a form. -/
def formParams (patternOf : String → Option Pattern) (form texts : List String) :
    Dict String String :=
  .ofList (Segment.bindingsAll (form.map (Segment.ofText patternOf)) texts)

/-- A tree with one route answers the paths that take one of its forms, and no others. -/
theorem Tree.find?_ofRoute_iff {value found : α} {path : String} {params : Dict String String} :
    (Tree.ofHistory (.ofRoute (written.map (Segment.ofText patternOf)) value)).find? path =
        some (found, params) ↔
      found = value ∧ ∃ form, IsForm patternOf written form ∧
        List.Forall₂ Segment.Admits (form.map (Segment.ofText patternOf))
          ((Path.segments path).map Text.Percent.decode) ∧
        params = formParams patternOf form ((Path.segments path).map Text.Percent.decode) := by
  have hresolve := History.resolve?_ofRoute_iff patternOf written value
  rw [find?_ofHistory, Option.map_eq_some_iff]
  constructor
  · rintro ⟨⟨_, bound⟩, hfound, heq⟩
    obtain ⟨form, hform, hadmits, hpair⟩ := (hresolve _ _).mp hfound
    obtain ⟨rfl, rfl⟩ := Prod.mk.inj hpair
    obtain ⟨rfl, rfl⟩ := Prod.mk.inj heq
    exact ⟨rfl, form, hform, hadmits, rfl⟩
  · rintro ⟨rfl, form, hform, hadmits, rfl⟩
    exact ⟨_, (hresolve _ _).mpr ⟨form, hform, hadmits, rfl⟩, rfl⟩

end Declared

end Signpost.Route

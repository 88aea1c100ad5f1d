import Signpost.Proofs.Route.History

/-!
# Declared segments and the texts they admit

What a declared segment admits and binds, and how a history is resolved all of whose insertions
begin with the same segments.  Main statement: such a history is narrowed segment by segment, with
all of its insertions as long as no segment has a pattern, and with the earliest alone after one.
-/

namespace Signpost.Route

universe u

variable {α : Type u}

namespace Segment

/-- Whether a decoded text can stand for the segment. -/
def Admits : Segment → String → Prop
  | .literal text, t => t = text
  | .variable _ _, t => t ≠ ""
  | .constrained _ pattern _, t => t ≠ "" ∧ pattern.accepts t = true

/-- What a decoded text binds that stands for the segment. -/
def bindings : Segment → String → List (String × String)
  | .literal _, _ => []
  | .variable name _, t => if name = "" then [] else [(name, t)]
  | .constrained name _ _, t => [(name, t)]

/-- Whether the segment has a pattern. -/
def isConstrained : Segment → Bool
  | .constrained _ _ _ => true
  | _ => false

/-- What several texts bind, in their order. -/
def bindingsAll (segments : List Segment) (texts : List String) : List (String × String) :=
  (List.zipWith bindings segments texts).flatten

end Segment

namespace History

/-- The insertions with further segments before theirs. -/
def behind (segments : List Segment) (history : History α) : History α :=
  history.map fun (rest, value) => (segments ++ rest, value)

/-- To put insertions behind segments is to put them behind one after the other. -/
theorem behind_cons (segment : Segment) (segments : List Segment) (history : History α) :
    history.behind (segment :: segments) = (history.behind segments).behind [segment] := by
  rw [behind, behind, behind, List.map_map]
  rfl

/-- The first of insertions behind segments are the first of the insertions, behind them. -/
theorem take_behind (n : Nat) (segments : List Segment) (history : History α) :
    (history.behind segments).take n = History.behind segments (history.take n) :=
  List.map_take.symm

theorem behind_ne_nil {segments : List Segment} {history : History α} (h : history ≠ []) :
    history.behind segments ≠ [] := by
  rwa [behind, ne_eq, List.map_eq_nil_iff]

section Kinds

variable (history : History α) (text name : String) (pattern : Pattern) (isOptional : Bool)

private theorem afterLiteral_behind_literal :
    (history.behind [.literal text]).afterLiteral text = history := by
  simp [afterLiteral, behind]

theorem afterLiteral_behind_constrained :
    (history.behind [.constrained name pattern isOptional]).afterLiteral text = [] := by
  simp [afterLiteral, behind]

theorem afterLiteral_behind_variable :
    (history.behind [.variable name isOptional]).afterLiteral text = [] := by
  simp [afterLiteral, behind]

theorem constrained_behind_constrained :
    (history.behind [.constrained name pattern isOptional]).constrained =
      history.map fun entry => (name, pattern, entry) := by
  simp [constrained, behind]

private theorem constrained_behind_variable :
    (history.behind [.variable name isOptional]).constrained = [] := by
  simp [constrained, behind]

private theorem plain_behind_variable :
    (history.behind [.variable name isOptional]).plain =
      history.map fun entry => (name, entry) := by
  simp [plain, behind]

end Kinds

/-- Insertions that go on with the same segment are all kept by a text that it admits, unless it has
a pattern: then the earliest is. -/
theorem narrow?_behind_singleton {segment : Segment} {text : String} (h : segment.Admits text)
    {history : History α} (hne : history ≠ []) :
    (history.behind [segment]).narrow? text =
      some (segment.bindings text,
        if segment.isConstrained then history.take 1 else history) := by
  obtain t | ⟨name, isOptional⟩ | ⟨name, pattern, isOptional⟩ := segment
  · obtain rfl : text = t := h
    rw [narrow?, afterLiteral_behind_literal, if_pos hne]
    rfl
  · have htext : text ≠ "" := h
    obtain ⟨last, hlast⟩ := Option.isSome_iff_exists.mp (List.getLast?_isSome.mpr hne)
    have hentries : (history.map fun entry => (name, entry)).map (·.2) = history := by
      rw [List.map_map]
      exact List.map_id history
    rw [narrow?, afterLiteral_behind_variable, constrained_behind_variable, plain_behind_variable,
      if_neg (not_not.mpr rfl), if_neg htext, hentries, List.getLast?_map, hlast]
    rfl
  · obtain ⟨htext, haccepts⟩ : text ≠ "" ∧ pattern.accepts text = true := h
    obtain ⟨first, rest, rfl⟩ := List.exists_cons_of_ne_nil hne
    rw [narrow?, afterLiteral_behind_constrained, constrained_behind_constrained,
      if_neg (not_not.mpr rfl), if_neg htext, List.map_cons,
      List.find?_cons_of_pos (by exact haccepts)]
    rfl

/-- What is left of insertions that all begin with the given segments. -/
def leftBehind (segments : List Segment) (history : History α) : History α :=
  if segments.any Segment.isConstrained then history.take 1 else history

private theorem leftBehind_cons (segment : Segment) (segments : List Segment)
    (history : History α) :
    History.leftBehind (segment :: segments) history =
      History.leftBehind segments (History.leftBehind [segment] history) := by
  cases hsegment : segment.isConstrained <;>
    cases hsegments : segments.any Segment.isConstrained <;>
    simp [leftBehind, hsegment, hsegments, List.take_take]

/-- What segments leave of insertions is not empty unless they are. -/
theorem leftBehind_ne_nil {history : History α} (h : history ≠ []) (segments : List Segment) :
    History.leftBehind segments history ≠ [] := by
  unfold leftBehind
  split
  · simpa using h
  · exact h

/-- Insertions that begin with the same segments are resolved by what follows them. -/
theorem resolve?_behind {segments : List Segment} {texts : List String}
    (h : List.Forall₂ Segment.Admits segments texts) {history : History α} (hne : history ≠ [])
    (more : List String) :
    (history.behind segments).resolve? (texts ++ more) =
      (History.resolve? more (history.leftBehind segments)).map fun (value, bound) =>
        (value, Segment.bindingsAll segments texts ++ bound) := by
  induction h generalizing history with
  | nil =>
    have hbehind : history.behind [] = history := List.map_id history
    have hbound : (fun found : α × List (String × String) =>
        (found.1, Segment.bindingsAll [] [] ++ found.2)) = id := rfl
    rw [hbehind, List.nil_append, hbound, Option.map_id]
    rfl
  | @cons segment text segments texts hadmits _ ih =>
    have hleft : (if segment.isConstrained then (history.behind segments).take 1
        else history.behind segments) = (history.leftBehind [segment]).behind segments := by
      cases hsegment : segment.isConstrained <;> simp [leftBehind, hsegment, take_behind]
    rw [behind_cons, List.cons_append, resolve?,
      narrow?_behind_singleton hadmits (behind_ne_nil hne), hleft,
      leftBehind_cons segment segments]
    simp only [ih (leftBehind_ne_nil hne [segment]), Option.map_map]
    congr 1
    funext found
    have hbound : Segment.bindingsAll (segment :: segments) (text :: texts) =
        segment.bindings text ++ Segment.bindingsAll segments texts := rfl
    simp only [Function.comp_apply, hbound, List.append_assoc]

end History

end Signpost.Route

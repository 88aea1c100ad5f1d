import Signpost.Proofs.ByteOrder
import Signpost.Proofs.Lists
import Signpost.Proofs.Route.Entries

/-!
# Ways through a tree

Insertions that go on with the same literal, or with a variable, go the same way; one that goes on
with a pattern goes a way of its own.  So that its own way can be told, an insertion is taken with
its number.  Main statement: a node has one branch for every way that an insertion goes, in the
order of the ways, labelled by the latest insertion that goes it; under it is what those insertions
make.
-/

namespace Signpost.Route

universe u

variable {α : Type u}

/-- A way on from a node: with a literal, with the pattern of an insertion, or with a variable. -/
inductive Way
  /-- Insertions that go on with the text. -/
  | literal (text : String)
  /-- The insertion with the given number, which goes on with a pattern. -/
  | constrained (number : Nat)
  /-- Insertions that go on with a variable. -/
  | variable
  deriving DecidableEq

namespace Way

/-- The way that an insertion goes with a segment. -/
def ofSegment (number : Nat) : Segment → Way
  | .literal text => .literal text
  | .variable _ _ => .variable
  | .constrained _ _ _ => .constrained number

/-- Whether a way is listed before another: literals by the bytes of their texts, then patterns in
the order of their insertions, then the variable. -/
def Before : Way → Way → Prop
  | .literal a, .literal b => Text.Percent.bytes a < Text.Percent.bytes b
  | .literal _, _ => True
  | .constrained a, .constrained b => a < b
  | .constrained _, .variable => True
  | _, _ => False

theorem not_before_self (way : Way) : ¬way.Before way := by
  cases way with
  | literal text => exact List.lt_irrefl _
  | constrained number => exact Nat.lt_irrefl number
  | «variable» => exact id

end Way

/-- An insertion with its number: its segments, and its value behind the number. -/
abbrev Insertion (α : Type u) := List Segment × Nat × α

namespace History

/-- The insertions with their numbers, in their order. -/
abbrev Ascending (history : History (Nat × α)) : Prop :=
  history.Pairwise fun a b => a.2.1 < b.2.1

/-- The insertions that go a way, each without its first segment and behind the label of it. -/
def going (way : Way) (history : History (Nat × α)) : List (Label × Insertion α) :=
  history.filterMap fun (segments, number, value) =>
    match segments with
    | segment :: rest =>
      if Way.ofSegment number segment = way then some (.ofSegment segment, rest, number, value)
      else none
    | [] => none

/-- What the insertions that go a way leave behind it. -/
def through (way : Way) (history : History (Nat × α)) : History (Nat × α) :=
  (history.going way).map (·.2)

/-- The label of a way, which is that of the latest insertion. -/
def label? (way : Way) (history : History (Nat × α)) : Option Label :=
  (history.going way).getLast?.map (·.1)

private theorem mem_going {way : Way} {history : History (Nat × α)}
    {label : Label} {rest : List Segment}
    {number : Nat} {value : α} :
    (label, rest, number, value) ∈ history.going way ↔
      ∃ segment, (segment :: rest, number, value) ∈ history ∧
        Way.ofSegment number segment = way ∧ Label.ofSegment segment = label := by
  rw [going, List.mem_filterMap]
  constructor
  · rintro ⟨⟨_ | ⟨segment, rest'⟩, number', value'⟩, hentry, heq⟩
    · contradiction
    · obtain ⟨hway, heq⟩ := Option.ite_none_right_eq_some.mp heq
      obtain ⟨rfl, rfl, rfl, rfl⟩ := by simpa using heq
      exact ⟨segment, hentry, hway, rfl⟩
  · rintro ⟨segment, hentry, hway, rfl⟩
    exact ⟨_, hentry, if_pos hway⟩

/-- The insertions that go a way are left without the segment that goes it. -/
theorem mem_through {way : Way} {history : History (Nat × α)} {rest : List Segment}
    {numbered : Nat × α} :
    (rest, numbered) ∈ history.through way ↔
      ∃ segment, (segment :: rest, numbered) ∈ history ∧
        Way.ofSegment numbered.1 segment = way := by
  obtain ⟨number, value⟩ := numbered
  rw [through, List.mem_map]
  constructor
  · rintro ⟨⟨label, entry⟩, hgoing, rfl⟩
    obtain ⟨segment, hentry, hway, -⟩ := mem_going.mp hgoing
    exact ⟨segment, hentry, hway⟩
  · rintro ⟨segment, hentry, hway⟩
    exact ⟨_, mem_going.mpr ⟨segment, hentry, hway, rfl⟩, rfl⟩

section Kinds

variable (history : History (Nat × α))

private theorem going_literal (text : String) :
    history.going (.literal text) =
      (history.afterLiteral text).map fun entry => (.literal text, entry) := by
  rw [going, afterLiteral, List.map_filterMap]
  congr 1
  funext entry
  obtain ⟨_ | ⟨t | _ | _, rest⟩, number, value⟩ := entry
  case cons.literal => by_cases ht : t = text <;> simp [Way.ofSegment, Label.ofSegment, ht]
  all_goals rfl

private theorem going_variable :
    history.going .variable = history.plain.map fun entry => (.variable entry.1, entry.2) := by
  rw [going, plain, List.map_filterMap]
  congr 1
  funext entry
  obtain ⟨_ | ⟨_ | _ | _, rest⟩, number, value⟩ := entry <;> rfl

private theorem going_constrained (number : Nat) :
    history.going (.constrained number) =
      (history.constrained.filter fun entry => entry.2.2.2.1 = number).map fun entry =>
        (.constrained entry.1 entry.2.1, entry.2.2) := by
  rw [going, constrained, List.filter_filterMap, List.map_filterMap]
  congr 1
  funext entry
  obtain ⟨_ | ⟨_ | _ | _, rest⟩, own, value⟩ := entry
  case cons.constrained =>
    by_cases hown : own = number <;>
      simp [Way.ofSegment, Label.ofSegment, Option.filter_some, hown]
  all_goals rfl

private theorem through_literal (text : String) :
    history.through (.literal text) = history.afterLiteral text := by
  rw [through, going_literal, List.map_map]
  exact List.map_id _

private theorem through_variable : history.through .variable = history.plain.map (·.2) := by
  rw [through, going_variable, List.map_map]
  rfl

private theorem label?_literal {text : String} (h : history.afterLiteral text ≠ []) :
    history.label? (.literal text) = some (.literal text) := by
  obtain ⟨last, hlast⟩ := Option.isSome_iff_exists.mp (List.getLast?_isSome.mpr h)
  rw [label?, going_literal, List.getLast?_map, hlast]
  rfl

private theorem label?_variable :
    history.label? .variable = history.plain.getLast?.map fun entry => .variable entry.1 := by
  rw [label?, going_variable, List.getLast?_map, Option.map_map]
  rfl

variable {history}

private theorem Ascending.constrained (h : history.Ascending) :
    history.constrained.Pairwise fun a b => a.2.2.2.1 < b.2.2.2.1 := by
  refine List.pairwise_filterMap.mpr (h.imp ?_)
  rintro ⟨_ | ⟨_ | _ | _, rest⟩, number, value⟩ ⟨_ | ⟨_ | _ | _, rest'⟩, number', value'⟩ hlt
    found hfound found' hfound' <;> try contradiction
  obtain rfl := Option.some.inj hfound
  obtain rfl := Option.some.inj hfound'
  exact hlt

/-- The way of a pattern is gone by one insertion. -/
theorem Ascending.going_constrained (h : history.Ascending)
    {entry : String × Pattern × Insertion α} (hentry : entry ∈ history.constrained) :
    history.going (.constrained entry.2.2.2.1) =
      [(.constrained entry.1 entry.2.1, entry.2.2)] := by
  have hone := filter_eq_singleton (fun entry : String × Pattern × Insertion α =>
    entry.2.2.2.1) h.constrained hentry
  rw [History.going_constrained, hone, List.map_singleton]

end Kinds

/-- The ways that insertions go, given the texts of the literals. -/
def waysOf (texts : List String) (history : History (Nat × α)) : List Way :=
  texts.map .literal ++ (history.constrained.map (fun entry => .constrained entry.2.2.2.1) ++
    (if history.plain = [] then [] else [.variable]))

private theorem mem_waysOf {texts : List String} {history : History (Nat × α)}
    (htexts : ∀ text, text ∈ texts ↔ history.afterLiteral text ≠ []) (way : Way) :
    way ∈ waysOf texts history ↔ history.going way ≠ [] := by
  cases way with
  | literal text =>
    rw [going_literal, ne_eq, List.map_eq_nil_iff, ← ne_eq, ← htexts]
    simp [waysOf]
  | constrained number =>
    rw [going_constrained, ne_eq, List.map_eq_nil_iff, List.filter_eq_nil_iff]
    simp [waysOf]
  | «variable» =>
    rw [going_variable, ne_eq, List.map_eq_nil_iff]
    by_cases hplain : history.plain = [] <;> simp [waysOf, hplain]

private theorem Ascending.pairwise_waysOf {history : History (Nat × α)} (h : history.Ascending)
    {texts : List String} (hsorted : texts.Pairwise (· < ·)) :
    (waysOf texts history).Pairwise Way.Before := by
  rw [waysOf, List.pairwise_append, List.pairwise_append, List.pairwise_map, List.pairwise_map]
  refine ⟨hsorted.imp Text.bytes_lt_bytes, ⟨h.constrained, ?_, ?_⟩, ?_⟩
  · split
    · exact List.Pairwise.nil
    · exact List.pairwise_singleton _ _
  · intro way hway way' hway'
    obtain ⟨entry, -, rfl⟩ := List.mem_map.mp hway
    split at hway'
    · contradiction
    · obtain rfl := List.mem_singleton.mp hway'
      trivial
  · intro way hway way' hway'
    obtain ⟨text, -, rfl⟩ := List.mem_map.mp hway
    rcases List.mem_append.mp hway' with hway' | hway'
    · obtain ⟨entry, -, rfl⟩ := List.mem_map.mp hway'
      trivial
    · split at hway'
      · contradiction
      · obtain rfl := List.mem_singleton.mp hway'
        trivial

end History

/-- A branch and the way that leads to it: its label is that of the way, and under it is what the
insertions make that go it. -/
def Node.IsBranch (history : History (Nat × α)) (way : Way) (branch : Label × Node (Nat × α)) :
    Prop :=
  history.label? way = some branch.1 ∧ branch.2 = ofHistory (history.through way)

/-- The branches of a node are those of the ways that its insertions go, in the order of the
ways. -/
theorem Node.exists_ways {history : History (Nat × α)} (hascending : history.Ascending) :
    ∃ ways : List Way, ways.Pairwise Way.Before ∧ (∀ way, way ∈ ways ↔ history.going way ≠ []) ∧
      List.Forall₂ (IsBranch history) ways (ofHistory history).branches := by
  obtain ⟨texts, hsorted, htexts, hbranches⟩ := laidOut_branches history
  refine ⟨History.waysOf texts history, hascending.pairwise_waysOf hsorted,
    History.mem_waysOf htexts, ?_⟩
  rw [hbranches, branchesOf, History.waysOf]
  refine List.rel_append ?_ (List.rel_append ?_ ?_)
  · rw [literalBranches, List.forall₂_map_left_iff, List.forall₂_map_right_iff, List.forall₂_same]
    intro text htext
    exact ⟨history.label?_literal ((htexts text).mp htext),
      congrArg ofHistory (history.through_literal text).symm⟩
  · rw [constrainedBranches, List.map_map, List.forall₂_map_left_iff, List.forall₂_map_right_iff,
      List.forall₂_same]
    intro entry hentry
    have hgoing := hascending.going_constrained hentry
    constructor
    · rw [History.label?, hgoing]
      rfl
    · rw [History.through, hgoing]
      rfl
  · split
    next hplain =>
      rw [hplain]
      exact .nil
    next hplain =>
      obtain ⟨last, hlast⟩ := Option.isSome_iff_exists.mp (List.getLast?_isSome.mpr hplain)
      rw [hlast]
      refine .cons ⟨?_, congrArg ofHistory history.through_variable.symm⟩ .nil
      rw [history.label?_variable, hlast]
      rfl

end Signpost.Route

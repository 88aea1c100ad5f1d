import Mathlib.Data.String.Basic
import Mathlib.Logic.Function.Basic
import Signpost.Route.Tree

/-!
# Branch lists

The branches of a node stand in one order: the literals by their text, then the patterns as they
came, then the variable.  These lemmas say what `alter` makes of a list that is laid out like this,
and which of its branches accepts a segment.
-/

namespace Signpost.Route

universe u

variable {β : Type u}

/-- The branches of some literals, with what is under each. -/
def literalBranches (texts : List String) (under : String → β) : List (Label × β) :=
  texts.map fun text => (.literal text, under text)

/-- The branches of patterns, with what is under each. -/
def constrainedBranches (patterns : List (String × Pattern × β)) : List (Label × β) :=
  patterns.map fun (name, pattern, child) => (.constrained name pattern, child)

/-- The branch of the variable, if there is one. -/
def variableBranch (shared : Option (String × β)) : List (Label × β) :=
  (shared.map fun (name, child) => (.variable name, child)).toList

private theorem literalBranches_cons (text : String) (texts : List String) (under : String → β) :
    literalBranches (text :: texts) under =
      (.literal text, under text) :: literalBranches texts under := rfl

/-- What is under a text that has no branch does not count. -/
theorem literalBranches_update {text : String} {texts : List String} (h : text ∉ texts)
    (under : String → β) (child : β) :
    literalBranches texts (Function.update under text child) = literalBranches texts under := by
  apply List.map_congr_left
  intro t ht
  rw [Function.update_of_ne (ne_of_mem_of_not_mem ht h)]

/-- Branches that a new label goes past are left as they are. -/
theorem alter_append {label : Label} {before : List (Label × β)}
    (hbefore : ∀ b ∈ before, b.1.shares label = false ∧ b.1.precedes label = true)
    (fresh : β) (f : β → β) (after : List (Label × β)) :
    alter label fresh f (before ++ after) = before ++ alter label fresh f after := by
  induction before with
  | nil => rfl
  | cons b rest ih =>
    obtain ⟨hshares, hprecedes⟩ := hbefore b List.mem_cons_self
    have hrest := ih fun c hc => hbefore c (List.mem_cons_of_mem _ hc)
    rw [List.cons_append, alter, hshares, hprecedes, hrest]
    rfl

/-- A new label stands before the first branch that it neither shares nor goes past. -/
theorem alter_of_not_precedes {label : Label} {after : List (Label × β)}
    (hafter : ∀ b ∈ after, b.1.shares label = false ∧ b.1.precedes label = false)
    (fresh : β) (f : β → β) : alter label fresh f after = (label, f fresh) :: after := by
  cases after with
  | nil => rfl
  | cons b rest =>
    obtain ⟨hshares, hprecedes⟩ := hafter b List.mem_cons_self
    rw [alter, hshares, hprecedes]
    rfl

private theorem shares_literal_of_ne {a b : String} (h : a ≠ b) :
    (Label.literal a).shares (.literal b) = false := by
  simp [Label.shares, h]

/-- A literal that comes before all others gets a branch of its own, before theirs. -/
private theorem alter_literal_of_lt {text : String} {texts : List String}
    (hbefore : ∀ t ∈ texts, text < t) (under : String → β) (fresh : β) (f : β → β)
    {others : List (Label × β)} (hothers : ∀ b ∈ others,
      b.1.shares (.literal text) = false ∧ b.1.precedes (.literal text) = false) :
    alter (.literal text) fresh f (literalBranches texts under ++ others) =
      (.literal text, f fresh) :: (literalBranches texts under ++ others) := by
  apply alter_of_not_precedes
  intro b hb
  rcases List.mem_append.mp hb with hb | hb
  · obtain ⟨t, ht, rfl⟩ := List.mem_map.mp hb
    have hlt := hbefore t ht
    exact ⟨shares_literal_of_ne hlt.ne', decide_eq_false hlt.asymm⟩
  · exact hothers b hb

/-- Changing what is under one text of an ascending list of literals keeps it ascending.  The
texts are the old ones and the new one. -/
theorem alter_literal {text : String} {texts : List String} (hsorted : texts.Pairwise (· < ·))
    (under : String → β) {fresh : β} (hfresh : text ∉ texts → under text = fresh) (f : β → β)
    {others : List (Label × β)} (hothers : ∀ b ∈ others,
      b.1.shares (.literal text) = false ∧ b.1.precedes (.literal text) = false) :
    ∃ texts' : List String, texts'.Pairwise (· < ·) ∧ (∀ t, t ∈ texts' ↔ t = text ∨ t ∈ texts) ∧
      alter (.literal text) fresh f (literalBranches texts under ++ others) =
        literalBranches texts' (Function.update under text (f (under text))) ++ others := by
  induction texts with
  | nil =>
    refine ⟨[text], List.pairwise_singleton _ _, by simp, ?_⟩
    rw [literalBranches_cons, Function.update_self, hfresh List.not_mem_nil]
    exact alter_of_not_precedes hothers fresh f
  | cons head tail ih =>
    obtain ⟨hhead, htail⟩ := List.pairwise_cons.mp hsorted
    rcases lt_trichotomy head text with hlt | rfl | hgt
    · obtain ⟨texts', hsorted', hmem, halter⟩ := ih htail fun hnew =>
        hfresh (List.not_mem_cons_of_ne_of_not_mem hlt.ne' hnew)
      refine ⟨head :: texts', List.pairwise_cons.mpr ⟨?_, hsorted'⟩, ?_, ?_⟩
      · intro t ht
        rcases (hmem t).mp ht with rfl | ht
        · exact hlt
        · exact hhead t ht
      · intro t
        rw [List.mem_cons, hmem, List.mem_cons, or_left_comm]
      · have hpast : ∀ b ∈ [(Label.literal head, under head)],
            b.1.shares (.literal text) = false ∧ b.1.precedes (.literal text) = true := by
          rintro b (_ | ⟨_, ⟨⟩⟩)
          exact ⟨shares_literal_of_ne hlt.ne, decide_eq_true hlt⟩
        rw [literalBranches_cons, literalBranches_cons, Function.update_of_ne hlt.ne,
          List.cons_append, List.cons_append, ← halter]
        exact alter_append hpast fresh f (literalBranches tail under ++ others)
    · have hnew : head ∉ tail := fun h => (hhead head h).ne rfl
      refine ⟨head :: tail, hsorted, by simp, ?_⟩
      rw [literalBranches_cons, literalBranches_cons, Function.update_self,
        literalBranches_update hnew]
      simp [alter, Label.shares]
    · have hbefore : ∀ t ∈ head :: tail, text < t := by
        intro t ht
        rcases List.mem_cons.mp ht with rfl | ht
        · exact hgt
        · exact hgt.trans (hhead t ht)
      have hnew : text ∉ head :: tail := fun h => (hbefore text h).ne rfl
      refine ⟨text :: head :: tail, List.pairwise_cons.mpr ⟨hbefore, hsorted⟩, by simp, ?_⟩
      rw [literalBranches_cons text, Function.update_self, literalBranches_update hnew,
        hfresh hnew]
      exact alter_literal_of_lt hbefore under fresh f hothers

section Placement

variable (fresh : β) (f : β → β) (texts : List String) (under : String → β)
  (patterns : List (String × Pattern × β)) (shared : Option (String × β))

private theorem precedes_of_literal (label : Label) (hlabel : ∀ text, label ≠ .literal text) :
    ∀ b ∈ literalBranches texts under,
      b.1.shares label = false ∧ b.1.precedes label = true := by
  intro b hb
  obtain ⟨text, -, rfl⟩ := List.mem_map.mp hb
  cases label with
  | literal text' => exact absurd rfl (hlabel text')
  | constrained name pattern => exact ⟨rfl, rfl⟩
  | «variable» name => exact ⟨rfl, rfl⟩

/-- A pattern gets a branch of its own behind the patterns that are there. -/
theorem alter_constrained (name : String) (pattern : Pattern) :
    alter (.constrained name pattern) fresh f
        (literalBranches texts under ++ (constrainedBranches patterns ++ variableBranch shared)) =
      literalBranches texts under ++
        (constrainedBranches (patterns ++ [(name, pattern, f fresh)]) ++
          variableBranch shared) := by
  rw [alter_append (precedes_of_literal texts under _ (by simp)), alter_append]
  · cases shared <;>
      simp [constrainedBranches, variableBranch, alter, Label.shares, Label.precedes]
  · intro b hb
    obtain ⟨⟨n, p, child⟩, -, rfl⟩ := List.mem_map.mp hb
    exact ⟨rfl, rfl⟩

/-- All variables share one branch, which takes the latest name. -/
theorem alter_variable (name : String) :
    alter (.variable name) fresh f
        (literalBranches texts under ++ (constrainedBranches patterns ++ variableBranch shared)) =
      literalBranches texts under ++ (constrainedBranches patterns ++
        variableBranch (some (name, f ((shared.map (·.2)).getD fresh)))) := by
  rw [alter_append (precedes_of_literal texts under _ (by simp)), alter_append]
  · cases shared <;> simp [variableBranch, alter, Label.shares]
  · intro b hb
    obtain ⟨⟨n, p, child⟩, -, rfl⟩ := List.mem_map.mp hb
    exact ⟨rfl, rfl⟩

/-- Patterns and the variable neither share a literal nor stand before it. -/
theorem shares_precedes_literal (text : String) :
    ∀ b ∈ constrainedBranches patterns ++ variableBranch shared,
      b.1.shares (.literal text) = false ∧ b.1.precedes (.literal text) = false := by
  intro b hb
  rcases List.mem_append.mp hb with hb | hb
  · obtain ⟨⟨n, p, child⟩, -, rfl⟩ := List.mem_map.mp hb
    exact ⟨rfl, rfl⟩
  · cases shared with
    | none => simp [variableBranch] at hb
    | some entry =>
      obtain rfl := List.mem_singleton.mp hb
      exact ⟨rfl, rfl⟩

end Placement

section Acceptance

variable (segment : String)

/-- A literal accepts nothing but its text. -/
theorem find?_literalBranches (texts : List String) (under : String → β) :
    (literalBranches texts under).find? (·.1.accepts segment) =
      if segment ∈ texts then some (.literal segment, under segment) else none := by
  induction texts with
  | nil => rfl
  | cons text rest ih =>
    rw [literalBranches_cons, List.find?_cons, ih]
    by_cases h : text = segment
    · subst h
      simp [Label.accepts]
    · have hmem : segment ∈ text :: rest ↔ segment ∈ rest := by simp [Ne.symm h]
      simp only [Label.accepts, beq_eq_false_iff_ne.mpr h, hmem]

/-- Of the patterns the first that accepts a segment is taken. -/
theorem find?_constrainedBranches (patterns : List (String × Pattern × β)) :
    (constrainedBranches patterns).find? (·.1.accepts segment) =
      if segment = "" then none
      else (patterns.find? (·.2.1.accepts segment)).map fun (name, pattern, child) =>
        (.constrained name pattern, child) := by
  rw [constrainedBranches, List.find?_map]
  by_cases h : segment = ""
  · simp [Label.accepts, h]
  · simp only [Function.comp_def, Label.accepts, bne_iff_ne.mpr h, Bool.true_and, if_neg h]

/-- The variable accepts every segment that is not empty. -/
theorem find?_variableBranch (shared : Option (String × β)) :
    (variableBranch shared).find? (·.1.accepts segment) =
      if segment = "" then none
      else shared.map fun (name, child) => (.variable name, child) := by
  cases shared <;> by_cases h : segment = "" <;> simp [variableBranch, Label.accepts, h]

end Acceptance

end Signpost.Route

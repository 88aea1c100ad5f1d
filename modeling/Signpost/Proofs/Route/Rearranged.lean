import Mathlib.Data.List.Sort
import Signpost.Proofs.Route.Listing

/-!
# Insertions in another order

Among insertions without patterns, no two of which are alike, the order can be seen in nothing but
the names of variables.  Main statement: if those that share a branch give it one name, every
rearrangement of the insertions makes the same tree.
-/

namespace Signpost.Route

universe u

variable {α : Type u}

private theorem Segment.Agree.symm {a b : Segment} (h : a.Agree b) : b.Agree a := by
  cases a <;> cases b <;>
    first | contradiction | trivial | exact Eq.symm h | exact ⟨h.1.symm, h.2.symm⟩

/-- Insertions without patterns, no two of which are alike, that name a variable alike if they are
alike before it. -/
structure History.Independent (history : History α) : Prop where
  /-- No insertion has a pattern. -/
  unconstrained : ∀ entry ∈ history, ∀ segment ∈ entry.1, segment.isConstrained = false
  /-- No two insertions are alike. -/
  distinct : history.Pairwise fun a b => ¬List.Forall₂ Segment.Agree a.1 b.1
  /-- Variables behind segments that are alike have one name. -/
  named : ∀ a ∈ history, ∀ b ∈ history, ∀ n,
    List.Forall₂ Segment.Agree (a.1.take n) (b.1.take n) → ∀ name name' isOptional isOptional',
      a.1[n]? = some (.variable name isOptional) → b.1[n]? = some (.variable name' isOptional') →
        name = name'

namespace History

/-- The insertions that go on with a segment of some kind, without it. -/
def after (p : Segment → Bool) (history : History α) : History α :=
  history.filterMap fun (segments, value) =>
    match segments with
    | segment :: rest => if p segment then some (rest, value) else none
    | [] => none

private theorem mem_after
    {p : Segment → Bool} {history : History α} {rest : List Segment} {value : α} :
    (rest, value) ∈ history.after p ↔
      ∃ segment, (segment :: rest, value) ∈ history ∧ p segment = true := by
  rw [after, List.mem_filterMap]
  constructor
  · rintro ⟨⟨_ | ⟨segment, rest'⟩, value'⟩, hentry, heq⟩
    · contradiction
    · obtain ⟨hp, heq⟩ := Option.ite_none_right_eq_some.mp heq
      obtain ⟨rfl, rfl⟩ := Prod.mk.inj (Option.some.inj heq)
      exact ⟨segment, hentry, hp⟩
  · rintro ⟨segment, hentry, hp⟩
    exact ⟨_, hentry, if_pos hp⟩

private theorem afterLiteral_eq_after (text : String) (history : History α) :
    history.afterLiteral text = history.after fun
      | .literal t => t = text
      | _ => false := by
  rw [afterLiteral, after]
  congr 1
  funext entry
  obtain ⟨_ | ⟨_ | _ | _, rest⟩, value⟩ := entry <;> simp

private theorem map_plain_eq_after (history : History α) :
    history.plain.map (·.2) = history.after fun
      | .variable _ _ => true
      | _ => false := by
  rw [plain, after, List.map_filterMap]
  congr 1
  funext entry
  obtain ⟨_ | ⟨_ | _ | _, rest⟩, value⟩ := entry <;> simp

/-- Without its first segment an insertion is shorter. -/
theorem length_lt_of_mem_after {p : Segment → Bool} {history : History α} {bound : Nat}
    (hbound : ∀ entry ∈ history, entry.1.length < bound + 1) :
    ∀ entry ∈ history.after p, entry.1.length < bound := by
  rintro ⟨rest, value⟩ hentry
  obtain ⟨segment, hwhole, -⟩ := mem_after.mp hentry
  exact Nat.lt_of_succ_lt_succ (hbound _ hwhole)

namespace Independent

variable {history history' : History α}

/-- Whether insertions are independent does not depend on their order. -/
theorem perm (h : history.Independent) (hperm : history.Perm history') :
    history'.Independent where
  unconstrained := fun entry hentry => h.unconstrained entry (hperm.mem_iff.mpr hentry)
  distinct := hperm.pairwise h.distinct fun hne halike =>
    hne (halike.imp fun _ _ => Segment.Agree.symm).flip
  named := fun a ha b hb => h.named a (hperm.mem_iff.mpr ha) b (hperm.mem_iff.mpr hb)

/-- What independent insertions leave behind segments that are alike is independent. -/
theorem after (h : history.Independent) {p : Segment → Bool}
    (hp : ∀ a b, p a = true → p b = true → a.Agree b) : (history.after p).Independent where
  unconstrained := by
    rintro ⟨rest, value⟩ hentry segment hsegment
    obtain ⟨first, hentry, -⟩ := mem_after.mp hentry
    exact h.unconstrained _ hentry segment (List.mem_cons_of_mem first hsegment)
  distinct := by
    refine List.pairwise_filterMap.mpr (h.distinct.imp ?_)
    rintro ⟨_ | ⟨a, rest⟩, value⟩ ⟨_ | ⟨b, rest'⟩, value'⟩ hne left hleft left' hleft' halike <;>
      try contradiction
    obtain ⟨ha, heq⟩ := Option.ite_none_right_eq_some.mp hleft
    obtain ⟨hb, heq'⟩ := Option.ite_none_right_eq_some.mp hleft'
    obtain rfl := Option.some.inj heq
    obtain rfl := Option.some.inj heq'
    exact hne (.cons (hp a b ha hb) halike)
  named := by
    rintro ⟨rest, value⟩ hentry ⟨rest', value'⟩ hentry' n halike name name' isOptional isOptional'
      hname hname'
    obtain ⟨a, hentry, ha⟩ := mem_after.mp hentry
    obtain ⟨b, hentry', hb⟩ := mem_after.mp hentry'
    exact h.named _ hentry _ hentry' (n + 1) (.cons (hp a b ha hb) halike) name name' isOptional
      isOptional' hname hname'

private theorem afterLiteral (h : history.Independent) (text : String) :
    (history.afterLiteral text).Independent := by
  rw [afterLiteral_eq_after]
  refine h.after ?_
  rintro (a | _ | _) (b | _ | _) ha hb <;> try contradiction
  exact (of_decide_eq_true ha).trans (of_decide_eq_true hb).symm

private theorem plain (h : history.Independent) :
    History.Independent (history.plain.map (·.2)) := by
  rw [map_plain_eq_after]
  refine h.after ?_
  rintro (_ | _ | _) (_ | _ | _) ha hb <;> first | contradiction | trivial

private theorem constrained_eq_nil (h : history.Independent) : history.constrained = [] := by
  rw [constrained, List.filterMap_eq_nil_iff]
  rintro ⟨_ | ⟨_ | _ | _, rest⟩, value⟩ hentry <;> try rfl
  have hplain := h.unconstrained _ hentry _ List.mem_cons_self
  contradiction

/-- Of independent insertions no more than one is at the node. -/
theorem value?_perm (h : history.Independent) (hperm : history.Perm history') :
    history.value? = history'.value? := by
  have hone : (history.filter fun entry => entry.1.isEmpty).Pairwise fun _ _ => False := by
    refine List.pairwise_filter.mpr (h.distinct.imp ?_)
    rintro ⟨_ | _, value⟩ ⟨_ | _, value'⟩ hne ha hb <;> try contradiction
    exact hne .nil
  rw [value?, value?, latestWhere?_eq_filter, latestWhere?_eq_filter,
    eq_of_perm_of_pairwise_false hone (hperm.filter _)]

/-- Independent insertions give their variable one name, which is that of all of them. -/
theorem name_eq (h : history.Independent) {name name' : String} {entry entry' : List Segment × α}
    (hentry : (name, entry) ∈ history.plain) (hentry' : (name', entry') ∈ history.plain) :
    name = name' := by
  have hmem {name : String} {entry : List Segment × α} (hentry : (name, entry) ∈ history.plain) :
      ∃ isOptional, (.variable name isOptional :: entry.1, entry.2) ∈ history := by
    obtain ⟨⟨_ | ⟨_ | ⟨x, isOptional⟩ | _, rest⟩, value⟩, hpast, heq⟩ :=
      List.mem_filterMap.mp hentry
    case cons.variable =>
      obtain ⟨rfl, rfl⟩ := Prod.mk.inj (Option.some.inj heq)
      exact ⟨isOptional, hpast⟩
    all_goals contradiction
  obtain ⟨isOptional, hpast⟩ := hmem hentry
  obtain ⟨isOptional', hpast'⟩ := hmem hentry'
  exact h.named _ hpast _ hpast' 0 .nil _ _ _ _ rfl rfl

end Independent

end History

namespace Node

variable {history history' : History α}

private theorem ext {node node' : Node α} (hvalue : node.value = node'.value)
    (hbranches : node.branches = node'.branches) : node = node' := by
  obtain ⟨value, branches⟩ := node
  obtain ⟨value', branches'⟩ := node'
  exact congrArg₂ mk hvalue hbranches

/-- Where independent insertions make the same under each branch they make the same branches. -/
theorem branchesOf_perm (h : history.Independent) (hperm : history.Perm history')
    (texts : List String)
    (hliteral : ∀ text,
      ofHistory (history.afterLiteral text) = ofHistory (history'.afterLiteral text))
    (hplain : ofHistory (history.plain.map (·.2)) = ofHistory (history'.plain.map (·.2))) :
    branchesOf texts history = branchesOf texts history' := by
  have hplains : history.plain.Perm history'.plain := hperm.filterMap _
  have hvariable : (history.plain.getLast?.map fun last =>
      (last.1, ofHistory (history.plain.map (·.2)))) =
        history'.plain.getLast?.map fun last =>
          (last.1, ofHistory (history'.plain.map (·.2))) := by
    cases hlast : history.plain.getLast? with
    | none =>
      rw [List.getLast?_eq_none_iff] at hlast
      rw [hlast] at hplains
      rw [← hplains.nil_eq]
      rfl
    | some last =>
      have hmem := List.mem_of_getLast? hlast
      have hne : history'.plain ≠ [] := List.ne_nil_of_mem (hplains.mem_iff.mp hmem)
      obtain ⟨last', hlast'⟩ := Option.isSome_iff_exists.mp (List.getLast?_isSome.mpr hne)
      have hname : last.1 = last'.1 :=
        h.name_eq hmem (hplains.mem_iff.mpr (List.mem_of_getLast? hlast'))
      rw [hlast', Option.map_some, Option.map_some, hplain, hname]
  rw [branchesOf, branchesOf, funext hliteral, h.constrained_eq_nil,
    (h.perm hperm).constrained_eq_nil]
  exact congrArg (fun shared => literalBranches texts _ ++ (_ ++ variableBranch shared)) hvariable

/-- Independent insertions make the same node in every order. -/
theorem ofHistory_eq_of_perm {bound : Nat} (h : history.Independent) (hperm : history.Perm history')
    (hbound : ∀ entry ∈ history, entry.1.length < bound) :
    ofHistory history = ofHistory history' := by
  -- What is left behind the first segments is independent, rearranged and shorter.
  induction bound generalizing history history' with
  | zero =>
    obtain rfl := History.eq_nil_of_length_lt hbound
    rw [← hperm.nil_eq]
  | succ bound ih =>
    have hliterals (text : String) :
        (history.afterLiteral text).Perm (history'.afterLiteral text) := hperm.filterMap _
    have hliteral (text : String) :
        ofHistory (history.afterLiteral text) = ofHistory (history'.afterLiteral text) := by
      refine ih (h.afterLiteral text) (hliterals text) ?_
      rw [History.afterLiteral_eq_after]
      exact History.length_lt_of_mem_after hbound
    have hplain : ofHistory (history.plain.map (·.2)) = ofHistory (history'.plain.map (·.2)) := by
      refine ih h.plain ((hperm.filterMap _).map _) ?_
      rw [History.map_plain_eq_after]
      exact History.length_lt_of_mem_after hbound
    obtain ⟨texts, hsorted, hmem, hbranches⟩ := laidOut_branches history
    obtain ⟨texts', hsorted', hmem', hbranches'⟩ := laidOut_branches history'
    have htexts : texts = texts' := by
      refine hsorted.eq_of_mem_iff hsorted' fun text => ?_
      rw [hmem, hmem', ← List.length_pos_iff, ← List.length_pos_iff, (hliterals text).length_eq]
    refine ext ?_ ?_
    · rw [value_ofHistory, value_ofHistory, h.value?_perm hperm]
    · rw [hbranches, hbranches', branchesOf_perm h hperm texts hliteral hplain, htexts]

end Node

/-- Independent insertions make the same tree in every order: every path leads to the same value and
the same parameters, and the entries are the same. -/
theorem Tree.ofHistory_perm {history history' : History α} (h : history.Independent)
    (hperm : history.Perm history') :
    (∀ path, (ofHistory history).find? path = (ofHistory history').find? path) ∧
      (ofHistory history).entries = (ofHistory history').entries := by
  obtain ⟨bound, hbound⟩ := history.exists_length_lt
  have hroot : (ofHistory history).root = (ofHistory history').root := by
    rw [root_ofHistory, root_ofHistory, Node.ofHistory_eq_of_perm h hperm hbound]
  constructor
  · intro path
    rw [find?, find?, hroot]
  · rw [entries, entries, hroot]

/-- Two insertions that share a variable and a third at the variable itself make the same tree from
the last to the first. -/
theorem Tree.ofHistory_perm_users :
    let history : History Nat := [([.literal "users", .variable "id" false], 1),
      ([.literal "users", .variable "id" true, .literal "posts"], 2), ([.variable "page" false], 3)]
    history.Independent ∧ history.Perm history.reverse ∧
      (∀ path, (ofHistory history).find? path = (ofHistory history.reverse).find? path) ∧
        (ofHistory history).entries = (ofHistory history.reverse).entries := by
  intro history
  have hindependent : history.Independent := by
    refine ⟨?_, ?_, ?_⟩
    · simp [history, Segment.isConstrained]
    · simp [history, Segment.Agree]
    · rintro a ha b hb (_ | _ | _ | n) halike name name' isOptional isOptional' hname hname' <;>
        simp only [history, List.mem_cons, List.not_mem_nil, or_false] at ha hb <;>
        rcases ha with rfl | rfl | rfl <;> rcases hb with rfl | rfl | rfl <;>
        simp_all [Segment.Agree]
  have hperm : history.Perm history.reverse := history.reverse_perm.symm
  exact ⟨hindependent, hperm, ofHistory_perm hindependent hperm⟩

end Signpost.Route

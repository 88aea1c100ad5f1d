import Signpost.Proofs.Regex.Parts
import Signpost.Proofs.Regex.Search

/-!
# Bounds of repetitions are in order

No expression that is read asks for more rounds of a repetition than it allows: the bounds are
compared when they are read, and no other part of the reader makes a repetition of its own.  Main
statement: `ensures_readParts`, from one lemma for every part.
-/

namespace Signpost.Regex

section Items

/-- Ordered expressions are ordered one after the other. -/
theorem Expr.ordered_concat {items : List Expr} (h : ∀ e ∈ items, e.Ordered) :
    (Expr.concat items).Ordered := by
  induction items with
  | nil => trivial
  | cons e items ih =>
    rw [List.forall_mem_cons] at h
    exact ⟨h.1, ih h.2⟩

private theorem Expr.ordered_oneOf {items : List Expr} (h : ∀ e ∈ items, e.Ordered) :
    (Expr.oneOf items).Ordered := by
  fun_induction Expr.oneOf items with
  | case1 => trivial
  | case2 only => exact h only List.mem_cons_self
  | case3 first rest hrest ih =>
    rw [List.forall_mem_cons] at h
    exact ⟨h.1, ih h.2⟩

/-- Whether the bounds of all repetitions in some items are in order. -/
def AllOrdered (items : List Item) : Prop := ∀ item ∈ items, item.expr.Ordered

variable {items : List Item}

private theorem AllOrdered.cons {item : Item} (hitem : item.expr.Ordered) (h : AllOrdered items) :
    AllOrdered (item :: items) := List.forall_mem_cons.mpr ⟨hitem, h⟩

private theorem AllOrdered.exprs (h : AllOrdered items) :
    ∀ e ∈ items.reverse.map (·.expr), e.Ordered := by
  intro e he
  obtain ⟨item, hitem, rfl⟩ := List.mem_map.mp he
  exact h item (List.mem_reverse.mp hitem)

private theorem AllOrdered.sequence (h : AllOrdered items) :
    (Item.sequence items).expr.Ordered := by
  rw [Item.sequence.eq_def]
  split
  · trivial
  next only => exact h only List.mem_cons_self
  · exact Expr.ordered_concat h.exprs

private theorem AllOrdered.alternatives (h : AllOrdered items) :
    (Item.alternatives items).expr.Ordered := by
  rw [Item.alternatives.eq_def]
  split
  · trivial
  next only => exact h only List.mem_cons_self
  · exact Expr.ordered_oneOf h.exprs

end Items

namespace Progress

/-- Whether the bounds of all repetitions that were read are in order. -/
structure Ordered (p : Progress) : Prop where
  items : AllOrdered p.items
  branches : AllOrdered p.branches
  outer : ∀ level ∈ p.outer, AllOrdered level.items ∧ AllOrdered level.branches

variable {p p' : Progress} {item : Item} {flags : Flags} {least : Nat} {most : Option Nat}

private theorem Ordered.push (h : p.Ordered) (hitem : item.expr.Ordered) : (p.push item).Ordered :=
  ⟨h.items.cons hitem, h.branches, h.outer⟩

/-- What was read so far is ordered. -/
theorem Ordered.value (h : p.Ordered) : p.value.expr.Ordered :=
  (h.branches.cons h.items.sequence).alternatives

private theorem Ordered.branch (h : p.Ordered) : p.branch.Ordered :=
  ⟨nofun, h.branches.cons h.items.sequence, h.outer⟩

private theorem Ordered.openGroup (h : p.Ordered) : (p.openGroup flags).Ordered :=
  ⟨nofun, nofun, List.forall_mem_cons.mpr ⟨⟨h.items, h.branches⟩, h.outer⟩⟩

private theorem Ordered.closeGroup (h : p.Ordered) (hok : p.closeGroup = .ok p') : p'.Ordered := by
  rw [Progress.closeGroup] at hok
  split at hok
  · contradiction
  next level outer houter =>
    cases hok
    have hlevels := h.outer
    rw [houter, List.forall_mem_cons] at hlevels
    exact ⟨hlevels.1.1.cons h.value, hlevels.1.2, hlevels.2⟩

private theorem Ordered.repeatLast (h : p.Ordered) (hbounds : ∀ m, most = some m → least ≤ m)
    (hok : p.repeatLast least most = .ok p') : p'.Ordered := by
  rw [Progress.repeatLast] at hok
  split at hok
  · contradiction
  next item items hitems =>
    split at hok
    · cases hok
      have hall := h.items
      rw [hitems, AllOrdered, List.forall_mem_cons] at hall
      exact ⟨AllOrdered.cons ⟨hall.1, hbounds⟩ hall.2, h.branches, h.outer⟩
    · contradiction

private theorem Ordered.pushAtom {atom : Atom} (h : p.Ordered) (hok : p.pushAtom atom = .ok p') :
    p'.Ordered := by
  rw [Progress.pushAtom.eq_def] at hok
  split at hok
  · split at hok
    · contradiction
    · cases hok
      exact h.push trivial
  · cases hok
    exact h.push trivial
  · cases hok
    exact h.push trivial

end Progress

section Parts

variable {α β : Type} {P : α → Prop} {Q : β → Prop}

/-- Whether a result has a property, if there is one. -/
def Ensures (P : α → Prop) (outcome : Except SyntaxError α) : Prop := ∀ a, outcome = .ok a → P a

theorem Ensures.ok {a : α} (h : P a) : Ensures P (.ok a) := by
  rintro _ ⟨⟩
  exact h

theorem Ensures.error (cause : SyntaxError) : Ensures P (.error cause) := nofun

/-- What the first step ensures can be used in the second. -/
theorem Ensures.bind {result : Except SyntaxError α} {next : α → Except SyntaxError β}
    (h : Ensures P result) (hnext : ∀ a, P a → Ensures Q (next a)) :
    Ensures Q (result >>= next) := by
  cases result with
  | ok a => exact hnext a (h a rfl)
  | error cause => exact .error cause

/-- What is made of any result has a property if it has it whatever the result is. -/
theorem Ensures.bind_any {result : Except SyntaxError α} {next : α → Except SyntaxError β}
    (hnext : ∀ a, Ensures Q (next a)) : Ensures Q (result >>= next) := by
  cases result with
  | ok a => exact hnext a
  | error cause => exact .error cause

variable {p : Progress}

/-- The bounds of a repetition are compared when they are read. -/
theorem ensures_readBounds (flags : Flags) (text : List Char) :
    Ensures (fun found => ∀ m, found.2.1 = some m → found.1 ≤ m) (readBounds flags text) := by
  rw [readBounds]
  split
  · split
    · exact .bind_any fun least => .ok (fun m hm => absurd hm.symm (Option.some_ne_none m))
    · refine .bind_any fun least => ?_
      split
      · refine .bind_any fun most => ?_
        split
        next hle => exact .ok fun m hm => Option.some.inj hm ▸ hle
        next => exact .error _
      · exact .error _
  · exact .bind_any fun count => .ok fun m hm => (Option.some.inj hm).le
  · exact .error _

private theorem ensures_dotExpr (flags : Flags) : Ensures Expr.Ordered flags.dotExpr := by
  rw [Flags.dotExpr]
  split
  · exact .error _
  · split
    · exact .ok trivial
    · split <;> exact .ok trivial

private theorem ensures_readGroup (hp : p.Ordered) (text : List Char) :
    Ensures (fun found => found.1.Ordered) (readGroup p text) := by
  have hopen : (p.openGroup p.flags).Ordered := hp.openGroup
  have hnamed (name : String) : { p.openGroup p.flags with names := name :: p.names }.Ordered :=
    ⟨hopen.items, hopen.branches, hopen.outer⟩
  rw [readGroup]
  split
  · exact .error _
  · exact .error _
  · exact .error _
  · exact .error _
  · exact .bind_any fun found => .ok (hnamed found.1)
  · exact .bind_any fun found => .ok (hnamed found.1)
  · refine .bind_any fun found => ?_
    split
    split
    · split
      · exact .error _
      · exact .ok ⟨hp.items.cons trivial, hp.branches, hp.outer⟩
    · exact .ok hp.openGroup
  · exact .ok hp.openGroup

private theorem ensures_readPart [Engine] (hp : p.Ordered) (c : Char) (rest : List Char) :
    Ensures (fun found => found.1.Ordered) (readPart p c rest) := by
  have hrepeat (least : Nat) (most : Option Nat) (hbounds : ∀ m, most = some m → least ≤ m)
      (rest : List Char) : Ensures (fun found : Progress × List Char => found.1.Ordered)
        (p.repeatLast least most >>= fun p => .ok (p, rest)) :=
    .bind (fun _ => hp.repeatLast hbounds) fun p' hp' => .ok hp'
  have hnone {least : Nat} (m : Nat) (hm : none = some m) : least ≤ m :=
    absurd hm.symm (Option.some_ne_none m)
  by_cases hmark : c ∈ marks
  · simp only [marks, List.mem_cons, List.not_mem_nil, or_false] at hmark
    rcases hmark with rfl | rfl | rfl | rfl | rfl | rfl | rfl | rfl | rfl | rfl | rfl | rfl
    · exact ensures_readGroup hp rest
    · exact .bind (fun _ => hp.closeGroup) fun p' hp' => .ok hp'
    · exact .ok hp.branch
    · exact .bind_any fun set => .ok (hp.push trivial)
    · exact hrepeat 0 (some 1) (fun m _ => Nat.zero_le m) (dropLazyMark rest)
    · exact hrepeat 0 none hnone (dropLazyMark rest)
    · exact hrepeat 1 none hnone (dropLazyMark rest)
    · exact .bind (ensures_readBounds p.flags rest) fun bounds hbounds =>
        hrepeat bounds.1 bounds.2.1 hbounds _
    · exact .bind_any fun found => .bind (fun _ => hp.pushAtom) fun p' hp' => .ok hp'
    · exact .bind (ensures_dotExpr p.flags) fun expr hexpr => .ok (hp.push hexpr)
    · exact .ok (hp.push trivial)
    · exact .ok (hp.push trivial)
  · rw [readPart_of_not_mem_marks hmark]
    exact .ok (hp.push trivial)

/-- The bounds of all repetitions in what is read are in order. -/
theorem ensures_readParts [Engine] (hp : p.Ordered) (fuel : Nat) (text : List Char) :
    Ensures Progress.Ordered (readParts fuel p text) := by
  induction fuel generalizing p text with
  | zero =>
    rw [readParts]
    split
    · exact .ok hp
    · exact .error _
  | succ fuel ih =>
    rw [readParts]
    split
    · exact .ok hp
    next c rest _ => exact .bind (ensures_readPart hp c rest) fun found hfound => ih hfound found.2

end Parts

end Signpost.Regex

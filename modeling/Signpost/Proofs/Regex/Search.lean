import Mathlib.Data.Nat.Bitwise
import Signpost.Regex.Search

/-!
# Searching finds what an expression matches

A set of positions is known by its bits.  What is reached from it are the ends of the matches that
begin in it; that an unbounded repetition need not be tried more often than there are positions is
seen from matches going forward only.  Main statement: an expression occurs in a text if and only
if it matches between two of its positions.
-/

namespace Signpost.Regex

namespace Located

/-- Whether a function on sets of positions takes one step of a relation. -/
def Follows (f : Nat → Nat) (step : Nat → Nat → Prop) : Prop :=
  ∀ s j, (f s).testBit j = true ↔ ∃ i, s.testBit i = true ∧ step i j

end Located

namespace Expr

section Steps

variable {step : Nat → Nat → Prop}

private theorem steps_add {m n i j : Nat} :
    Steps step (m + n) i j ↔ ∃ k, Steps step m i k ∧ Steps step n k j := by
  induction m generalizing i with
  | zero => simp [Steps]
  | succ m ih =>
    rw [Nat.succ_add, Steps]
    constructor
    · rintro ⟨l, hstep, hsteps⟩
      obtain ⟨k, hm, hn⟩ := ih.mp hsteps
      exact ⟨k, ⟨l, hstep, hm⟩, hn⟩
    · rintro ⟨k, ⟨l, hstep, hm⟩, hn⟩
      exact ⟨l, hstep, ih.mpr ⟨k, hm, hn⟩⟩

/-- Positions that steps lead from to themselves are where all steps lead. -/
theorem testBit_of_steps {s : Nat}
    (hclosed : ∀ i j, s.testBit i = true → step i j → s.testBit j = true) {n i j : Nat}
    (hi : s.testBit i = true) (h : Steps step n i j) : s.testBit j = true := by
  induction n generalizing i with
  | zero => exact h ▸ hi
  | succ n ih =>
    obtain ⟨k, hstep, hsteps⟩ := h
    exact ih (hclosed i k hi hstep) hsteps

/-- Whether steps go forward, and into the text unless they stay where they are. -/
def Advances (length : Nat) (step : Nat → Nat → Prop) : Prop :=
  ∀ i j, step i j → i ≤ j ∧ (j = i ∨ j ≤ length)

private theorem Advances.steps {length : Nat} (h : Advances length step) (n : Nat) :
    Advances length (Steps step n) := by
  induction n with
  | zero => exact fun i j hij => ⟨Nat.le_of_eq hij, Or.inl hij.symm⟩
  | succ n ih =>
    rintro i j ⟨k, hstep, hsteps⟩
    have := h i k hstep
    have := ih k j hsteps
    omega

/-- Steps that go forward need not be more than the positions they pass. -/
theorem Advances.exists_steps_le {length : Nat} (h : Advances length step) {n i j : Nat}
    (hsteps : Steps step n i j) : ∃ m, m ≤ j - i ∧ Steps step m i j := by
  induction n generalizing i with
  | zero => exact ⟨0, Nat.zero_le _, hsteps⟩
  | succ n ih =>
    obtain ⟨k, hstep, hsteps⟩ := hsteps
    have hik := (h i k hstep).1
    have hkj := (h.steps n k j hsteps).1
    obtain ⟨m, hm, hsteps⟩ := ih hsteps
    -- A step that stays where it is can be left out.
    rcases hik.eq_or_lt with rfl | hlt
    · exact ⟨m, hm, hsteps⟩
    · exact ⟨m + 1, by omega, k, hstep, hsteps⟩

end Steps

end Expr

namespace Located

open Regex.Expr

section Runs

variable {f : Nat → Nat} {step : Nat → Nat → Prop}

/-- A set that a step does not change is what any number of steps reaches from it. -/
theorem Follows.testBit_iff_of_eq (hf : Follows f step) {s : Nat} (hs : f s = s) (n j : Nat) :
    s.testBit j = true ↔ ∃ i, s.testBit i = true ∧ Steps step n i j := by
  have hone (j : Nat) : s.testBit j = true ↔ ∃ i, s.testBit i = true ∧ step i j := by
    rw [← hf s j, hs]
  constructor
  · induction n generalizing j with
    | zero => exact fun h => ⟨j, h, rfl⟩
    | succ n ih =>
      intro hj
      obtain ⟨k, hk, hstep⟩ := (hone j).mp hj
      obtain ⟨i, hi, hsteps⟩ := ih k hk
      exact ⟨i, hi, steps_add.mpr ⟨k, hsteps, j, hstep, rfl⟩⟩
  · rintro ⟨i, hi, hsteps⟩
    exact testBit_of_steps (fun i j hi hstep => (hone j).mpr ⟨i, hi, hstep⟩) hi hsteps

private theorem Follows.testBit_after (hf : Follows f step) (n s j : Nat) :
    (after f n s).testBit j = true ↔ ∃ i, s.testBit i = true ∧ Steps step n i j := by
  induction n generalizing s with
  | zero => simp [after, Steps]
  | succ n ih =>
    rw [after]
    split
    next hs => exact hf.testBit_iff_of_eq hs (n + 1) j
    next =>
      rw [ih]
      constructor
      · rintro ⟨k, hk, hsteps⟩
        obtain ⟨i, hi, hstep⟩ := (hf s k).mp hk
        exact ⟨i, hi, k, hstep, hsteps⟩
      · rintro ⟨i, hi, k, hstep, hsteps⟩
        exact ⟨k, (hf s k).mpr ⟨i, hi, hstep⟩, hsteps⟩

private theorem Follows.testBit_within (hf : Follows f step) (n s j : Nat) :
    (within f n s).testBit j = true ↔
      ∃ i, s.testBit i = true ∧ ∃ m, m ≤ n ∧ Steps step m i j := by
  induction n generalizing s with
  | zero => simp [within, Steps]
  | succ n ih =>
    have hgrown (k : Nat) : (s ||| f s).testBit k = true ↔
        s.testBit k = true ∨ ∃ i, s.testBit i = true ∧ step i k := by
      rw [Nat.testBit_or, Bool.or_eq_true, hf s k]
    rw [within]
    split
    next hs =>
      have hclosed (i k : Nat) (hi : s.testBit i = true) (hstep : step i k) :
          s.testBit k = true := hs ▸ (hgrown k).mpr (Or.inr ⟨i, hi, hstep⟩)
      constructor
      · exact fun hj => ⟨j, hj, 0, Nat.zero_le _, rfl⟩
      · rintro ⟨i, hi, m, -, hsteps⟩
        exact testBit_of_steps hclosed hi hsteps
    next =>
      rw [ih]
      constructor
      · rintro ⟨k, hk, m, hm, hsteps⟩
        rcases (hgrown k).mp hk with hk | ⟨i, hi, hstep⟩
        · exact ⟨k, hk, m, by omega, hsteps⟩
        · exact ⟨i, hi, m + 1, by omega, k, hstep, hsteps⟩
      · rintro ⟨i, hi, m, hm, hsteps⟩
        cases m with
        | zero => exact ⟨i, (hgrown i).mpr (Or.inl hi), 0, Nat.zero_le _, hsteps⟩
        | succ m =>
          obtain ⟨k, hstep, hsteps⟩ := hsteps
          exact ⟨k, (hgrown k).mpr (Or.inr ⟨i, hi, hstep⟩), m, by omega, hsteps⟩

end Runs

end Located

private theorem testBit_places (p : Nat → Bool) (n i : Nat) :
    (places p n).testBit i = (decide (i < n) && p i) := by
  induction n with
  | zero => simp [places]
  | succ n ih =>
    have hlast : (if p n then 1 <<< n else 0).testBit i = (p n && decide (n = i)) := by
      cases p n <;> simp [Nat.one_shiftLeft, Nat.testBit_two_pow]
    rw [places, Nat.testBit_or, ih, hlast]
    rcases Nat.lt_trichotomy i n with hlt | rfl | hgt
    · simp [hlt, hlt.ne', Nat.lt_succ_of_lt hlt]
    · simp
    · simp [hgt.ne, Nat.not_lt_of_gt hgt, Nat.not_lt_of_ge (Nat.succ_le_of_lt hgt)]

namespace Expr

/-- Whether no repetition asks for more rounds than it allows. -/
def Ordered : Expr → Prop
  | .empty => True
  | .chars _ => True
  | .look _ => True
  | .seq first second => Ordered first ∧ Ordered second
  | .alt left right => Ordered left ∧ Ordered right
  | .times body least most => Ordered body ∧ ∀ m, most = some m → least ≤ m

/-- Matches go forward, and they end in the text unless they are empty. -/
theorem advances_spans (text : List Char) (e : Expr) : Advances text.length (Spans text e) := by
  induction e with
  | empty => exact fun i j hij => ⟨Nat.le_of_eq hij, Or.inl hij.symm⟩
  | chars set =>
    rintro i j ⟨rfl, c, hc, -⟩
    obtain ⟨hi, -⟩ := List.getElem?_eq_some_iff.mp hc
    exact ⟨Nat.le_succ i, Or.inr hi⟩
  | look condition => exact fun i j hij => ⟨Nat.le_of_eq hij.1, Or.inl hij.1.symm⟩
  | seq first second ihfirst ihsecond =>
    rintro i j ⟨k, hfirst, hsecond⟩
    have := ihfirst i k hfirst
    have := ihsecond k j hsecond
    omega
  | alt left right ihleft ihright => exact fun i j hij => hij.elim (ihleft i j) (ihright i j)
  | times body least most ih =>
    rintro i j ⟨n, -, -, hsteps⟩
    exact ih.steps n i j hsteps

/-- A repetition is its least number of rounds and some more; where they are not bounded, no more
than the text has positions. -/
theorem spans_times_iff {text : List Char} {body : Expr} {least : Nat} {most : Option Nat}
    (h : ∀ m, most = some m → least ≤ m) {i j : Nat} :
    (Expr.times body least most).Spans text i j ↔
      ∃ k, Steps (Spans text body) least i k ∧
        ∃ m, m ≤ (most.map (· - least)).getD (text.length + 1) ∧
          Steps (Spans text body) m k j := by
  constructor
  · rintro ⟨n, hn, hbound, hsteps⟩
    obtain ⟨m, rfl⟩ := Nat.exists_eq_add_of_le hn
    obtain ⟨k, hleast, hmore⟩ := steps_add.mp hsteps
    cases most with
    | some bound =>
      have := hbound bound rfl
      refine ⟨k, hleast, m, ?_, hmore⟩
      simp only [Option.map_some, Option.getD_some]
      omega
    | none =>
      have := (advances_spans text body).steps m k j hmore
      obtain ⟨m', hm', hmore'⟩ := (advances_spans text body).exists_steps_le hmore
      refine ⟨k, hleast, m', ?_, hmore'⟩
      simp only [Option.map_none, Option.getD_none]
      omega
  · rintro ⟨k, hleast, m, hm, hmore⟩
    refine ⟨least + m, Nat.le_add_right _ _, ?_, steps_add.mpr ⟨k, hleast, hmore⟩⟩
    rintro bound rfl
    have := h bound rfl
    simp only [Option.map_some, Option.getD_some] at hm
    omega

/-- From a set of positions exactly those are reached at which matches end that begin in it. -/
theorem testBit_reach {e : Expr} (h : e.Ordered) (text : List Char) (s j : Nat) :
    ((e.locate text.toArray).reach text.length s).testBit j = true ↔
      ∃ i, s.testBit i = true ∧ e.Spans text i j := by
  induction e generalizing s j with
  | empty => simp [locate, Located.reach, Spans]
  | chars set =>
    rw [locate, Located.reach, Nat.testBit_shiftLeft, Nat.testBit_and, testBit_places]
    simp only [List.size_toArray, List.getElem?_toArray, Bool.and_eq_true, decide_eq_true_eq,
      Option.any_eq_true, Spans]
    constructor
    · rintro ⟨hj, hi, -, c, hc, hset⟩
      exact ⟨j - 1, hi, (Nat.sub_add_cancel hj).symm, c, hc, hset⟩
    · rintro ⟨i, hi, rfl, c, hc, hset⟩
      obtain ⟨hlt, -⟩ := List.getElem?_eq_some_iff.mp hc
      exact ⟨Nat.succ_pos i, hi, hlt, c, hc, hset⟩
  | look condition =>
    rw [locate, Located.reach, Nat.testBit_and, testBit_places]
    simp only [List.size_toArray, List.getElem?_toArray, Bool.and_eq_true, decide_eq_true_eq,
      Nat.lt_succ_iff, Spans]
    constructor
    · rintro ⟨hj, hlt, hholds⟩
      exact ⟨j, hj, rfl, hlt, hholds⟩
    · rintro ⟨i, hi, rfl, hlt, hholds⟩
      exact ⟨hi, hlt, hholds⟩
  | seq first second ihfirst ihsecond =>
    rw [locate, Located.reach, ihsecond h.2]
    constructor
    · rintro ⟨k, hk, hsecond⟩
      obtain ⟨i, hi, hfirst⟩ := (ihfirst h.1 s k).mp hk
      exact ⟨i, hi, k, hfirst, hsecond⟩
    · rintro ⟨i, hi, k, hfirst, hsecond⟩
      exact ⟨k, (ihfirst h.1 s k).mpr ⟨i, hi, hfirst⟩, hsecond⟩
  | alt left right ihleft ihright =>
    rw [locate, Located.reach, Nat.testBit_or, Bool.or_eq_true, ihleft h.1, ihright h.2]
    simp only [Spans, and_or_left, exists_or]
  | times body least most ih =>
    have hbody : Located.Follows ((body.locate text.toArray).reach text.length)
        (Spans text body) := ih h.1
    rw [locate, Located.reach, hbody.testBit_within]
    simp only [hbody.testBit_after]
    constructor
    · rintro ⟨k, ⟨i, hi, hleast⟩, hmore⟩
      exact ⟨i, hi, (spans_times_iff h.2).mpr ⟨k, hleast, hmore⟩⟩
    · rintro ⟨i, hi, hspans⟩
      obtain ⟨k, hleast, hmore⟩ := (spans_times_iff h.2).mp hspans
      exact ⟨k, ⟨i, hi, hleast⟩, hmore⟩

/-- An expression occurs in a text if and only if it matches from some position to some other. -/
theorem occursIn_iff {e : Expr} (h : e.Ordered) (text : String) :
    e.occursIn text = true ↔
      ∃ i j, i ≤ text.toList.length ∧ e.Spans text.toList i j := by
  have hall (i : Nat) : (1 <<< (text.toList.length + 1) - 1).testBit i =
      decide (i ≤ text.toList.length) := by
    rw [Nat.one_shiftLeft, Nat.testBit_two_pow_sub_one, decide_eq_decide]
    exact Nat.lt_succ_iff
  have hreach := testBit_reach h text.toList (1 <<< (text.toList.length + 1) - 1)
  simp only [hall, decide_eq_true_eq] at hreach
  rw [occursIn, bne_iff_ne, List.size_toArray]
  constructor
  · intro hne
    obtain ⟨j, hj⟩ := Nat.exists_testBit_of_ne_zero hne
    obtain ⟨i, hi, hspans⟩ := (hreach j).mp hj
    exact ⟨i, j, hi, hspans⟩
  · rintro ⟨i, j, hi, hspans⟩ hzero
    have hj := (hreach j).mpr ⟨i, hi, hspans⟩
    rw [hzero, Nat.zero_testBit] at hj
    contradiction

end Expr

end Signpost.Regex

import Signpost.Proofs.Regex.Ordered
import Signpost.Proofs.Regex.Reading
import Signpost.Route.Pattern

/-!
# Patterns accept whole texts

A pattern is compiled from its text between anchors, in a group of its own.  Whether the group holds
what the text stands for alone depends on how the text is read before the group's end.  Main
statements: the pattern of an expression accepts exactly the texts that the expression matches from
the first character to the last, and when there is such a pattern; and a text that is no expression
for another reason than a group it did not open has none.
-/

namespace Signpost.Regex

section Anchors

/-- An expression tied to the beginning and the end of a text. -/
def Expr.anchored (e : Expr) : Expr := .concat [.look .start, e, .look .finish]

private theorem Expr.spans_start {text : List Char} {i j : Nat} :
    (Expr.look .start).Spans text i j ↔ i = 0 ∧ j = 0 := by
  rw [Spans]
  constructor
  · rintro ⟨rfl, hi, hholds⟩
    by_contra hne
    have hpositive : i ≠ 0 := fun h => hne ⟨h, h⟩
    rw [if_neg hpositive, List.getElem?_eq_getElem (by omega)] at hholds
    contradiction
  · rintro ⟨rfl, rfl⟩
    exact ⟨rfl, Nat.zero_le _, rfl⟩

private theorem Expr.spans_finish {text : List Char} {i j : Nat} :
    (Expr.look .finish).Spans text i j ↔ i = text.length ∧ j = text.length := by
  rw [Spans]
  constructor
  · rintro ⟨rfl, hi, hholds⟩
    have hle := List.getElem?_eq_none_iff.mp (Option.isNone_iff_eq_none.mp hholds)
    exact ⟨by omega, by omega⟩
  · rintro ⟨rfl, rfl⟩
    exact ⟨rfl, le_refl _, by rw [List.getElem?_eq_none (le_refl _)]; rfl⟩

/-- Between anchors an expression matches the whole text or nothing. -/
theorem Expr.spans_anchored {e : Expr} {text : List Char} {i j : Nat} :
    e.anchored.Spans text i j ↔ i = 0 ∧ j = text.length ∧ e.Spans text 0 text.length := by
  simp only [anchored, concat, List.foldr_cons, List.foldr_nil]
  rw [Spans]
  constructor
  · rintro ⟨k, hstart, l, hspans, m, hfinish, rfl⟩
    obtain ⟨rfl, rfl⟩ := spans_start.mp hstart
    obtain ⟨rfl, rfl⟩ := spans_finish.mp hfinish
    exact ⟨rfl, rfl, hspans⟩
  · rintro ⟨rfl, rfl, hspans⟩
    exact ⟨0, spans_start.mpr ⟨rfl, rfl⟩, text.length, hspans, text.length,
      spans_finish.mpr ⟨rfl, rfl⟩, rfl⟩

end Anchors

section Finishing

variable [Engine] {text : String}

private theorem read_eq (text : String) :
    read text = readAll {} text.toList >>= Progress.finish := by
  rw [read, readAll, String.length_toList]

/-- What is parsed is what is read, if it is not nested too deeply and fits. -/
theorem parse_eq_ok_iff {e : Expr} :
    parse text = .ok e ↔ ∃ item, read text = .ok item ∧ item.depth ≤ maxDepth ∧
      Engine.fits text item.expr = true ∧ item.expr = e := by
  rw [parse]
  cases read text with
  | error cause => exact iff_of_false nofun nofun
  | ok item =>
    dsimp only [bind, Except.bind]
    simp only [Except.ok.injEq, exists_eq_left']
    split
    next hdeep => exact iff_of_false nofun fun h => absurd h.1 (by omega)
    next hdepth =>
      split
      next hfits =>
        rw [Except.ok.injEq]
        exact ⟨fun h => ⟨by omega, hfits, h⟩, fun h => h.2.2⟩
      next hroom => exact iff_of_false nofun fun h => hroom h.2.1

end Finishing

section Anchoring

/-- The group between anchors, before anything of it is read. -/
def anchorLevel : Level := ⟨[⟨.look .start, 0, true⟩], [], {}⟩

private theorem toList_anchored (source : String) :
    (Route.Pattern.anchored source).toList =
      '^' :: '(' :: '?' :: ':' :: (source.toList ++ [')', '$']) := by
  simp [Route.Pattern.anchored]

private theorem isTail_anchor : IsTail [')', '$'] := ⟨['$'], rfl, fun _ => List.mem_singleton.mp⟩

private theorem isTail_parenthesis : IsTail [')'] := ⟨[], rfl, nofun⟩

private theorem finish_ne_groupUnopened (p : Progress) : p.finish ≠ .error .groupUnopened := by
  rw [Progress.finish]
  split <;> exact nofun

variable [Engine]

private theorem readAll_anchor (text : List Char) :
    readAll {} ('^' :: '(' :: '?' :: ':' :: text) =
      readAll (Progress.under {} [anchorLevel]) text := by
  rw [readAll_of_skip_cons rfl]
  change readAll (Progress.pushExpr {} (.look .start)) ('(' :: '?' :: ':' :: text) = _
  rw [readAll_of_skip_cons rfl]
  rfl

private theorem readAll_close {p p' : Progress} (h : p.closeGroup = .ok p') (rest : List Char) :
    readAll p (')' :: rest) = readAll p' rest := by
  rw [readAll_of_skip_cons (skip_cons (by decide) (by decide) rest), readPart, h]
  rfl

/-- What closes the group between anchors ties what was read to both ends of a text. -/
theorem readAll_anchor_end {q : Progress} (h : q.outer = []) :
    readAll (q.under [anchorLevel]) [')', '$'] >>= Progress.finish =
      .ok ⟨q.value.expr.anchored, q.value.depth + 2, true⟩ := by
  have houter : (q.under [anchorLevel]).outer = [anchorLevel] := by rw [Progress.under, h]; rfl
  have hclose : (q.under [anchorLevel]).closeGroup = .ok
      { q with
        items := [⟨q.value.expr, q.value.depth + 1, true⟩, ⟨.look .start, 0, true⟩]
        branches := []
        flags := {}
        outer := [] } := by
    rw [Progress.closeGroup, houter]
    rfl
  rw [readAll_close hclose, readAll_of_skip_cons rfl]
  have hdepth : 1 + max (max (max 0 0) (q.value.depth + 1)) 0 = q.value.depth + 2 := by omega
  rw [← hdepth]
  rfl

/-- A group that was left open keeps the group between anchors open. -/
theorem readAll_anchor_open {q : Progress} (h : q.outer ≠ []) :
    readAll (q.under [anchorLevel]) [')', '$'] >>= Progress.finish = .error .groupUnclosed := by
  obtain ⟨level, outer, houter⟩ := List.exists_cons_of_ne_nil h
  have hunder : (q.under [anchorLevel]).outer = level :: (outer ++ [anchorLevel]) := by
    rw [Progress.under, houter]
    rfl
  obtain ⟨p, hclose, hp⟩ : ∃ p, (q.under [anchorLevel]).closeGroup = .ok p ∧
      p.outer = outer ++ [anchorLevel] := by
    rw [Progress.closeGroup, hunder]
    exact ⟨_, rfl, rfl⟩
  have hspent : Spent ['$'] := fun _ => List.mem_singleton.mp
  obtain ⟨q', hq', houter'⟩ := readAll_of_spent hspent p
  rw [readAll_close hclose, hq']
  change q'.finish = _
  rw [Progress.finish, houter', hp]
  cases outer <;> rfl

/-- What is read of a text between anchors. -/
inductive Anchoring (source : String) : Prop
  /-- The anchors stand around what is read of the text alone. -/
  | around (item : Item) (halone : read source = .ok item)
    (hclosing : read (source ++ ")") = .error .groupUnopened)
    (hanchored : read (Route.Pattern.anchored source) =
      .ok ⟨item.expr.anchored, item.depth + 2, true⟩)
  /-- The text ends in a comment, to which the end of the group belongs. -/
  | commented (item : Item) (halone : read source = .ok item)
    (hclosing : read (source ++ ")") ≠ .error .groupUnopened)
    (hanchored : ∃ cause, read (Route.Pattern.anchored source) = .error cause)
  /-- The text cannot be read, and not between anchors either. -/
  | broken (cause : SyntaxError) (halone : read source = .error cause)
    (hcause : cause ≠ .groupUnopened)
    (hanchored : ∃ cause', read (Route.Pattern.anchored source) = .error cause')
  /-- The text closes a group that it did not open. -/
  | unopened (halone : read source = .error .groupUnopened)

private theorem read_anchored (source : String) :
    read (Route.Pattern.anchored source) =
      readAll (Progress.under {} [anchorLevel]) (source.toList ++ [')', '$']) >>=
        Progress.finish := by
  rw [read_eq, toList_anchored, readAll_anchor]

private theorem read_closing (source : String) :
    read (source ++ ")") =
      readAll (Progress.under {} []) (source.toList ++ [')']) >>= Progress.finish := by
  rw [read_eq, String.toList_append]
  rfl

private theorem anchoring_of_left {source : String} {q : Progress}
    (halone : readAll {} source.toList = .ok q)
    (hbefore : ∀ levels tail, IsTail tail →
      readAll (Progress.under {} levels) (source.toList ++ tail) = readAll (q.under levels) tail) :
    Anchoring source := by
  have hread : read source = q.finish := by rw [read_eq, halone]; rfl
  have hanchored := read_anchored source
  rw [hbefore [anchorLevel] [')', '$'] isTail_anchor] at hanchored
  by_cases houter : q.outer = []
  · have hitem : q.finish = .ok q.value := by rw [Progress.finish, houter]; rfl
    have hunder : (q.under []).outer = [] := by rw [Progress.under, houter]; rfl
    refine .around q.value (hread.trans hitem) ?_ (hanchored.trans (readAll_anchor_end houter))
    rw [read_closing, hbefore [] [')'] isTail_parenthesis,
      readAll_of_skip_cons (skip_cons (by decide) (by decide) []), readPart_unopened hunder]
    rfl
  · have hitem : q.finish = .error .groupUnclosed := by
      rw [Progress.finish, if_neg (by rwa [List.isEmpty_iff])]
    exact .broken .groupUnclosed (hread.trans hitem) (by decide)
      ⟨.groupUnclosed, hanchored.trans (readAll_anchor_open houter)⟩

private theorem anchoring_of_swallowed {source : String} {q : Progress}
    (halone : readAll {} source.toList = .ok q)
    (hbefore : ∀ levels tail, IsTail tail →
      readAll (Progress.under {} levels) (source.toList ++ tail) = .ok (q.under levels)) :
    Anchoring source := by
  have hread : read source = q.finish := by rw [read_eq, halone]; rfl
  have hanchored : read (Route.Pattern.anchored source) = .error .groupUnclosed := by
    rw [read_anchored, hbefore [anchorLevel] [')', '$'] isTail_anchor]
    change (q.under [anchorLevel]).finish = _
    rw [Progress.finish, Progress.under]
    cases q.outer <;> rfl
  cases hfinish : q.finish with
  | ok item =>
    refine .commented item (hread.trans hfinish) ?_ ⟨.groupUnclosed, hanchored⟩
    rw [read_closing, hbefore [] [')'] isTail_parenthesis]
    exact finish_ne_groupUnopened _
  | error cause =>
    have hcause : cause ≠ .groupUnopened := fun h => finish_ne_groupUnopened q (h ▸ hfinish)
    exact .broken cause (hread.trans hfinish) hcause ⟨.groupUnclosed, hanchored⟩

/-- What is refused alone leaves the group between anchors open. -/
theorem exists_read_anchored_error {source : String}
    (hbefore : ∀ levels tail, IsTail tail → levels ≠ [] → ∀ q,
      readAll (Progress.under {} levels) (source.toList ++ tail) = .ok q → q.outer ≠ []) :
    ∃ cause, read (Route.Pattern.anchored source) = .error cause := by
  rw [read_anchored]
  cases hall : readAll (Progress.under {} [anchorLevel]) (source.toList ++ [')', '$']) with
  | error cause => exact ⟨cause, rfl⟩
  | ok q =>
    have houter := hbefore [anchorLevel] _ isTail_anchor (List.cons_ne_nil _ _) q hall
    refine ⟨.groupUnclosed, ?_⟩
    change q.finish = _
    rw [Progress.finish, if_neg (by rwa [List.isEmpty_iff])]

/-- Every text is read between anchors as it is alone, or ends in a comment, or is no expression. -/
theorem anchoring (source : String) : Anchoring source := by
  cases enclosed {} source.toList with
  | left q halone hbefore => exact anchoring_of_left halone hbefore
  | swallowed q halone hbefore => exact anchoring_of_swallowed halone hbefore
  | broken cause halone hcause hbefore =>
    have hread : read source = .error cause := by rw [read_eq, halone]; rfl
    exact .broken cause hread hcause (exists_read_anchored_error hbefore)
  | unopened halone => exact .unopened (by rw [read_eq, halone]; rfl)

private theorem ordered_of_read {source : String} {item : Item} (h : read source = .ok item) :
    item.expr.Ordered := by
  have hempty : Progress.Ordered {} := ⟨nofun, nofun, nofun⟩
  have hfinish (p : Progress) (hp : p.Ordered) :
      Ensures (fun item : Item => item.expr.Ordered) p.finish := by
    rw [Progress.finish]
    split
    · exact .ok hp.value
    · exact .error _
  exact Ensures.bind (ensures_readParts hempty _ source.toList) hfinish item h

end Anchoring

private theorem Expr.Ordered.anchored {e : Expr} (h : e.Ordered) : e.anchored.Ordered :=
  ordered_concat (by simpa [Ordered] using h)

/-- Between anchors an expression occurs in the texts that it matches the whole of. -/
theorem Expr.occursIn_anchored {e : Expr} (h : e.Ordered) (text : String) :
    e.anchored.occursIn text = true ↔ e.Spans text.toList 0 text.toList.length := by
  rw [occursIn_iff h.anchored]
  constructor
  · rintro ⟨i, j, -, hspans⟩
    exact (spans_anchored.mp hspans).2.2
  · exact fun hspans => ⟨0, _, Nat.zero_le _, spans_anchored.mpr ⟨rfl, rfl, hspans⟩⟩

end Signpost.Regex

namespace Signpost.Route.Pattern

open Regex

section Compiling

variable [Engine] {param source : String}

private theorem compile_eq_ok_iff {pattern : Pattern} :
    compile param source = .ok pattern ↔
      ∃ expr, Regex.parse (anchored source) = .ok expr ∧ pattern = ⟨anchored source, expr⟩ := by
  rw [compile]
  cases Regex.parse (anchored source) with
  | ok expr =>
    constructor
    · intro h
      exact ⟨expr, rfl, (Except.ok.inj h).symm⟩
    · rintro ⟨_, ⟨⟩, rfl⟩
      rfl
  | error cause => exact iff_of_false nofun nofun

private theorem exists_compile_error (h : ∀ pattern, compile param source ≠ .ok pattern) :
    ∃ cause, compile param source = .error (.invalidPattern param cause) := by
  rw [compile] at *
  cases hparse : Regex.parse (anchored source) with
  | ok expr => exact absurd (by rw [hparse]) (h ⟨anchored source, expr⟩)
  | error cause => exact ⟨cause, rfl⟩

private theorem compile_ne_ok_of_read_error
    (h : ∃ cause, Regex.read (anchored source) = .error cause)
    (pattern : Pattern) : compile param source ≠ .ok pattern := by
  intro hpattern
  obtain ⟨cause, hcause⟩ := h
  obtain ⟨expr, hexpr, -⟩ := compile_eq_ok_iff.mp hpattern
  obtain ⟨item, hitem, -⟩ := parse_eq_ok_iff.mp hexpr
  rw [hcause] at hitem
  contradiction

/-- What can be read is compiled if it does not end in a comment and leaves room for anchors. -/
theorem compile_of_read {item : Item} (hread : Regex.read source = .ok item)
    (pattern : Pattern) :
    compile param source = .ok pattern ↔
      Regex.read (source ++ ")") = .error .groupUnopened ∧ item.depth + 2 ≤ maxDepth ∧
        Engine.fits (anchored source) item.expr.anchored = true ∧
        pattern = ⟨anchored source, item.expr.anchored⟩ := by
  cases anchoring source with
  | around item' hitem' hclosing hanchored =>
    obtain rfl := Except.ok.inj (hitem'.symm.trans hread)
    rw [compile_eq_ok_iff]
    constructor
    · rintro ⟨expr, hexpr, rfl⟩
      obtain ⟨found, hfound, hdepth, hfits, rfl⟩ := parse_eq_ok_iff.mp hexpr
      obtain rfl := Except.ok.inj (hanchored.symm.trans hfound)
      exact ⟨hclosing, hdepth, hfits, rfl⟩
    · rintro ⟨-, hdepth, hfits, rfl⟩
      exact ⟨_, parse_eq_ok_iff.mpr ⟨_, hanchored, hdepth, hfits, rfl⟩, rfl⟩
  | commented item' _ hclosing hanchored =>
    exact iff_of_false (compile_ne_ok_of_read_error hanchored pattern) fun h => hclosing h.1
  | broken cause halone =>
    rw [halone] at hread
    contradiction
  | unopened halone =>
    rw [halone] at hread
    contradiction

/-- What cannot be read is not compiled, unless it closes a group that it did not open. -/
theorem compile_of_unreadable {cause : SyntaxError} (hread : Regex.read source = .error cause)
    (hcause : cause ≠ .groupUnopened) (pattern : Pattern) :
    compile param source ≠ .ok pattern := by
  cases anchoring source with
  | around item halone =>
    rw [halone] at hread
    contradiction
  | commented item halone =>
    rw [halone] at hread
    contradiction
  | broken _ _ _ hanchored => exact compile_ne_ok_of_read_error hanchored pattern
  | unopened halone => exact absurd (Except.error.inj (hread.symm.trans halone)) hcause

/-- Whatever the engine, the pattern of an expression accepts exactly the texts that the expression
matches from the first character to the last.  There is such a pattern if the expression does not
end in a comment, which would take in the end of the group that is put around it, and if there is
room for the anchors; and a text that is no expression has none, unless it closes a group that it
did not open.  Whether a text is an expression alone depends on how it is read, on its depth and on
whether it fits. -/
theorem compile_whole (param source : String) :
    (∀ item, Regex.read source = .ok item →
      ((∃ pattern, compile param source = .ok pattern) ↔
        Regex.read (source ++ ")") = .error .groupUnopened ∧ item.depth + 2 ≤ maxDepth ∧
          Engine.fits (anchored source) item.expr.anchored = true) ∧
      ∀ pattern, compile param source = .ok pattern → ∀ text,
        pattern.accepts text = true ↔ item.expr.Spans text.toList 0 text.toList.length) ∧
    (∀ cause, Regex.read source = .error cause → cause ≠ .groupUnopened →
      ∃ cause', compile param source = .error (.invalidPattern param cause')) ∧
    (∀ expr, Regex.parse source = .ok expr ↔
      ∃ item, Regex.read source = .ok item ∧ item.depth ≤ maxDepth ∧
        Engine.fits source item.expr = true ∧ item.expr = expr) := by
  refine ⟨fun item hread => ⟨⟨?_, ?_⟩, fun pattern hok text => ?_⟩,
    fun cause hread hcause => exists_compile_error (compile_of_unreadable hread hcause),
    fun expr => parse_eq_ok_iff⟩
  · rintro ⟨pattern, hok⟩
    obtain ⟨hclosing, hdepth, hfits, -⟩ := (compile_of_read hread pattern).mp hok
    exact ⟨hclosing, hdepth, hfits⟩
  · rintro ⟨hclosing, hdepth, hfits⟩
    exact ⟨_, (compile_of_read hread _).mpr ⟨hclosing, hdepth, hfits, rfl⟩⟩
  · obtain ⟨-, -, -, rfl⟩ := (compile_of_read hread pattern).mp hok
    exact Expr.occursIn_anchored (ordered_of_read hread) text

end Compiling

/-- Both alternatives are between the anchors, and a group that is left open is refused. -/
theorem compile_whole_either :
    Regex.parse "a|b" = .ok (.alt (.char 'a') (.char 'b')) ∧
      (∃ pattern, compile "id" "a|b" = .ok pattern ∧ ∀ text, pattern.accepts text = true ↔
        (Expr.alt (.char 'a') (.char 'b')).Spans text.toList 0 text.toList.length) ∧
      Regex.parse "(a" = .error .groupUnclosed ∧
      ∃ cause, compile "id" "(a" = .error (.invalidPattern "id" cause) := by
  have hread : Regex.read "a|b" = .ok ⟨.alt (.char 'a') (.char 'b'), 1, true⟩ := by rfl
  obtain ⟨hcompile, haccepts⟩ := (compile_whole "id" "a|b").1 _ hread
  obtain ⟨pattern, hpattern⟩ := hcompile.mpr ⟨by rfl, by decide, by decide⟩
  exact ⟨by rfl, ⟨pattern, hpattern, haccepts pattern hpattern⟩, by rfl,
    (compile_whole "id" "(a").2.1 .groupUnclosed (by rfl) (by decide)⟩

/-- A text that closes the group between the anchors and opens another is no expression, but its
pattern is compiled, and each anchor ties one of its halves; and an expression that ends in a
comment has no pattern. -/
theorem compile_unbalanced :
    (Regex.parse "a)|(?:b" = .error .groupUnopened ∧
      ∃ pattern, compile "id" "a)|(?:b" = .ok pattern ∧
        pattern.accepts "ax" = true ∧ pattern.accepts "xb" = true) ∧
    Regex.parse "(?x)a #" = .ok (.concat [.empty, .char 'a']) ∧
      compile "id" "(?x)a #" = .error (.invalidPattern "id" .groupUnclosed) :=
  ⟨⟨by rfl, _, rfl, by rfl, by rfl⟩, by rfl, by rfl⟩

end Signpost.Route.Pattern

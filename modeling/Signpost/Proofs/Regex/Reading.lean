import Signpost.Proofs.Regex.Parts

/-!
# Reading inside of a group

What has been read can stand inside of any groups: the parts that come next are read as before, as
long as they close no more groups than they open.  So an expression that is read to its end is read
the same inside of groups, up to the parenthesis that closes the innermost of them, unless it ends
in a comment that takes the parenthesis in.  Main statement: `enclosed`, which says this of every
text but those that close a group they did not open.
-/

namespace Signpost.Regex

namespace Progress

/-- What was read, inside of the given groups. -/
def under (p : Progress) (levels : List Level) : Progress := { p with outer := p.outer ++ levels }

private theorem repeatLast_under (p : Progress) (levels : List Level) (least : Nat)
    (most : Option Nat) :
    (p.under levels).repeatLast least most =
      (p.repeatLast least most).map (·.under levels) := by
  rw [repeatLast, repeatLast]
  split
  next hitems => rw [show p.items = [] from hitems]; rfl
  next item items hitems =>
    rw [show p.items = item :: items from hitems]
    dsimp only
    split <;> rfl

private theorem pushAtom_under (p : Progress) (levels : List Level) (atom : Atom) :
    (p.under levels).pushAtom atom = (p.pushAtom atom).map (·.under levels) := by
  cases atom with
  | char c byte =>
    rw [pushAtom, pushAtom]
    split
    next h => rw [if_pos (show (byte && !p.flags.unicode && !Text.isAscii c) = true from h)]; rfl
    next h => rw [if_neg (show ¬(byte && !p.flags.unicode && !Text.isAscii c) = true from h)]; rfl
  | set members => rfl
  | look condition => rfl

private theorem closeGroup_under {p : Progress} (h : p.outer ≠ []) (levels : List Level) :
    (p.under levels).closeGroup = p.closeGroup.map (·.under levels) := by
  obtain ⟨level, outer, houter⟩ := List.exists_cons_of_ne_nil h
  rw [closeGroup, closeGroup, houter, show (p.under levels).outer = level :: (outer ++ levels) by
    rw [under, houter]; rfl]
  rfl

end Progress

section Under

variable {p : Progress} {c : Char}

/-- What was read, inside of the given groups, with the rest of the text. -/
def enclose (levels : List Level) (found : Progress × List Char) : Progress × List Char :=
  (found.1.under levels, found.2)

private theorem openNamed_under (p : Progress) (levels : List Level) (text : List Char) :
    openNamed (p.under levels) text = (openNamed p text).map (enclose levels) := by
  rw [openNamed, openNamed, map_bind_ok]
  rfl

private theorem openSettings_under (p : Progress) (levels : List Level) (text : List Char) :
    openSettings (p.under levels) text = (openSettings p text).map (enclose levels) := by
  rw [openSettings, openSettings, map_bind_ok]
  refine bind_congr_ok fun found _ => ?_
  split
  · split <;> rfl
  · rfl

private theorem readGroup_under (p : Progress) (levels : List Level) (text : List Char) :
    readGroup (p.under levels) text = (readGroup p text).map (enclose levels) := by
  rw [readGroup_eq, readGroup_eq]
  simp only [map_onPrefix, ← openNamed_under, ← openSettings_under]
  rfl

private theorem repeat_under (p : Progress) (levels : List Level) (least : Nat) (most : Option Nat)
    (rest : List Char) :
    ((p.under levels).repeatLast least most >>= fun p => .ok (p, dropLazyMark rest)) =
      (p.repeatLast least most >>= fun p => .ok (p, dropLazyMark rest)).map (enclose levels) := by
  rw [p.repeatLast_under]
  cases p.repeatLast least most <;> rfl

/-- Inside of groups a part is read as it is alone, unless it closes the first of them. -/
theorem readPart_under [Engine] (hc : c = ')' → p.outer ≠ []) (levels : List Level) (rest :
    List Char) :
    readPart (p.under levels) c rest = (readPart p c rest).map (enclose levels) := by
  by_cases hmark : c ∈ marks
  · simp only [marks, List.mem_cons, List.not_mem_nil, or_false] at hmark
    rcases hmark with rfl | rfl | rfl | rfl | rfl | rfl | rfl | rfl | rfl | rfl | rfl | rfl
    · exact readGroup_under p levels rest
    · rw [readPart, readPart, p.closeGroup_under (hc rfl)]
      cases p.closeGroup <;> rfl
    · rfl
    · rw [readPart, readPart, map_bind_ok]
      rfl
    · exact repeat_under p levels 0 (some 1) rest
    · exact repeat_under p levels 0 none rest
    · exact repeat_under p levels 1 none rest
    · rw [readPart, readPart, map_bind_ok]
      refine bind_congr_ok fun bounds _ => ?_
      obtain ⟨least, most, rest⟩ := bounds
      exact repeat_under p levels least most (p.flags.skip rest)
    · rw [readPart, readPart, map_bind_ok]
      refine bind_congr_ok fun found _ => ?_
      obtain ⟨atom, rest⟩ := found
      dsimp only
      rw [p.pushAtom_under]
      cases p.pushAtom atom <;> rfl
    · rw [readPart, readPart, map_bind_ok]
      rfl
    · rfl
    · rfl
  · rw [readPart_of_not_mem_marks hmark, readPart_of_not_mem_marks hmark]
    rfl

end Under

section Parts

variable [Engine] {p p' : Progress} {c : Char} {rest rest' : List Char}

/-- Outside of all groups there is none to close. -/
theorem readPart_unopened (h : p.outer = []) (rest : List Char) :
    readPart p ')' rest = .error .groupUnopened := by
  rw [readPart, Progress.closeGroup, h]
  rfl

private theorem suffix_of_readPart (h : readPart p c rest = .ok (p', rest')) : rest' <:+ rest := by
  by_cases hopen : c = ')' → p.outer ≠ []
  · exact (local_readPart hopen).suffix h
  · rw [Classical.not_imp, not_ne_iff] at hopen
    obtain ⟨rfl, houter⟩ := hopen
    rw [readPart_unopened houter] at h
    contradiction

end Parts

section All

private theorem length_lt_of_skip {flags : Flags} {c : Char} {text rest : List Char}
    (h : flags.skip text = c :: rest) : rest.length < text.length := by
  have hle := ((skips_skip flags).suffix text).length_le
  rwa [h, List.length_cons] at hle

variable [Engine] {p : Progress} {text : List Char}

private theorem readParts_of_skip_nil (h : p.flags.skip text = []) (n : Nat) :
    readParts n p text = .ok p := by
  cases n with
  | zero => rw [readParts, h]; rfl
  | succ n => rw [readParts, h]

/-- Beyond the length of the text it does not matter how much fuel there is. -/
theorem readParts_congr {m n : Nat} (hm : text.length ≤ m) (hn : text.length ≤ n) :
    readParts m p text = readParts n p text := by
  induction m generalizing n p text with
  | zero =>
    obtain rfl := List.eq_nil_of_length_eq_zero (Nat.le_zero.mp hm)
    have hskip : p.flags.skip [] = [] := List.eq_nil_of_suffix_nil ((skips_skip _).suffix [])
    rw [readParts_of_skip_nil hskip, readParts_of_skip_nil hskip]
  | succ m ih =>
    cases hskip : p.flags.skip text with
    | nil => rw [readParts_of_skip_nil hskip, readParts_of_skip_nil hskip]
    | cons c rest =>
      have hrest := length_lt_of_skip hskip
      obtain ⟨n, rfl⟩ : ∃ k, n = k + 1 := ⟨n - 1, by omega⟩
      rw [readParts, readParts, hskip]
      refine bind_congr_ok fun found hfound => ?_
      have hle := (suffix_of_readPart hfound).length_le
      exact ih (by omega) (by omega)

/-- Read parts until the text ends. -/
def readAll (p : Progress) (text : List Char) : Except SyntaxError Progress :=
  readParts text.length p text

private theorem readAll_of_skip_nil (h : p.flags.skip text = []) : readAll p text = .ok p :=
  readParts_of_skip_nil h text.length

/-- Behind what is skipped a part is read, and then the rest. -/
theorem readAll_of_skip_cons {c : Char} {rest : List Char} (h : p.flags.skip text = c :: rest) :
    readAll p text = readPart p c rest >>= fun found => readAll found.1 found.2 := by
  have hrest := length_lt_of_skip h
  rw [readAll, readParts_congr (le_refl text.length) (Nat.le_succ text.length), readParts, h]
  refine bind_congr_ok fun found hfound => ?_
  have hle := (suffix_of_readPart hfound).length_le
  exact readParts_congr (by omega) (le_refl found.2.length)

private theorem readAll_nil (p : Progress) : readAll p [] = .ok p :=
  readAll_of_skip_nil (List.eq_nil_of_suffix_nil ((skips_skip _).suffix []))

/-- Only what counts of a text is read. -/
theorem readAll_skip_congr {text' : List Char} (h : p.flags.skip text = p.flags.skip text') :
    readAll p text = readAll p text' := by
  cases hskip : p.flags.skip text with
  | nil => rw [readAll_of_skip_nil hskip, readAll_of_skip_nil (h ▸ hskip)]
  | cons c rest => rw [readAll_of_skip_cons hskip, readAll_of_skip_cons (h ▸ hskip)]

/-- What holds where nothing counts, and wherever it holds after the next part, holds of all that is
read. -/
theorem readAll_induction {motive : Progress → List Char → Prop}
    (nil : ∀ p text, p.flags.skip text = [] → motive p text)
    (cons : ∀ p text c rest, p.flags.skip text = c :: rest →
      (∀ p' rest', readPart p c rest = .ok (p', rest') → motive p' rest') → motive p text)
    (p : Progress) (text : List Char) : motive p text := by
  induction hlength : text.length using Nat.strong_induction_on generalizing p text with
  | h n ih =>
    subst hlength
    cases hskip : p.flags.skip text with
    | nil => exact nil p text hskip
    | cons c rest =>
      have hrest := length_lt_of_skip hskip
      refine cons p text c rest hskip fun p' rest' hfound => ?_
      have hle := (suffix_of_readPart hfound).length_le
      exact ih rest'.length (by omega) p' rest' rfl

end All

section Lost

variable {flags : Flags} {p : Progress}

/-- Dollars close no group. -/
theorem readAll_of_spent [Engine] {text : List Char} (h : Spent text) (p : Progress) :
    ∃ q, readAll p text = .ok q ∧ q.outer = p.outer := by
  induction text generalizing p with
  | nil => exact ⟨p, readAll_nil p, rfl⟩
  | cons c rest ih =>
    obtain rfl : c = '$' := h c List.mem_cons_self
    obtain ⟨q, hq, houter⟩ := ih (fun d hd => h d (List.mem_cons_of_mem _ hd))
      (p.pushExpr (.look p.flags.finishLook))
    refine ⟨q, ?_, houter⟩
    rw [readAll_of_skip_cons (skip_cons (by decide) (by decide) rest)]
    exact hq

/-- Bounds do not begin with a closing parenthesis. -/
theorem readBounds_of_closing {text : List Char} (h : (flags.skip text).head? = some ')') :
    readBounds flags text = .error .repetitionBounds := by
  obtain ⟨rest, hskip⟩ := List.head?_eq_some_iff.mp h
  have hblank : Text.isWhitespace ')' = false := by decide
  have hrest : (')' :: rest).dropWhile Text.isWhitespace = ')' :: rest := by
    rw [List.dropWhile_cons, hblank]
    rfl
  have hskipped : skipBlanks (')' :: rest) = ')' :: rest := by
    rw [skipBlanks, hblank]
    rfl
  have hdecimal : readDecimal flags (')' :: rest) = (none, ')' :: rest) := by
    have htake : flags.takeUntil (!·.isDigit) false (')' :: rest) = some ([], ')' :: rest) := by
      rw [Flags.takeUntil, hblank]
      cases flags.verbose <;> rfl
    rw [readDecimal, hrest, htake]
    dsimp only
    rw [hskipped, hrest, ite_self]
    rfl
  rw [readBounds, hskip, hdecimal]
  rfl

/-- Where reading on is in vain, no group is closed. -/
theorem outer_of_readAll_lost [Engine] {rest : List Char} {q : Progress} (hlost : PartLost p rest)
    (h : readAll p rest = .ok q) : q.outer = p.outer := by
  rcases hlost with hspent | ⟨bounds, rfl, hbounds⟩
  · obtain ⟨q', hq', houter⟩ := readAll_of_spent hspent p
    rw [hq'] at h
    cases h
    exact houter
  · rw [readAll_of_skip_cons (skip_cons (by decide) (by decide) bounds), readPart,
      readBounds_of_closing hbounds] at h
    contradiction

end Lost

section Inside

variable [Engine]

/-- How what is read of a text alone goes inside of groups and before a tail. -/
inductive Enclosed (p : Progress) (text : List Char) : Prop
  /-- The tail is left. -/
  | left (q : Progress) (halone : readAll p text = .ok q)
    (hbefore : ∀ levels tail, IsTail tail →
      readAll (p.under levels) (text ++ tail) = readAll (q.under levels) tail)
  /-- The text ends in a comment, to which the tail belongs. -/
  | swallowed (q : Progress) (halone : readAll p text = .ok q)
    (hbefore : ∀ levels tail, IsTail tail →
      readAll (p.under levels) (text ++ tail) = .ok (q.under levels))
  /-- The text cannot be read, and then a tail does not close the groups. -/
  | broken (cause : SyntaxError) (halone : readAll p text = .error cause)
    (hcause : cause ≠ .groupUnopened)
    (hbefore : ∀ levels tail, IsTail tail → levels ≠ [] → ∀ q,
      readAll (p.under levels) (text ++ tail) = .ok q → q.outer ≠ [])
  /-- The text closes a group that it did not open. -/
  | unopened (halone : readAll p text = .error .groupUnopened)

/-- What is read on after a part is as what is read from there. -/
theorem Enclosed.of_eq {p p' : Progress} {text rest : List Char} (h : Enclosed p' rest)
    (halone : readAll p text = readAll p' rest)
    (hbefore : ∀ levels tail, IsTail tail →
      readAll (p.under levels) (text ++ tail) = readAll (p'.under levels) (rest ++ tail)) :
    Enclosed p text := by
  cases h with
  | left q hq hall =>
    exact .left q (halone.trans hq) fun levels tail htail =>
      (hbefore levels tail htail).trans (hall levels tail htail)
  | swallowed q hq hall =>
    exact .swallowed q (halone.trans hq) fun levels tail htail =>
      (hbefore levels tail htail).trans (hall levels tail htail)
  | broken cause hq hcause hall =>
    exact .broken cause (halone.trans hq) hcause fun levels tail htail hlevels q hok =>
      hall levels tail htail hlevels q (hbefore levels tail htail ▸ hok)
  | unopened hq => exact .unopened (halone.trans hq)

private theorem Enclosed.of_skip_nil
    {p : Progress} {text : List Char} (hskip : p.flags.skip text = []) :
    Enclosed p text := by
  have halone := readAll_of_skip_nil hskip
  rcases (skips_skip p.flags).append text with hleft | ⟨-, hswallowed⟩
  · refine .left p halone fun levels tail htail => readAll_skip_congr ?_
    have htail' := hleft tail htail
    rw [hskip, List.nil_append] at htail'
    obtain ⟨after, rfl, -⟩ := htail
    exact htail'.trans (skip_cons (by decide) (by decide) after).symm
  · exact .swallowed p halone fun levels tail htail =>
      readAll_of_skip_nil (hswallowed tail htail)

/-- Where a part comes next alone, it comes next inside of groups and before a tail. -/
theorem readAll_under_append {p : Progress} {text rest : List Char} {c : Char}
    (hskip : p.flags.skip text = c :: rest) (hopen : c = ')' → p.outer ≠ []) (levels : List Level)
    {tail : List Char} (htail : IsTail tail) :
    readAll (p.under levels) (text ++ tail) =
      (readPart p c (rest ++ tail)).map (enclose levels) >>= fun found =>
        readAll found.1 found.2 := by
  rw [← readPart_under hopen]
  refine readAll_of_skip_cons ?_
  rcases (skips_skip p.flags).append text with hleft | ⟨hnil, -⟩
  · rw [Progress.under, hleft tail htail, hskip, List.cons_append]
  · rw [hskip] at hnil
    contradiction

private theorem Enclosed.of_skip_cons {p : Progress} {text rest : List Char} {c : Char}
    (hskip : p.flags.skip text = c :: rest)
    (ih : ∀ p' rest', readPart p c rest = .ok (p', rest') → Enclosed p' rest') :
    Enclosed p text := by
  have halone := readAll_of_skip_cons hskip
  by_cases hopen : c = ')' → p.outer ≠ []
  · have hbefore := readAll_under_append hskip hopen
    cases (local_readPart hopen).agrees rest with
    | left p' rest' hok hleft =>
      refine (ih p' rest' hok).of_eq (by rw [halone, hok]; rfl) fun levels tail htail => ?_
      rw [hbefore levels htail, hleft tail htail]
      rfl
    | swallowed p' hok hswallowed =>
      refine .swallowed p' ?_ fun levels tail htail => ?_
      · rw [halone, hok]
        exact readAll_nil p'
      · rw [hbefore levels htail, hswallowed tail htail]
        exact readAll_nil _
    | broken cause herror hcause hbroken =>
      refine .broken cause (by rw [halone, herror]; rfl) hcause
        fun levels tail htail hlevels q hok => ?_
      rw [hbefore levels htail] at hok
      rcases hbroken tail htail with ⟨cause', herror', -⟩ | ⟨p', rest', hfound, hlost⟩
      · rw [herror'] at hok
        contradiction
      · rw [hfound] at hok
        rw [outer_of_readAll_lost (p := p'.under levels) hlost hok]
        exact List.append_ne_nil_of_right_ne_nil _ hlevels
  · rw [Classical.not_imp, not_ne_iff] at hopen
    obtain ⟨rfl, houter⟩ := hopen
    refine .unopened ?_
    rw [halone, readPart_unopened houter]
    rfl

/-- Every text is read alone as it is inside of groups and before a tail, or closes a group that it
did not open. -/
theorem enclosed (p : Progress) (text : List Char) : Enclosed p text :=
  readAll_induction (fun _ _ => .of_skip_nil) (fun _ _ _ _ => .of_skip_cons) p text

end Inside

end Signpost.Regex

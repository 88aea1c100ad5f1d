import Mathlib.Data.List.Basic
import Signpost.Proofs.Pieces
import Signpost.Regex.Flags

/-!
# Reading a text with a closing parenthesis after it

A reader is local if it does not matter to it that a closing parenthesis, and nothing after it but
dollars, follows its text: it reads the same and leaves the parenthesis, unless the text ends in a
comment, which goes on to the end.  Where the text ends too early it may take the parenthesis for a
part of what it reads, and then either fails all the same or is lost, that is, in a state from which
nothing good can come.  Main statements: what is made of local readers, one after the other or
according to how the text begins, is local, and so are the ways in which characters are skipped and
collected.
-/

namespace Signpost.Regex

/-- What reads a text from its beginning, and gives what it read and the rest. -/
abbrev Reader (α : Type) := List Char → Except SyntaxError (α × List Char)

/-- A closing parenthesis and nothing but dollars after it. -/
def IsTail (tail : List Char) : Prop := ∃ after, tail = ')' :: after ∧ ∀ c ∈ after, c = '$'

/-- What is left of a tail after its parenthesis. -/
def Spent (text : List Char) : Prop := ∀ c ∈ text, c = '$'

private theorem Spent.suffix {text rest : List Char} (h : Spent text) (hrest : rest <:+ text) :
    Spent rest := fun c hc => h c (hrest.subset hc)

private theorem Spent.not_mem {text : List Char} (h : Spent text) {c : Char} (hc : c ≠ '$') :
    c ∉ text :=
  fun hmem => hc (h c hmem)

/-- A beginning without a closing parenthesis stands before a tail. -/
theorem exists_append_of_append_tail {beginning text rest tail : List Char}
    (hbeginning : ')' ∉ beginning) (htail : IsTail tail) (h : text ++ tail = beginning ++ rest) :
    ∃ more, text = beginning ++ more := by
  rcases List.append_eq_append_iff.mp h with ⟨front, hfront, hback⟩ | ⟨front, hfront, -⟩
  · cases front with
    | nil =>
      rw [List.append_nil] at hfront
      exact ⟨[], by rw [hfront, List.append_nil]⟩
    | cons c front =>
      obtain ⟨after, rfl, -⟩ := htail
      obtain rfl : ')' = c := (List.cons.inj hback).1
      rw [hfront] at hbeginning
      exact absurd (List.mem_append_right _ List.mem_cons_self) hbeginning
  · exact ⟨front, hfront⟩

/-- A text that does not begin with a character, unless with a parenthesis, does not do so before a
tail. -/
theorem append_ne_cons {c : Char} (hc : c ≠ ')') {text tail : List Char}
    (h : ∀ rest, text ≠ c :: rest) (htail : IsTail tail) : ∀ rest, text ++ tail ≠ c :: rest := by
  intro rest heq
  cases text with
  | nil =>
    obtain ⟨after, rfl, -⟩ := htail
    exact hc (List.cons.inj heq).1.symm
  | cons d text => exact h text (congrArg (· :: text) (List.cons.inj heq).1)

/-- What is left of a tail, with its parenthesis or without. -/
def Remnant (text : List Char) : Prop := IsTail text ∨ Spent text

/-- Only a parenthesis and a dollar sign are in what is left of a tail. -/
theorem Remnant.not_mem {text : List Char} (h : Remnant text) {c : Char} (hc : c ≠ ')')
    (hc' : c ≠ '$') : c ∉ text := by
  rcases h with ⟨after, rfl, hafter⟩ | hspent
  · rw [List.mem_cons, not_or]
    exact ⟨hc, Spent.not_mem hafter hc'⟩
  · exact hspent.not_mem hc'

private theorem Remnant.suffix {text rest : List Char} (h : Remnant text) (hrest : rest <:+ text) :
    Remnant rest := by
  rcases h with ⟨after, rfl, hafter⟩ | hspent
  · rcases List.suffix_cons_iff.mp hrest with rfl | hsuffix
    · exact Or.inl ⟨after, rfl, hafter⟩
    · exact Or.inr (Spent.suffix hafter hsuffix)
  · exact Or.inr (hspent.suffix hrest)

section Outcomes

variable {α β : Type}

/-- A failure, other than for a group that was never opened. -/
def Fails (outcome : Except SyntaxError α) : Prop :=
  ∃ cause, outcome = .error cause ∧ cause ≠ .groupUnopened

/-- A failure, or a state that is lost. -/
def Breaks (lost : α → List Char → Prop) (outcome : Except SyntaxError (α × List Char)) : Prop :=
  Fails outcome ∨ ∃ a rest, outcome = .ok (a, rest) ∧ lost a rest

/-- One step after the other does not fail for a group that was never opened if neither does. -/
theorem bind_ne_groupUnopened {result : Except SyntaxError α} {next : α → Except SyntaxError β}
    (hresult : result ≠ .error .groupUnopened) (hnext : ∀ a, next a ≠ .error .groupUnopened) :
    result >>= next ≠ .error .groupUnopened := by
  cases result with
  | ok a => exact hnext a
  | error cause => exact fun h => hresult (congrArg _ (Except.error.inj h))

/-- What comes second counts only for what the first succeeds with. -/
theorem bind_congr_ok {result : Except SyntaxError α} {next next' : α → Except SyntaxError β}
    (h : ∀ a, result = .ok a → next a = next' a) : result >>= next = result >>= next' := by
  cases result with
  | ok a => exact h a rfl
  | error cause => rfl

/-- How what was read of a text alone agrees with what is read of it before each tail. -/
inductive Agrees (lost : α → List Char → Prop) (alone : Except SyntaxError (α × List Char))
    (before : List Char → Except SyntaxError (α × List Char)) : Prop
  /-- The tail is left as it is. -/
  | left (a : α) (rest : List Char) (halone : alone = .ok (a, rest))
    (hbefore : ∀ tail, IsTail tail → before tail = .ok (a, rest ++ tail))
  /-- The text ends in a comment, to which the tail belongs. -/
  | swallowed (a : α) (halone : alone = .ok (a, []))
    (hbefore : ∀ tail, IsTail tail → before tail = .ok (a, []))
  /-- The text cannot be read, and not before a tail either. -/
  | broken (cause : SyntaxError) (halone : alone = .error cause) (hcause : cause ≠ .groupUnopened)
    (hbefore : ∀ tail, IsTail tail → Breaks lost (before tail))

/-- A reader to which it does not matter whether a tail follows its text. -/
structure Local (lost : α → List Char → Prop) (read : Reader α) : Prop where
  suffix : ∀ {text a rest}, read text = .ok (a, rest) → rest <:+ text
  agrees : ∀ text, Agrees lost (read text) fun tail => read (text ++ tail)

/-- Whether having nothing left but dollars is being lost. -/
def Covers (lost : α → List Char → Prop) : Prop := ∀ a rest, Spent rest → lost a rest

variable {lost : α → List Char → Prop} {read : Reader α}

theorem Breaks.error {cause : SyntaxError} (h : cause ≠ .groupUnopened) :
    Breaks lost (.error cause) := Or.inl ⟨cause, rfl, h⟩

/-- It does not count in which way the text before a tail is read. -/
theorem Agrees.congr {alone : Except SyntaxError (α × List Char)}
    {before before' : List Char → Except SyntaxError (α × List Char)}
    (h : Agrees lost alone before) (heq : ∀ tail, IsTail tail → before' tail = before tail) :
    Agrees lost alone before' := by
  cases h with
  | left a rest halone hbefore =>
    exact .left a rest halone fun tail htail => (heq tail htail).trans (hbefore tail htail)
  | swallowed a halone hbefore =>
    exact .swallowed a halone fun tail htail => (heq tail htail).trans (hbefore tail htail)
  | broken cause halone hcause hbefore =>
    exact .broken cause halone hcause fun tail htail => heq tail htail ▸ hbefore tail htail

/-- Two outcomes that are the same but for what is left agree. -/
theorem Agrees.of_eq {alone : Except SyntaxError (α × List Char)}
    {before : List Char → Except SyntaxError (α × List Char)} {result : Except SyntaxError α}
    {rest : List Char} (hresult : result ≠ .error .groupUnopened)
    (halone : alone = result.map (·, rest))
    (hbefore : ∀ tail, IsTail tail → before tail = result.map (·, rest ++ tail)) :
    Agrees lost alone before := by
  cases result with
  | ok a => exact .left a rest halone hbefore
  | error cause =>
    have hcause : cause ≠ .groupUnopened := fun h => hresult (congrArg _ h)
    exact .broken cause halone hcause fun tail htail => hbefore tail htail ▸ .error hcause

/-- What is known beforehand does not depend on the text. -/
theorem Agrees.require {result : Except SyntaxError β}
    {alone : β → Except SyntaxError (α × List Char)}
    {before : β → List Char → Except SyntaxError (α × List Char)}
    (hresult : result ≠ .error .groupUnopened)
    (h : ∀ b, result = .ok b → Agrees lost (alone b) (before b)) :
    Agrees lost (result >>= alone) fun tail => result >>= fun b => before b tail := by
  cases result with
  | ok b => exact h b rfl
  | error cause =>
    have hcause : cause ≠ .groupUnopened := fun h => hresult (congrArg _ h)
    exact .broken cause rfl hcause fun _ _ => .error hcause

namespace Local

/-- A local reader does not fail for a group that was never opened. -/
theorem ne_groupUnopened (h : Local lost read) (text : List Char) :
    read text ≠ .error .groupUnopened := by
  intro herror
  cases h.agrees text with
  | left a rest halone _ => rw [halone] at herror; contradiction
  | swallowed a halone _ => rw [halone] at herror; contradiction
  | broken cause halone hcause _ => exact hcause (Except.error.inj (halone.symm.trans herror))

/-- At the end of a text, where a comment may have swallowed a tail, all is the same. -/
theorem agrees_nil (h : Local lost read) :
    Agrees lost (read []) fun _ => read [] := by
  cases hread : read [] with
  | ok found =>
    obtain ⟨a, rest⟩ := found
    obtain rfl := List.eq_nil_of_suffix_nil (h.suffix hread)
    exact .swallowed a rfl fun _ _ => rfl
  | error cause =>
    have hcause : cause ≠ .groupUnopened := fun hc => h.ne_groupUnopened [] (hc ▸ hread)
    exact .broken cause rfl hcause fun _ _ => .error hcause

/-- What reads on where nothing is left but dollars fails or is lost. -/
theorem breaks_of_spent (h : Local lost read) (hlost : Covers lost) {text : List Char}
    (htext : Spent text) : Breaks lost (read text) := by
  cases hread : read text with
  | ok found =>
    exact Or.inr ⟨found.1, found.2, rfl, hlost _ _ (htext.suffix (h.suffix hread))⟩
  | error cause => exact .error fun hc => h.ne_groupUnopened text (hc ▸ hread)

/-- Where reading on is in vain whatever is left of a tail, it fails or is lost there. -/
theorem breaks_of_remnant (h : Local lost read)
    (hlost : ∀ a rest, Remnant rest → lost a rest) {text : List Char} (htext : Remnant text) :
    Breaks lost (read text) := by
  cases hread : read text with
  | ok found =>
    exact Or.inr ⟨found.1, found.2, rfl, hlost _ _ (htext.suffix (h.suffix hread))⟩
  | error cause => exact .error fun hc => h.ne_groupUnopened text (hc ▸ hread)

protected theorem error {cause : SyntaxError} (h : cause ≠ .groupUnopened) :
    Local lost fun _ => .error cause :=
  ⟨nofun, fun _ => .broken cause rfl h fun _ _ => .error h⟩

protected theorem pure (a : α) : Local lost fun rest => .ok (a, rest) :=
  ⟨fun h => by cases h; exact List.suffix_refl _, fun text => .left a text rfl fun _ _ => rfl⟩

/-- What is known beforehand does not depend on the text. -/
protected theorem require {result : Except SyntaxError β} {next : β → Reader α}
    (hresult : result ≠ .error .groupUnopened) (h : ∀ b, Local lost (next b)) :
    Local lost fun rest => result >>= fun b => next b rest := by
  cases result with
  | ok b => exact h b
  | error cause => exact .error fun hc => hresult (congrArg _ hc)

end Local

section Bind

variable {lost' : β → List Char → Prop} {next : α → Reader β} {text : List Char}

/-- What goes on from the outcome for a text agrees if it does so from what is left. -/
theorem Agrees.bind (h : Agrees lost (read text) fun tail => read (text ++ tail))
    (hnext : ∀ a rest, read text = .ok (a, rest) →
      Agrees lost' (next a rest) fun tail => next a (rest ++ tail))
    (hnil : ∀ a, read text = .ok (a, []) → Agrees lost' (next a []) fun _ => next a [])
    (hlost : ∀ a rest, lost a rest → Breaks lost' (next a rest)) :
    Agrees lost' (read text >>= fun found => next found.1 found.2) fun tail =>
      read (text ++ tail) >>= fun found => next found.1 found.2 := by
  cases h with
  | left a rest halone hbefore =>
    have hgo := hnext a rest halone
    rw [halone]
    exact hgo.congr fun tail htail => by rw [hbefore tail htail]; rfl
  | swallowed a halone hbefore =>
    have hgo := hnil a halone
    rw [halone]
    exact hgo.congr fun tail htail => by rw [hbefore tail htail]; rfl
  | broken cause halone hcause hbefore =>
    rw [halone]
    refine .broken cause rfl hcause fun tail htail => ?_
    rcases hbefore tail htail with ⟨cause', heq, hcause'⟩ | ⟨a, rest, heq, ha⟩
    · exact heq ▸ .error hcause'
    · exact heq ▸ hlost a rest ha

/-- What follows a local reader is local if the reader is never lost to it. -/
protected theorem Local.bind (h : Local lost read) (hnext : ∀ a, Local lost' (next a))
    (hlost : ∀ a rest, lost a rest → Breaks lost' (next a rest)) :
    Local lost' fun text => read text >>= fun found => next found.1 found.2 where
  suffix {text b rest} hok := by
    cases hread : read text with
    | error cause => rw [hread] at hok; contradiction
    | ok found =>
      rw [hread] at hok
      exact ((hnext found.1).suffix hok).trans (h.suffix hread)
  agrees text := (h.agrees text).bind (fun a rest _ => (hnext a).agrees rest)
    (fun a _ => (hnext a).agrees_nil) hlost

/-- A reader that is lost only where nothing but dollars is left can be followed by any other. -/
theorem Local.bind_spent (h : Local (fun _ rest => Spent rest) read)
    (hnext : ∀ a, Local lost' (next a)) (hlost : Covers lost') :
    Local lost' fun text => read text >>= fun found => next found.1 found.2 :=
  h.bind hnext fun a _ hspent => (hnext a).breaks_of_spent hlost hspent

end Bind

/-- A way to skip the beginning of a text that a tail does not change. -/
structure Skips (skip : List Char → List Char) : Prop where
  suffix : ∀ text, skip text <:+ text
  append : ∀ text, (∀ tail, IsTail tail → skip (text ++ tail) = skip text ++ tail) ∨
    skip text = [] ∧ ∀ tail, IsTail tail → skip (text ++ tail) = []

/-- What reads on after something was skipped is local. -/
theorem Local.skip {skip : List Char → List Char} (hskip : Skips skip) (h : Local lost read) :
    Local lost fun text => read (skip text) where
  suffix hok := (h.suffix hok).trans (hskip.suffix _)
  agrees text := by
    rcases hskip.append text with hleft | ⟨hnil, hswallowed⟩
    · exact (h.agrees (skip text)).congr fun tail htail => by rw [hleft tail htail]
    · rw [hnil]
      exact h.agrees_nil.congr fun tail htail => by rw [hswallowed tail htail]

/-- Read on after a beginning, or else in some other way. -/
def onPrefix (beginning : List Char) (next other : Reader α) : Reader α := fun text =>
  match Text.rest? beginning text with
  | some rest => next rest
  | none => other text

/-- A text that begins as is asked for is read on behind its beginning. -/
theorem onPrefix_append (beginning rest : List Char) (next other : Reader α) :
    onPrefix beginning next other (beginning ++ rest) = next rest := by
  rw [onPrefix, Text.rest?_eq_some_iff.mpr rfl]

/-- Any other text is read otherwise. -/
theorem onPrefix_of_ne {beginning text : List Char} {next other : Reader α}
    (h : ∀ rest, text ≠ beginning ++ rest) :
    onPrefix beginning next other text = other text := by
  have hnone : Text.rest? beginning text = none :=
    Option.eq_none_iff_forall_ne_some.mpr fun rest hrest => h rest (Text.rest?_eq_some_iff.mp hrest)
  rw [onPrefix, hnone]

private theorem rest?_append {beginning text rest : List Char}
    (h : Text.rest? beginning text = some rest) (tail : List Char) :
    Text.rest? beginning (text ++ tail) = some (rest ++ tail) := by
  rw [Text.rest?_eq_some_iff] at h ⊢
  rw [h, List.append_assoc]

/-- A beginning without a closing parenthesis does not end in a tail. -/
theorem rest?_append_of_none {beginning text tail : List Char} (hbeginning : ')' ∉ beginning)
    (h : Text.rest? beginning text = none) (htail : IsTail tail) :
    Text.rest? beginning (text ++ tail) = none := by
  rw [Option.eq_none_iff_forall_ne_some] at h ⊢
  intro rest hrest
  obtain ⟨more, hmore⟩ :=
    exists_append_of_append_tail hbeginning htail (Text.rest?_eq_some_iff.mp hrest)
  exact h more (Text.rest?_eq_some_iff.mpr hmore)

/-- Where a reader begins with a text that has no parenthesis in it, a tail does not change which
way it goes. -/
theorem Agrees.onPrefix {beginning text : List Char} {next other : Reader α}
    (hbeginning : ')' ∉ beginning)
    (hnext : ∀ rest, text = beginning ++ rest →
      Agrees lost (next rest) fun tail => next (rest ++ tail))
    (hother : Agrees lost (other text) fun tail => other (text ++ tail)) :
    Agrees lost (Regex.onPrefix beginning next other text) fun tail =>
      Regex.onPrefix beginning next other (text ++ tail) := by
  cases hfound : Text.rest? beginning text with
  | some rest =>
    have halone : Regex.onPrefix beginning next other text = next rest := by
      rw [Regex.onPrefix, hfound]
    rw [halone]
    refine (hnext rest (Text.rest?_eq_some_iff.mp hfound)).congr fun tail _ => ?_
    rw [Regex.onPrefix, rest?_append hfound]
  | none =>
    have halone : Regex.onPrefix beginning next other text = other text := by
      rw [Regex.onPrefix, hfound]
    rw [halone]
    refine hother.congr fun tail htail => ?_
    rw [Regex.onPrefix, rest?_append_of_none hbeginning hfound htail]

/-- Both ways count only for the texts that go them. -/
theorem onPrefix_congr {beginning text : List Char} {next next' other other' : Reader α}
    (hnext : ∀ rest, text = beginning ++ rest → next rest = next' rest)
    (hother : other text = other' text) :
    onPrefix beginning next other text = onPrefix beginning next' other' text := by
  rw [onPrefix, onPrefix]
  split
  next rest hrest => exact hnext rest (Text.rest?_eq_some_iff.mp hrest)
  next => exact hother

/-- What is done to the outcome can be done to both ways. -/
theorem map_onPrefix (beginning text : List Char) (next other : Reader α)
    (f : α × List Char → β × List Char) :
    (onPrefix beginning next other text).map f =
      onPrefix beginning (fun rest => (next rest).map f) (fun text => (other text).map f) text := by
  rw [onPrefix, onPrefix]
  split <;> rfl

/-- What is known of both ways of reading on is known of what `onPrefix` chooses. -/
theorem onPrefix_cases {motive : Except SyntaxError (α × List Char) → Prop}
    {beginning text : List Char} {next other : Reader α}
    (hnext : ∀ rest, text = beginning ++ rest → motive (next rest)) (hother : motive (other text)) :
    motive (onPrefix beginning next other text) := by
  rw [onPrefix]
  split
  next rest hrest => exact hnext rest (Text.rest?_eq_some_iff.mp hrest)
  next => exact hother

/-- A reader is local if both its ways are. -/
theorem Local.onPrefix {beginning : List Char} {next other : Reader α}
    (hbeginning : ')' ∉ beginning) (hnext : Local lost next) (hother : Local lost other) :
    Local lost (Regex.onPrefix beginning next other) where
  suffix {text a rest} := by
    refine onPrefix_cases (motive := fun outcome => outcome = .ok (a, rest) → rest <:+ text)
      (fun more hmore hok => ?_) fun hok => hother.suffix hok
    rw [hmore]
    exact (hnext.suffix hok).trans (List.suffix_append _ _)
  agrees text := .onPrefix hbeginning (fun rest _ => hnext.agrees rest) (hother.agrees text)

/-- Read on according to the next character, if there is one. -/
def onCons (cause : SyntaxError) (next : Char → Reader α) : Reader α := fun text =>
  match text with
  | [] => .error cause
  | c :: rest => next c rest

/-- Where a text must not end, a tail's parenthesis may be read in place of the character that is
missing. -/
theorem Local.onCons {cause : SyntaxError} (hcause : cause ≠ .groupUnopened)
    {next : Char → Reader α} (hnext : ∀ c, Local lost (next c)) (hlost : Covers lost) :
    Local lost (Regex.onCons cause next) where
  suffix {text a rest} hok := by
    cases text with
    | nil => contradiction
    | cons c text => exact ((hnext c).suffix hok).trans (List.suffix_cons c text)
  agrees text := by
    cases text with
    | nil =>
      refine .broken cause rfl hcause fun tail htail => ?_
      obtain ⟨after, rfl, hafter⟩ := htail
      exact (hnext ')').breaks_of_spent hlost hafter
    | cons c text => exact (hnext c).agrees text

/-- Read on only if the text has not ended. -/
def unlessEmpty (cause : SyntaxError) (read : Reader α) : Reader α := fun text =>
  match text with
  | [] => .error cause
  | text => read text

theorem unlessEmpty_of_ne {cause : SyntaxError} {text : List Char} (h : text ≠ []) :
    unlessEmpty cause read text = read text := by
  cases text with
  | nil => contradiction
  | cons c rest => rfl

/-- A reader that fails on the empty text is local if it is local elsewhere. -/
theorem Local.unlessEmpty {cause : SyntaxError} (hcause : cause ≠ .groupUnopened)
    (h : Local lost read) (hlost : ∀ a rest, Remnant rest → lost a rest) :
    Local lost (Regex.unlessEmpty cause read) where
  suffix {text a rest} hok := by
    cases text with
    | nil => contradiction
    | cons c text => exact h.suffix hok
  agrees text := by
    cases text with
    | nil =>
      refine .broken cause rfl hcause fun tail htail => ?_
      obtain ⟨after, rfl, hafter⟩ := htail
      exact h.breaks_of_remnant hlost (Or.inl ⟨after, rfl, hafter⟩)
    | cons c text => exact h.agrees (c :: text)

/-- Read on in one of two ways, according to what a tail does not change about the text. -/
theorem Local.ite {p : List Char → Prop} [DecidablePred p] {read' : Reader α}
    (hp : ∀ text tail, IsTail tail → (p (text ++ tail) ↔ p text)) (h : Local lost read)
    (h' : Local lost read') : Local lost fun text => if p text then read text else read' text where
  suffix {text a rest} hok := by
    split at hok
    · exact h.suffix hok
    · exact h'.suffix hok
  agrees text := by
    by_cases htext : p text
    · rw [if_pos htext]
      exact (h.agrees text).congr fun tail htail => if_pos ((hp text tail htail).mpr htext)
    · rw [if_neg htext]
      exact (h'.agrees text).congr fun tail htail =>
        if_neg fun hmore => htext ((hp text tail htail).mp hmore)

end Outcomes

section Skipping

/-- A tail has no blanks at its beginning. -/
theorem dropWhile_append_tail (text : List Char) {tail : List Char} (htail : IsTail tail) :
    (text ++ tail).dropWhile Text.isWhitespace = text.dropWhile Text.isWhitespace ++ tail := by
  obtain ⟨after, rfl, -⟩ := htail
  have hparenthesis : Text.isWhitespace ')' = false := by decide
  induction text with
  | nil => rw [List.nil_append, List.dropWhile_cons, hparenthesis]; rfl
  | cons c text ih =>
    rw [List.cons_append, List.dropWhile_cons, List.dropWhile_cons]
    split
    · exact ih
    · rfl

/-- Blanks at the beginning are skipped. -/
theorem skips_dropWhile : Skips (List.dropWhile Text.isWhitespace) :=
  ⟨fun _ => List.dropWhile_suffix _, fun text => Or.inl fun _ => dropWhile_append_tail text⟩

mutual

/-- Skipping leaves the end of a text. -/
theorem skipBlanks_suffix (text : List Char) : skipBlanks text <:+ text := by
  cases text with
  | nil => exact List.suffix_refl []
  | cons c rest =>
    rw [skipBlanks]
    split
    · exact (skipBlanks_suffix rest).trans (List.suffix_cons c rest)
    · split
      · exact (skipComment_suffix rest).trans (List.suffix_cons c rest)
      · exact List.suffix_refl _

theorem skipComment_suffix (text : List Char) : skipComment text <:+ text := by
  cases text with
  | nil => exact List.suffix_refl []
  | cons c rest =>
    rw [skipComment]
    split
    · exact (skipBlanks_suffix rest).trans (List.suffix_cons c rest)
    · exact (skipComment_suffix rest).trans (List.suffix_cons c rest)

end

/-- A comment does not end in a tail. -/
theorem skipComment_of_not_mem {text : List Char} (h : '\n' ∉ text) : skipComment text = [] := by
  induction text with
  | nil => rfl
  | cons c rest ih =>
    rw [List.mem_cons, not_or] at h
    rw [skipComment, if_neg (Ne.symm h.1)]
    exact ih h.2

private theorem skipBlanks_tail {tail : List Char} (htail : IsTail tail) :
    skipBlanks tail = tail := by
  obtain ⟨after, rfl, -⟩ := htail
  have hparenthesis : Text.isWhitespace ')' = false := by decide
  rw [skipBlanks, hparenthesis]
  rfl

mutual

/-- What is skipped does not depend on a tail, unless all that is before the tail is skipped. -/
theorem skipBlanks_append (text : List Char) :
    (∀ tail, IsTail tail → skipBlanks (text ++ tail) = skipBlanks text ++ tail) ∨
      skipBlanks text = [] ∧ ∀ tail, IsTail tail → skipBlanks (text ++ tail) = [] := by
  cases text with
  | nil => exact Or.inl fun tail htail => skipBlanks_tail htail
  | cons c rest =>
    simp only [List.cons_append, skipBlanks]
    split
    · exact skipBlanks_append rest
    · split
      · exact skipComment_append rest
      · exact Or.inl fun _ _ => rfl

theorem skipComment_append (text : List Char) :
    (∀ tail, IsTail tail → skipComment (text ++ tail) = skipComment text ++ tail) ∨
      skipComment text = [] ∧ ∀ tail, IsTail tail → skipComment (text ++ tail) = [] := by
  cases text with
  | nil =>
    exact Or.inr ⟨rfl, fun tail htail =>
      skipComment_of_not_mem (Remnant.not_mem (Or.inl htail) (by decide) (by decide))⟩
  | cons c rest =>
    simp only [List.cons_append, skipComment]
    split
    · exact skipBlanks_append rest
    · exact skipComment_append rest

end

/-- What does not count is skipped. -/
theorem skips_skip (flags : Flags) : Skips flags.skip where
  suffix text := by
    rw [Flags.skip]
    split
    · exact skipBlanks_suffix text
    · exact List.suffix_refl text
  append text := by
    simp only [Flags.skip]
    split
    · exact skipBlanks_append text
    · exact Or.inl fun _ _ => rfl

/-- A character that is neither a blank nor begins a comment counts. -/
theorem skip_cons {flags : Flags} {c : Char} (hblank : Text.isWhitespace c = false) (hc : c ≠ '#')
    (rest : List Char) : flags.skip (c :: rest) = c :: rest := by
  rw [Flags.skip]
  split
  · rw [skipBlanks, hblank, if_neg Bool.false_ne_true, if_neg hc]
  · rfl

end Skipping

section Collecting

variable {flags : Flags} {stops : Char → Bool} {comment : Bool} {text found rest : List Char}

private theorem suffix_of_takeUntil (h : flags.takeUntil stops comment text = some (found, rest)) :
    rest <:+ text := by
  fun_induction flags.takeUntil stops comment text generalizing found with
  | case1 => contradiction
  | case2 c text ih => exact (ih h).trans (List.suffix_cons c text)
  | case3 c text _ ih => exact (ih h).trans (List.suffix_cons c text)
  | case4 c text _ _ ih => exact (ih h).trans (List.suffix_cons c text)
  | case5 c text => cases h; exact List.suffix_refl _
  | case6 c text _ _ _ ih =>
    obtain ⟨inner, hinner, heq⟩ := Option.map_eq_some_iff.mp h
    cases heq
    exact (ih hinner).trans (List.suffix_cons c text)

/-- A search ends before a character that stops it. -/
theorem exists_of_takeUntil (h : flags.takeUntil stops comment text = some (found, rest)) :
    ∃ c more, rest = c :: more ∧ stops c = true := by
  fun_induction flags.takeUntil stops comment text generalizing found with
  | case1 => contradiction
  | case2 c text ih => exact ih h
  | case3 c text _ ih => exact ih h
  | case4 c text _ _ ih => exact ih h
  | case5 c text _ _ hstops => cases h; exact ⟨c, text, rfl, hstops⟩
  | case6 c text _ _ _ ih =>
    obtain ⟨inner, hinner, heq⟩ := Option.map_eq_some_iff.mp h
    cases heq
    exact ih hinner

/-- What was found is found again before any text. -/
theorem takeUntil_append (h : flags.takeUntil stops comment text = some (found, rest))
    (more : List Char) :
    flags.takeUntil stops comment (text ++ more) = some (found, rest ++ more) := by
  fun_induction flags.takeUntil stops comment text generalizing found with
  | case1 => contradiction
  | case2 c text ih =>
    rw [List.cons_append, Flags.takeUntil]
    exact ih h
  | case3 c text hblank ih =>
    rw [List.cons_append, Flags.takeUntil, if_pos hblank]
    exact ih h
  | case4 c text hblank hcomment ih =>
    rw [List.cons_append, Flags.takeUntil, if_neg hblank, if_pos hcomment]
    exact ih h
  | case5 c text hblank hcomment hstops =>
    rw [List.cons_append, Flags.takeUntil, if_neg hblank, if_neg hcomment, if_pos hstops]
    cases h
    rfl
  | case6 c text hblank hcomment hstops ih =>
    obtain ⟨inner, hinner, heq⟩ := Option.map_eq_some_iff.mp h
    cases heq
    rw [List.cons_append, Flags.takeUntil, if_neg hblank, if_neg hcomment, if_neg hstops,
      ih hinner]
    rfl

/-- Where a tail stops a search that the text does not stop, it does so with its parenthesis or
behind it. -/
theorem takeUntil_tail {tail : List Char} (hnone : flags.takeUntil stops comment text = none)
    (htail : IsTail tail)
    (h : flags.takeUntil stops comment (text ++ tail) = some (found, rest)) :
    stops ')' = true ∧ rest = tail ∨ Spent rest := by
  fun_induction flags.takeUntil stops comment text generalizing found with
  | case1 comment =>
    obtain ⟨after, rfl, hafter⟩ := htail
    rw [List.nil_append] at h
    obtain ⟨c, more, hrest, hstops⟩ := exists_of_takeUntil h
    rcases List.suffix_cons_iff.mp (suffix_of_takeUntil h) with heq | hsuffix
    · obtain rfl : c = ')' := (List.cons.inj (hrest.symm.trans heq)).1
      exact Or.inl ⟨hstops, heq⟩
    · exact Or.inr (Spent.suffix hafter hsuffix)
  | case2 c text ih =>
    rw [List.cons_append, Flags.takeUntil] at h
    exact ih hnone h
  | case3 c text hblank ih =>
    rw [List.cons_append, Flags.takeUntil, if_pos hblank] at h
    exact ih hnone h
  | case4 c text hblank hcomment ih =>
    rw [List.cons_append, Flags.takeUntil, if_neg hblank, if_pos hcomment] at h
    exact ih hnone h
  | case5 c text => contradiction
  | case6 c text hblank hcomment hstops ih =>
    rw [List.cons_append, Flags.takeUntil, if_neg hblank, if_neg hcomment, if_neg hstops] at h
    obtain ⟨inner, hinner, heq⟩ := Option.map_eq_some_iff.mp h
    cases heq
    exact ih (Option.map_eq_none_iff.mp hnone) hinner

/-- Collect the characters up to one that stops, or fail. -/
def readUntil (flags : Flags) (stops : Char → Bool) (cause : SyntaxError) : Reader (List Char) :=
  fun text =>
    match flags.takeUntil stops false text with
    | some found => .ok found
    | none => .error cause

/-- Reading up to a character is local. -/
theorem local_readUntil {lost : List Char → List Char → Prop} {cause : SyntaxError}
    (hcause : cause ≠ .groupUnopened) (hlost : Covers lost)
    (htail : stops ')' = true → ∀ found tail, IsTail tail → lost found tail) :
    Local lost (readUntil flags stops cause) where
  suffix {text found rest} hok := by
    rw [readUntil] at hok
    split at hok
    next hfound =>
      cases hok
      exact suffix_of_takeUntil hfound
    next => contradiction
  agrees text := by
    cases hfound : flags.takeUntil stops false text with
    | some found =>
      refine .left found.1 found.2 (by rw [readUntil, hfound]) fun tail _ => ?_
      rw [readUntil, takeUntil_append hfound]
    | none =>
      refine .broken cause (by rw [readUntil, hfound]) hcause fun tail htail' => ?_
      rw [readUntil]
      split
      next found hmore =>
        refine Or.inr ⟨found.1, found.2, rfl, ?_⟩
        rcases takeUntil_tail hfound htail' hmore with ⟨hstops, heq⟩ | hspent
        · exact heq ▸ htail hstops found.1 tail htail'
        · exact hlost found.1 found.2 hspent
      next => exact .error hcause

/-- Collect the given number of characters, or fail. -/
def readExactly (flags : Flags) (n : Nat) (cause : SyntaxError) : Reader (List Char) := fun text =>
  match flags.takeExactly n false text with
  | some found => .ok found
  | none => .error cause

private theorem suffix_of_takeExactly {n : Nat}
    (h : flags.takeExactly n comment text = some (found, rest)) : rest <:+ text := by
  fun_induction flags.takeExactly n comment text generalizing found with
  | case1 => cases h; exact List.suffix_refl _
  | case2 => contradiction
  | case3 n c text ih => exact (ih h).trans (List.suffix_cons c text)
  | case4 n c text _ ih => exact (ih h).trans (List.suffix_cons c text)
  | case5 n c text _ _ ih => exact (ih h).trans (List.suffix_cons c text)
  | case6 n c text _ _ ih =>
    obtain ⟨inner, hinner, heq⟩ := Option.map_eq_some_iff.mp h
    cases heq
    exact (ih hinner).trans (List.suffix_cons c text)

private theorem takeExactly_append {n : Nat}
    (h : flags.takeExactly n comment text = some (found, rest)) (more : List Char) :
    flags.takeExactly n comment (text ++ more) = some (found, rest ++ more) := by
  fun_induction flags.takeExactly n comment text generalizing found with
  | case1 =>
    cases h
    rw [Flags.takeExactly]
  | case2 => contradiction
  | case3 n c text ih =>
    rw [List.cons_append, Flags.takeExactly]
    exact ih h
  | case4 n c text hblank ih =>
    rw [List.cons_append, Flags.takeExactly, if_pos hblank]
    exact ih h
  | case5 n c text hblank hcomment ih =>
    rw [List.cons_append, Flags.takeExactly, if_neg hblank, if_pos hcomment]
    exact ih h
  | case6 n c text hblank hcomment ih =>
    obtain ⟨inner, hinner, heq⟩ := Option.map_eq_some_iff.mp h
    cases heq
    rw [List.cons_append, Flags.takeExactly, if_neg hblank, if_neg hcomment, ih hinner]
    rfl

/-- Where characters are missing in a text, the parenthesis of a tail is one of them. -/
theorem takeExactly_tail {n : Nat} {tail : List Char}
    (hnone : flags.takeExactly n comment text = none) (htail : IsTail tail)
    (h : flags.takeExactly n comment (text ++ tail) = some (found, rest)) : Spent rest := by
  fun_induction flags.takeExactly n comment text generalizing found with
  | case1 => contradiction
  | case2 comment n =>
    obtain ⟨after, rfl, hafter⟩ := htail
    suffices hsuffix : rest <:+ after from Spent.suffix hafter hsuffix
    have hplain : (flags.verbose && Text.isWhitespace ')') ≠ true ∧
        (flags.verbose && ')' == '#') ≠ true := by
      cases flags.verbose <;> decide
    rw [List.nil_append] at h
    cases comment with
    | true =>
      rw [Flags.takeExactly] at h
      exact suffix_of_takeExactly h
    | false =>
      rw [Flags.takeExactly, if_neg hplain.1, if_neg hplain.2] at h
      obtain ⟨inner, hinner, heq⟩ := Option.map_eq_some_iff.mp h
      cases heq
      exact suffix_of_takeExactly hinner
  | case3 n c text ih =>
    rw [List.cons_append, Flags.takeExactly] at h
    exact ih hnone h
  | case4 n c text hblank ih =>
    rw [List.cons_append, Flags.takeExactly, if_pos hblank] at h
    exact ih hnone h
  | case5 n c text hblank hcomment ih =>
    rw [List.cons_append, Flags.takeExactly, if_neg hblank, if_pos hcomment] at h
    exact ih hnone h
  | case6 n c text hblank hcomment ih =>
    rw [List.cons_append, Flags.takeExactly, if_neg hblank, if_neg hcomment] at h
    obtain ⟨inner, hinner, heq⟩ := Option.map_eq_some_iff.mp h
    cases heq
    exact ih (Option.map_eq_none_iff.mp hnone) hinner

/-- Reading some number of characters is local. -/
theorem local_readExactly {lost : List Char → List Char → Prop} {n : Nat} {cause : SyntaxError}
    (hcause : cause ≠ .groupUnopened) (hlost : Covers lost) :
    Local lost (readExactly flags n cause) where
  suffix {text found rest} hok := by
    rw [readExactly] at hok
    split at hok
    next hfound =>
      cases hok
      exact suffix_of_takeExactly hfound
    next => contradiction
  agrees text := by
    cases hfound : flags.takeExactly n false text with
    | some found =>
      refine .left found.1 found.2 (by rw [readExactly, hfound]) fun tail _ => ?_
      rw [readExactly, takeExactly_append hfound]
    | none =>
      refine .broken cause (by rw [readExactly, hfound]) hcause fun tail htail => ?_
      rw [readExactly]
      split
      next found hmore =>
        exact Or.inr ⟨found.1, found.2, rfl, hlost _ _ (takeExactly_tail hfound htail hmore)⟩
      next => exact .error hcause

end Collecting

end Signpost.Regex

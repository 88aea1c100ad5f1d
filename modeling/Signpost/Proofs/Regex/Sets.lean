import Signpost.Proofs.Regex.Escapes
import Signpost.Regex.Bracket

/-!
# Reading bracketed sets before a tail

A bracketed set ends with a bracket, and a tail has none; so what is read inside brackets is lost as
soon as the text before the tail has ended.  The way in which members are read does not depend on
the number of steps that are allowed, if these suffice.  Main statement: reading a bracketed set is
local, and it never needs more than what it is given.
-/

namespace Signpost.Regex

variable {flags : Flags}

/-- Whether no bracket can be closed any more. -/
def Unclosed {α : Type} (_ : α) (rest : List Char) : Prop := ']' ∉ rest

private theorem unclosed_of_remnant {α : Type} (a : α) (rest : List Char) (h : Remnant rest) :
    Unclosed a rest := h.not_mem (by decide) (by decide)

private theorem covers_unclosed {α : Type} : Covers (Unclosed (α := α)) := fun a rest h =>
  unclosed_of_remnant a rest (Or.inr h)

section Opening

/-- Read the hyphens at the beginning of a bracket, or a closing bracket in their place. -/
def readHyphens (flags : Flags) (negated : Bool) : Reader Bracket := fun text =>
  readUntil flags (· != '-') .setUnclosed text >>= fun found =>
    let bracket : Bracket := ⟨negated, none, found.1.map fun c => ⟨.single c, 0⟩⟩
    if found.1 = [] then
      onPrefix [']']
        (fun rest => unlessEmpty .setUnclosed (fun rest => .ok (bracket.add ⟨.single ']', 0⟩, rest))
          (flags.skip rest))
        (fun rest => .ok (bracket, rest)) found.2
    else .ok (bracket, found.2)

private theorem readHyphens_eq (negated : Bool) (text : List Char) :
    readHyphens flags negated text =
      match flags.takeUntil (· != '-') false text with
      | none => .error .setUnclosed
      | some (hyphens, rest) =>
        let bracket : Bracket := ⟨negated, none, hyphens.map fun c => ⟨.single c, 0⟩⟩
        match hyphens, rest with
        | [], ']' :: rest =>
          match flags.skip rest with
          | [] => .error .setUnclosed
          | rest => .ok (bracket.add ⟨.single ']', 0⟩, rest)
        | _, rest => .ok (bracket, rest) := by
  rw [readHyphens, readUntil]
  rcases flags.takeUntil (· != '-') false text with _ | ⟨_ | ⟨c, hyphens⟩, rest⟩
  · rfl
  · dsimp only [bind, Except.bind]
    rw [if_pos rfl]
    split
    next rest _ =>
      refine (onPrefix_append [']'] rest _ _).trans ?_
      cases flags.skip rest <;> rfl
    next hbracket =>
      exact onPrefix_of_ne fun rest hrest => hbracket rest rfl hrest
  · rfl

private theorem openBracket_eq (text : List Char) :
    openBracket flags text =
      onPrefix ['^'] (fun rest => readHyphens flags true (flags.skip rest))
        (readHyphens flags false) (flags.skip text) := by
  rw [openBracket]
  split
  next negated rest hstart =>
    split at hstart
    next more hskip =>
      cases hstart
      rw [hskip]
      refine Eq.trans ?_ (onPrefix_append ['^'] more _ _).symm
      exact (readHyphens_eq true (flags.skip more)).symm
    next hskip =>
      cases hstart
      rw [onPrefix_of_ne hskip, readHyphens_eq]
      rfl

private theorem local_openBracket : Local Unclosed (openBracket flags) := by
  have hunclosed (a : Bracket) (rest : List Char) (h : Remnant rest) : Unclosed a rest :=
    unclosed_of_remnant a rest h
  have hread : Local (fun _ rest => Remnant rest)
      (readUntil flags (· != '-') .setUnclosed) :=
    local_readUntil (by decide) (fun _ _ h => Or.inr h) fun _ _ _ h => Or.inl h
  have hhyphens (negated : Bool) : Local Unclosed (readHyphens flags negated) := by
    have hnext (hyphens : List Char) : Local Unclosed fun rest =>
        let bracket : Bracket := ⟨negated, none, hyphens.map fun c => ⟨.single c, 0⟩⟩
        if hyphens = [] then
          onPrefix [']']
            (fun rest => unlessEmpty .setUnclosed
              (fun rest => .ok (bracket.add ⟨.single ']', 0⟩, rest)) (flags.skip rest))
            (fun rest => .ok (bracket, rest)) rest
        else .ok (bracket, rest) := by
      dsimp only
      split
      · exact .onPrefix (by decide)
          (.skip (skips_skip flags) (.unlessEmpty (by decide) (.pure _) hunclosed)) (.pure _)
      · exact .pure _
    exact hread.bind hnext fun hyphens _ h => (hnext hyphens).breaks_of_remnant hunclosed h
  have heq : openBracket flags = fun text =>
      onPrefix ['^'] (fun rest => readHyphens flags true (flags.skip rest))
        (readHyphens flags false) (flags.skip text) := funext openBracket_eq
  rw [heq]
  exact .skip (skips_skip flags)
    (.onPrefix (by decide) (.skip (skips_skip flags) (hhyphens true)) (hhyphens false))

end Opening

section Members

private theorem memberChar_ne (c : Char) (byte : Bool) :
    memberChar flags c byte ≠ .error .groupUnopened := by
  rw [memberChar]
  split
  · exact nofun
  · split <;> exact nofun

private theorem memberSet_ne (atom : Atom) : memberSet flags atom ≠ .error .groupUnopened := by
  cases atom with
  | char c byte => exact memberChar_ne c byte
  | set members => exact nofun
  | look condition => exact nofun

private theorem local_readMember [Engine] : Local (AtomLost flags) (readMember flags) := by
  have hmember (c : Char) : Local (AtomLost flags) fun rest => readMember flags (c :: rest) := by
    by_cases hc : c = '\\'
    · subst hc
      exact local_readEscape
    · have heq (rest : List Char) : readMember flags (c :: rest) = .ok (.char c false, rest) := by
        rw [readMember]
        exact hc
      simp only [heq]
      exact .pure _
  have heq : readMember flags =
      onCons .setUnclosed fun c rest => readMember flags (c :: rest) := by
    funext text
    cases text <;> rfl
  rw [heq]
  exact .onCons (by decide) hmember covers_atomLost

/-- A member takes a character of the text. -/
theorem length_of_readMember [Engine] {text rest : List Char} {atom : Atom}
    (h : readMember flags text = .ok (atom, rest)) : rest.length < text.length := by
  cases text with
  | nil => contradiction
  | cons c text =>
    suffices hsuffix : rest <:+ text from Nat.lt_succ_of_le hsuffix.length_le
    by_cases hc : c = '\\'
    · subst hc
      exact local_readEscape.suffix h
    · rw [readMember] at h
      · cases h
        exact List.suffix_refl _
      · exact hc

/-- Whether a hyphen at the beginning of a text stands for itself. -/
def hyphenStands (flags : Flags) : List Char → Bool
  | '-' :: after => [some ']', some '-'].contains (peekMember flags after)
  | _ => false

/-- The characters from one to another. -/
def rangeSet (flags : Flags) (first last : Atom) : Except SyntaxError CharSet :=
  match first, last with
  | .char a byteA, .char b byteB => do
    discard (memberChar flags a byteA)
    discard (memberChar flags b byteB)
    if a ≤ b then return .range a b else throw .setRange
  | _, _ => throw .setRange

private theorem rangeSet_ne (first last : Atom) :
    rangeSet flags first last ≠ .error .groupUnopened := by
  have hdiscard (c : Char) (byte : Bool) :
      discard (memberChar flags c byte) ≠ .error .groupUnopened :=
    bind_ne_groupUnopened (memberChar_ne c byte) fun _ => nofun
  unfold rangeSet
  split
  next a byteA b byteB =>
    refine bind_ne_groupUnopened (hdiscard a byteA) fun _ =>
      bind_ne_groupUnopened (hdiscard b byteB) fun _ => ?_
    split <;> exact nofun
  next => exact nofun

/-- Read on after a member, which may be the first of a range. -/
def readAfter [Engine] (flags : Flags) (first : Atom) : Reader CharSet :=
  let alone : Reader CharSet := fun rest => memberSet flags first >>= fun set => .ok (set, rest)
  unlessEmpty .setUnclosed fun text =>
    if hyphenStands flags text then alone text
    else
      onPrefix ['-']
        (fun after => readMember flags (flags.skip after) >>= fun found =>
          rangeSet flags first found.1 >>= fun set => .ok (set, found.2))
        alone text

private theorem readRange_eq [Engine] (text : List Char) :
    readRange flags text =
      readMember flags text >>= fun found => readAfter flags found.1 (flags.skip found.2) := by
  rw [readRange]
  rcases readMember flags text with cause | ⟨first, rest⟩
  · rfl
  · dsimp only [bind, Except.bind]
    split
    next hskip => rw [hskip]; rfl
    next after hskip =>
      have hstands : (hyphenStands flags ('-' :: after) = true) =
          (peekMember flags after ∈ [some ']', some '-']) := by
        rw [hyphenStands, List.contains_iff_mem]
      rw [hskip, readAfter, unlessEmpty_of_ne (List.cons_ne_nil _ _)]
      simp only [hstands]
      split
      · rfl
      · refine Eq.trans ?_ (onPrefix_append ['-'] after _ _).symm
        rcases readMember flags (flags.skip after) with cause | ⟨last, rest⟩
        · rfl
        · change _ = rangeSet flags first last >>= fun set => .ok (set, rest)
          dsimp only
          split
          next a byteA b byteB =>
            rw [rangeSet]
            cases discard (memberChar flags a byteA) with
            | error cause => rfl
            | ok =>
              cases discard (memberChar flags b byteB) with
              | error cause => rfl
              | ok =>
                dsimp only [bind, Except.bind]
                split <;> rfl
          next hchars =>
            rw [rangeSet]
            · rfl
            · exact hchars
    next hnil hhyphen =>
      have hstands : hyphenStands flags (flags.skip rest) = false := by
        rw [hyphenStands]
        exact hhyphen
      rw [readAfter, unlessEmpty_of_ne hnil]
      dsimp only
      rw [hstands, if_neg Bool.false_ne_true, onPrefix_of_ne hhyphen]
      rfl

private theorem peekMember_of_comment (hverbose : flags.verbose = true) {text rest : List Char}
    (h : text.dropWhile Text.isWhitespace = '#' :: rest) :
    peekMember flags text = (rest.dropWhile Text.isWhitespace).head? := by
  rw [peekMember, if_pos hverbose, h]
  rfl

private theorem peekMember_of_ne (hverbose : flags.verbose = true) {text : List Char}
    (h : ∀ rest, text.dropWhile Text.isWhitespace ≠ '#' :: rest) :
    peekMember flags text = (text.dropWhile Text.isWhitespace).head? := by
  rw [peekMember, if_pos hverbose]
  split
  next rest hrest => exact absurd hrest (h rest)
  next => rfl

/-- What is next after a hyphen is the same before a tail, unless the text has ended. -/
theorem peekMember_append (flags : Flags) (text : List Char) {tail : List Char}
    (htail : IsTail tail) :
    peekMember flags (text ++ tail) = peekMember flags text ∨
      peekMember flags text = none ∧ peekMember flags (text ++ tail) = some ')' := by
  have hhead (text : List Char) : (text ++ tail).head? = text.head? ∨
      text.head? = none ∧ (text ++ tail).head? = some ')' := by
    cases text with
    | nil =>
      obtain ⟨after, rfl, -⟩ := htail
      exact Or.inr ⟨rfl, rfl⟩
    | cons c rest => exact Or.inl rfl
  cases hverbose : flags.verbose with
  | false =>
    have hplain (text : List Char) : peekMember flags text = text.head? := by
      rw [peekMember, hverbose]
      rfl
    rw [hplain, hplain]
    exact hhead text
  | true =>
    have hblanks := dropWhile_append_tail text htail
    by_cases hcomment : ∃ rest, text.dropWhile Text.isWhitespace = '#' :: rest
    · obtain ⟨rest, hrest⟩ := hcomment
      rw [hrest, List.cons_append] at hblanks
      rw [peekMember_of_comment hverbose hrest, peekMember_of_comment hverbose hblanks,
        dropWhile_append_tail rest htail]
      exact hhead _
    · have hfirst := not_exists.mp hcomment
      have hfirst' := append_ne_cons (by decide) hfirst htail
      rw [← hblanks] at hfirst'
      rw [peekMember_of_ne hverbose hfirst, peekMember_of_ne hverbose hfirst', hblanks]
      exact hhead _

private theorem hyphenStands_append (text tail : List Char) (htail : IsTail tail) :
    hyphenStands flags (text ++ tail) = true ↔ hyphenStands flags text = true := by
  by_cases hhyphen : ∃ after, text = '-' :: after
  · obtain ⟨after, rfl⟩ := hhyphen
    rw [List.cons_append, hyphenStands, hyphenStands]
    rcases peekMember_append flags after htail with heq | ⟨hnone, hsome⟩
    · rw [heq]
    · rw [hnone, hsome]
      decide
  · have hstands (text : List Char) (h : ∀ after, text ≠ '-' :: after) :
        hyphenStands flags text = false := by
      rw [hyphenStands]
      exact h
    have hfirst : ∀ after, text ≠ '-' :: after := not_exists.mp hhyphen
    rw [hstands text hfirst, hstands _ (append_ne_cons (by decide) hfirst htail)]

private theorem local_readAfter [Engine] (first : Atom) :
    Local Unclosed (readAfter flags first) := by
  have hunclosed (a : CharSet) (rest : List Char) (h : Remnant rest) : Unclosed a rest :=
    unclosed_of_remnant a rest h
  have halone : Local Unclosed fun rest => memberSet flags first >>= fun set => .ok (set, rest) :=
    .require (memberSet_ne first) .pure
  have hrange (last : Atom) : Local Unclosed fun rest =>
      rangeSet flags first last >>= fun set => .ok (set, rest) :=
    .require (rangeSet_ne first last) .pure
  refine .unlessEmpty (by decide) (.ite hyphenStands_append halone
    (.onPrefix (by decide) (.bind (.skip (skips_skip flags) local_readMember) hrange ?_) halone))
    hunclosed
  rintro last rest (hspent | ⟨⟨condition, rfl⟩, -⟩)
  · exact (hrange last).breaks_of_spent covers_unclosed hspent
  · have hlook : rangeSet flags first (.look condition) = .error .setRange := by
      cases first <;> rfl
    rw [hlook]
    exact .error (by decide)

private theorem local_readRange [Engine] : Local Unclosed (readRange flags) := by
  have heq : readRange flags = fun text => readMember flags text >>= fun found =>
      readAfter flags found.1 (flags.skip found.2) := funext readRange_eq
  rw [heq]
  refine .bind local_readMember (fun first => .skip (skips_skip flags) (local_readAfter first)) ?_
  rintro first rest (hspent | ⟨⟨condition, rfl⟩, bounds, rfl, -⟩)
  · exact (Local.skip (skips_skip flags) (local_readAfter first)).breaks_of_spent covers_unclosed
      hspent
  · have hbrace : ∀ rest, '\x7b' :: bounds ≠ '-' :: rest := fun rest h =>
      absurd (List.cons.inj h).1 (by decide)
    have hstands : hyphenStands flags ('\x7b' :: bounds) = false := by
      rw [hyphenStands]
      exact hbrace
    rw [skip_cons (by decide) (by decide), readAfter, unlessEmpty_of_ne (List.cons_ne_nil _ _)]
    dsimp only
    rw [hstands, if_neg Bool.false_ne_true, onPrefix_of_ne hbrace]
    exact .error (by decide)

/-- A member or a range takes a character of the text. -/
theorem length_of_readRange [Engine] {text rest : List Char} {set : CharSet}
    (h : readRange flags text = .ok (set, rest)) : rest.length < text.length := by
  rw [readRange_eq] at h
  cases hmember : readMember flags text with
  | error cause => rw [hmember] at h; contradiction
  | ok found =>
    rw [hmember] at h
    have hafter : rest <:+ found.2 :=
      (Local.skip (skips_skip flags) (local_readAfter found.1)).suffix h
    exact Nat.lt_of_le_of_lt hafter.length_le (length_of_readMember hmember)

end Members

section Classes

/-- The names of classes are made of letters. -/
theorem isAlpha_of_asciiClass? {name : String} {members : CharSet}
    (h : asciiClass? name = some members) : ∀ c ∈ name.toList, c.isAlpha = true := by
  rw [← List.all_eq_true]
  unfold asciiClass? at h
  split at h
  case h_15 => contradiction
  all_goals decide

/-- The class that a text names, up to its colon and its bracket. -/
def namedClass? (negated : Bool) (text : List Char) : Option (Bool × CharSet × List Char) :=
  match text.span (· != ':') with
  | (name, ':' :: ']' :: rest) =>
    (asciiClass? (String.ofList name)).map fun members => (negated, members, rest)
  | _ => none

private theorem asciiMember?_of_ne {text : List Char} (h : ∀ rest, text ≠ '^' :: rest) :
    asciiMember? (':' :: text) = namedClass? false text := by
  rw [asciiMember?]
  · rfl
  · exact h

/-- A class is named in a text where one is written. -/
theorem namedClass?_eq_some_iff {text rest : List Char} {negated : Bool} {members : CharSet}
    {found : Bool} :
    namedClass? negated text = some (found, members, rest) ↔ found = negated ∧
      ∃ name, asciiClass? (String.ofList name) = some members ∧
        text = name ++ [':', ']'] ++ rest := by
  constructor
  · intro h
    unfold namedClass? at h
    split at h
    next name rest' hspan =>
      obtain ⟨members', hname, heq⟩ := Option.map_eq_some_iff.mp h
      cases heq
      have hsplit : text.takeWhile (· != ':') ++ text.dropWhile (· != ':') = text :=
        List.takeWhile_append_dropWhile
      rw [List.span_eq_takeWhile_dropWhile, Prod.mk.injEq] at hspan
      rw [hspan.1, hspan.2] at hsplit
      refine ⟨rfl, name, hname, ?_⟩
      rw [← hsplit]
      simp
    next => contradiction
  · rintro ⟨rfl, name, hname, rfl⟩
    have hcolon : ':' ∉ name := fun hmem =>
      absurd (isAlpha_of_asciiClass? hname ':' (by simpa using hmem)) (by decide)
    rw [namedClass?, List.append_assoc, List.cons_append, Text.span_append_separator hcolon,
      List.cons_append]
    change (asciiClass? (String.ofList name)).map (fun members => (found, members, rest)) = _
    rw [hname]
    rfl

/-- A class has no parenthesis, so that a tail is no part of it. -/
theorem namedClass?_append {text : List Char} {negated : Bool} (tail : List Char)
    (htail : IsTail tail) :
    namedClass? negated (text ++ tail) =
      (namedClass? negated text).map fun found => (found.1, found.2.1, found.2.2 ++ tail) := by
  cases hfound : namedClass? negated text with
  | some found =>
    obtain ⟨found, members, rest⟩ := found
    obtain ⟨rfl, name, hname, rfl⟩ := namedClass?_eq_some_iff.mp hfound
    exact namedClass?_eq_some_iff.mpr ⟨rfl, name, hname, List.append_assoc _ _ _⟩
  | none =>
    rw [Option.map_none, Option.eq_none_iff_forall_ne_some]
    rintro ⟨found, members, rest⟩ hmore
    obtain ⟨hnegated, name, hname, heq⟩ := namedClass?_eq_some_iff.mp hmore
    have hparenthesis : ')' ∉ name ++ [':', ']'] := by
      have hmem : ')' ∉ name := fun hmem =>
        absurd (isAlpha_of_asciiClass? hname ')' (by simpa using hmem)) (by decide)
      simpa using hmem
    obtain ⟨rest', htext⟩ := exists_append_of_append_tail hparenthesis htail heq
    have hsome := namedClass?_eq_some_iff.mpr ⟨hnegated, name, hname, htext⟩
    rw [hfound] at hsome
    contradiction

/-- A class begins with a colon, and perhaps a caret. -/
theorem asciiMember?_cases (text : List Char) :
    (∃ rest, text = ':' :: '^' :: rest) ∨
      (∃ rest, text = ':' :: rest ∧ ∀ more, rest ≠ '^' :: more) ∨ ∀ rest, text ≠ ':' :: rest := by
  by_cases hcolon : ∃ rest, text = ':' :: rest
  · obtain ⟨rest, rfl⟩ := hcolon
    by_cases hcaret : ∃ more, rest = '^' :: more
    · obtain ⟨more, rfl⟩ := hcaret
      exact Or.inl ⟨more, rfl⟩
    · exact Or.inr (Or.inl ⟨rest, rfl, not_exists.mp hcaret⟩)
  · exact Or.inr (Or.inr (not_exists.mp hcolon))

private theorem asciiMember?_eq_none {text : List Char} (h : ∀ rest, text ≠ ':' :: rest) :
    asciiMember? text = none := by
  rw [asciiMember?]
  exact h

private theorem asciiMember?_append (text : List Char) {tail : List Char} (htail : IsTail tail) :
    asciiMember? (text ++ tail) =
      (asciiMember? text).map fun found => (found.1, found.2.1, found.2.2 ++ tail) := by
  rcases asciiMember?_cases text with ⟨rest, rfl⟩ | ⟨rest, rfl, hcaret⟩ | hcolon
  · exact namedClass?_append tail htail
  · rw [List.cons_append, asciiMember?_of_ne hcaret,
      asciiMember?_of_ne (append_ne_cons (by decide) hcaret htail)]
    exact namedClass?_append tail htail
  · rw [asciiMember?_eq_none hcolon,
      asciiMember?_eq_none (append_ne_cons (by decide) hcolon htail)]
    rfl

private theorem suffix_of_asciiMember? {text rest : List Char} {negated : Bool} {members : CharSet}
    (h : asciiMember? text = some (negated, members, rest)) : rest <:+ text := by
  rcases asciiMember?_cases text with ⟨start, rfl⟩ | ⟨start, rfl, hcaret⟩ | hcolon
  · obtain ⟨-, name, -, rfl⟩ := namedClass?_eq_some_iff.mp h
    exact (List.suffix_append _ _).trans (List.suffix_append [':', '^'] _)
  · rw [asciiMember?_of_ne hcaret] at h
    obtain ⟨-, name, -, rfl⟩ := namedClass?_eq_some_iff.mp h
    exact (List.suffix_append _ _).trans (List.suffix_cons ':' _)
  · rw [asciiMember?_eq_none hcolon] at h
    contradiction

end Classes

section Loop

/-- One step inside brackets: what is next in the text, and how it is gone on from there. -/
def readStep [Engine] (flags : Flags) (go : Bracket → List Bracket → Reader NestedSet)
    (bracket : Bracket)
    (outer : List Bracket) : Reader NestedSet :=
  let inner : Reader NestedSet := fun rest =>
    match asciiMember? rest with
    | some (negated, members, rest) =>
      flags.negateIf negated (flags.fold members) >>= fun members =>
        go (bracket.add ⟨members, 0⟩) outer rest
    | none => openBracket flags rest >>= fun found => go found.1 (bracket :: outer) found.2
  let close : Reader NestedSet := fun rest =>
    bracket.close flags >>= fun set =>
      match outer with
      | [] => .ok (set, rest)
      | next :: outer => go (next.add set) outer rest
  unlessEmpty .setUnclosed <|
    onPrefix ['['] inner <| onPrefix [']'] close <|
    onPrefix ['&', '&'] (go (bracket.operate flags .inter) outer) <|
    onPrefix ['-', '-'] (go (bracket.operate flags .diff) outer) <|
    onPrefix ['~', '~'] (go (bracket.operate flags .symmDiff) outer) fun text =>
      readRange flags text >>= fun found => go (bracket.add ⟨found.1, 0⟩) outer found.2

private theorem readSetFrom_succ [Engine] (fuel : Nat) (bracket : Bracket) (outer : List Bracket)
    (text : List Char) :
    readSetFrom flags (fuel + 1) bracket outer text =
      readStep flags (readSetFrom flags fuel) bracket outer (flags.skip text) := by
  rw [readSetFrom]
  split
  next hskip => rw [hskip]; rfl
  next rest hskip =>
    rw [hskip]
    change _ = (match asciiMember? rest with
      | some (negated, members, rest) =>
        flags.negateIf negated (flags.fold members) >>= fun members =>
          readSetFrom flags fuel (bracket.add ⟨members, 0⟩) outer rest
      | none => openBracket flags rest >>= fun found =>
          readSetFrom flags fuel found.1 (bracket :: outer) found.2)
    cases asciiMember? rest <;> rfl
  next rest hskip => rw [hskip]; rfl
  next rest hskip => rw [hskip]; rfl
  next rest hskip => rw [hskip]; rfl
  next rest hskip => rw [hskip]; rfl
  next hnil hopen hclose hinter hdiff hsymm =>
    rw [readStep, unlessEmpty_of_ne hnil, onPrefix_of_ne hopen, onPrefix_of_ne hclose,
      onPrefix_of_ne hinter, onPrefix_of_ne hdiff, onPrefix_of_ne hsymm]

/-- What is known of an outcome inside brackets: it leaves an end of the text, and where no bracket
can be closed it is a failure. -/
structure Inside (text : List Char) (outcome : Except SyntaxError (NestedSet × List Char)) :
    Prop where
  suffix : ∀ {set rest}, outcome = .ok (set, rest) → rest <:+ text
  ne : outcome ≠ .error .groupUnopened
  fails : ']' ∉ text → Fails outcome

namespace Inside

variable {text rest : List Char} {outcome : Except SyntaxError (NestedSet × List Char)}

private theorem of_suffix (h : Inside rest outcome) (hrest : rest <:+ text) : Inside text outcome :=
  ⟨fun hok => (h.suffix hok).trans hrest, h.ne, fun hmem => h.fails fun h => hmem (hrest.subset h)⟩

private theorem error {cause : SyntaxError} (h : cause ≠ .groupUnopened) :
    Inside text (.error cause) :=
  ⟨nofun, fun heq => h (Except.error.inj heq), fun _ => ⟨cause, rfl, h⟩⟩

private theorem bind {α : Type} {result : Except SyntaxError α}
    {next : α → Except SyntaxError (NestedSet × List Char)}
    (hresult : result ≠ .error .groupUnopened)
    (hnext : ∀ a, result = .ok a → Inside text (next a)) : Inside text (result >>= next) := by
  cases result with
  | ok a => exact hnext a rfl
  | error cause => exact error fun h => hresult (congrArg _ h)

end Inside

private theorem close_ne (bracket : Bracket) : bracket.close flags ≠ .error .groupUnopened :=
  bind_ne_groupUnopened (negateIf_ne _ _) fun _ => nofun

section Step

variable {go : Bracket → List Bracket → Reader NestedSet} (bracket : Bracket)
  (outer : List Bracket) {text : List Char}

/-- A step keeps what is known of going on. -/
theorem inside_readStep [Engine] (hgo : ∀ bracket outer rest, Inside rest (go bracket outer rest)) :
    Inside text (readStep flags go bracket outer text) := by
  have hrest {beginning rest : List Char} (h : text = beginning ++ rest) : rest <:+ text :=
    h ▸ List.suffix_append _ _
  rw [readStep, unlessEmpty.eq_def]
  split
  next => exact .error (by decide)
  next =>
    refine onPrefix_cases (fun rest h => ?_) <| onPrefix_cases (fun rest h => ?_) <|
      onPrefix_cases (fun rest h => (hgo _ _ rest).of_suffix (hrest h)) <|
      onPrefix_cases (fun rest h => (hgo _ _ rest).of_suffix (hrest h)) <|
      onPrefix_cases (fun rest h => (hgo _ _ rest).of_suffix (hrest h)) ?_
    · split
      next members more hmember =>
        exact .bind (negateIf_ne _ _) fun set _ =>
          (hgo _ _ more).of_suffix ((suffix_of_asciiMember? hmember).trans (hrest h))
      next =>
        exact .bind (local_openBracket.ne_groupUnopened rest) fun found hfound =>
          (hgo _ _ found.2).of_suffix ((local_openBracket.suffix hfound).trans (hrest h))
    · refine .bind (close_ne bracket) fun set _ => ?_
      split
      next => exact ⟨by rintro _ _ ⟨⟩; exact hrest h, nofun,
          fun hmem => absurd (h ▸ List.mem_cons_self) hmem⟩
      next next outer => exact (hgo _ _ rest).of_suffix (hrest h)
    · exact .bind (local_readRange.ne_groupUnopened _) fun found hfound =>
        (hgo _ _ found.2).of_suffix (local_readRange.suffix hfound)

private theorem length_lt_of_append {c : Char} {beginning rest : List Char}
    (h : text = c :: beginning ++ rest) : rest.length < text.length := by
  rw [h, List.length_append, List.length_cons]
  omega

/-- A step depends only on how it is gone on in what is left of the text. -/
theorem readStep_congr [Engine] {go' : Bracket → List Bracket → Reader NestedSet}
    (hgo : ∀ bracket outer rest, rest.length < text.length →
      go bracket outer rest = go' bracket outer rest) :
    readStep flags go bracket outer text = readStep flags go' bracket outer text := by
  have hgoes {c : Char} {beginning : List Char} (bracket : Bracket) (outer : List Bracket)
      (rest : List Char) (h : text = c :: beginning ++ rest) :
      go bracket outer rest = go' bracket outer rest :=
    hgo bracket outer rest (length_lt_of_append h)
  rw [readStep, readStep, unlessEmpty.eq_def, unlessEmpty.eq_def]
  split
  next => rfl
  next =>
    refine onPrefix_congr (fun rest h => ?_) <| onPrefix_congr (fun rest h => ?_) <|
      onPrefix_congr (hgoes _ _) <| onPrefix_congr (hgoes _ _) <|
      onPrefix_congr (hgoes _ _) ?_
    · split
      next members more hmember =>
        refine bind_congr_ok fun set _ => hgo _ _ more ?_
        have := (suffix_of_asciiMember? hmember).length_le
        have := length_lt_of_append h
        omega
      next =>
        refine bind_congr_ok fun found hfound => hgo _ _ found.2 ?_
        have := (local_openBracket.suffix hfound).length_le
        have := length_lt_of_append h
        omega
    · refine bind_congr_ok fun set _ => ?_
      split
      next => rfl
      next next outer => exact hgoes _ _ rest h
    · exact bind_congr_ok fun found hfound => hgo _ _ found.2 (length_of_readRange hfound)

/-- A step agrees before a tail, if going on from what is left of the text does. -/
theorem agrees_readStep [Engine] {lost : NestedSet → List Char → Prop}
    (hinside : ∀ bracket outer rest, Inside rest (go bracket outer rest))
    (hgo : ∀ bracket outer rest, rest.length < text.length →
      Agrees lost (go bracket outer rest) fun tail => go bracket outer (rest ++ tail)) :
    Agrees lost (readStep flags go bracket outer text) fun tail =>
      readStep flags go bracket outer (text ++ tail) := by
  have hgoes {c : Char} {beginning : List Char} (bracket : Bracket) (outer : List Bracket)
      (rest : List Char) (h : text = c :: beginning ++ rest) :
      Agrees lost (go bracket outer rest) fun tail => go bracket outer (rest ++ tail) :=
    hgo bracket outer rest (length_lt_of_append h)
  have hend (bracket : Bracket) (outer : List Bracket) :
      Agrees lost (go bracket outer []) fun _ => go bracket outer [] := by
    obtain ⟨cause, heq, hcause⟩ := (hinside bracket outer []).fails List.not_mem_nil
    exact .broken cause heq hcause fun _ _ => heq ▸ .error hcause
  cases text with
  | nil =>
    refine .broken .setUnclosed rfl (by decide) fun tail htail => Or.inl ?_
    exact (inside_readStep bracket outer hinside).fails (unclosed_of_remnant () tail (Or.inl htail))
  | cons c text =>
    refine .onPrefix (by decide) (fun rest h => ?_) <|
      .onPrefix (by decide) (fun rest h => ?_) <|
      .onPrefix (by decide) (hgoes _ _) <| .onPrefix (by decide) (hgoes _ _) <|
      .onPrefix (by decide) (hgoes _ _) ?_
    · cases hmember : asciiMember? rest with
      | some found =>
        refine (Agrees.require (negateIf_ne found.1 (flags.fold found.2.1)) fun set _ =>
          hgo (bracket.add ⟨set, 0⟩) outer found.2.2 ?_).congr fun tail htail => ?_
        · have hmore : found.2.2.length ≤ rest.length := (suffix_of_asciiMember? hmember).length_le
          exact Nat.lt_of_le_of_lt hmore (length_lt_of_append h)
        · rw [asciiMember?_append rest htail, hmember]
          rfl
      | none =>
        refine (Agrees.bind (local_openBracket.agrees rest)
          (fun inner more hmore => hgo inner (bracket :: outer) more ?_) (fun inner _ => hend _ _)
          fun inner more hmore => Or.inl ((hinside _ _ more).fails hmore)).congr
            fun tail htail => ?_
        · have := (local_openBracket.suffix hmore).length_le
          have := length_lt_of_append h
          omega
        · rw [asciiMember?_append rest htail, hmember]
          rfl
    · refine .require (close_ne bracket) fun set _ => ?_
      cases outer with
      | nil => exact .left set rest rfl fun _ _ => rfl
      | cons next outer => exact hgoes _ _ rest h
    · exact .bind (local_readRange.agrees _)
        (fun set more hmore => hgo (bracket.add ⟨set, 0⟩) outer more (length_of_readRange hmore))
        (fun set _ => hend (bracket.add ⟨set, 0⟩) outer)
        fun set more hmore => Or.inl ((hinside (bracket.add ⟨set, 0⟩) outer more).fails hmore)

end Step

/-- Read on inside brackets, with as many steps as the text can take. -/
def readMembers [Engine] (flags : Flags) (bracket : Bracket) (outer : List Bracket) :
    Reader NestedSet :=
  fun text => readSetFrom flags (text.length + 1) bracket outer text

private theorem inside_readSetFrom [Engine] (fuel : Nat) (bracket : Bracket) (outer : List Bracket)
    (text : List Char) : Inside text (readSetFrom flags fuel bracket outer text) := by
  induction fuel generalizing bracket outer text with
  | zero => exact .error (by decide)
  | succ fuel ih =>
    rw [readSetFrom_succ]
    exact (inside_readStep bracket outer ih).of_suffix ((skips_skip flags).suffix text)

private theorem inside_readMembers [Engine] (bracket : Bracket) (outer : List Bracket)
    (text : List Char) :
    Inside text (readMembers flags bracket outer text) :=
  inside_readSetFrom _ bracket outer text

/-- More steps than the text can take change nothing. -/
theorem readSetFrom_eq [Engine] {fuel : Nat} {text : List Char} (h : text.length < fuel)
    (bracket : Bracket) (outer : List Bracket) :
    readSetFrom flags fuel bracket outer text = readMembers flags bracket outer text := by
  suffices hboth : ∀ fuel fuel', text.length < fuel → text.length < fuel' →
      readSetFrom flags fuel bracket outer text = readSetFrom flags fuel' bracket outer text from
    hboth fuel (text.length + 1) h (Nat.lt_succ_self _)
  clear h fuel
  intro fuel fuel' hfuel hfuel'
  induction fuel generalizing fuel' bracket outer text with
  | zero => omega
  | succ fuel ih =>
    obtain ⟨fuel', rfl⟩ := Nat.exists_eq_add_one_of_ne_zero (by omega : fuel' ≠ 0)
    have hskip := ((skips_skip flags).suffix text).length_le
    rw [readSetFrom_succ, readSetFrom_succ]
    exact readStep_congr bracket outer fun bracket outer rest hrest =>
      ih bracket outer fuel' (by omega) (by omega)

private theorem readMembers_eq [Engine] (bracket : Bracket) (outer : List Bracket)
    (text : List Char) :
    readMembers flags bracket outer text =
      readStep flags (readMembers flags) bracket outer (flags.skip text) := by
  have hskip := ((skips_skip flags).suffix text).length_le
  rw [readMembers, readSetFrom_succ]
  exact readStep_congr bracket outer fun bracket outer rest hrest =>
    readSetFrom_eq (by omega) bracket outer

private theorem agrees_readMembers [Engine] {lost : NestedSet → List Char → Prop} (n : Nat)
    (bracket : Bracket)
    (outer : List Bracket) (text : List Char) (htext : text.length < n) :
    Agrees lost (readMembers flags bracket outer text) fun tail =>
      readMembers flags bracket outer (text ++ tail) := by
  induction n generalizing bracket outer text with
  | zero => omega
  | succ n ih =>
    have hskip := ((skips_skip flags).suffix text).length_le
    rw [readMembers_eq]
    rcases (skips_skip flags).append text with hleft | ⟨hnil, hswallowed⟩
    · refine (agrees_readStep bracket outer inside_readMembers
        fun bracket outer rest hrest => ih bracket outer rest (by omega)).congr fun tail htail => ?_
      rw [readMembers_eq, hleft tail htail]
    · rw [hnil]
      refine .broken .setUnclosed rfl (by decide) fun tail htail => ?_
      rw [readMembers_eq, hswallowed tail htail]
      exact .error (by decide)

private theorem local_readMembers [Engine] {lost : NestedSet → List Char → Prop} (bracket : Bracket)
    (outer : List Bracket) : Local lost (readMembers flags bracket outer) :=
  ⟨(inside_readMembers bracket outer _).suffix,
    fun text => agrees_readMembers (text.length + 1) bracket outer text (Nat.lt_succ_self _)⟩

/-- A bracketed set is read locally. -/
theorem local_readSet [Engine] {lost : NestedSet → List Char → Prop} : Local lost (readSet flags) :=
  .bind local_openBracket (fun bracket => local_readMembers bracket []) fun bracket rest hrest =>
    Or.inl ((inside_readMembers bracket [] rest).fails hrest)

end Loop

end Signpost.Regex

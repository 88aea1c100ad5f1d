import Signpost.Proofs.Regex.Sets
import Signpost.Regex.Parser

/-!
# Reading the parts of an expression before a tail

Groups, settings of flags and repetitions are read locally, and with escapes and sets so is every
part of an expression; the one part that a tail ends is the group around it.  Main statement:
reading a part is local, unless it closes a group that was never opened.
-/

namespace Signpost.Regex

section Flags

variable {lost : Flags × Bool × Char → List Char → Prop}

/-- Read flags, with the rest of the text apart from what was read. -/
def readSettings (flags : Flags) (on dangling : Bool) (seen : List Char) :
    Reader (Flags × Bool × Char) := fun text =>
  (readFlags flags on dangling seen text).map fun found =>
    ((found.1, found.2.1, found.2.2.1), found.2.2.2)

private theorem suffix_of_readSettings
    {flags : Flags} {on dangling : Bool} {seen text rest : List Char}
    {found : Flags × Bool × Char}
    (h : readSettings flags on dangling seen text = .ok (found, rest)) : rest <:+ text := by
  induction text generalizing flags on dangling seen with
  | nil => contradiction
  | cons c text ih =>
    rw [readSettings, readFlags] at h
    split at h
    · split at h
      · contradiction
      · cases h
        exact List.suffix_cons c _
    · split at h
      · split at h
        · exact (ih h).trans (List.suffix_cons c text)
        · contradiction
      · split at h
        · contradiction
        · split at h
          · exact (ih h).trans (List.suffix_cons c text)
          · contradiction

private theorem agrees_readSettings (hlost : Covers lost) (flags : Flags) (on dangling : Bool)
    (seen text : List Char) :
    Agrees lost (readSettings flags on dangling seen text) fun tail =>
      readSettings flags on dangling seen (text ++ tail) := by
  induction text generalizing flags on dangling seen with
  | nil =>
    refine .broken .unfinished rfl (by decide) fun tail htail => ?_
    obtain ⟨after, rfl, hafter⟩ := htail
    rw [List.nil_append, readSettings, readFlags, if_pos (Or.inr rfl)]
    split
    · exact .error (by decide)
    · exact Or.inr ⟨_, after, rfl, hlost _ _ hafter⟩
  | cons c text ih =>
    simp only [readSettings, readFlags, List.cons_append]
    split
    · split
      · exact .broken .flag rfl (by decide) fun _ _ => .error (by decide)
      · exact .left _ _ rfl fun _ _ => rfl
    · split
      · split
        · exact ih flags false true seen
        · exact .broken .flag rfl (by decide) fun _ _ => .error (by decide)
      · split
        · exact .broken .flag rfl (by decide) fun _ _ => .error (by decide)
        · split
          · exact ih _ on false (c :: seen)
          · exact .broken .flag rfl (by decide) fun _ _ => .error (by decide)

private theorem local_readSettings (hlost : Covers lost) (flags : Flags) (on dangling : Bool)
    (seen : List Char) : Local lost (readSettings flags on dangling seen) :=
  ⟨suffix_of_readSettings, agrees_readSettings hlost flags on dangling seen⟩

end Flags

section Names

/-- Whether a name is one that a group can have. -/
def groupName (names : List String) (name : List Char) : Except SyntaxError String :=
  match name with
  | [] => .error .groupName
  | first :: others =>
    if isNameChar first true && others.all (isNameChar · false) &&
        !names.contains (String.ofList (first :: others)) then
      .ok (String.ofList (first :: others))
    else .error .groupName

private theorem groupName_ne (names : List String) (name : List Char) :
    groupName names name ≠ .error .groupUnopened := by
  rw [groupName.eq_def]
  split
  · simp
  · split <;> simp

private theorem readName_append {names : List String} {name : List Char} (hname : '>' ∉ name)
    (rest : List Char) :
    readName names (name ++ '>' :: rest) = (groupName names name).map (·, rest) := by
  rw [readName, Text.span_append_separator hname]
  cases name with
  | nil => rfl
  | cons first others =>
    dsimp only
    rw [groupName]
    split <;> rfl

private theorem readName_of_not_mem {names : List String} {text : List Char} (h : '>' ∉ text) :
    readName names text = .error .groupName := by
  rw [readName, Text.span_of_not_mem h]
  cases text <;> rfl

private theorem local_readName {lost : String → List Char → Prop} (names : List String) :
    Local lost (readName names) where
  suffix {text name rest} hok := by
    by_cases hmem : '>' ∈ text
    · obtain ⟨front, back, rfl, hfront⟩ := List.eq_append_cons_of_mem hmem
      rw [readName_append hfront] at hok
      cases hname : groupName names front with
      | error cause => rw [hname] at hok; contradiction
      | ok found =>
        rw [hname] at hok
        cases hok
        exact (List.suffix_cons '>' _).trans (List.suffix_append _ _)
    · rw [readName_of_not_mem hmem] at hok
      contradiction
  agrees text := by
    by_cases hmem : '>' ∈ text
    · obtain ⟨front, back, rfl, hfront⟩ := List.eq_append_cons_of_mem hmem
      refine .of_eq (groupName_ne names front) (readName_append hfront back) fun tail _ => ?_
      rw [List.append_assoc, List.cons_append, readName_append hfront]
    · refine .broken .groupName (readName_of_not_mem hmem) (by decide) fun tail htail => ?_
      have htext : '>' ∉ text ++ tail := by
        rw [List.mem_append, not_or]
        exact ⟨hmem, Remnant.not_mem (Or.inl htail) (by decide) (by decide)⟩
      rw [readName_of_not_mem htext]
      exact .error (by decide)

end Names

section Groups

variable {lost : Progress → List Char → Prop}

/-- Begin a group of the name that the text begins with. -/
def openNamed (p : Progress) : Reader Progress := fun text =>
  readName p.names text >>= fun found =>
    .ok ({ p.openGroup p.flags with names := found.1 :: p.names }, found.2)

/-- Set flags, or begin a group in which they are in force. -/
def openSettings (p : Progress) : Reader Progress := fun text =>
  readSettings p.flags true false [] text >>= fun found =>
    if found.1.2.2 = ')' then
      if found.1.2.1 then .error .nothingToRepeat
      else .ok ({ p.push ⟨.empty, 0, false⟩ with flags := found.1.1 }, found.2)
    else .ok (p.openGroup found.1.1, found.2)

/-- What a group is depends on how it begins. -/
theorem readGroup_eq (p : Progress) (text : List Char) :
    readGroup p text =
      (onPrefix ['?', '='] (fun _ => .error .lookAround) <|
        onPrefix ['?', '!'] (fun _ => .error .lookAround) <|
        onPrefix ['?', '<', '='] (fun _ => .error .lookAround) <|
        onPrefix ['?', '<', '!'] (fun _ => .error .lookAround) <|
        onPrefix ['?', 'P', '<'] (openNamed p) <| onPrefix ['?', '<'] (openNamed p) <|
        onPrefix ['?'] (openSettings p) fun rest => .ok (p.openGroup p.flags, rest))
          (p.flags.skip text) := by
  rw [readGroup]
  split
  next rest hskip => rw [hskip]; rfl
  next rest hskip => rw [hskip]; rfl
  next rest hskip => rw [hskip]; rfl
  next rest hskip => rw [hskip]; rfl
  next rest hskip => rw [hskip]; rfl
  next rest hequal hmark hskip =>
    rw [hskip, onPrefix_of_ne (by simp), onPrefix_of_ne (by simp),
      onPrefix_of_ne fun more h => hequal more (by simpa using h),
      onPrefix_of_ne fun more h => hmark more (by simpa using h), onPrefix_of_ne (by simp)]
    exact Eq.trans rfl (onPrefix_append ['?', '<'] rest (openNamed p) _).symm
  next rest hequal hmark hafter hbefore hnamed hnamed' hskip =>
    rw [hskip, onPrefix_of_ne fun more h => hequal more (by simpa using h),
      onPrefix_of_ne fun more h => hmark more (by simpa using h),
      onPrefix_of_ne fun more h => hafter more (by simpa using h),
      onPrefix_of_ne fun more h => hbefore more (by simpa using h),
      onPrefix_of_ne fun more h => hnamed more (by simpa using h),
      onPrefix_of_ne fun more h => hnamed' more (by simpa using h)]
    refine Eq.trans ?_ (onPrefix_append ['?'] rest _ _).symm
    rw [openSettings, readSettings]
    cases readFlags p.flags true false [] rest <;> rfl
  next hequal hmark hafter hbefore hnamed hnamed' hmarked =>
    rw [onPrefix_of_ne hequal, onPrefix_of_ne hmark, onPrefix_of_ne hafter,
      onPrefix_of_ne hbefore, onPrefix_of_ne hnamed, onPrefix_of_ne hnamed',
      onPrefix_of_ne hmarked]

private theorem local_readGroup (hlost : Covers lost) (p : Progress) :
    Local lost (readGroup p) := by
  have hname (name : String) : Local lost fun rest =>
      .ok ({ p.openGroup p.flags with names := name :: p.names }, rest) := .pure _
  have hnamed : Local lost (openNamed p) := .bind_spent (local_readName p.names) hname hlost
  have hflags (found : Flags × Bool × Char) : Local lost fun rest =>
      if found.2.2 = ')' then
        if found.2.1 then .error .nothingToRepeat
        else .ok ({ p.push ⟨.empty, 0, false⟩ with flags := found.1 }, rest)
      else .ok (p.openGroup found.1, rest) := by
    split
    · split
      · exact .error (by decide)
      · exact .pure _
    · exact .pure _
  have hsettings : Local lost (openSettings p) :=
    .bind_spent (local_readSettings (fun _ _ h => h) p.flags true false []) hflags hlost
  have heq := funext (readGroup_eq p)
  rw [heq]
  have herror : Local lost fun _ => .error .lookAround := .error (by decide)
  exact .skip (skips_skip p.flags) <| .onPrefix (by decide) herror <|
    .onPrefix (by decide) herror <| .onPrefix (by decide) herror <|
    .onPrefix (by decide) herror <| .onPrefix (by decide) hnamed <|
    .onPrefix (by decide) hnamed <| .onPrefix (by decide) hsettings <| .pure _

end Groups

section Bounds

variable {flags : Flags}

/-- The text after the blanks behind a number. -/
def afterNumber (flags : Flags) (text : List Char) : List Char :=
  if flags.verbose then skipBlanks text else text.dropWhile Text.isWhitespace

private theorem skips_afterNumber (flags : Flags) : Skips (afterNumber flags) where
  suffix text := by
    rw [afterNumber]
    split
    · exact skipBlanks_suffix text
    · exact List.dropWhile_suffix _
  append text := by
    simp only [afterNumber]
    split
    · exact skipBlanks_append text
    · exact skips_dropWhile.append text

/-- Read a decimal number that does not end with the text. -/
def decimal (flags : Flags) : Reader (Option Nat) := fun text =>
  readUntil flags (!·.isDigit) .repetitionBounds (text.dropWhile Text.isWhitespace) >>=
    fun found =>
      .ok (if found.1.isEmpty then none
        else some (found.1.foldl (fun n c => 10 * n + (c.toNat - '0'.toNat)) 0),
        afterNumber flags found.2)

private theorem decimal_cases (flags : Flags) (text : List Char) :
    decimal flags text = .ok (readDecimal flags text) ∨
      decimal flags text = .error .repetitionBounds ∧ readDecimal flags text = (none, []) := by
  rw [decimal, readUntil, readDecimal]
  cases flags.takeUntil (!·.isDigit) false (text.dropWhile Text.isWhitespace) with
  | none => exact Or.inr ⟨rfl, rfl⟩
  | some found => exact Or.inl rfl

/-- A number that a bound can be. -/
def bound (n : Option Nat) : Except SyntaxError Nat :=
  match n with
  | some n => if n < 4294967296 then .ok n else .error .repetitionBounds
  | none => .error .repetitionBounds

/-- Read the upper bound of a repetition, after the comma. -/
def readUpper (flags : Flags) (first : Option Nat) : Reader (Nat × Option Nat) := fun rest =>
  onPrefix ['\x7d']
    (fun rest => bound first >>= fun least => .ok ((least, none), rest))
    (fun rest => bound first >>= fun least =>
      decimal flags rest >>= fun second =>
        onPrefix ['\x7d']
          (fun rest => bound second.1 >>= fun most =>
            if least ≤ most then .ok ((least, some most), rest) else .error .repetitionBounds)
          (fun _ => .error .repetitionBounds) second.2)
    (flags.skip rest)

/-- Read on after the first number in the bounds of a repetition. -/
def boundsAfter (flags : Flags) (first : Option Nat) : Reader (Nat × Option Nat) :=
  onPrefix [','] (readUpper flags first) <|
    onPrefix ['\x7d'] (fun rest => bound first >>= fun count => .ok ((count, some count), rest))
      fun _ => .error .repetitionBounds

/-- Read the bounds of a repetition, with the rest of the text apart from them. -/
def boundsReader (flags : Flags) : Reader (Nat × Option Nat) := fun text =>
  decimal flags (flags.skip text) >>= fun first => boundsAfter flags first.1 first.2

/-- The bounds of a repetition, with the rest of the text apart from them. -/
def apart (found : Nat × Option Nat × List Char) : (Nat × Option Nat) × List Char :=
  ((found.1, found.2.1), found.2.2)

/-- Where there is a number it is read, and where there is none no brace follows. -/
theorem readDecimal_brace (text : List Char) (next : Option Nat → List Char →
      Except SyntaxError (Nat × Option Nat × List Char)) :
    (match readDecimal flags text with
      | (most, '\x7d' :: rest) => next most rest
      | _ => .error .repetitionBounds).map apart =
    decimal flags text >>= fun found =>
      onPrefix ['\x7d'] (fun rest => (next found.1 rest).map apart)
        (fun _ => .error .repetitionBounds) found.2 := by
  rcases decimal_cases flags text with heq | ⟨heq, hnone⟩
  · rw [heq]
    dsimp only [bind, Except.bind]
    split
    next most rest hfound =>
      rw [hfound]
      exact (onPrefix_append ['\x7d'] rest (fun rest => (next most rest).map apart) _).symm
    next hbrace =>
      have hbrace' : ∀ rest, (readDecimal flags text).2 ≠ ['\x7d'] ++ rest :=
        fun rest h => hbrace _ rest (by rw [← List.singleton_append, ← h])
      rw [onPrefix_of_ne hbrace']
      rfl
  · rw [heq, hnone]
    rfl

/-- What is done to the outcome of two steps can be done to that of the second. -/
theorem map_bind_ok {α β γ : Type} (result : Except SyntaxError α) (next : α → Except SyntaxError β)
    (f : β → γ) : (result >>= next).map f = result >>= fun a => (next a).map f := by
  cases result <;> rfl

private theorem readBounds_eq (text : List Char) :
    (readBounds flags text).map apart = boundsReader flags text := by
  rw [readBounds, boundsReader]
  rcases decimal_cases flags (flags.skip text) with heq | ⟨heq, hnone⟩
  · rw [heq]
    change _ = boundsAfter flags _ _
    split
    next first rest hfirst =>
      rw [hfirst]
      refine Eq.trans ?_ (onPrefix_append [','] rest _ _).symm
      rw [readUpper]
      split
      next rest hskip =>
        rw [hskip]
        refine Eq.trans ?_ (onPrefix_append ['\x7d'] rest _ _).symm
        exact map_bind_ok (bound first) (fun least => .ok (least, none, rest)) apart
      next hskip =>
        rw [onPrefix_of_ne hskip]
        refine (map_bind_ok (bound first) _ apart).trans (bind_congr_ok fun least _ => ?_)
        refine (readDecimal_brace (flags.skip rest) _).trans (bind_congr_ok fun second _ => ?_)
        refine congrFun (congrArg (fun next => onPrefix ['\x7d'] next _) (funext fun rest => ?_)) _
        refine (map_bind_ok (bound second.1) _ apart).trans (bind_congr_ok fun most _ => ?_)
        split <;> rfl
    next count rest hfirst =>
      rw [hfirst]
      refine Eq.trans ?_ (onPrefix_of_ne (by simp)).symm
      refine Eq.trans ?_ (onPrefix_append ['\x7d'] rest _ _).symm
      exact map_bind_ok (bound count) (fun count => .ok (count, some count, rest)) apart
    next hcomma hbrace =>
      have hcomma' : ∀ rest, (readDecimal flags (flags.skip text)).2 ≠ ',' :: rest :=
        fun rest h => hcomma _ rest (by rw [← h])
      have hbrace' : ∀ rest, (readDecimal flags (flags.skip text)).2 ≠ '\x7d' :: rest :=
        fun rest h => hbrace _ rest (by rw [← h])
      rw [boundsAfter, onPrefix_of_ne hcomma', onPrefix_of_ne hbrace']
      rfl
  · rw [heq, hnone]
    rfl

private theorem local_decimal : Local (fun _ rest => Remnant rest) (decimal flags) := by
  have hread : Local (fun _ rest => Remnant rest)
      (readUntil flags (!·.isDigit) .repetitionBounds) :=
    local_readUntil (by decide) (fun _ _ h => Or.inr h) fun _ _ _ h => Or.inl h
  have hvalue (digits : List Char) : Local (fun _ rest => Remnant rest) fun rest =>
      .ok (if digits.isEmpty then none
        else some (digits.foldl (fun n c => 10 * n + (c.toNat - '0'.toNat)) 0),
        afterNumber flags rest) := .skip (skips_afterNumber flags) (.pure _)
  have hnumber := hread.bind hvalue fun digits rest h =>
    (hvalue digits).breaks_of_remnant (fun _ _ h => h) h
  have hskipped := Local.skip skips_dropWhile hnumber
  exact hskipped

private theorem bound_ne (n : Option Nat) : bound n ≠ .error .groupUnopened := by
  rw [bound.eq_def]
  split
  · split <;> exact nofun
  · exact nofun

private theorem local_boundsReader {lost : Nat × Option Nat → List Char → Prop} :
    Local lost (boundsReader flags) := by
  have hclose {next : Reader (Nat × Option Nat)} {rest : List Char} (h : Remnant rest) :
      onPrefix ['\x7d'] next (fun _ => .error .repetitionBounds) rest =
        .error .repetitionBounds := by
    have hbrace : '\x7d' ∉ rest := h.not_mem (by decide) (by decide)
    exact onPrefix_of_ne fun more heq => hbrace (by rw [heq]; exact List.mem_cons_self)
  have hend {next : Reader (Nat × Option Nat)} (h : Local lost next) :
      Local lost (onPrefix ['\x7d'] next fun _ => .error .repetitionBounds) :=
    .onPrefix (by decide) h (.error (by decide))
  have hmost (least : Nat) (second : Option Nat) : Local lost fun rest =>
      bound second >>= fun most =>
        if least ≤ most then .ok ((least, some most), rest) else .error .repetitionBounds := by
    refine .require (bound_ne second) fun most => ?_
    split
    · exact .pure _
    · exact .error (by decide)
  have hdecimal : Local (fun _ rest => Remnant rest) (decimal flags) := local_decimal
  have hsecond (least : Nat) := hdecimal.bind (fun second => hend (hmost least second))
    fun second rest h => (by rw [hclose h]; exact .error (by decide))
  have hleast (first : Option Nat) : Local lost fun rest =>
      bound first >>= fun least => .ok ((least, none), rest) :=
    .require (bound_ne first) fun least => .pure (least, none)
  have hupper (first : Option Nat) : Local lost (readUpper flags first) := by
    have hrest := Local.onPrefix (by decide : ')' ∉ ['\x7d']) (hleast first)
      (Local.require (bound_ne first) hsecond)
    have hskipped := Local.skip (skips_skip flags) hrest
    exact hskipped
  have hafter (first : Option Nat) : Local lost (boundsAfter flags first) :=
    .onPrefix (by decide) (hupper first)
      (hend (.require (bound_ne first) fun count => .pure (count, some count)))
  have hbounds := hdecimal.bind hafter fun first rest h => by
    have hcomma : ',' ∉ rest := h.not_mem (by decide) (by decide)
    rw [boundsAfter, onPrefix_of_ne fun more heq => hcomma (by rw [heq]; exact List.mem_cons_self),
      hclose h]
    exact .error (by decide)
  have hskipped := Local.skip (skips_skip flags) hbounds
  exact hskipped

end Bounds

section Parts

private theorem Progress.repeatLast_ne (p : Progress) (least : Nat) (most : Option Nat) :
    p.repeatLast least most ≠ .error .groupUnopened := by
  rw [Progress.repeatLast]
  split
  · exact nofun
  · split <;> exact nofun

private theorem Progress.pushAtom_ne (p : Progress) (atom : Atom) :
    p.pushAtom atom ≠ .error .groupUnopened := by
  rw [Progress.pushAtom.eq_def]
  split
  · split <;> exact nofun
  · exact nofun
  · exact nofun

private theorem Flags.dotExpr_ne (flags : Flags) : flags.dotExpr ≠ .error .groupUnopened := by
  rw [Flags.dotExpr]
  split
  · exact nofun
  · split
    · exact nofun
    · split <;> exact nofun

/-- A mark of preference is skipped. -/
theorem skips_dropLazyMark : Skips dropLazyMark where
  suffix text := by
    rw [dropLazyMark.eq_def]
    split
    · exact List.suffix_cons _ _
    · exact List.suffix_refl _
  append text := by
    refine Or.inl fun tail htail => ?_
    rw [dropLazyMark.eq_def text]
    split
    next rest => rfl
    next hmark =>
      rw [dropLazyMark]
      exact fun rest => append_ne_cons (by decide) hmark htail rest

/-- Whether reading on after a part is in vain: nothing but dollars is left, or the bounds of a
repetition that begin with a closing parenthesis. -/
def PartLost (p : Progress) (rest : List Char) : Prop :=
  Spent rest ∨ ∃ bounds, rest = '\x7b' :: bounds ∧ (p.flags.skip bounds).head? = some ')'

private theorem covers_partLost : Covers PartLost := fun _ _ => Or.inl

private theorem local_repeat (p : Progress) (least : Nat) (most : Option Nat) :
    Local PartLost fun rest =>
      p.repeatLast least most >>= fun p => .ok (p, dropLazyMark rest) :=
  .require (p.repeatLast_ne least most) fun p => .skip skips_dropLazyMark (.pure p)

private theorem local_repeatBounds (p : Progress) : Local PartLost fun rest =>
    boundsReader p.flags rest >>= fun found =>
      p.repeatLast found.1.1 found.1.2 >>= fun p' =>
        .ok (p', dropLazyMark (p.flags.skip found.2)) := by
  have hbounds : Local (fun _ _ => False) (boundsReader p.flags) := local_boundsReader
  have hrepeat (bounds : Nat × Option Nat) : Local PartLost fun rest =>
      p.repeatLast bounds.1 bounds.2 >>= fun p' =>
        .ok (p', dropLazyMark (p.flags.skip rest)) :=
    .require (p.repeatLast_ne bounds.1 bounds.2) fun p' =>
      .skip (skips_skip p.flags) (.skip skips_dropLazyMark (.pure p'))
  exact hbounds.bind hrepeat fun _ _ => False.elim

private theorem local_atom [Engine] (p : Progress) : Local PartLost fun rest =>
    readEscape p.flags rest >>= fun found =>
      p.pushAtom found.1 >>= fun p' => .ok (p', found.2) := by
  refine local_readEscape.bind (fun atom => .require (p.pushAtom_ne atom) .pure) ?_
  rintro atom rest (hspent | ⟨⟨condition, rfl⟩, hbounds⟩)
  · exact Local.breaks_of_spent (.require (p.pushAtom_ne atom) .pure) covers_partLost hspent
  · exact Or.inr ⟨p.pushExpr (.look condition), rest, rfl, Or.inr hbounds⟩

/-- The characters that do not stand for themselves. -/
def marks : List Char := ['(', ')', '|', '[', '?', '*', '+', '\x7b', '\\', '.', '^', '$']

/-- A character without a meaning of its own stands for itself. -/
theorem readPart_of_not_mem_marks [Engine] {c : Char} (hc : c ∉ marks) (p : Progress)
    (rest : List Char) :
    readPart p c rest = .ok (p.pushExpr (p.flags.charExpr c), rest) := by
  simp only [marks, List.mem_cons, List.not_mem_nil, or_false, not_or] at hc
  rw [readPart] <;> grind

/-- A part is read locally, unless it closes a group that was never opened. -/
theorem local_readPart [Engine] {p : Progress} {c : Char} (hc : c = ')' → p.outer ≠ []) :
    Local PartLost (readPart p c) := by
  by_cases hmark : c ∈ marks
  · simp only [marks, List.mem_cons, List.not_mem_nil, or_false] at hmark
    rcases hmark with rfl | rfl | rfl | rfl | rfl | rfl | rfl | rfl | rfl | rfl | rfl | rfl
    · exact local_readGroup covers_partLost p
    · refine .require (fun hunopened => ?_) .pure
      rw [Progress.closeGroup] at hunopened
      split at hunopened
      next houter => exact hc rfl houter
      next => contradiction
    · exact .pure _
    · have hset : Local (fun _ _ => False) (readSet p.flags) := local_readSet
      exact hset.bind (fun set => .pure (p.push ⟨.chars set.members, set.depth, true⟩))
        fun _ _ => False.elim
    · exact local_repeat p 0 (some 1)
    · exact local_repeat p 0 none
    · exact local_repeat p 1 none
    · have heq : readPart p '\x7b' = fun rest =>
          boundsReader p.flags rest >>= fun found =>
            p.repeatLast found.1.1 found.1.2 >>= fun p' =>
              .ok (p', dropLazyMark (p.flags.skip found.2)) := by
        funext rest
        rw [← readBounds_eq, readPart]
        cases readBounds p.flags rest <;> rfl
      rw [heq]
      exact local_repeatBounds p
    · exact local_atom p
    · exact .require (Flags.dotExpr_ne p.flags) fun expr => .pure (p.pushExpr expr)
    · exact .pure _
    · exact .pure _
  · have heq := funext (readPart_of_not_mem_marks hmark p)
    rw [heq]
    exact .pure _

end Parts

end Signpost.Regex

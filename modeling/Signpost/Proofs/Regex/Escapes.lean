import Signpost.Proofs.Regex.Local
import Signpost.Regex.Escape

/-!
# Reading escapes before a tail

Escapes are read by local readers.  Only a word boundary looks further than it reads: a brace after
it, with blanks up to the end of the text, is left for a repetition if a tail follows, which then
has no bounds.  Main statement: reading an escape is local, and only ever lost before such a brace
or behind the tail's parenthesis.
-/

namespace Signpost.Regex

variable {flags : Flags}

private theorem charOfHex_ne (digits : List Char) : charOfHex digits ≠ .error .groupUnopened := by
  rw [charOfHex]
  split <;> exact nofun

/-- To negate a set does not fail for a group that was never opened. -/
theorem negateIf_ne (negated : Bool) (set : CharSet) :
    flags.negateIf negated set ≠ .error .groupUnopened := by
  rw [Flags.negateIf, Flags.negate]
  split
  · split <;> exact nofun
  · exact nofun

section Braces

variable {α : Type} {lost : α → List Char → Prop}

/-- Read on after a closing brace, given what stands before it. -/
def upToBrace (flags : Flags) (next : List Char → Reader α) : Reader α := fun text =>
  match flags.takeUntil (· == '\x7d') false text with
  | some (found, _ :: rest) => next found rest
  | _ => .error .unfinished

private theorem local_upToBrace
    {next : List Char → Reader α} (hnext : ∀ found, Local lost (next found))
    (hlost : Covers lost) : Local lost (upToBrace flags next) := by
  have heq : upToBrace flags next = fun text =>
      readUntil flags (· == '\x7d') .unfinished text >>= fun found =>
        onCons .unfinished (fun _ => next found.1) found.2 := by
    funext text
    rw [upToBrace, readUntil]
    split
    next found c rest hfound =>
      rw [hfound]
      rfl
    next hnone =>
      split
      next found hfound =>
        obtain ⟨c, rest, hrest, -⟩ := exists_of_takeUntil hfound
        exact absurd (hrest ▸ hfound) (hnone found.1 c rest)
      next => rfl
  rw [heq]
  refine .bind_spent (local_readUntil (by decide) (fun _ _ h => h) fun h => ?_)
    (fun found => .onCons (by decide) (fun _ => hnext found) hlost) hlost
  exact absurd h (by decide)

end Braces

section Atoms

variable {lost : Atom → List Char → Prop}

/-- A character that is given by its number is read locally. -/
theorem local_readNumber (hlost : Covers lost) (width : Nat) :
    Local lost (readNumber flags width) := by
  have heq : readNumber flags width = fun text =>
      onPrefix ['\x7b']
        (upToBrace flags fun digits rest => charOfHex digits >>= fun c => .ok (.char c false, rest))
        (fun rest => readExactly flags width .unfinished rest >>= fun found =>
          charOfHex found.1 >>= fun c => .ok (.char c (width == 2), found.2))
        (flags.skip text) := by
    funext text
    rw [readNumber]
    split
    next rest hskip =>
      rw [hskip]
      rfl
    next hbrace =>
      rw [onPrefix_of_ne hbrace, readExactly]
      cases flags.takeExactly width false (flags.skip text) <;> rfl
  have hdigits (digits : List Char) (byte : Bool) :
      Local lost fun rest => charOfHex digits >>= fun c => .ok (Atom.char c byte, rest) :=
    .require (charOfHex_ne digits) fun c => .pure _
  rw [heq]
  exact .skip (skips_skip flags) (.onPrefix (by decide)
    (local_upToBrace (fun digits => hdigits digits false) hlost)
    (.bind_spent (local_readExactly (by decide) fun _ _ h => h)
      (fun digits => hdigits digits (width == 2)) hlost))

/-- The set that a property stands for, once all of it was read. -/
def propertyAtom [Engine] (flags : Flags) (negated : Bool) (property : Property) :
    Except SyntaxError Atom :=
  if flags.unicode then
    match Engine.property? property with
    | some members => flags.negateIf negated (flags.fold members) >>= fun set => .ok (.set set)
    | none => .error .property
  else .error .partialCharacter

private theorem propertyAtom_ne [Engine] (negated : Bool) (property : Property) :
    propertyAtom flags negated property ≠ .error .groupUnopened := by
  rw [propertyAtom]
  split
  · split
    · exact bind_ne_groupUnopened (negateIf_ne negated _) fun _ => nofun
    · exact nofun
  · exact nofun

/-- Take a property for the atom that it stands for. -/
def propertyReader [Engine] (flags : Flags) (negated : Bool) (property : Property) : Reader Atom :=
  fun rest => propertyAtom flags negated property >>= fun atom => .ok (atom, rest)

private theorem propertyReader_eq [Engine] (negated : Bool) (property : Property)
    (rest : List Char) :
    propertyReader flags negated property rest =
      if (!flags.unicode) = true then .error .partialCharacter
      else
        match Engine.property? property with
        | some members => flags.negateIf negated (flags.fold members) >>= fun set =>
            .ok (Atom.set set, rest)
        | none => .error .property := by
  rw [propertyReader, propertyAtom]
  cases flags.unicode with
  | false => rfl
  | true =>
    cases Engine.property? property with
    | none => rfl
    | some members =>
      dsimp only
      cases flags.negateIf negated (flags.fold members) <;> rfl

private theorem readProperty_eq [Engine] (negated : Bool) (text : List Char) :
    readProperty flags negated text =
      onPrefix ['\x7b']
        (upToBrace flags fun name => propertyReader flags negated (readQuery name))
        (onCons .unfinished fun c rest =>
          if c = '\\' then .error .property
          else propertyReader flags negated (.named (String.ofList [c])) rest)
        (flags.skip text) := by
  rw [readProperty]
  split
  next hskip => rw [hskip]; rfl
  next rest hskip =>
    rw [hskip]
    refine Eq.trans ?_ (onPrefix_append ['\x7b'] rest _ _).symm
    rw [upToBrace]
    rcases flags.takeUntil (· == '\x7d') false rest with _ | ⟨name, _ | ⟨c, rest⟩⟩
    · rfl
    · rfl
    · exact (propertyReader_eq negated (readQuery name) rest).symm
  next rest hskip => rw [hskip]; rfl
  next c rest hbrace hbackslash hskip =>
    have hother : ∀ more, flags.skip text ≠ ['\x7b'] ++ more := fun more h =>
      hbrace (List.cons.inj (hskip.symm.trans h)).1
    have hc : c ≠ '\\' := hbackslash
    rw [onPrefix_of_ne hother, hskip]
    rw [onCons, if_neg hc]
    exact (propertyReader_eq negated _ rest).symm

/-- A character property is read locally. -/
theorem local_readProperty [Engine] (hlost : Covers lost) (negated : Bool) :
    Local lost (readProperty flags negated) := by
  have hproperty (property : Property) : Local lost (propertyReader flags negated property) :=
    .require (propertyAtom_ne negated property) .pure
  rw [funext (readProperty_eq negated)]
  refine .skip (skips_skip flags) (.onPrefix (by decide)
    (local_upToBrace (fun name => hproperty (readQuery name)) hlost)
    (.onCons (by decide) (fun c => ?_) hlost))
  split
  · exact .error (by decide)
  · exact hproperty _

end Atoms

/-- Whether reading on after an atom is in vain: nothing but dollars is left, or the bounds of a
repetition of a word boundary that begin with a closing parenthesis. -/
def AtomLost (flags : Flags) (atom : Atom) (rest : List Char) : Prop :=
  Spent rest ∨ (∃ condition, atom = .look condition) ∧
    ∃ bounds, rest = '\x7b' :: bounds ∧ (flags.skip bounds).head? = some ')'

theorem covers_atomLost : Covers (AtomLost flags) := fun _ _ => Or.inl

/-- The side of a word that a name in braces stands for. -/
def edge? (ascii : Bool) (name : String) : Except SyntaxError Atom :=
  match name with
  | "start" => .ok (.look (.edge (some false) (some true) ascii))
  | "end" => .ok (.look (.edge (some true) (some false) ascii))
  | "start-half" => .ok (.look (.edge (some false) none ascii))
  | "end-half" => .ok (.look (.edge none (some false) ascii))
  | _ => .error .escape

/-- Read the name that says which side of a word is meant, after its brace. -/
def readEdge (flags : Flags) : Reader Atom := fun text =>
  readUntil flags (fun c => !(c.isAlpha || c == '-')) .unfinished text >>= fun found =>
    onPrefix ['\x7d']
      (fun rest => edge? (!flags.unicode) (String.ofList found.1) >>= fun atom => .ok (atom, rest))
      (fun _ => .error .unfinished) found.2

private theorem local_readEdge : Local (AtomLost flags) (readEdge flags) := by
  have hedge (name : String) : edge? (!flags.unicode) name ≠ .error .groupUnopened := by
    unfold edge?
    split <;> exact nofun
  have hname : Local (fun _ rest => Remnant rest)
      (readUntil flags (fun c => !(c.isAlpha || c == '-')) .unfinished) :=
    local_readUntil (by decide) (fun _ _ h => Or.inr h) fun _ _ _ h => Or.inl h
  refine hname.bind
    (fun name => .onPrefix (by decide) (.require (hedge _) .pure) (.error (by decide))) ?_
  intro name rest hremnant
  rw [onPrefix_of_ne]
  · exact .error (by decide)
  · rintro more rfl
    exact hremnant.not_mem (by decide) (by decide) (List.mem_append_left _ List.mem_cons_self)

private theorem readBoundary_of_ne {text : List Char} (h : text.head? ≠ some '\x7b') :
    readBoundary flags text = .ok (.look (.boundary (!flags.unicode)), text) := by
  unfold readBoundary
  split
  next => contradiction
  next => rfl

/-- After a brace a name is read, if there is one, and else the brace is left. -/
theorem readBoundary_brace (rest : List Char) :
    readBoundary flags ('\x7b' :: rest) =
      match flags.skip rest with
      | [] => .error .unfinished
      | c :: _ =>
        if c.isAlpha || c == '-' then readEdge flags rest
        else .ok (.look (.boundary (!flags.unicode)), '\x7b' :: rest) := by
  rw [readBoundary]
  cases flags.skip rest with
  | nil => rfl
  | cons c more =>
    dsimp only
    split
    · rw [readEdge, readUntil]
      rcases flags.takeUntil (fun c => !(c.isAlpha || c == '-')) false rest with _ | ⟨name, text⟩
      · rfl
      · dsimp only [bind, Except.bind]
        split
        next name rest heq =>
          obtain ⟨rfl, rfl⟩ := Prod.mk.inj (Option.some.inj heq)
          refine Eq.trans ?_ (onPrefix_append ['\x7d'] rest _ _).symm
          unfold edge?
          generalize String.ofList name = side
          split <;> simp [*]
        next hother =>
          rw [onPrefix_of_ne]
          exact fun rest hrest => hother name rest (by rw [hrest]; rfl)
    · rfl

private theorem suffix_of_readBoundary {text rest : List Char} {atom : Atom}
    (h : readBoundary flags text = .ok (atom, rest)) : rest <:+ text := by
  by_cases hbrace : text.head? = some '\x7b'
  · obtain ⟨more, rfl⟩ := List.head?_eq_some_iff.mp hbrace
    rw [readBoundary_brace] at h
    split at h
    · contradiction
    · split at h
      · exact (local_readEdge.suffix h).trans (List.suffix_cons _ more)
      · cases h
        exact List.suffix_refl _
  · rw [readBoundary_of_ne hbrace] at h
    cases h
    exact List.suffix_refl _

/-- Where nothing comes after a brace, a tail's parenthesis comes next, and the brace is left. -/
theorem breaks_readBoundary {more tail : List Char} (htail : IsTail tail)
    (hskip : flags.skip (more ++ tail) = tail) :
    Breaks (AtomLost flags) (readBoundary flags ('\x7b' :: (more ++ tail))) := by
  obtain ⟨after, rfl, -⟩ := htail
  rw [readBoundary_brace, hskip]
  refine Or.inr ⟨_, _, rfl, Or.inr ⟨⟨_, rfl⟩, _, rfl, ?_⟩⟩
  rw [hskip]
  rfl

private theorem agrees_readBoundary_brace (more : List Char) :
    Agrees (AtomLost flags) (readBoundary flags ('\x7b' :: more)) fun tail =>
      readBoundary flags ('\x7b' :: (more ++ tail)) := by
  rcases (skips_skip flags).append more with hleft | ⟨hnil, hswallowed⟩
  · cases hskip : flags.skip more with
    | nil =>
      refine .broken .unfinished (by rw [readBoundary_brace, hskip]) (by decide)
        fun tail htail => breaks_readBoundary htail ?_
      rw [hleft tail htail, hskip, List.nil_append]
    | cons c rest =>
      have hbefore (tail : List Char) (htail : IsTail tail) :
          flags.skip (more ++ tail) = c :: (rest ++ tail) := by
        rw [hleft tail htail, hskip, List.cons_append]
      simp only [readBoundary_brace, hskip]
      by_cases hname : (c.isAlpha || c == '-') = true
      · rw [if_pos hname]
        refine (local_readEdge.agrees more).congr fun tail htail => ?_
        rw [hbefore tail htail]
        exact if_pos hname
      · rw [if_neg hname]
        refine .left _ _ rfl fun tail htail => ?_
        rw [hbefore tail htail]
        exact if_neg hname
  · simp only [readBoundary_brace, hnil]
    refine .broken .unfinished rfl (by decide) fun tail htail => ?_
    rw [hswallowed tail htail]
    exact .error (by decide)

/-- A word boundary is read locally, but for a brace that a tail leaves for a repetition. -/
theorem local_readBoundary : Local (AtomLost flags) (readBoundary flags) where
  suffix := suffix_of_readBoundary
  agrees text := by
    by_cases hbrace : text.head? = some '\x7b'
    · obtain ⟨more, rfl⟩ := List.head?_eq_some_iff.mp hbrace
      exact agrees_readBoundary_brace more
    · rw [readBoundary_of_ne hbrace]
      refine .left _ text rfl fun tail htail => readBoundary_of_ne ?_
      obtain ⟨after, rfl, -⟩ := htail
      cases text with
      | nil => simp
      | cons c rest => exact hbrace

/-- A class is read locally. -/
theorem local_class (negated : Bool) (unicode plain : CharSet) :
    Local (AtomLost flags) fun rest => do
      let set ← flags.negateIf negated (if flags.unicode then unicode else plain)
      return (.set set, rest) :=
  .require (negateIf_ne negated _) fun set => .pure (Atom.set set)

/-- What follows a backslash is read locally. -/
theorem local_readEscape_cons [Engine] (c : Char) :
    Local (AtomLost flags) fun rest => readEscape flags (c :: rest) := by
  by_cases hc : c ∈ ['x', 'u', 'U', 'p', 'P', 'd', 'D', 's', 'S', 'w', 'W', 'a', 'f', 't', 'n', 'r',
    'v', 'A', 'z', 'b', 'B', '<', '>']
  · simp only [List.mem_cons, List.not_mem_nil, or_false] at hc
    rcases hc with rfl | rfl | rfl | rfl | rfl | rfl | rfl | rfl | rfl | rfl | rfl | rfl | rfl |
      rfl | rfl | rfl | rfl | rfl | rfl | rfl | rfl | rfl | rfl
    · exact local_readNumber covers_atomLost 2
    · exact local_readNumber covers_atomLost 4
    · exact local_readNumber covers_atomLost 8
    · exact local_readProperty covers_atomLost false
    · exact local_readProperty covers_atomLost true
    · exact local_class false digits asciiDigits
    · exact local_class true digits asciiDigits
    · exact local_class false blanks asciiBlanks
    · exact local_class true blanks asciiBlanks
    · exact local_class false wordChars asciiWordChars
    · exact local_class true wordChars asciiWordChars
    · exact .pure _
    · exact .pure _
    · exact .pure _
    · exact .pure _
    · exact .pure _
    · exact .pure _
    · exact .pure _
    · exact .pure _
    · exact local_readBoundary
    · exact .pure _
    · exact .pure _
    · exact .pure _
  · have heq (rest : List Char) : readEscape flags (c :: rest) =
        if Text.isAscii c && !c.isAlphanum then .ok (.char c false, rest) else .error .escape := by
      simp only [List.mem_cons, List.not_mem_nil, or_false, not_or] at hc
      rw [readEscape] <;> grind
    simp only [heq]
    split
    · exact .pure _
    · exact .error (by decide)

/-- An escape is read locally. -/
theorem local_readEscape [Engine] : Local (AtomLost flags) (readEscape flags) := by
  have heq : readEscape flags =
      onCons .unfinished fun c rest => readEscape flags (c :: rest) := by
    funext text
    cases text <;> rfl
  rw [heq]
  exact .onCons (by decide) local_readEscape_cons covers_atomLost

end Signpost.Regex

import Signpost.Proofs.Kebab

/-!
# The words of a name

A name is read once, a word being begun, carried on or ended at every character.  Main statement:
the words of an ASCII name in kebab case are runs of small letters or of digits that spell the
letters and digits of the name in their order; a hyphen stands between two of these exactly where
other characters do, or where the case or the kind changes; and nothing changes the second time.
-/

namespace Signpost.Text

/-- An ASCII character is one of the first 128. -/
theorem exists_ofNat_of_isAscii {c : Char} (hc : isAscii c = true) :
    ∃ n : Fin 128, Char.ofNat n = c := by
  have hlt : c.toNat < 128 := by simpa [isAscii] using hc
  exact ⟨⟨c.toNat, hlt⟩, Char.ofNat_toNat c⟩

private theorem isAlphanumeric_of_isAscii {c : Char} (h : isAscii c = true) :
    isAlphanumeric c = c.isAlphanum := by
  rw [isAlphanumeric, isAlphabetic, isNumeric, if_pos h, if_pos h, Char.isAlphanum]

private theorem isAscii_of_isLower {c : Char} (h : c.isLower = true) : isAscii c = true := by
  have hrange : decide ('a' ≤ c) = true ∧ decide (c ≤ 'z') = true := Bool.and_eq_true_iff.mp h
  have hle : c.toNat ≤ 122 := UInt32.le_iff_toNat_le.mp (of_decide_eq_true hrange.2)
  exact decide_eq_true (by omega)

private theorem isAscii_of_isDigit {c : Char} (h : c.isDigit = true) : isAscii c = true := by
  have hrange : decide ('0' ≤ c) = true ∧ decide (c ≤ '9') = true := Bool.and_eq_true_iff.mp h
  have hle : c.toNat ≤ 57 := UInt32.le_iff_toNat_le.mp (of_decide_eq_true hrange.2)
  exact decide_eq_true (by omega)

/-- What an ASCII letter or digit becomes in lower case. -/
theorem kind_toLower_of_isAscii {c : Char} (h : isAscii c = true) :
    (isAlphabetic c = true → c.toLower.isLower = true) ∧
      (isNumeric c = true → c.toLower.isDigit = true) := by
  obtain ⟨n, rfl⟩ := exists_ofNat_of_isAscii h
  revert n
  decide +kernel

/-- What a small letter is, and what it is not. -/
theorem kind_of_isLower {c : Char} (h : c.isLower = true) :
    isAlphanumeric c = true ∧ isNumeric c = false ∧ isUpper c = false ∧ c.toLower = c := by
  obtain ⟨n, rfl⟩ := exists_ofNat_of_isAscii (isAscii_of_isLower h)
  revert n
  decide +kernel

/-- What a digit is, and what it is not. -/
theorem kind_of_isDigit {c : Char} (h : c.isDigit = true) :
    isAlphanumeric c = true ∧ isAlphabetic c = false ∧ isUpper c = false ∧ c.toLower = c := by
  obtain ⟨n, rfl⟩ := exists_ofNat_of_isAscii (isAscii_of_isDigit h)
  revert n
  decide +kernel

/-- An ASCII text is put in lower case character by character. -/
theorem lowerAfter_of_isAscii {word : List Char} (h : ∀ c ∈ word, isAscii c = true)
    (before : List Char) : lowerAfter before word = word.map Char.toLower := by
  induction word generalizing before with
  | nil => rfl
  | cons c rest ih =>
    rw [List.forall_mem_cons] at h
    have hsigma : c ≠ 'Σ' := by
      rintro rfl
      exact absurd h.1 (by decide)
    simp only [lowerAfter, if_neg hsigma, lowerChar, h.1, if_true, ih h.2, List.map_cons,
      List.singleton_append]

namespace Kebab

/-- The words of a name behind the word begun so far, as they are written with hyphens. -/
def spell (word text : List Char) : List Char := ['-'].intercalate (wordsFrom word text)

/-- No character of a name is lost or given twice. -/
theorem flatten_wordsFrom (word text : List Char) :
    (wordsFrom word text).flatten = word.reverse ++ text.filter isAlphanumeric := by
  fun_induction wordsFrom word text <;> simp_all

private theorem ne_nil_of_mem_wordsFrom {word text : List Char} :
    ∀ found ∈ wordsFrom word text, found ≠ [] := by
  fun_induction wordsFrom word text <;> simp_all

/-- Whether a word has only letters or only numbers. -/
def Uniform (word : List Char) : Prop :=
  (∀ c ∈ word, isAlphabetic c = true) ∨ ∀ c ∈ word, isNumeric c = true

/-- A word that is carried on keeps its kind. -/
theorem Uniform.cons {last c : Char} {word : List Char} {next : Option Char}
    (h : Uniform (last :: word)) (hc : isAlphanumeric c = true)
    (hsame : isBoundary last c next = false) : Uniform (c :: last :: word) := by
  -- A character may be letter and number at once; what is ruled out is that it is of another kind.
  simp only [isBoundary, Bool.or_eq_false_iff, Bool.and_eq_false_iff] at hsame
  obtain ⟨⟨⟨-, hletter⟩, hnumber⟩, -⟩ := hsame
  rw [isAlphanumeric, Bool.or_eq_true] at hc
  rcases h with h | h
  · have hlast : isAlphabetic last = true := h last List.mem_cons_self
    have hkind : isAlphabetic c = true := by simp_all
    exact Or.inl (List.forall_mem_cons.mpr ⟨hkind, h⟩)
  · have hlast : isNumeric last = true := h last List.mem_cons_self
    have hkind : isNumeric c = true := by simp_all
    exact Or.inr (List.forall_mem_cons.mpr ⟨hkind, h⟩)

private theorem Uniform.reverse {word : List Char} (h : Uniform word) : Uniform word.reverse :=
  h.imp (fun h c hc => h c (List.mem_reverse.mp hc)) fun h c hc => h c (List.mem_reverse.mp hc)

private theorem uniform_singleton {c : Char} (hc : isAlphanumeric c = true) : Uniform [c] := by
  rw [isAlphanumeric, Bool.or_eq_true] at hc
  exact hc.imp (by simp) (by simp)

private theorem uniform_nil : Uniform [] := Or.inl nofun

/-- Every word of a name has one kind of characters, if the one begun has. -/
theorem uniform_of_mem_wordsFrom {word text : List Char} (h : Uniform word) :
    ∀ found ∈ wordsFrom word text, Uniform found := by
  fun_induction wordsFrom word text with
  | case1 => exact List.forall_mem_nil _
  | case2 word => simpa using h.reverse
  | case3 c rest hc ih => exact ih (uniform_singleton hc)
  | case4 c rest hc last before _ ih =>
    exact List.forall_mem_cons.mpr ⟨h.reverse, ih (uniform_singleton hc)⟩
  | case5 c rest hc last before hsame ih => exact ih (h.cons hc (Bool.not_eq_true _ ▸ hsame))
  | case6 _ _ _ _ _ ih => exact ih uniform_nil
  | case7 word _ _ _ _ ih => exact List.forall_mem_cons.mpr ⟨h.reverse, ih uniform_nil⟩

section Spelling

variable {c last : Char} {before rest : List Char}

private theorem intercalate_hyphen_cons (word : List Char) (words : List (List Char)) :
    ['-'].intercalate (word :: words) =
      word ++ if words = [] then [] else '-' :: ['-'].intercalate words := by
  cases words with
  | nil => simp
  | cons next others => simp [List.intercalate_cons_cons]

private theorem wordsFrom_ne_nil_of_mem {word text : List Char} (h : c ∈ text)
    (hc : isAlphanumeric c = true) : wordsFrom word text ≠ [] := by
  intro hnone
  have hflat := flatten_wordsFrom word text
  rw [hnone, List.flatten_nil, eq_comm, List.append_eq_nil_iff, List.filter_eq_nil_iff] at hflat
  exact hflat.2 c h hc

private theorem wordsFrom_cons_ne_nil : wordsFrom (last :: before) rest ≠ [] := by
  intro hnone
  have hflat := flatten_wordsFrom (last :: before) rest
  simp [hnone] at hflat

private theorem wordsFrom_close {word : List Char} (hne : word ≠ [])
    (hc : isAlphanumeric c = false) :
    wordsFrom word (c :: rest) = word.reverse :: wordsFrom [] rest := by
  obtain ⟨last, before, rfl⟩ := List.exists_cons_of_ne_nil hne
  rw [wordsFrom, if_neg (Bool.eq_false_iff.mp hc), if_neg nofun]

private theorem spell_begin (hc : isAlphanumeric c = true) :
    spell [] (c :: rest) = spell [c] rest := by
  rw [spell, wordsFrom, if_pos hc, spell]

private theorem spell_skip (hc : isAlphanumeric c = false) :
    spell [] (c :: rest) = spell [] rest := by
  rw [spell, wordsFrom, if_neg (Bool.eq_false_iff.mp hc), if_pos List.isEmpty_nil, spell]

/-- A character that is no letter or number ends the word; a hyphen follows if there is another. -/
theorem spell_close (hc : isAlphanumeric c = false) :
    spell (last :: before) (c :: rest) =
      (last :: before).reverse ++
        if wordsFrom [] rest = [] then [] else '-' :: spell [] rest := by
  rw [spell, wordsFrom_close (List.cons_ne_nil _ _) hc, intercalate_hyphen_cons, spell]

/-- A boundary ends the word, and what follows begins the next. -/
theorem spell_break (hc : isAlphanumeric c = true) (h : isBoundary last c rest.head? = true) :
    spell (last :: before) (c :: rest) = (last :: before).reverse ++ '-' :: spell [c] rest := by
  rw [spell, wordsFrom, if_pos hc]
  simp only [if_pos h]
  rw [intercalate_hyphen_cons, if_neg wordsFrom_cons_ne_nil, spell]

private theorem spell_grow (hc : isAlphanumeric c = true)
    (h : isBoundary last c rest.head? = false) :
    spell (last :: before) (c :: rest) = spell (c :: last :: before) rest := by
  rw [spell, wordsFrom, if_pos hc]
  simp only [h, Bool.false_eq_true, if_false, spell]

/-- What is written begins with the word begun so far, and its last character alone decides how it
goes on. -/
theorem spell_append (last : Char) (more before text : List Char) :
    spell (last :: more ++ before) text = before.reverse ++ spell (last :: more) text := by
  induction text generalizing last more with
  | nil => simp [spell, wordsFrom]
  | cons c rest ih =>
    cases hc : isAlphanumeric c with
    | false =>
      rw [List.cons_append, spell_close hc, spell_close hc, ← List.cons_append,
        List.reverse_append, List.append_assoc]
    | true =>
      cases hbreak : isBoundary last c rest.head? with
      | true =>
        rw [List.cons_append, spell_break hc hbreak, spell_break hc hbreak, ← List.cons_append,
          List.reverse_append, List.append_assoc]
      | false =>
        rw [List.cons_append, spell_grow hc hbreak, spell_grow hc hbreak]
        exact ih c (last :: more)

/-- A letter or number is written behind the one before it, with a hyphen between at a boundary. -/
theorem spell_next (hc : isAlphanumeric c = true) :
    spell (last :: before) (c :: rest) =
      (last :: before).reverse ++ (if isBoundary last c rest.head? then ['-'] else []) ++
        spell [c] rest := by
  cases hbreak : isBoundary last c rest.head? with
  | true => simp [spell_break hc hbreak]
  | false =>
    have happend := spell_append c [] (last :: before) rest
    rw [spell_grow hc hbreak, ← List.singleton_append, happend]
    simp

end Spelling

private theorem ne_hyphen {c : Char} (h : isAlphanumeric c = true) : (c != '-') = true := by
  rw [bne_iff_ne]
  rintro rfl
  exact absurd h (by decide)

private theorem filter_of_isAlphanumeric
    {word : List Char} (h : ∀ c ∈ word, isAlphanumeric c = true) :
    word.filter (· != '-') = word :=
  List.filter_eq_self.mpr fun c hc => ne_hyphen (h c hc)

/-- What is written has, but for the hyphens, the letters and numbers and nothing else. -/
theorem filter_spell {word : List Char} (hword : ∀ c ∈ word, isAlphanumeric c = true)
    (text : List Char) :
    (spell word text).filter (· != '-') = word.reverse ++ text.filter isAlphanumeric := by
  have hjoin (words : List (List Char))
      (h : ∀ found ∈ words, ∀ c ∈ found, isAlphanumeric c = true) :
      (['-'].intercalate words).filter (· != '-') = words.flatten := by
    induction words with
    | nil => rfl
    | cons first others ih =>
      rw [List.forall_mem_cons] at h
      rw [intercalate_hyphen_cons, List.filter_append, filter_of_isAlphanumeric h.1,
        List.flatten_cons, ← ih h.2]
      split
      next hnone => simp [hnone]
      next => simp
  rw [spell, hjoin _ (isAlphanumeric_of_mem_wordsFrom hword), flatten_wordsFrom]

/-- A letter or number is written first that begins a word. -/
theorem exists_spell_singleton {c : Char} (hc : isAlphanumeric c = true) (text : List Char) :
    ∃ after, spell [c] text = c :: after ∧
      after.filter (· != '-') = text.filter isAlphanumeric := by
  have hbegin : ∃ after, spell [c] text = c :: after := by
    cases text with
    | nil => exact ⟨[], by simp [spell, wordsFrom]⟩
    | cons d rest =>
      cases hd : isAlphanumeric d with
      | true => exact ⟨_, by rw [spell_next hd]; rfl⟩
      | false => exact ⟨_, by rw [spell_close hd]; rfl⟩
  obtain ⟨after, hafter⟩ := hbegin
  have hfilter := filter_spell (List.forall_mem_singleton.mpr hc) text
  rw [hafter, List.filter_cons, if_pos (ne_hyphen hc)] at hfilter
  exact ⟨after, hafter, (List.cons.inj hfilter).2⟩

private theorem filter_hyphenIf (p : Prop) [Decidable p] :
    (if p then ['-'] else []).filter (· != '-') = [] := by
  split <;> rfl

/-- What is written up to a letter or number has the letters and numbers before it, and it goes on
as if that one were the first. -/
theorem exists_spell_append {left : Char} (hleft : isAlphanumeric left = true)
    (front rest : List Char) {word : List Char} (hword : ∀ c ∈ word, isAlphanumeric c = true) :
    ∃ before, spell word (front ++ left :: rest) = before ++ spell [left] rest ∧
      before.filter (· != '-') = word.reverse ++ front.filter isAlphanumeric := by
  -- Of the word begun so far only the last character is asked for, so that all of it can be put
  -- into `before` at the first character that is read.
  induction front generalizing word with
  | nil =>
    cases word with
    | nil => exact ⟨[], spell_begin hleft, rfl⟩
    | cons last begun =>
      refine ⟨_, spell_next hleft, ?_⟩
      rw [List.filter_append, List.filter_reverse, filter_of_isAlphanumeric hword, filter_hyphenIf]
      rfl
  | cons c front ih =>
    cases hc : isAlphanumeric c with
    | true =>
      obtain ⟨before, hspell, hfilter⟩ := ih (List.forall_mem_singleton.mpr hc)
      rw [List.cons_append, List.filter_cons, if_pos hc]
      cases word with
      | nil => exact ⟨before, by rw [spell_begin hc, hspell], hfilter⟩
      | cons last begun =>
        refine ⟨_, by rw [spell_next hc, hspell, ← List.append_assoc], ?_⟩
        rw [List.filter_append, List.filter_append,
          List.filter_reverse, filter_of_isAlphanumeric hword, filter_hyphenIf, hfilter]
        simp
    | false =>
      obtain ⟨before, hspell, hfilter⟩ := ih (List.forall_mem_nil _)
      rw [List.cons_append, List.filter_cons, if_neg (Bool.eq_false_iff.mp hc)]
      cases word with
      | nil => exact ⟨before, by rw [spell_skip hc, hspell], hfilter⟩
      | cons last begun =>
        have hmore : wordsFrom [] (front ++ left :: rest) ≠ [] :=
          wordsFrom_ne_nil_of_mem (List.mem_append_right _ List.mem_cons_self) hleft
        refine ⟨(last :: begun).reverse ++ '-' :: before, ?_, ?_⟩
        · rw [spell_close hc, if_neg hmore, hspell]
          simp
        · rw [List.filter_append, List.filter_reverse, filter_of_isAlphanumeric hword,
            List.filter_cons, if_neg (by decide), hfilter]
          rfl

/-- Over characters that are no letters or numbers, the next one of these begins a word. -/
theorem spell_gap {left right : Char} (hright : isAlphanumeric right = true) {gap : List Char}
    (hgap : ∀ c ∈ gap, isAlphanumeric c = false) (back : List Char) :
    spell [left] (gap ++ right :: back) =
      left :: (if gap ≠ [] ∨ isBoundary left right back.head? then ['-'] else []) ++
        spell [right] back := by
  cases gap with
  | nil =>
    rw [List.nil_append, spell_next hright]
    simp
  | cons c gap =>
    rw [List.forall_mem_cons] at hgap
    have hmore : wordsFrom [] (gap ++ right :: back) ≠ [] :=
      wordsFrom_ne_nil_of_mem (List.mem_append_right _ List.mem_cons_self) hright
    have hskip : spell [] (gap ++ right :: back) = spell [right] back := by
      have hrest := hgap.2
      clear hmore hgap
      induction gap with
      | nil => exact spell_begin hright
      | cons d gap ih =>
        rw [List.forall_mem_cons] at hrest
        rw [List.cons_append, spell_skip hrest.1, ih hrest.2]
    rw [List.cons_append, spell_close hgap.1, if_neg hmore, hskip, if_pos (Or.inl nofun)]
    rfl

/-- Whether a word of an ASCII name ends between two neighbours, given what follows them. -/
def WordEnds (left right : Char) (next : Option Char) : Prop :=
  (left.isLower ∧ right.isUpper) ∨ (left.isAlpha ∧ right.isDigit) ∨
    (left.isDigit ∧ right.isAlpha) ∨ (left.isUpper ∧ right.isUpper ∧ next.any Char.isLower)

instance (left right : Char) (next : Option Char) : Decidable (WordEnds left right next) :=
  inferInstanceAs (Decidable (_ ∨ _))

private theorem isBoundary_iff
    {left right : Char} {next : Option Char} (hleft : isAscii left = true)
    (hright : isAscii right = true) (hnext : ∀ c ∈ next, isAscii c = true) :
    isBoundary left right next = true ↔ WordEnds left right next := by
  have hany : next.any isLower = next.any Char.isLower := by
    cases next with
    | none => rfl
    | some c => exact if_pos (hnext c rfl)
  simp only [isBoundary, WordEnds, isLower, isUpper, isAlphabetic, isNumeric, hleft, hright,
    if_true, hany, Bool.or_eq_true, Bool.and_eq_true, or_assoc, and_assoc]

/-- A word as it is written: small letters or digits. -/
structure IsPlain (word : List Char) : Prop where
  /-- It is not empty. -/
  ne_nil : word ≠ []
  /-- It has small letters only or digits only. -/
  kind : (∀ c ∈ word, c.isLower = true) ∨ ∀ c ∈ word, c.isDigit = true

/-- A word of one kind is plain in lower case. -/
theorem isPlain_map_toLower {word : List Char} (hne : word ≠ []) (hkind : Uniform word)
    (hascii : ∀ c ∈ word, isAscii c = true) : IsPlain (word.map Char.toLower) := by
  refine ⟨by simpa using hne, ?_⟩
  simp only [List.forall_mem_map]
  exact hkind.imp (fun h c hc => (kind_toLower_of_isAscii (hascii c hc)).1 (h c hc))
    fun h c hc => (kind_toLower_of_isAscii (hascii c hc)).2 (h c hc)

namespace IsPlain

variable {word : List Char}

/-- What holds of small letters and of digits holds of every character of a plain word. -/
theorem forall_mem (h : IsPlain word) {P : Char → Prop}
    (hletter : ∀ c : Char, c.isLower = true → P c) (hdigit : ∀ c : Char, c.isDigit = true → P c) :
    ∀ c ∈ word, P c := by
  intro c hc
  rcases h.kind with h | h
  · exact hletter c (h c hc)
  · exact hdigit c (h c hc)

private theorem isAscii (h : IsPlain word) : ∀ c ∈ word, isAscii c = true :=
  h.forall_mem (fun _ => isAscii_of_isLower) fun _ => isAscii_of_isDigit

private theorem isAlphanumeric (h : IsPlain word) : ∀ c ∈ word, isAlphanumeric c = true :=
  h.forall_mem (fun _ hc => (kind_of_isLower hc).1) fun _ hc => (kind_of_isDigit hc).1

private theorem map_toLower (h : IsPlain word) : word.map Char.toLower = word := by
  have hsame : ∀ c ∈ word, c.toLower = id c :=
    h.forall_mem (fun _ hc => (kind_of_isLower hc).2.2.2) fun _ hc => (kind_of_isDigit hc).2.2.2
  rw [List.map_congr_left hsame, List.map_id]

/-- No word ends inside a plain one. -/
theorem isBoundary_eq_false {last c : Char} (h : IsPlain (last :: c :: word))
    (next : Option Char) : isBoundary last c next = false := by
  rcases h.kind with h | h
  · obtain ⟨-, hnumeric, hupper, -⟩ := kind_of_isLower (h last List.mem_cons_self)
    obtain ⟨-, hnumeric', hupper', -⟩ := kind_of_isLower (h c (by simp))
    simp [isBoundary, hnumeric, hupper, hnumeric', hupper']
  · obtain ⟨-, halphabetic, hupper, -⟩ := kind_of_isDigit (h last List.mem_cons_self)
    obtain ⟨-, halphabetic', hupper', -⟩ := kind_of_isDigit (h c (by simp))
    simp [isBoundary, halphabetic, hupper, halphabetic', hupper']

private theorem tail {last c : Char} (h : IsPlain (last :: c :: word)) : IsPlain (c :: word) :=
  ⟨List.cons_ne_nil c word, h.kind.imp (fun h d hd => h d (List.mem_cons_of_mem _ hd))
    fun h d hd => h d (List.mem_cons_of_mem _ hd)⟩

/-- A plain word is carried on to its end. -/
theorem wordsFrom_append {last : Char} (h : IsPlain (last :: word)) (before rest : List Char) :
    wordsFrom (last :: before) (word ++ rest) =
      wordsFrom (word.reverse ++ last :: before) rest := by
  induction word generalizing last before with
  | nil => rfl
  | cons c word ih =>
    have hc : Text.isAlphanumeric c = true := h.isAlphanumeric c (by simp)
    rw [List.cons_append, wordsFrom, if_pos hc]
    simp only [h.isBoundary_eq_false, Bool.false_eq_true, if_false]
    rw [ih h.tail, List.reverse_cons, List.append_assoc, List.singleton_append]

/-- A plain word is read as one. -/
theorem wordsFrom_nil_append (h : IsPlain word) (rest : List Char) :
    wordsFrom [] (word ++ rest) = wordsFrom word.reverse rest := by
  cases word with
  | nil => exact absurd rfl h.ne_nil
  | cons c word =>
    have hc : Text.isAlphanumeric c = true := h.isAlphanumeric c List.mem_cons_self
    rw [List.cons_append, wordsFrom, if_pos hc]
    simp only [h.wordsFrom_append, List.reverse_cons]

end IsPlain

/-- Plain words with a hyphen between each two are read back. -/
theorem wordsFrom_intercalate {words : List (List Char)} (h : ∀ word ∈ words, IsPlain word) :
    wordsFrom [] (['-'].intercalate words) = words := by
  induction words with
  | nil => rfl
  | cons word rest ih =>
    rw [List.forall_mem_cons] at h
    have hne : word.reverse ≠ [] := by simpa using h.1.ne_nil
    cases rest with
    | nil =>
      have hread := h.1.wordsFrom_nil_append []
      rw [List.append_nil] at hread
      rw [List.intercalate_singleton, hread, wordsFrom, if_neg (by simpa using hne),
        List.reverse_reverse]
    | cons next more =>
      rw [List.intercalate_cons_cons, List.append_assoc, h.1.wordsFrom_nil_append,
        List.singleton_append, wordsFrom_close hne (by decide), ih h.2, List.reverse_reverse]

/-- The words of an ASCII name as they are written. -/
def written (name : String) : List (List Char) :=
  (wordsFrom [] name.toList).map (·.map Char.toLower)

private theorem toList_intercalate_hyphen (words : List (List Char)) :
    ("-".intercalate (words.map String.ofList)).toList = ['-'].intercalate words := by
  rw [String.toList_intercalate, List.map_map]
  have hchars : String.toList ∘ String.ofList = id := funext fun _ => String.toList_ofList
  rw [hchars, List.map_id]
  rfl

section Ascii

variable {name : String} (hname : ∀ c ∈ name.toList, isAscii c = true)
include hname

private theorem isAscii_of_mem_wordsFrom :
    ∀ found ∈ wordsFrom [] name.toList, ∀ c ∈ found, isAscii c = true := by
  intro found hfound c hc
  have hflat : c ∈ (wordsFrom [] name.toList).flatten := List.mem_flatten.mpr ⟨found, hfound, hc⟩
  rw [flatten_wordsFrom, List.reverse_nil, List.nil_append] at hflat
  exact hname c (List.mem_of_mem_filter hflat)

private theorem isPlain_of_mem_written : ∀ word ∈ written name, IsPlain word := by
  rw [written, List.forall_mem_map]
  exact fun word hword => isPlain_map_toLower (ne_nil_of_mem_wordsFrom word hword)
    (uniform_of_mem_wordsFrom uniform_nil word hword) (isAscii_of_mem_wordsFrom hname word hword)

private theorem kebab_eq_intercalate_written :
    kebab name = "-".intercalate ((written name).map String.ofList) := by
  rw [kebab, words, written, List.map_map, List.map_map]
  congr 1
  refine List.map_congr_left fun word hword => ?_
  have hascii := isAscii_of_mem_wordsFrom hname word hword
  rw [Function.comp_apply, lowercase, String.toList_ofList, lowerAfter_of_isAscii hascii,
    Function.comp_apply]

private theorem toList_kebab : (kebab name).toList = (spell [] name.toList).map Char.toLower := by
  have hjoin (words : List (List Char)) :
      ['-'].intercalate (words.map (·.map Char.toLower)) =
        (['-'].intercalate words).map Char.toLower := by
    induction words with
    | nil => rfl
    | cons word rest ih =>
      rw [List.map_cons, intercalate_hyphen_cons, intercalate_hyphen_cons, ih, List.map_append]
      split <;> simp_all
  rw [kebab_eq_intercalate_written hname, toList_intercalate_hyphen, written, hjoin, spell]

end Ascii

private theorem toLower_eq_hyphen_iff {c : Char} : c.toLower = '-' ↔ c = '-' := by
  unfold Char.toLower
  split
  next hupper =>
    have hge : 65 ≤ c.toNat := UInt32.le_iff_toNat_le.mp hupper.1
    have hle : c.toNat ≤ 90 := UInt32.le_iff_toNat_le.mp hupper.2
    constructor
    · intro h
      have hval : (c.toNat + 32) % 2 ^ 32 = 45 := congrArg Char.toNat h
      omega
    · rintro rfl
      exact absurd hge (by decide)
  next => exact Iff.rfl

private theorem filter_map_toLower (text : List Char) :
    (text.map Char.toLower).filter (· != '-') = (text.filter (· != '-')).map Char.toLower := by
  have hhyphen (c : Char) : (c.toLower != '-') = (c != '-') := by
    rw [Bool.eq_iff_iff, bne_iff_ne, bne_iff_ne, ne_eq, toLower_eq_hyphen_iff]
  rw [List.filter_map]
  simp only [Function.comp_def, hhyphen]

/-- What is in kebab case already stays as it is. -/
theorem kebab_intercalate {words : List (List Char)} (h : ∀ word ∈ words, IsPlain word) :
    kebab ("-".intercalate (words.map String.ofList)) =
      "-".intercalate (words.map String.ofList) := by
  have hread : wordsFrom [] ("-".intercalate (words.map String.ofList)).toList = words := by
    rw [toList_intercalate_hyphen, wordsFrom_intercalate h]
  rw [kebab, Kebab.words, hread, List.map_map]
  congr 1
  refine List.map_congr_left fun word hword => ?_
  rw [Function.comp_apply, lowercase, String.toList_ofList,
    lowerAfter_of_isAscii (h word hword).isAscii, (h word hword).map_toLower]

/-- What an ASCII name is in kebab case, said of the two texts. -/
structure IsKebabOf (name text : String) : Prop where
  /-- The text is any number of plain words, with a hyphen between each two. -/
  words : ∃ words : List String, text = "-".intercalate words ∧
    ∀ word ∈ words, IsPlain word.toList
  /-- But for the hyphens it is the letters and digits of the name in lower case. -/
  letters : text.toList.filter (· != '-') =
    (name.toList.filter Char.isAlphanum).map Char.toLower
  /-- Two letters or digits of the name with none between them stand in different words, and so have
  a hyphen between them, exactly if other characters stand between them or a word ends there. -/
  hyphens : ∀ front left gap right back,
    name.toList = front ++ left :: gap ++ right :: back →
    left.isAlphanum = true → right.isAlphanum = true → (∀ c ∈ gap, c.isAlphanum = false) →
      ∃ before after,
        text.toList = before ++ left.toLower ::
          (if gap ≠ [] ∨ WordEnds left right back.head? then ['-'] else []) ++
            right.toLower :: after ∧
        before.filter (· != '-') = (front.filter Char.isAlphanum).map Char.toLower ∧
        after.filter (· != '-') = (back.filter Char.isAlphanum).map Char.toLower

section Ascii

variable {name : String} (hname : ∀ c ∈ name.toList, isAscii c = true)
include hname

private theorem filter_isAlphanumeric {part : List Char} (h : part ⊆ name.toList) :
    part.filter isAlphanumeric = part.filter Char.isAlphanum :=
  List.filter_congr fun c hc => isAlphanumeric_of_isAscii (hname c (h hc))

private theorem letters_kebab :
    (kebab name).toList.filter (· != '-') =
      (name.toList.filter Char.isAlphanum).map Char.toLower := by
  rw [toList_kebab hname, filter_map_toLower, filter_spell (List.forall_mem_nil _),
    filter_isAlphanumeric hname (List.Subset.refl _)]
  rfl

private theorem hyphens_kebab {front gap back : List Char} {left right : Char}
    (hsplit : name.toList = front ++ left :: gap ++ right :: back)
    (hleft : left.isAlphanum = true) (hright : right.isAlphanum = true)
    (hgap : ∀ c ∈ gap, c.isAlphanum = false) :
    ∃ before after,
      (kebab name).toList = before ++ left.toLower ::
        (if gap ≠ [] ∨ WordEnds left right back.head? then ['-'] else []) ++
          right.toLower :: after ∧
      before.filter (· != '-') = (front.filter Char.isAlphanum).map Char.toLower ∧
      after.filter (· != '-') = (back.filter Char.isAlphanum).map Char.toLower := by
  have hsub : front ⊆ name.toList ∧ left :: right :: gap ++ back ⊆ name.toList := by
    rw [hsplit]
    grind
  have hmem (c : Char) (hc : c ∈ left :: right :: gap ++ back) : isAscii c = true :=
    hname c (hsub.2 hc)
  have hleft' : isAlphanumeric left = true := by
    rwa [isAlphanumeric_of_isAscii (hmem left (by simp))]
  have hright' : isAlphanumeric right = true := by
    rwa [isAlphanumeric_of_isAscii (hmem right (by simp))]
  have hgap' : ∀ c ∈ gap, isAlphanumeric c = false := by
    intro c hc
    rw [isAlphanumeric_of_isAscii (hmem c (by simp [hc])), hgap c hc]
  have hends : isBoundary left right back.head? = true ↔ WordEnds left right back.head? :=
    isBoundary_iff (hmem left (by simp)) (hmem right (by simp)) fun c hc =>
      hmem c (by simp [List.mem_of_head? hc])
  obtain ⟨before, hbefore, hfront⟩ :=
    exists_spell_append hleft' front (gap ++ right :: back) (List.forall_mem_nil _)
  obtain ⟨after, hafter, hback⟩ := exists_spell_singleton hright' back
  refine ⟨before.map Char.toLower, after.map Char.toLower, ?_, ?_, ?_⟩
  · rw [toList_kebab hname, hsplit, List.append_assoc, List.cons_append, hbefore,
      spell_gap hright' hgap', hafter]
    simp only [hends]
    split <;> simp
  · rw [filter_map_toLower, hfront, filter_isAlphanumeric hname hsub.1]
    rfl
  · have hsubBack : back ⊆ name.toList := fun c hc => hsub.2 (by simp [hc])
    rw [filter_map_toLower, hback, filter_isAlphanumeric hname hsubBack]

end Ascii

/-- An ASCII name in kebab case is its letters and digits in lower case, parted by hyphens where
other characters stand between them or a word ends, and a second time it stays as it is. -/
theorem isKebabOf_kebab {name : String} (hname : ∀ c ∈ name.toList, isAscii c = true) :
    IsKebabOf name (kebab name) ∧ kebab (kebab name) = kebab name := by
  have hplain : ∀ word ∈ written name, IsPlain word := isPlain_of_mem_written hname
  have hkebab := kebab_eq_intercalate_written hname
  have hwords : ∃ words : List String, kebab name = "-".intercalate words ∧
      ∀ word ∈ words, IsPlain word.toList := by
    refine ⟨(written name).map String.ofList, hkebab, ?_⟩
    rw [List.forall_mem_map]
    intro word hword
    rw [String.toList_ofList]
    exact hplain word hword
  have hagain : kebab (kebab name) = kebab name := by
    rw [hkebab, kebab_intercalate hplain]
  exact ⟨⟨hwords, letters_kebab hname, fun _ _ _ _ _ => hyphens_kebab hname⟩, hagain⟩

/-- A name with every kind of boundary. -/
theorem isKebabOf_kebab_page :
    (∀ c ∈ "getHTTPPage2_x".toList, isAscii c = true) ∧
      IsKebabOf "getHTTPPage2_x" "get-http-page-2-x" ∧
      kebab "get-http-page-2-x" = "get-http-page-2-x" := by
  have hname : ∀ c ∈ "getHTTPPage2_x".toList, isAscii c = true :=
    List.all_eq_true.mp (by decide +kernel)
  have hkebab : kebab "getHTTPPage2_x" = "get-http-page-2-x" := by decide +kernel
  have h := isKebabOf_kebab hname
  rw [hkebab] at h
  exact ⟨hname, h⟩

end Kebab

end Signpost.Text

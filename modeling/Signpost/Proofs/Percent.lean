import Signpost.Text.Percent

/-!
# What coding changes

Every escape is longer than what it stands for.  Main statements: a text is what it decodes to, or
it decodes to a shorter one; what was encoded is one segment of a path and one text of a query; and
in whichever way a text is encoded, with more escapes or with other digits, it is one segment and
decodes to the text.
-/

namespace Signpost.Text.Percent

private theorem decodeBytes_eq_or_length_lt (text : List UInt8) :
    decodeBytes text = text ∨ (decodeBytes text).length < text.length := by
  fun_induction decodeBytes text with
  | case1 => exact Or.inl rfl
  | case2 high low tail h l hhigh hlow ih =>
    right
    have hle : (decodeBytes tail).length ≤ tail.length := by
      rcases ih with heq | hlt
      · exact Nat.le_of_eq (congrArg List.length heq)
      · exact Nat.le_of_lt hlt
    simp only [List.length_cons]
    omega
  | case3 high low tail hhex ih => simpa using ih
  | case4 rest hrest ih => simpa using ih
  | case5 b rest hb ih => simpa using ih

/-- The bytes that a text decodes to, if they are UTF-8. -/
theorem bytes_of_decode? {text decoded : String} (h : decode? text = some decoded) :
    bytes decoded = decodeBytes (bytes text) := by
  unfold decode? String.fromUTF8? at h
  split at h
  · obtain rfl := Option.some.inj h
    simp [bytes, String.fromUTF8]
  · contradiction

private theorem bytes_inj {first second : String} :
    bytes first = bytes second ↔ first = second := by
  refine ⟨fun h => ?_, fun h => h ▸ rfl⟩
  rw [← String.toByteArray_inj]
  exact ByteArray.ext (Array.toList_inj.mp h)

/-- A text is what it decodes to, or it decodes to a shorter one. -/
theorem decode_eq_or_utf8ByteSize_lt (text : String) :
    decode text = text ∨ (decode text).utf8ByteSize < text.utf8ByteSize := by
  cases hdecode : decode? text with
  | none =>
    left
    rw [decode, hdecode, Option.getD_none]
  | some decoded =>
    have hbytes := bytes_of_decode? hdecode
    rw [decode, hdecode, Option.getD_some]
    rcases decodeBytes_eq_or_length_lt (bytes text) with heq | hlt
    · left
      rw [← bytes_inj, hbytes, heq]
    · right
      rw [← hbytes] at hlt
      exact hlt

/-- Nothing is left in what was encoded that parts the pieces of an address, and no plus, which a
query reads as a blank. -/
theorem not_mem_encode {c : Char} (hc : c ∈ ['/', '?', '&', '=', '+']) (text : String) :
    c ∉ (encode text).toList := by
  have hbyte (b : UInt8) : ∀ c ∈ ['/', '?', '&', '=', '+'], c ∉ encodeByte b := by
    have h : ∀ n : Fin 256,
        ['/', '?', '&', '=', '+'].all (!(encodeByte (UInt8.ofNat n)).contains ·) = true := by
      decide +kernel
    simpa using h ⟨b.toNat, b.toNat_lt⟩
  rw [encode, String.toList_ofList, List.mem_flatMap]
  rintro ⟨b, -, hmem⟩
  exact hbyte b c hc hmem

/-- Only the empty text is encoded as nothing. -/
theorem encode_eq_empty_iff {text : String} : encode text = "" ↔ text = "" := by
  constructor
  · intro h
    rw [← decode_encode text, decode_eq_empty_iff, h]
  · rintro rfl
    rfl

/-- The ways of writing bytes in one segment of a path: each as an escape, with hexadecimal digits
in either case, or as it is, if it neither begins an escape nor ends the segment. -/
inductive Written : List UInt8 → List UInt8 → Prop
  /-- Nothing is written as nothing. -/
  | nil : Written [] []
  /-- A byte is written as it is. -/
  | plain {b : UInt8} {text written : List UInt8} (hpercent : b ≠ 37) (hslash : b ≠ 47)
    (hrest : Written text written) : Written (b :: text) (b :: written)
  /-- A byte is written as an escape. -/
  | escape {high low h l : UInt8} {text written : List UInt8} (hhigh : hexValue? high = some h)
    (hlow : hexValue? low = some l) (hrest : Written text written) :
    Written ((16 * h + l) :: text) (37 :: high :: low :: written)

/-- Whether a text is a way of writing another one in a segment of a path. -/
def Encodes (raw text : String) : Prop := Written (bytes text) (bytes raw)

private theorem Written.decodeBytes_eq {text written : List UInt8} (h : Written text written) :
    decodeBytes written = text := by
  induction h with
  | nil => rfl
  | plain hpercent _ _ ih => rw [decodeBytes.eq_def]; simp [hpercent, ih]
  | escape hhigh hlow _ ih => rw [decodeBytes.eq_def]; simp [hhigh, hlow, ih]

private theorem Written.slash_not_mem {text written : List UInt8} (h : Written text written) :
    (47 : UInt8) ∉ written := by
  have hdigit : hexValue? 47 = none := by decide
  induction h with
  | nil => exact List.not_mem_nil
  | plain _ hslash _ ih => simp [ih, hslash.symm]
  | escape hhigh hlow _ ih =>
    simp only [List.mem_cons, not_or]
    refine ⟨by decide, ?_, ?_, ih⟩ <;> rintro rfl
    · simp [hdigit] at hhigh
    · simp [hdigit] at hlow

/-- In whichever way a text is encoded, it is decoded. -/
theorem Encodes.decode_eq {raw text : String} (h : Encodes raw text) : decode raw = text := by
  rw [decode, decode?_of_decodeBytes (Written.decodeBytes_eq h), Option.getD_some]

/-- However a text is encoded, no slash of it is left. -/
theorem Encodes.slash_not_mem {raw text : String} (h : Encodes raw text) : '/' ∉ raw.toList := by
  intro hmem
  have hbyte : (47 : UInt8) ∈ bytes raw := by
    rw [← String.ofList_toList (s := raw), bytes_ofList]
    exact List.mem_flatMap.mpr ⟨'/', hmem, by decide⟩
  exact Written.slash_not_mem h hbyte

/-- A byte and what follows it are written as `encode` writes the byte and then what follows. -/
theorem Written.encodeByte_append (b : UInt8) {text written : List UInt8}
    (h : Written text written) :
    Written (b :: text) ((encodeByte b).flatMap String.utf8EncodeChar ++ written) := by
  rcases encodeByte_cases b with ⟨hb, hpercent⟩ | ⟨high, low, hh, ll, hb, hhigh, hlow, rfl⟩
  · have hslash : b ≠ 47 := by
      rintro rfl
      exact absurd hb (by decide)
    rw [hb]
    exact .plain hpercent hslash h
  · rw [hb]
    exact .escape hhigh hlow h

/-- What `encode` makes of a text is one of the ways of encoding it. -/
theorem encodes_encode (text : String) : Encodes (encode text) text := by
  rw [Encodes, encode, bytes_ofList, List.flatMap_assoc]
  induction bytes text with
  | nil => exact .nil
  | cons b rest ih =>
    rw [List.flatMap_cons]
    exact ih.encodeByte_append b

end Signpost.Text.Percent

/-!
# Percent coding

`encode` writes every byte of a text that is not unreserved as `%` and two upper-case hexadecimal
digits; `decode` reads such escapes, in either case.  An escape that is not complete stands for
itself, and a text whose decoded bytes are not UTF-8 is left as it is.  Main statement: decoding
what was encoded gives the text back.
-/

namespace Signpost.Text.Percent

/-- The bytes of a text in UTF-8. -/
def bytes (text : String) : List UInt8 := text.toUTF8.data.toList

/-- The bytes that stand for themselves in every part of an address. -/
def isUnreserved (b : UInt8) : Bool :=
  (48 ≤ b && b ≤ 57) || (65 ≤ b && b ≤ 90) || (97 ≤ b && b ≤ 122) ||
    b == 45 || b == 46 || b == 95 || b == 126

/-- The upper-case hexadecimal digit of a number below sixteen. -/
def hexDigit (n : UInt8) : Char :=
  Char.ofNat (if n < 10 then 48 + n.toNat else 55 + n.toNat)

/-- The value of a hexadecimal digit, in either case. -/
def hexValue? (b : UInt8) : Option UInt8 :=
  if 48 ≤ b && b ≤ 57 then some (b - 48)
  else if 65 ≤ b && b ≤ 70 then some (b - 55)
  else if 97 ≤ b && b ≤ 102 then some (b - 87)
  else none

/-- One byte, as it is written. -/
def encodeByte (b : UInt8) : List Char :=
  if isUnreserved b then [Char.ofNat b.toNat] else ['%', hexDigit (b / 16), hexDigit (b % 16)]

/-- Write a text so that it can stand in a path segment or in a query. -/
def encode (text : String) : String := String.ofList ((bytes text).flatMap encodeByte)

/-- Read the escapes in a sequence of bytes. -/
def decodeBytes : List UInt8 → List UInt8
  | [] => []
  | b :: rest =>
    if b = 37 then
      match rest with
      | high :: low :: tail =>
        match hexValue? high, hexValue? low with
        | some h, some l => (16 * h + l) :: decodeBytes tail
        | _, _ => b :: decodeBytes (high :: low :: tail)
      | rest => b :: decodeBytes rest
    else b :: decodeBytes rest

/-- Read the escapes in a text, if what they stand for is UTF-8. -/
def decode? (text : String) : Option String :=
  String.fromUTF8? (decodeBytes (bytes text)).toByteArray

/-- Read the escapes in a text; a text that does not decode is kept. -/
def decode (text : String) : String := (decode? text).getD text

/-- The bytes of a text are those of its characters. -/
theorem bytes_ofList (text : List Char) :
    bytes (String.ofList text) = text.flatMap String.utf8EncodeChar := by
  simp [bytes, List.utf8Encode]

/-- Whether the bytes that write a byte read back as it. -/
def readsBack (b : UInt8) : Bool :=
  match (encodeByte b).flatMap String.utf8EncodeChar with
  | [c] => c == b && b != 37
  | [c, high, low] =>
    match hexValue? high, hexValue? low with
    | some h, some l => c == 37 && 16 * h + l == b
    | _, _ => false
  | _ => false

private theorem readsBack_eq_true (b : UInt8) : readsBack b = true := by
  have h : ∀ n : Fin 256, readsBack (UInt8.ofNat n) = true := by decide +kernel
  simpa using h ⟨b.toNat, b.toNat_lt⟩

/-- A byte is written as itself or as an escape that stands for it. -/
theorem encodeByte_cases (b : UInt8) :
    ((encodeByte b).flatMap String.utf8EncodeChar = [b] ∧ b ≠ 37) ∨
      ∃ high low h l, (encodeByte b).flatMap String.utf8EncodeChar = [37, high, low] ∧
        hexValue? high = some h ∧ hexValue? low = some l ∧ 16 * h + l = b := by
  have h := readsBack_eq_true b
  unfold readsBack at h
  split at h
  next c hc =>
    simp only [Bool.and_eq_true, beq_iff_eq, bne_iff_ne, ne_eq] at h
    obtain ⟨rfl, hpercent⟩ := h
    exact Or.inl ⟨hc, hpercent⟩
  next c high low hc =>
    split at h
    next hh ll hhigh hlow =>
      simp only [Bool.and_eq_true, beq_iff_eq] at h
      obtain ⟨rfl, hvalue⟩ := h
      exact Or.inr ⟨high, low, hh, ll, hc, hhigh, hlow, hvalue⟩
    next => simp at h
  next => simp at h

/-- Decoding goes over the escape of one byte and on with the rest. -/
theorem decodeBytes_encodeByte_append (b : UInt8) (rest : List UInt8) :
    decodeBytes ((encodeByte b).flatMap String.utf8EncodeChar ++ rest) = b :: decodeBytes rest := by
  rcases encodeByte_cases b with ⟨hb, hpercent⟩ | ⟨high, low, h, l, hb, hhigh, hlow, hvalue⟩
  · rw [hb, List.singleton_append, decodeBytes.eq_def]
    simp [hpercent]
  · rw [hb, decodeBytes.eq_def]
    simp [hhigh, hlow, hvalue]

/-- Decoding restores the bytes of a text. -/
theorem decodeBytes_bytes_encode (text : String) :
    decodeBytes (bytes (encode text)) = bytes text := by
  rw [encode, bytes_ofList, List.flatMap_assoc]
  induction bytes text with
  | nil => rfl
  | cons b rest ih => rw [List.flatMap_cons, decodeBytes_encodeByte_append, ih]

/-- A text decodes to another if its bytes do. -/
theorem decode?_of_decodeBytes {raw text : String} (h : decodeBytes (bytes raw) = bytes text) :
    decode? raw = some text := by
  rw [decode?, h, String.fromUTF8?]
  have hbytes : (bytes text).toByteArray = text.toByteArray := by
    ext1
    simp [bytes]
  simp [hbytes, text.isValidUTF8, String.fromUTF8]

/-- Decoding what was encoded gives the text back. -/
theorem decode?_encode (text : String) : decode? (encode text) = some text :=
  decode?_of_decodeBytes (decodeBytes_bytes_encode text)

/-- A text is decoded from what it was encoded as. -/
@[simp] theorem decode_encode (text : String) : decode (encode text) = text := by
  simp [decode, decode?_encode]

private theorem decodeBytes_eq_nil_iff {text : List UInt8} : decodeBytes text = [] ↔ text = [] := by
  fun_cases decodeBytes text <;> simp_all

/-- Nothing but the empty text decodes to it. -/
theorem decode_eq_empty_iff {text : String} : decode text = "" ↔ text = "" := by
  constructor
  · intro h
    cases hdecode : decode? text with
    | none => rwa [decode, hdecode] at h
    | some decoded =>
      rw [decode, hdecode, Option.getD_some] at h
      subst h
      unfold decode? String.fromUTF8? at hdecode
      split at hdecode
      · have hbytes : (decodeBytes (bytes text)).toByteArray = [].toByteArray :=
          congrArg String.toByteArray (Option.some.inj hdecode)
        rw [List.toByteArray_inj, decodeBytes_eq_nil_iff, bytes] at hbytes
        have hsize : text.utf8ByteSize = 0 := congrArg List.length hbytes
        exact String.utf8ByteSize_eq_zero_iff.mp hsize
      · contradiction
  · rintro rfl
    rfl

end Signpost.Text.Percent

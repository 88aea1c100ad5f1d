import Mathlib.Data.List.Basic
import Signpost.Request

/-!
# Setting headers

Setting a header makes its value the only one under its name, and leaves all other headers alone.
Main statements: a printable text is read back as it was set, and any other header reads as before.
-/

namespace Signpost

namespace Text

/-- Whether a text consists of printable ASCII characters. -/
def IsPrintable (text : String) : Prop := ∀ c ∈ text.toList, ' ' ≤ c ∧ c ≤ '~'

instance (text : String) : Decidable (IsPrintable text) :=
  List.decidableBAll (fun c => ' ' ≤ c ∧ c ≤ '~') text.toList

/-- A printable text is written with one byte for each of its characters. -/
theorem bytes_of_isPrintable {text : String} (h : IsPrintable text) :
    Percent.bytes text = text.toList.map fun c => c.val.toUInt8 := by
  have hbytes : Percent.bytes text = text.toList.flatMap String.utf8EncodeChar := by
    rw [← Percent.bytes_ofList, String.ofList_toList]
  rw [hbytes, List.map_eq_flatMap]
  refine List.flatMap_congr fun c hc => String.utf8EncodeChar_eq_singleton ?_
  rw [Char.utf8Size_eq_one_iff]
  exact UInt32.le_trans (h c hc).2 (by decide)

end Text

namespace Http

namespace HeaderValue

/-- The byte of a printable character can be read, and stands for the character. -/
theorem isReadableByte_of_isPrintable {c : Char} (hlow : ' ' ≤ c) (hhigh : c ≤ '~') :
    isReadableByte c.val.toUInt8 = true ∧ Char.ofNat c.val.toUInt8.toNat = c := by
  have hlow : 32 ≤ c.val.toNat := UInt32.le_iff_toNat_le.mp hlow
  have hhigh : c.val.toNat ≤ 126 := UInt32.le_iff_toNat_le.mp hhigh
  have hbyte : c.val.toUInt8.toNat = c.val.toNat := by
    rw [UInt32.toNat_toUInt8]
    omega
  constructor
  · have hleast : 32 ≤ c.val.toUInt8 := UInt8.le_iff_toNat_le.mpr (by rw [hbyte]; exact hlow)
    have hgreatest : c.val.toUInt8 < 127 := by
      rw [UInt8.lt_iff_toNat_lt, hbyte]
      exact Nat.lt_succ_of_le hhigh
    rw [isReadableByte, Bool.or_eq_true, Bool.and_eq_true]
    exact Or.inr ⟨decide_eq_true hleast, decide_eq_true hgreatest⟩
  · rw [hbyte]
    exact Char.ofNat_toNat c

private theorem isValidByte_of_isReadableByte {b : UInt8} (h : isReadableByte b = true) :
    isValidByte b = true := by
  rw [isReadableByte, Bool.or_eq_true, Bool.and_eq_true, decide_eq_true_eq, decide_eq_true_eq] at h
  rw [isValidByte, Bool.or_eq_true, Bool.and_eq_true, decide_eq_true_eq]
  rcases h with htab | ⟨hleast, hgreatest⟩
  · exact Or.inl htab
  · refine Or.inr ⟨hleast, bne_iff_ne.mpr fun heq => ?_⟩
    rw [heq] at hgreatest
    exact absurd hgreatest (by decide)

/-- A printable text is a value that reads as the text. -/
theorem exists_of_isPrintable {text : String} (h : Text.IsPrintable text) :
    ∃ value, ofText? text = some value ∧ value.text? = some text := by
  have hbytes := Text.bytes_of_isPrintable h
  have hreadable : ∀ b ∈ Text.Percent.bytes text, isReadableByte b = true := by
    rw [hbytes, List.forall_mem_map]
    exact fun c hc => (isReadableByte_of_isPrintable (h c hc).1 (h c hc).2).1
  have hvalid : (Text.Percent.bytes text).all isValidByte = true :=
    List.all_eq_true.mpr fun b hb => isValidByte_of_isReadableByte (hreadable b hb)
  have hchars : (Text.Percent.bytes text).map (fun b => Char.ofNat b.toNat) = text.toList := by
    rw [hbytes, List.map_map]
    refine (List.map_congr_left fun c hc => ?_).trans (List.map_id _)
    exact (isReadableByte_of_isPrintable (h c hc).1 (h c hc).2).2
  refine ⟨⟨Text.Percent.bytes text⟩, ?_, ?_⟩
  · rw [ofText?, if_pos hvalid]
  · rw [text?, if_pos (List.all_eq_true.mpr hreadable), hchars, String.ofList_toList]

end HeaderValue

namespace Headers

/-- A name has the value that was made the only one under it. -/
theorem first?_replace_self (headers : Headers) (name : String) (value : HeaderValue) :
    (headers.replace name value).first? name = some value := by
  rw [replace, first?]
  induction headers.fields with
  | nil => simp
  | cons field rest ih =>
    obtain ⟨key, first⟩ := field
    by_cases hkey : key = name
    · rw [List.filter_cons, if_neg (by simp [hkey])]
      exact ih
    · have hother : (name == key) = false := beq_false_of_ne (Ne.symm hkey)
      rw [List.filter_cons, if_pos (bne_iff_ne.mpr hkey), List.cons_append, List.lookup_cons,
        hother]
      exact ih

/-- No other name is concerned. -/
theorem first?_replace_of_ne (headers : Headers) {name other : String} (h : other ≠ name)
    (value : HeaderValue) : (headers.replace name value).first? other = headers.first? other := by
  rw [replace, first?, first?]
  induction headers.fields with
  | nil => simp [h]
  | cons field rest ih =>
    obtain ⟨key, first⟩ := field
    by_cases hkey : key = name
    · have hother : (other == key) = false := beq_false_of_ne (hkey ▸ h)
      rw [List.filter_cons, if_neg (by simp [hkey]), List.lookup_cons, hother]
      exact ih
    · rw [List.filter_cons, if_pos (bne_iff_ne.mpr hkey), List.cons_append, List.lookup_cons,
        List.lookup_cons, ih]

variable {name : String} (hname : headerName? name = some name)

include hname

/-- A printable text is read back as it was set. -/
theorem text?_set_self (headers : Headers) {text : String} (h : Text.IsPrintable text) :
    (headers.set name text).text? name = some text := by
  obtain ⟨value, hvalue, htext⟩ := HeaderValue.exists_of_isPrintable h
  rw [set, hname, hvalue, text?, get?, hname, Option.bind_some, first?_replace_self,
    Option.bind_some, htext]

/-- A header reads as before if another one is set. -/
theorem text?_set_of_ne (headers : Headers) {other : String}
    (hother : headerName? other = some other) (hne : name ≠ other) (text : String) :
    (headers.set other text).text? name = headers.text? name := by
  rw [set, hother]
  cases HeaderValue.ofText? text with
  | none => rfl
  | some value => rw [text?, text?, get?, get?, hname, Option.bind_some, Option.bind_some,
      first?_replace_of_ne headers hne]

end Headers

end Http

namespace Request

variable {ε : Type} {name : String} (hname : Http.headerName? name = some name)

include hname

/-- A header that was set reads as it was set. -/
theorem header?_setHeader_self (req : Request ε) {text : String} (h : Text.IsPrintable text) :
    (req.setHeader name text).header? name = some text :=
  req.headers.text?_set_self hname h

/-- The other headers read as before. -/
theorem header?_setHeader_of_ne (req : Request ε) {other : String}
    (hother : Http.headerName? other = some other) (hne : name ≠ other) (text : String) :
    (req.setHeader other text).header? name = req.header? name :=
  req.headers.text?_set_of_ne hname hother hne text

end Request

end Signpost

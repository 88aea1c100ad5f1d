import Mathlib.Data.String.Basic
import Signpost.Text.Percent

/-!
# The order of texts

Texts are compared character by character.  Main statement: their UTF-8 forms are in the same order,
byte by byte, since the first byte of a form shows its length, which grows with the character.
-/

namespace Signpost.Text

/-- The UTF-8 form of a character has one to four bytes, depending on how great it is. -/
theorem utf8EncodeChar_cases (c : Char) :
    (c.val.toNat ≤ 127 ∧ String.utf8EncodeChar c = [UInt8.ofNat c.val.toNat]) ∨
    (127 < c.val.toNat ∧ c.val.toNat ≤ 2047 ∧ String.utf8EncodeChar c =
      [UInt8.ofNat (c.val.toNat / 64 % 32 + 192), UInt8.ofNat (c.val.toNat % 64 + 128)]) ∨
    (2047 < c.val.toNat ∧ c.val.toNat ≤ 65535 ∧ String.utf8EncodeChar c =
      [UInt8.ofNat (c.val.toNat / 4096 % 16 + 224), UInt8.ofNat (c.val.toNat / 64 % 64 + 128),
        UInt8.ofNat (c.val.toNat % 64 + 128)]) ∨
    (65535 < c.val.toNat ∧ c.val.toNat < 1114112 ∧ String.utf8EncodeChar c =
      [UInt8.ofNat (c.val.toNat / 262144 % 8 + 240), UInt8.ofNat (c.val.toNat / 4096 % 64 + 128),
        UInt8.ofNat (c.val.toNat / 64 % 64 + 128), UInt8.ofNat (c.val.toNat % 64 + 128)]) := by
  have hbound : c.val.toNat < 1114112 := by
    rcases c.valid with hlow | ⟨-, hhigh⟩
    · exact hlow.trans (by decide)
    · exact hhigh
  unfold String.utf8EncodeChar
  dsimp only
  by_cases hone : c.val.toNat ≤ 127
  · exact Or.inl ⟨hone, if_pos hone⟩
  rw [if_neg hone]
  by_cases htwo : c.val.toNat ≤ 2047
  · exact Or.inr (Or.inl ⟨Nat.lt_of_not_le hone, htwo, if_pos htwo⟩)
  rw [if_neg htwo]
  by_cases hthree : c.val.toNat ≤ 65535
  · exact Or.inr (Or.inr (Or.inl ⟨Nat.lt_of_not_le htwo, hthree, if_pos hthree⟩))
  · exact Or.inr (Or.inr (Or.inr ⟨Nat.lt_of_not_le hthree, hbound, if_neg hthree⟩))

/-- Bytes are in order if the first ones are, or if they are equal and the others are in order. -/
theorem cons_lt_cons_of_le {x y : Nat} {front back : List UInt8} (hx : x < 256) (hy : y < 256)
    (hle : x ≤ y) (h : x = y → front < back) :
    UInt8.ofNat x :: front < UInt8.ofNat y :: back := by
  rw [List.cons_lt_cons_iff]
  rcases Nat.lt_or_eq_of_le hle with hlt | rfl
  · left
    rwa [UInt8.lt_iff_toNat_lt, UInt8.toNat_ofNat_of_lt' hx, UInt8.toNat_ofNat_of_lt' hy]
  · exact Or.inr ⟨rfl, h rfl⟩

/-- The form of a greater character is greater, whatever comes after it. -/
theorem utf8EncodeChar_append_lt {c d : Char} (h : c < d) (front back : List UInt8) :
    String.utf8EncodeChar c ++ front < String.utf8EncodeChar d ++ back := by
  have hlt : c.val.toNat < d.val.toNat := h
  have hfirst {x y : Nat} {front back : List UInt8} (hx : x < 256) (hy : y < 256) (hxy : x < y) :
      UInt8.ofNat x :: front < UInt8.ofNat y :: back :=
    cons_lt_cons_of_le hx hy hxy.le fun heq => absurd heq hxy.ne
  -- Forms of different length differ in their first byte, forms of one length in some byte.
  rcases utf8EncodeChar_cases c with ⟨hc, hform⟩ | ⟨hc, hc', hform⟩ | ⟨hc, hc', hform⟩ |
      ⟨hc, hc', hform⟩ <;>
    rcases utf8EncodeChar_cases d with ⟨hd, hform'⟩ | ⟨hd, hd', hform'⟩ | ⟨hd, hd', hform'⟩ |
      ⟨hd, hd', hform'⟩ <;>
    rw [hform, hform'] <;> simp only [List.cons_append, List.nil_append]
  case inl.inl => exact hfirst (by omega) (by omega) hlt
  case inr.inl.inr.inl =>
    refine cons_lt_cons_of_le (by omega) (by omega) (by omega) fun _ => ?_
    exact hfirst (by omega) (by omega) (by omega)
  case inr.inr.inl.inr.inr.inl =>
    refine cons_lt_cons_of_le (by omega) (by omega) (by omega) fun _ => ?_
    refine cons_lt_cons_of_le (by omega) (by omega) (by omega) fun _ => ?_
    exact hfirst (by omega) (by omega) (by omega)
  case inr.inr.inr.inr.inr.inr =>
    refine cons_lt_cons_of_le (by omega) (by omega) (by omega) fun _ => ?_
    refine cons_lt_cons_of_le (by omega) (by omega) (by omega) fun _ => ?_
    refine cons_lt_cons_of_le (by omega) (by omega) (by omega) fun _ => ?_
    exact hfirst (by omega) (by omega) (by omega)
  all_goals exact hfirst (by omega) (by omega) (by omega)

private theorem flatMap_utf8EncodeChar_lt
    {front back : List Char} (h : List.Lex (· < ·) front back) :
    front.flatMap String.utf8EncodeChar < back.flatMap String.utf8EncodeChar := by
  induction h with
  | @nil c rest =>
    have hne : (c :: rest).flatMap String.utf8EncodeChar ≠ [] := by
      rw [List.flatMap_cons]
      rcases utf8EncodeChar_cases c with ⟨-, hform⟩ | ⟨-, -, hform⟩ | ⟨-, -, hform⟩ |
        ⟨-, -, hform⟩ <;> simp [hform]
    obtain ⟨byte, bytes, hbytes⟩ := List.exists_cons_of_ne_nil hne
    rw [hbytes]
    exact List.nil_lt_cons byte bytes
  | rel hlt => exact utf8EncodeChar_append_lt hlt _ _
  | cons _ ih => exact List.append_left_lt ih

/-- Texts are in the order of their bytes. -/
theorem bytes_lt_bytes {a b : String} (h : a < b) : Percent.bytes a < Percent.bytes b := by
  have hbytes (text : String) : Percent.bytes text = text.toList.flatMap String.utf8EncodeChar := by
    rw [← Percent.bytes_ofList, String.ofList_toList]
  rw [hbytes, hbytes]
  exact flatMap_utf8EncodeChar_lt h

end Signpost.Text

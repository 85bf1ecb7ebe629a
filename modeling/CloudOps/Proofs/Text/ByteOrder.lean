import Mathlib.Data.String.Basic

/-!
# Texts in the order of their bytes

Texts are compared character by character. `Text.lt_iff_bytes_lt` says that this is the order of
their UTF-8 bytes.
-/

namespace CloudOps.Text

/-- The bytes of a text in UTF-8. -/
def bytes (text : String) : List UInt8 := text.toUTF8.data.toList

/-- The bytes of a text are those of its characters. -/
theorem bytes_eq (text : String) : bytes text = text.toList.flatMap String.utf8EncodeChar := by
  rw [bytes, String.toUTF8_eq_toByteArray, ← String.utf8Encode_toList, List.utf8Encode,
    List.toList_data_toByteArray]

section Byte

variable {m n : Nat} (hm : m < 256) (hn : n < 256)

include hm hn

theorem ofNat_lt_ofNat : UInt8.ofNat m < UInt8.ofNat n ↔ m < n := by
  rw [UInt8.lt_iff_toNat_lt, UInt8.toNat_ofNat_of_lt' hm, UInt8.toNat_ofNat_of_lt' hn]

theorem ofNat_eq_ofNat : UInt8.ofNat m = UInt8.ofNat n ↔ m = n := by
  rw [← UInt8.toNat_inj, UInt8.toNat_ofNat_of_lt' hm, UInt8.toNat_ofNat_of_lt' hn]

end Byte

/-- A smaller character has smaller bytes, whatever follows. -/
theorem utf8EncodeChar_append_lt {c d : Char} (h : c < d) (rest rest' : List UInt8) :
    String.utf8EncodeChar c ++ rest < String.utf8EncodeChar d ++ rest' := by
  have lt : c.val.toNat < d.val.toNat := h
  have top : d.val.toNat < 0x110000 := by
    have valid := d.valid
    simp only [UInt32.isValidChar, Nat.isValidChar] at valid
    omega
  have bottom : c.val.toNat < 0x110000 := lt.trans top
  have digits (n : Nat) (h : n < 0x110000) :
      n / 262144 % 8 = n / 4096 / 64 ∧ n / 4096 = n / 64 / 64 := by omega
  have left_digits := digits _ bottom
  have right_digits := digits _ top
  simp only [String.utf8EncodeChar]
  generalize c.val.toNat = v, d.val.toNat = w at *
  repeat' split
  all_goals
    simp (disch := omega) only [List.cons_append, List.nil_append, List.cons_lt_cons_iff,
      ofNat_lt_ofNat, ofNat_eq_ofNat]
  -- The first byte tells codes of different lengths apart.
  all_goals try (left; omega)
  -- In codes of one length some byte differs, so what follows them does not matter.
  all_goals
    rcases Classical.em (rest < rest') with more | more <;>
      simp only [more, and_true, and_false, or_false] <;> omega

/-- A smaller text has smaller bytes. -/
theorem flatMap_utf8EncodeChar_lt {s t : List Char} (h : s < t) :
    s.flatMap String.utf8EncodeChar < t.flatMap String.utf8EncodeChar := by
  induction s generalizing t with
  | nil =>
    cases t with
    | nil => exact absurd h (List.lt_irrefl _)
    | cons d t =>
      have : String.utf8EncodeChar d ≠ [] := String.utf8EncodeChar_ne_nil
      obtain ⟨byte, more, hd⟩ := List.exists_cons_of_ne_nil this
      rw [List.flatMap_nil, List.flatMap_cons, hd, List.cons_append]
      exact List.nil_lt_cons _ _
  | cons c s ih =>
    cases t with
    | nil => exact absurd h (List.not_lt_nil _)
    | cons d t =>
      rw [List.flatMap_cons, List.flatMap_cons]
      rcases List.cons_lt_cons_iff.1 h with first | ⟨rfl, rest⟩
      · exact utf8EncodeChar_append_lt first _ _
      · exact List.append_left_lt (ih rest)

/-- **Byte order.** Texts are ordered as their bytes are. -/
theorem lt_iff_bytes_lt {s t : String} : s < t ↔ bytes s < bytes t := by
  have mono {s t : String} (h : s < t) : bytes s < bytes t := by
    rw [bytes_eq, bytes_eq]
    exact flatMap_utf8EncodeChar_lt (String.lt_iff.1 h)
  refine ⟨mono, fun h => ?_⟩
  rcases lt_trichotomy s t with less | rfl | more
  · exact less
  · exact absurd h (List.lt_irrefl _)
  · exact absurd (List.lt_trans h (mono more)) (List.lt_irrefl _)

end CloudOps.Text

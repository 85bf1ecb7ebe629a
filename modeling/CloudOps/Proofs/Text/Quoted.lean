import CloudOps.Text.Numeral
import CloudOps.Text.Parts
import CloudOps.Text.Quoted
import Mathlib.Tactic.SplitIfs

/-!
# Quoted text is read back

* `hexValue_hexDigits`: digits in base sixteen stand for their number.
* `Escape`: the three ways in which a character stands between the quotes. None begins another
  (`Escape.prefix_free`).
* `quoted_injective`: no two texts are quoted alike.
-/

namespace CloudOps

namespace Text

/-! ## Base sixteen -/

/-- The number that digits in base sixteen stand for. -/
def hexValue (digits : List Char) : Nat :=
  digits.foldl (fun n c => n * 16 + (hexValue? c).getD 0) 0

theorem hexValue?_digitChar : ∀ k < 16, hexValue? (Nat.digitChar k) = some k := by decide

/-- The last digit of a number and the digits in front of it. -/
theorem hexDigits_of_le {n : Nat} (large : 16 ≤ n) :
    hexDigits n = hexDigits (n / 16) ++ [Nat.digitChar (n % 16)] :=
  Nat.toDigits_of_base_le (by decide) large

theorem hexDigits_of_lt {n : Nat} (small : n < 16) : hexDigits n = [Nat.digitChar n] :=
  Nat.toDigits_of_lt_base small

theorem hexValue_hexDigits (n : Nat) : hexValue (hexDigits n) = n := by
  induction n using Nat.strongRecOn with
  | _ n before =>
    by_cases small : n < 16
    · simp [hexDigits_of_lt small, hexValue, hexValue?_digitChar n small]
    · have front : hexValue (hexDigits (n / 16)) = n / 16 := before _ (by omega)
      have last : hexValue? (Nat.digitChar (n % 16)) = some (n % 16) :=
        hexValue?_digitChar _ (by omega)
      rw [hexDigits_of_le (by omega), hexValue, List.foldl_append, ← hexValue, front,
        List.foldl_cons, List.foldl_nil, last, Option.getD_some]
      omega

theorem hexDigits_injective {m n : Nat} (same : hexDigits m = hexDigits n) : m = n := by
  rw [← hexValue_hexDigits m, same, hexValue_hexDigits]

/-- The closing brace is no digit. -/
theorem brace_not_mem_hexDigits (n : Nat) : '\x7d' ∉ hexDigits n := by
  have brace : ∀ k < 16, '\x7d' ≠ Nat.digitChar k := by decide
  induction n using Nat.strongRecOn with
  | _ n before =>
    by_cases small : n < 16
    · rw [hexDigits_of_lt small, List.mem_singleton]
      exact brace n small
    · rw [hexDigits_of_le (by omega), List.mem_append, List.mem_singleton, not_or]
      exact ⟨before _ (by omega), brace _ (by omega)⟩

/-! ## Characters -/

/-- The character that a letter behind a backslash stands for. -/
def named : Char → Char
  | 'n' => '\n'
  | 'r' => '\r'
  | 't' => '\t'
  | '0' => '\x00'
  | c => c

/-- How a character stands between the quotes. -/
inductive Escape (c : Char) : List Char → Prop
  /-- A backslash and a letter. -/
  | letter {letter : Char} (name : named letter = c) (other : letter ≠ 'u') :
      Escape c ['\\', letter]
  /-- A backslash, a mark and a code point. -/
  | code : Escape c (codePointEscape c)
  /-- As it is. -/
  | plain (other : c ≠ '\\') : Escape c [c]

theorem escape_escapeChar (c : Char) : Escape c (escapeChar c) := by
  unfold escapeChar
  split_ifs with quote backslash newline ret tab zero visible hidden
  · exact .letter quote.symm (by decide)
  · exact .letter backslash.symm (by decide)
  · exact .letter newline.symm (by decide)
  · exact .letter ret.symm (by decide)
  · exact .letter tab.symm (by decide)
  · exact .letter (Char.toNat_inj.1 zero.symm) (by decide)
  · exact .plain backslash
  · exact .code
  · exact .plain backslash

theorem codePointEscape_append (c : Char) (rest : List Char) :
    codePointEscape c ++ rest =
      '\\' :: 'u' :: '\x7b' :: (hexDigits c.toNat ++ '\x7d' :: rest) := by
  simp [codePointEscape]

/-- No form of a character begins another, whatever follows them. -/
theorem Escape.prefix_free {c d : Char} {form other more rest : List Char}
    (left : Escape c form) (right : Escape d other) (same : form ++ more = other ++ rest) :
    c = d ∧ more = rest := by
  cases left with
  | letter name notCode =>
    cases right with
    | letter name' =>
      simp only [List.cons_append, List.nil_append, List.cons.injEq, true_and] at same
      exact ⟨by rw [← name, ← name', same.1], same.2⟩
    | code =>
      rw [codePointEscape_append] at same
      exact absurd (List.cons.inj (List.cons.inj same).2).1 notCode
    | plain unlike => exact absurd (List.cons.inj same).1.symm unlike
  | code =>
    rw [codePointEscape_append] at same
    cases right with
    | letter _ notCode => exact absurd (List.cons.inj (List.cons.inj same).2).1.symm notCode
    | code =>
      rw [codePointEscape_append] at same
      simp only [List.cons.injEq, true_and] at same
      -- The closing brace ends the digits.
      have cut := congrArg (cutAt '}') same
      rw [cutAt_append (brace_not_mem_hexDigits _), cutAt_append (brace_not_mem_hexDigits _),
        Prod.mk.injEq, Option.some.injEq] at cut
      exact ⟨Char.toNat_inj.1 (hexDigits_injective cut.1), cut.2⟩
    | plain unlike => exact absurd (List.cons.inj same).1.symm unlike
  | plain unlike =>
    cases right with
    | letter => exact absurd (List.cons.inj same).1 unlike
    | code =>
      rw [codePointEscape_append] at same
      exact absurd (List.cons.inj same).1 unlike
    | plain => exact ⟨(List.cons.inj same).1, (List.cons.inj same).2⟩

theorem Escape.ne_nil {c : Char} {form : List Char} (escape : Escape c form) : form ≠ [] := by
  cases escape with
  | letter => simp
  | code => simp [codePointEscape]
  | plain => simp

/-! ## Texts -/

theorem flatMap_escapeChar_injective {text other : List Char}
    (same : text.flatMap escapeChar = other.flatMap escapeChar) : text = other := by
  induction text generalizing other with
  | nil =>
    cases other with
    | nil => rfl
    | cons d rest => simp [(escape_escapeChar d).ne_nil] at same
  | cons c more ih =>
    cases other with
    | nil => simp [(escape_escapeChar c).ne_nil] at same
    | cons d rest =>
      rw [List.flatMap_cons, List.flatMap_cons] at same
      obtain ⟨rfl, behind⟩ := (escape_escapeChar c).prefix_free (escape_escapeChar d) same
      rw [ih behind]

/-- **No two texts are quoted alike.** -/
theorem quoted_injective {text other : String} (same : quoted text = quoted other) :
    text = other := by
  have inside := (List.cons.inj (String.ofList_inj.1 same)).2
  exact String.toList_inj.1 (flatMap_escapeChar_injective (List.append_cancel_right inside))

end Text

end CloudOps

import LinkAudit.Text.Digit
import Mathlib.Data.List.Basic

/-!
Numbers in text. A number is read back from its decimal digits and, in any case of the letters, from
its hexadecimal digits, with any number of zeros in front. No digit is a blank.
-/

namespace LinkAudit.Text

/-- What holds of the first characters by their numbers holds of each of them. -/
theorem forall_char_of_forall_lt {bound : Nat} {P : Char → Prop} (h : ∀ n < bound, P (Char.ofNat n))
    {c : Char} (hc : c.toNat < bound) : P c := by
  rw [← Char.ofNat_toNat c]
  exact h c.toNat hc

theorem forall_digit_of_forall_lt {P : Char → Prop}
    (h : ∀ n < 58, (Char.ofNat n).isDigit = true → P (Char.ofNat n)) {c : Char}
    (hc : c.isDigit = true) : P c :=
  forall_char_of_forall_lt (P := fun c => c.isDigit = true → P c) h
    (Nat.lt_succ_of_le (Char.isDigit_iff_toNat.mp hc).2) hc

theorem digitChar_sub_of_isDigit {c : Char} (h : c.isDigit = true) :
    c.toNat - '0'.toNat < 10 ∧ (c.toNat - '0'.toNat).digitChar = c := by
  have hdigits : ∀ n < 58, (Char.ofNat n).isDigit = true →
      (Char.ofNat n).toNat - '0'.toNat < 10 ∧
        ((Char.ofNat n).toNat - '0'.toNat).digitChar = Char.ofNat n := by
    decide
  exact forall_digit_of_forall_lt
    (P := fun c => c.toNat - '0'.toNat < 10 ∧ (c.toNat - '0'.toNat).digitChar = c) hdigits h

/-- The decimal digits of a number with zeros in front. -/
def padded (zeros n : Nat) : Text := List.replicate zeros '0' ++ ofNat n

/-- Whether the text spells the number in decimal digits, with any number of zeros in front. -/
def IsDecimalSpelling (n : Nat) (t : Text) : Prop := ∃ zeros, t = padded zeros n

/-- Whether the text spells the number in hexadecimal digits, in any case of the letters and with
any number of zeros in front. -/
def IsHexSpelling (n : Nat) (t : Text) : Prop :=
  ∃ zeros, t.map Char.toLower = List.replicate zeros '0' ++ Nat.toDigits 16 n

theorem ofNat_injective : Function.Injective ofNat := by
  intro m n h
  rw [← Nat.ofDigitChars_ten_toDigits (n := m), ← Nat.ofDigitChars_ten_toDigits (n := n)]
  exact congrArg (Nat.ofDigitChars 10 · 0) h

theorem isDigit_of_mem_ofNat {n : Nat} {c : Char} (h : c ∈ ofNat n) : c.isDigit = true :=
  Nat.isDigit_of_mem_toDigits (by decide) (by decide) h

theorem padded_ne_nil (zeros n : Nat) : padded zeros n ≠ [] :=
  List.append_ne_nil_of_right_ne_nil _ Nat.toDigits_ne_nil

theorem isDigit_of_mem_padded {zeros n : Nat} {c : Char} (h : c ∈ padded zeros n) :
    c.isDigit = true := by
  rcases List.mem_append.mp h with hzero | hdigit
  · rw [(List.mem_replicate.mp hzero).2]
    rfl
  · exact isDigit_of_mem_ofNat hdigit

theorem ofDigitChars_padded (zeros n : Nat) : Nat.ofDigitChars 10 (padded zeros n) 0 = n := by
  rw [padded, Nat.ofDigitChars_append, Nat.ofDigitChars_replicate_zero, Nat.mul_zero, ofNat,
    Nat.ofDigitChars_ten_toDigits]

theorem decimalDigit?_of_isDigit {c : Char} (h : c.isDigit = true) :
    decimalDigit? c = some (c.toNat - '0'.toNat) := by
  obtain ⟨hlow, hhigh⟩ := Char.isDigit_iff_toNat.mp h
  have hzeros : zeros = '0'.toNat :: zeros.tail := rfl
  have hfirst : ('0'.toNat ≤ c.toNat && c.toNat ≤ '0'.toNat + 9) = true := by
    rw [Bool.and_eq_true, decide_eq_true_eq, decide_eq_true_eq]
    exact ⟨hlow, hhigh⟩
  rw [decimalDigit?, hzeros, List.find?_cons, hfirst]
  rfl

theorem isDecimal_of_isDigit {c : Char} (h : c.isDigit = true) : isDecimal c = true := by
  rw [isDecimal, decimalDigit?_of_isDigit h]
  rfl

/-- A decimal digit ends blanks, in every script. -/
theorem isBlank_eq_false_of_isDecimal {c : Char} (h : isDecimal c = true) : isBlank c = false := by
  have hdigits : ∀ z ∈ zeros, ∀ d < 10, isBlank (Char.ofNat (z + d)) = false := by decide +kernel
  obtain ⟨n, hn⟩ := Option.isSome_iff_exists.mp h
  obtain ⟨z, hfind, -⟩ := Option.map_eq_some_iff.mp hn
  have hrange := List.find?_some hfind
  rw [Bool.and_eq_true, decide_eq_true_eq, decide_eq_true_eq] at hrange
  have hc := hdigits z (List.mem_of_find?_eq_some hfind) (c.toNat - z) (by omega)
  rwa [Nat.add_sub_cancel' hrange.1, Char.ofNat_toNat] at hc

theorem decimalValue_eq_ofDigitChars {digits : Text} (h : ∀ c ∈ digits, c.isDigit = true) :
    decimalValue digits = Nat.ofDigitChars 10 digits 0 := by
  rw [decimalValue, value, Nat.ofDigitChars_eq_foldl]
  apply List.foldl_ext
  intro n c hc
  rw [decimalDigit?_of_isDigit (h c hc), Option.getD_some]

theorem IsDecimalSpelling.decimalValue_eq {n : Nat} {t : Text} (h : IsDecimalSpelling n t) :
    decimalValue t = n := by
  obtain ⟨zeros, rfl⟩ := h
  rw [decimalValue_eq_ofDigitChars fun c hc => isDigit_of_mem_padded hc, ofDigitChars_padded]

theorem isHex_iff {c : Char} :
    isHex c = true ↔ '0' ≤ c ∧ c ≤ '9' ∨ 'a' ≤ c ∧ c ≤ 'f' ∨ 'A' ≤ c ∧ c ≤ 'F' := by
  simp only [isHex, hexDigit?, Bool.and_eq_true, decide_eq_true_eq]
  split_ifs <;> simp_all

theorem toNat_lt_of_isHex {c : Char} (h : isHex c = true) : c.toNat < 103 := by
  have hbound {d : Char} (hd : d.toNat < 103) (hcd : c ≤ d) : c.toNat < 103 :=
    Nat.lt_of_le_of_lt (UInt32.le_iff_toNat_le.mp hcd) hd
  rcases isHex_iff.mp h with ⟨-, hdigit⟩ | ⟨-, hsmall⟩ | ⟨-, hcapital⟩
  · exact hbound (by decide) hdigit
  · exact hbound (by decide) hsmall
  · exact hbound (by decide) hcapital

/-- A blank ends a hexadecimal number. -/
theorem isHex_eq_false_of_isBlank {c : Char} (h : isBlank c = true) : isHex c = false := by
  have hdigits : ∀ n < 103, isBlank (Char.ofNat n) = true → isHex (Char.ofNat n) = false := by
    decide
  cases hhex : isHex c with
  | false => rfl
  | true =>
      rw [← hhex]
      exact forall_char_of_forall_lt (P := fun c => isBlank c = true → isHex c = false) hdigits
        (toNat_lt_of_isHex hhex) h

theorem hexDigit?_digitChar {d : Nat} (h : d < 16) : hexDigit? (Nat.digitChar d) = some d := by
  revert h d
  decide

theorem hexDigit?_toLower (c : Char) : hexDigit? c.toLower = hexDigit? c := by
  by_cases hupper : c.val ≥ 'A'.val ∧ c.val ≤ 'Z'.val
  · have hcapitals : ∀ n < 91, hexDigit? (Char.ofNat n).toLower = hexDigit? (Char.ofNat n) := by
      decide
    exact forall_char_of_forall_lt (P := fun c => hexDigit? c.toLower = hexDigit? c) hcapitals
      (Nat.lt_succ_of_le (UInt32.le_iff_toNat_le.mp hupper.2))
  · have hsame : c.toLower = c := dif_neg hupper
    rw [hsame]

theorem hexValue_map_toLower (t : Text) : hexValue (t.map Char.toLower) = hexValue t := by
  rw [hexValue, hexValue, value, value, List.foldl_map]
  apply List.foldl_ext
  intro n c _
  rw [hexDigit?_toLower]

theorem hexValue_append_singleton (t : Text) (c : Char) :
    hexValue (t ++ [c]) = 16 * hexValue t + (hexDigit? c).getD 0 := by
  simp [hexValue, value]

theorem hexValue_toDigits (n : Nat) : hexValue (Nat.toDigits 16 n) = n := by
  induction n using Nat.strongRecOn with
  | _ n ih =>
      rw [Nat.toDigits_eq_if (by decide)]
      split
      · rename_i hsmall
        simp [hexValue, value, hexDigit?_digitChar hsmall]
      · have hlast : n % 16 < 16 := Nat.mod_lt _ (by decide)
        rw [hexValue_append_singleton, ih (n / 16) (by omega), hexDigit?_digitChar hlast,
          Option.getD_some]
        omega

theorem hexValue_replicate_zero_append (zeros : Nat) (t : Text) :
    hexValue (List.replicate zeros '0' ++ t) = hexValue t := by
  induction zeros with
  | zero => rfl
  | succ zeros ih =>
      rw [List.replicate_succ, List.cons_append, ← ih]
      rfl

theorem IsHexSpelling.hexValue_eq {n : Nat} {t : Text} (h : IsHexSpelling n t) :
    hexValue t = n := by
  obtain ⟨zeros, hlower⟩ := h
  rw [← hexValue_map_toLower, hlower, hexValue_replicate_zero_append, hexValue_toDigits]

theorem IsHexSpelling.ne_nil {n : Nat} {t : Text} (h : IsHexSpelling n t) : t ≠ [] := by
  obtain ⟨zeros, hlower⟩ := h
  rintro rfl
  have hdigits := List.append_ne_nil_of_right_ne_nil (List.replicate zeros '0')
    (Nat.toDigits_ne_nil (n := n) (b := 16))
  exact hdigits hlower.symm

theorem exists_digitChar_of_mem_toDigits {n : Nat} {c : Char} (h : c ∈ Nat.toDigits 16 n) :
    ∃ d < 16, c = Nat.digitChar d := by
  induction n using Nat.strongRecOn with
  | _ n ih =>
      rw [Nat.toDigits_eq_if (by decide)] at h
      split at h
      · rename_i hsmall
        exact ⟨n, hsmall, List.mem_singleton.mp h⟩
      · rcases List.mem_append.mp h with hbefore | hlast
        · exact ih (n / 16) (by omega) hbefore
        · exact ⟨n % 16, Nat.mod_lt _ (by decide), List.mem_singleton.mp hlast⟩

theorem isHexSpelling_toDigits (n : Nat) : IsHexSpelling n (Nat.toDigits 16 n) := by
  have hlower : ∀ d < 16, (Nat.digitChar d).toLower = Nat.digitChar d := by decide
  have hdigits : ∀ c ∈ Nat.toDigits 16 n, c.toLower = id c := by
    intro c hc
    obtain ⟨d, hd, rfl⟩ := exists_digitChar_of_mem_toDigits hc
    exact hlower d hd
  exact ⟨0, (List.map_congr_left hdigits).trans (List.map_id _)⟩

theorem IsHexSpelling.isHex {n : Nat} {t : Text} (h : IsHexSpelling n t) {c : Char} (hc : c ∈ t) :
    isHex c = true := by
  obtain ⟨zeros, hlower⟩ := h
  have hmem : c.toLower ∈ List.replicate zeros '0' ++ Nat.toDigits 16 n :=
    hlower ▸ List.mem_map_of_mem hc
  have hdigit : (hexDigit? c.toLower).isSome = true := by
    rcases List.mem_append.mp hmem with hzero | hdigit
    · rw [(List.mem_replicate.mp hzero).2]
      rfl
    · obtain ⟨d, hd, heq⟩ := exists_digitChar_of_mem_toDigits hdigit
      rw [heq, hexDigit?_digitChar hd]
      rfl
  rwa [hexDigit?_toLower] at hdigit

end LinkAudit.Text

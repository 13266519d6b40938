import LinkAudit.Mangled
import LinkAudit.Proofs.Text.Number
import Mathlib.Algebra.Group.Nat.Defs
import Mathlib.Data.List.Induction

/-!
Lengths in mangled names. Whether a length is within the room that is left can be told from its
number of digits before its value is known: main statement `lengthWithin?_eq_some_iff`. Zeros aside,
a length is the numeral of its value.
-/

namespace LinkAudit.Mangled

theorem lengthValue_eq_ofDigitChars (digits : Text) :
    lengthValue digits = Nat.ofDigitChars 10 digits 0 :=
  Nat.ofDigitChars_eq_foldl.symm

theorem lengthValue_dropWhile_zero (digits : Text) :
    lengthValue (digits.dropWhile (· = '0')) = lengthValue digits := by
  induction digits with
  | nil => rfl
  | cons c rest ih =>
      by_cases hc : c = '0'
      · rw [List.dropWhile_cons_of_pos (by simp [hc]), ih, hc]
        rfl
      · rw [List.dropWhile_cons_of_neg (by simp [hc])]

/-- A length whose first digit is not zero has at least the value of its decimal place. -/
theorem pow_le_lengthValue {c : Char} (hdigit : c.isDigit = true) (hc : c ≠ '0') (rest : Text) :
    10 ^ rest.length ≤ lengthValue (c :: rest) := by
  have hpositive : 1 ≤ c.toNat - '0'.toNat := by
    have hne : c.toNat ≠ '0'.toNat := fun h => hc (Char.toNat_inj.mp h)
    have hge : '0'.toNat ≤ c.toNat := (Char.isDigit_iff_toNat.mp hdigit).1
    omega
  rw [lengthValue_eq_ofDigitChars, Nat.ofDigitChars_cons, Nat.mul_zero, Nat.zero_add,
    Nat.ofDigitChars_eq_ofDigitChars_zero]
  calc 10 ^ rest.length = 10 ^ rest.length * 1 := (Nat.mul_one _).symm
    _ ≤ 10 ^ rest.length * (c.toNat - '0'.toNat) := Nat.mul_le_mul_left _ hpositive
    _ ≤ _ := Nat.le_add_right _ _

/-- A length with more digits than the room is larger than the room. -/
theorem lt_lengthValue_of_length_lt {c : Char} {rest : Text} {room : Nat}
    (hdigit : c.isDigit = true) (hc : c ≠ '0')
    (hlong : (Text.ofNat room).length < (c :: rest).length) : room < lengthValue (c :: rest) := by
  have hplaces : (Nat.toDigits 10 room).length ≤ rest.length := Nat.le_of_lt_succ hlong
  have hplace : 0 < rest.length := Nat.lt_of_lt_of_le Nat.length_toDigits_pos hplaces
  calc room < 10 ^ rest.length := (Nat.length_toDigits_le_iff (by decide) hplace).mp hplaces
    _ ≤ lengthValue (c :: rest) := pow_le_lengthValue hdigit hc rest

/-- Comparing numbers of digits first never rejects a length that is within the room. -/
theorem lengthWithin?_eq_some_iff {digits : Text} {room length : Nat}
    (hdigits : ∀ c ∈ digits, c.isDigit = true) :
    lengthWithin? digits room = some length ↔
      lengthValue digits = length ∧ 0 < length ∧ length ≤ room := by
  have hvalue := lengthValue_dropWhile_zero digits
  rw [lengthWithin?, hvalue]
  split
  · rename_i hlong
    cases hsignificant : digits.dropWhile (· = '0') with
    | nil => simp [hsignificant] at hlong
    | cons c rest =>
        have hmem : c ∈ digits := by
          apply (List.dropWhile_sublist (· = '0')).subset
          rw [hsignificant]
          exact List.mem_cons_self
        have hc : c ≠ '0' := by
          have hhead := List.head?_dropWhile_not (· = '0') digits
          simpa [hsignificant] using hhead
        rw [hsignificant] at hlong hvalue
        have hlarge := lt_lengthValue_of_length_lt (hdigits c hmem) hc hlong
        rw [hvalue] at hlarge
        simp only [reduceCtorEq, false_iff]
        omega
  · simp only [Bool.and_eq_true, decide_eq_true_eq, Option.ite_none_right_eq_some,
      Option.some.injEq]
    grind

theorem lengthWithin?_eq_none_iff {digits : Text} {room : Nat}
    (hdigits : ∀ c ∈ digits, c.isDigit = true) :
    lengthWithin? digits room = none ↔ lengthValue digits = 0 ∨ room < lengthValue digits := by
  rw [Option.eq_none_iff_forall_not_mem]
  constructor
  · intro hnone
    have hmisfits := hnone (lengthValue digits)
    rw [Option.mem_def, lengthWithin?_eq_some_iff hdigits] at hmisfits
    omega
  · intro hmisfits length hwithin
    have hbounds := (lengthWithin?_eq_some_iff hdigits).mp hwithin
    omega

theorem lengthValue_append_singleton (digits : Text) (c : Char) :
    lengthValue (digits ++ [c]) = 10 * lengthValue digits + (c.toNat - '0'.toNat) := by
  simp [lengthValue, List.foldl_append]

/-- A length whose first digit is not zero is the numeral of its value. -/
theorem ofNat_lengthValue {c : Char} {rest : Text} (h : ∀ d ∈ c :: rest, d.isDigit = true)
    (hc : c ≠ '0') : Text.ofNat (lengthValue (c :: rest)) = c :: rest := by
  induction rest using List.reverseRecOn with
  | nil =>
      obtain ⟨hlt, hchar⟩ := Text.digitChar_sub_of_isDigit (h c List.mem_cons_self)
      have hvalue : lengthValue [c] = c.toNat - '0'.toNat := by simp [lengthValue]
      rw [hvalue, Text.ofNat, Nat.toDigits_of_lt_base hlt, hchar]
  | append_singleton rest d ih =>
      rw [← List.cons_append] at h ⊢
      have hshorter : ∀ e ∈ c :: rest, e.isDigit = true :=
        fun e he => h e (List.mem_append_left [d] he)
      obtain ⟨hlt, hchar⟩ := Text.digitChar_sub_of_isDigit (h d (by simp))
      have hpositive : 0 < lengthValue (c :: rest) := by
        have hpower := pow_le_lengthValue (hshorter c List.mem_cons_self) hc rest
        exact Nat.lt_of_lt_of_le (Nat.pow_pos (by decide)) hpower
      rw [lengthValue_append_singleton, Text.ofNat,
        ← Nat.toDigits_append_toDigits (by decide) hpositive hlt, Nat.toDigits_of_lt_base hlt,
        hchar]
      exact congrArg (· ++ [d]) (ih hshorter)

/-- A positive length ends in the numeral of its value; only zeros stand in front. -/
theorem ofNat_lengthValue_isSuffix {digits : Text} (h : ∀ c ∈ digits, c.isDigit = true)
    (hpositive : 0 < lengthValue digits) : Text.ofNat (lengthValue digits) <:+ digits := by
  rw [← lengthValue_dropWhile_zero] at hpositive ⊢
  have hsuffix := List.dropWhile_suffix (l := digits) (· = '0')
  have hhead := List.head?_dropWhile_not (· = '0') digits
  cases hdrop : digits.dropWhile (· = '0') with
  | nil => simp [hdrop, lengthValue] at hpositive
  | cons c rest =>
      rw [hdrop] at hsuffix hhead
      have hc : c ≠ '0' := by simpa using hhead
      rwa [ofNat_lengthValue (fun d hd => h d (hsuffix.subset hd)) hc]

end LinkAudit.Mangled

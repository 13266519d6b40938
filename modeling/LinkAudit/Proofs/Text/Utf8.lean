import LinkAudit.Text.Utf8
import Mathlib.Tactic.IntervalCases

/-!
UTF-8 in both directions. The reader takes the bytes of a character for that character, whatever it
has read before, so that an encoded text is well-formed and reads as the text.
-/

namespace LinkAudit.Text.Utf8

variable {found : List (Option Char)} {b : Nat}

theorem lead?_two (hlow : 0xC2 ≤ b) (hhigh : b ≤ 0xDF) :
    lead? b = some ⟨b - 0xC0, 1, 0x80, 0xBF⟩ := by
  simp [lead?, hlow, hhigh]

/-- Of three bytes the second is bounded below after the least first byte, and above where the value
would be a surrogate. -/
theorem lead?_three (hlow : 0xE0 ≤ b) (hhigh : b ≤ 0xEF) :
    lead? b = some
      ⟨b - 0xE0, 2, if b = 0xE0 then 0xA0 else 0x80, if b = 0xED then 0x9F else 0xBF⟩ := by
  interval_cases b <;> rfl

theorem lead?_four (hlow : 0xF0 ≤ b) (hhigh : b ≤ 0xF4) :
    lead? b = some
      ⟨b - 0xF0, 3, if b = 0xF0 then 0x90 else 0x80, if b = 0xF4 then 0x8F else 0xBF⟩ := by
  interval_cases b <;> rfl

theorem step_single (h : b < 0x80) :
    step (none, found) (UInt8.ofNat b) = (none, some (Char.ofNat b) :: found) := by
  have hb : (UInt8.ofNat b).toNat = b := UInt8.toNat_ofNat_of_lt' (Nat.lt_trans h (by decide))
  simp [step, start, hb, h]

theorem step_lead {p : Pending} (hlow : 0x80 ≤ b) (hhigh : b < 0x100) (h : lead? b = some p) :
    step (none, found) (UInt8.ofNat b) = (some p, found) := by
  have hb : (UInt8.ofNat b).toNat = b := UInt8.toNat_ofNat_of_lt' hhigh
  simp [step, start, hb, Nat.not_lt.mpr hlow, h]

/-- A byte within its bounds that is not the last. -/
theorem step_inner {value owed low high : Nat} (hlow : low ≤ b) (hhigh : b ≤ high)
    (hb : b < 0x100) :
    step (some ⟨value, owed + 2, low, high⟩, found) (UInt8.ofNat b) =
      (some ⟨value * 64 + (b - 0x80), owed + 1, 0x80, 0xBF⟩, found) := by
  have hb : (UInt8.ofNat b).toNat = b := UInt8.toNat_ofNat_of_lt' hb
  simp [step, hb, hlow, hhigh]

/-- The last byte of a character. -/
theorem step_last {value low high : Nat} (hlow : low ≤ b) (hhigh : b ≤ high) (hb : b < 0x100) :
    step (some ⟨value, 1, low, high⟩, found) (UInt8.ofNat b) =
      (none, some (Char.ofNat (value * 64 + (b - 0x80))) :: found) := by
  have hb : (UInt8.ofNat b).toNat = b := UInt8.toNat_ofNat_of_lt' hb
  simp [step, hb, hlow, hhigh]

/-- The bytes of a character read as that character. -/
theorem foldl_step_utf8EncodeChar (c : Char) (found : List (Option Char)) :
    (String.utf8EncodeChar c).foldl step (none, found) = (none, some c :: found) := by
  have hvalid : c.toNat < 0xD800 ∨ 0xDFFF < c.toNat ∧ c.toNat < 0x110000 := c.valid
  have hchar : Char.ofNat c.toNat = c := Char.ofNat_toNat c
  have hval : c.val.toNat = c.toNat := rfl
  rw [String.utf8EncodeChar, hval]
  generalize c.toNat = n at hvalid hchar
  split
  · rename_i hone
    rw [List.foldl_cons, step_single (by omega), hchar, List.foldl_nil]
  split
  · rename_i hone htwo
    rw [List.foldl_cons, step_lead (by omega) (by omega) (lead?_two (by omega) (by omega)),
      List.foldl_cons, step_last (by omega) (by omega) (by omega), List.foldl_nil]
    have hvalue : (n / 64 % 32 + 192 - 0xC0) * 64 + (n % 64 + 128 - 0x80) = n := by omega
    rw [hvalue, hchar]
  split
  · rename_i hone htwo hthree
    rw [List.foldl_cons, step_lead (by omega) (by omega) (lead?_three (by omega) (by omega)),
      List.foldl_cons, step_inner _ _ (by omega), List.foldl_cons,
      step_last (by omega) (by omega) (by omega), List.foldl_nil]
    · have hvalue : ((n / 4096 % 16 + 224 - 0xE0) * 64 + (n / 64 % 64 + 128 - 0x80)) * 64 +
          (n % 64 + 128 - 0x80) = n := by omega
      rw [hvalue, hchar]
    · split <;> omega
    · split <;> omega
  · rename_i hone htwo hthree
    rw [List.foldl_cons, step_lead (by omega) (by omega) (lead?_four (by omega) (by omega)),
      List.foldl_cons, step_inner _ _ (by omega), List.foldl_cons,
      step_inner (by omega) (by omega) (by omega), List.foldl_cons,
      step_last (by omega) (by omega) (by omega), List.foldl_nil]
    · have hvalue : (((n / 262144 % 8 + 240 - 0xF0) * 64 + (n / 4096 % 64 + 128 - 0x80)) * 64 +
          (n / 64 % 64 + 128 - 0x80)) * 64 + (n % 64 + 128 - 0x80) = n := by omega
      rw [hvalue, hchar]
    · split <;> omega
    · split <;> omega

theorem foldl_step_encode (t : Text) (found : List (Option Char)) :
    (encode t).foldl step (none, found) = (none, (t.map some).reverse ++ found) := by
  induction t generalizing found with
  | nil => rfl
  | cons c rest ih =>
      rw [encode, List.flatMap_cons, List.foldl_append, foldl_step_utf8EncodeChar]
      refine (ih (some c :: found)).trans ?_
      simp

theorem scan_encode (t : Text) : scan (encode t) = t.map some := by
  rw [scan, foldl_step_encode]
  simp

/-- An encoded text is well-formed and reads as the text. -/
theorem decode?_encode (t : Text) : decode? (encode t) = some t := by
  rw [decode?, scan_encode]
  induction t with
  | nil => rfl
  | cons c rest ih => simp [ih]

theorem decodeLossy_encode (t : Text) : decodeLossy (encode t) = t := by
  rw [decodeLossy, scan_encode, List.map_map]
  exact List.map_id t

end LinkAudit.Text.Utf8

import LinkAudit.Proofs.Text.Number
import LinkAudit.Proofs.Text.Stretch
import LinkAudit.Report.Bytes
import Mathlib.Algebra.Order.Field.Rat
import Mathlib.Algebra.Order.Ring.Abs
import Mathlib.Tactic.IntervalCases
import Mathlib.Tactic.Linarith
import Mathlib.Tactic.NormNum

/-!
Sizes as they are shown. A size from 1024 on with at most 53 binary digits is shown as tenths of a
unit, to the nearest tenth, of which its text leaves no doubt. Main statement: that is never off by
more than half a tenth and never less than one unit, and it is less than 1024 of a unit that is not
the largest unless the size lies within half a tenth below the next unit: the unit is chosen before
the tenths are rounded.
-/

namespace LinkAudit.Bytes

/-! Rounding. -/

/-- Whether an integer is the nearest to a quotient, and the even one of two that are as near. -/
structure IsNearest (a b q : Nat) : Prop where
  not_below : 2 * a ≤ 2 * (q * b) + b
  not_above : 2 * (q * b) ≤ 2 * a + b
  even : 2 * a = 2 * (q * b) + b ∨ 2 * (q * b) = 2 * a + b → q % 2 = 0

variable {a b q v : Nat}

theorem isNearest_roundedQuotient (hb : 0 < b) (a : Nat) :
    IsNearest a b (roundedQuotient a b) := by
  have hdiv : a / b * b + a % b = a := Nat.div_add_mod' a b
  have hmod := Nat.mod_lt a hb
  have hsucc : (a / b + 1) * b = a / b * b + b := Nat.succ_mul _ _
  rw [roundedQuotient]
  split
  · rename_i hdown
    simp only [Bool.or_eq_true, Bool.and_eq_true, decide_eq_true_eq, beq_iff_eq] at hdown
    exact ⟨by omega, by omega, by omega⟩
  · rename_i hup
    simp only [Bool.or_eq_true, Bool.and_eq_true, decide_eq_true_eq, beq_iff_eq, not_or,
      not_and] at hup
    exact ⟨by omega, by omega, by omega⟩

/-- A quotient that is an integer or more is rounded to that integer or more. -/
theorem IsNearest.le {n : Nat} (h : IsNearest a b q) (hb : 0 < b) (hn : n * b ≤ a) : n ≤ q := by
  by_contra hlt
  have hnext : (q + 1) * b ≤ n * b := Nat.mul_le_mul_right b (by omega)
  have hlow := h.not_below
  rw [Nat.succ_mul] at hnext
  omega

/-- What is rounded to less than an even integer lies by more than a half below it. -/
theorem IsNearest.lt_iff {n : Nat} (h : IsNearest a b q) (hb : 0 < b) (hn : n % 2 = 0) :
    q < n ↔ 2 * a + b < 2 * (n * b) := by
  constructor
  · intro hlt
    have hnext : (q + 1) * b ≤ n * b := Nat.mul_le_mul_right b hlt
    rw [Nat.succ_mul] at hnext
    have hlow := h.not_below
    -- at the half itself the nearest even integer is not below
    by_contra hle
    have heven := h.even (.inl (by omega))
    have hsecond : (q + 2) * b ≤ n * b := Nat.mul_le_mul_right b (by omega)
    rw [Nat.add_mul] at hsecond
    omega
  · intro hlt
    by_contra hle
    have hmore : n * b ≤ q * b := Nat.mul_le_mul_right b (by omega)
    have hhigh := h.not_above
    omega

theorem toPrecision_eq_self (h : v < 2 ^ 53) : toPrecision v = v := by
  have hexact : v.log2 + 1 - precision = 0 := by
    by_cases hzero : v = 0
    · rw [hzero]
      decide
    · have hlog := (Nat.log2_lt hzero).mpr h
      rw [precision]
      omega
  rw [toPrecision, hexact]
  simp [roundedQuotient, Nat.mod_one]

/-! Texts. -/

def unitName : Nat → Text
  | 1 => "KB".toList
  | 2 => "MB".toList
  | _ => "GB".toList

/-- Whether the text of a size shows it as so many tenths of 1024 bytes to the power. -/
structure Shows (v tenths power : Nat) : Prop where
  one_le : 1 ≤ power
  le_three : power ≤ 3
  text : text? v = some (tenthsText tenths ++ ' ' :: unitName power)

theorem tenthsText_injective : Function.Injective tenthsText := by
  intro s t h
  have hstretch (n : Nat) (rest : Text) :
      Text.IsStretch Char.isDigit (Text.ofNat n) ('.' :: rest) :=
    Text.isStretch_before_cons (fun _ => Text.isDigit_of_mem_ofNat) (by decide) rest
  rw [tenthsText, tenthsText, ← List.append_cons, ← List.append_cons] at h
  obtain ⟨hwhole, htenth⟩ := (hstretch _ _).unique (hstretch _ _) h
  have hwhole := Text.ofNat_injective hwhole
  have htenth := Text.ofNat_injective (List.cons.inj htenth).2
  omega

/-- The text of a size leaves no doubt about the tenths and their unit. -/
theorem Shows.unique {tenths tenths' power power' : Nat} (h : Shows v tenths power)
    (h' : Shows v tenths' power') : tenths = tenths' ∧ power = power' := by
  have hstretch (t : Nat) (unit : Text) :
      Text.IsStretch (· ≠ ' ') (tenthsText t) (' ' :: unit) := by
    refine Text.isStretch_before_cons (fun c hc => ?_) (by decide) unit
    rw [decide_eq_true_eq]
    rintro rfl
    simp only [tenthsText, List.mem_append, List.mem_singleton] at hc
    rcases hc with (hc | hc) | hc
    · exact absurd (Text.isDigit_of_mem_ofNat hc) (by decide)
    · cases hc
    · exact absurd (Text.isDigit_of_mem_ofNat hc) (by decide)
  have htext := Option.some.inj (h.text.symm.trans h'.text)
  obtain ⟨htenths, hunit⟩ := (hstretch _ _).unique (hstretch _ _) htext
  refine ⟨tenthsText_injective htenths, ?_⟩
  obtain ⟨hlow, hhigh, -⟩ := h
  obtain ⟨hlow', hhigh', -⟩ := h'
  have hunit := (List.cons.inj hunit).2
  interval_cases power <;> interval_cases power' <;> first | rfl | exact absurd hunit (by decide)

theorem lt_limit_of_lt (h : v < 2 ^ 53) : v < limit := by
  unfold limit
  generalize hdigits : 1024 = n
  exact Nat.lt_of_lt_of_le h (Nat.pow_le_pow_right (by decide) (by omega))

/-- Whether a size is shown in the unit of this power, the largest of which there is at least one.
-/
structure IsUnitFor (v power : Nat) : Prop where
  one_le : 1 ≤ power
  le_three : power ≤ 3
  le_size : 1024 ^ power ≤ v
  size_lt : power < 3 → v < 1024 ^ (power + 1)

theorem exists_isUnitFor (h : 1024 ≤ v) : ∃ power, IsUnitFor v power := by
  by_cases hmega : v < 1024 ^ 2
  · exact ⟨1, by decide, by decide, h, fun _ => hmega⟩
  · by_cases hgiga : v < 1024 ^ 3
    · exact ⟨2, by decide, by decide, Nat.le_of_not_lt hmega, fun _ => hgiga⟩
    · exact ⟨3, by decide, by decide, Nat.le_of_not_lt hgiga, by simp⟩

theorem IsUnitFor.find?_units {power : Nat} (h : IsUnitFor v power) :
    units.find? (·.2 ≤ v) = some (unitName power, 1024 ^ power) := by
  obtain ⟨hone, hthree, hlow, hhigh⟩ := h
  interval_cases power
  · have hmega : ¬1024 * 1024 ≤ v := by omega
    have hgiga : ¬1024 * 1024 * 1024 ≤ v := by omega
    simpa [units, unitName, hmega, hgiga] using hlow
  · have hgiga : ¬1024 * 1024 * 1024 ≤ v := by omega
    simpa [units, unitName, hgiga] using hlow
  · simpa [units, unitName] using hlow

theorem IsUnitFor.shows {power : Nat} (h : IsUnitFor v power) (hexact : v < 2 ^ 53) :
    Shows v (roundedQuotient (10 * v) (1024 ^ power)) power := by
  refine ⟨h.one_le, h.le_three, ?_⟩
  change text? (.ofNat v) = _
  rw [text?, toPrecision_eq_self hexact]
  simp only [if_neg (Nat.not_le.mpr (lt_limit_of_lt hexact)), h.find?_units]

/-! Accuracy. -/

def mantissa (tenths : Nat) : ℚ := tenths / 10

/-- Whether a size lies within a twentieth of the unit of this power below the next unit. -/
def IsJustBelow (v power : Nat) : Prop :=
  (1024 - 0.05) * 1024 ^ power ≤ (v : ℚ) ∧ v < 1024 ^ (power + 1)

theorem isJustBelow_iff {power : Nat} :
    IsJustBelow v power ↔ 20479 * 1024 ^ power ≤ 20 * v ∧ v < 1024 ^ (power + 1) := by
  have hscaled : (1024 - 0.05) * 1024 ^ power ≤ (v : ℚ) ↔
      (20479 : ℚ) * 1024 ^ power ≤ 20 * (v : ℚ) := by
    constructor <;> intro h <;> linarith
  rw [IsJustBelow, hscaled]
  exact and_congr_left fun _ => by exact_mod_cast Iff.rfl

theorem mantissa_lt_iff {tenths n : Nat} : mantissa tenths < n ↔ tenths < 10 * n := by
  rw [mantissa, div_lt_iff₀ (by norm_num), mul_comm]
  exact_mod_cast Iff.rfl

theorem le_mantissa_iff {tenths n : Nat} : (n : ℚ) ≤ mantissa tenths ↔ 10 * n ≤ tenths := by
  rw [mantissa, le_div_iff₀ (by norm_num), mul_comm]
  exact_mod_cast Iff.rfl

/-- The nearest tenth is off by no more than a half of it. -/
theorem IsNearest.abs_mantissa_le {tenths one : Nat} (h : IsNearest (10 * v) one tenths) :
    |mantissa tenths * one - v| ≤ 0.05 * one := by
  have hlow : 2 * (10 * (v : ℚ)) ≤ 2 * (tenths * one) + one := by exact_mod_cast h.not_below
  have hhigh : 2 * (tenths * (one : ℚ)) ≤ 2 * (10 * v) + one := by exact_mod_cast h.not_above
  rw [abs_le, mantissa]
  constructor <;> linarith

/-- A size from 1024 on with at most 53 binary digits is shown as a number of tenths of a unit. That
is off by no more than half a tenth of the unit and is at least one unit. It is less than 1024 of
any unit but the largest if and only if the size does not lie within half a tenth of its unit below
the next one. -/
theorem exists_shows_and_mantissa_lt_iff (hlow : 1024 ≤ v) (hexact : v < 2 ^ 53) :
    ∃ tenths power, Shows v tenths power ∧
      |mantissa tenths * 1024 ^ power - v| ≤ 0.05 * 1024 ^ power ∧ 1 ≤ mantissa tenths ∧
      ((power < 3 → mantissa tenths < 1024) ↔ ¬IsJustBelow v 1 ∧ ¬IsJustBelow v 2) := by
  obtain ⟨power, hunit⟩ := exists_isUnitFor hlow
  have hpos : 0 < 1024 ^ power := Nat.pow_pos (by decide)
  have hnearest := isNearest_roundedQuotient hpos (10 * v)
  refine ⟨_, power, hunit.shows hexact, ?_, ?_, ?_⟩
  · exact_mod_cast hnearest.abs_mantissa_le
  · have hten : 10 * 1 * 1024 ^ power ≤ 10 * v := Nat.mul_le_mul_left 10 hunit.le_size
    exact_mod_cast le_mantissa_iff.mpr (hnearest.le hpos hten)
  · have hbelow := hnearest.lt_iff hpos (n := 10 * 1024) (by decide)
    rw [← mantissa_lt_iff, Nat.cast_ofNat] at hbelow
    rw [isJustBelow_iff, isJustBelow_iff, hbelow]
    -- in each unit the size lies above the other unit's gap or below it
    obtain ⟨hone, hthree, hsize, hnext⟩ := hunit
    interval_cases power <;> omega

/-- The largest size that is shown as less than 1024 KB in that unit. -/
theorem exists_shows_kilobytes :
    (1024 ≤ 1048524 ∧ 1048524 < 2 ^ 53) ∧
      ∃ tenths power, Shows 1048524 tenths power ∧
        |mantissa tenths * 1024 ^ power - (1048524 : Nat)| ≤ 0.05 * 1024 ^ power ∧
        1 ≤ mantissa tenths ∧ (power < 3 → mantissa tenths < 1024) := by
  have hrange : 1024 ≤ 1048524 ∧ 1048524 < 2 ^ 53 := by decide
  obtain ⟨tenths, power, hshows, hnear, hone, hbelow⟩ :=
    exists_shows_and_mantissa_lt_iff hrange.1 hrange.2
  refine ⟨hrange, tenths, power, hshows, hnear, hone, hbelow.mpr ?_⟩
  rw [isJustBelow_iff, isJustBelow_iff]
  omega

/-- One byte less than the next unit is shown as 1024 of the unit below. -/
theorem not_mantissa_lt_nextUnit :
    (1024 ≤ 1048575 ∧ 1048575 < 2 ^ 53) ∧ text? 1048575 = some "1024.0 KB".toList ∧
      ∀ tenths power, Shows 1048575 tenths power → power < 3 ∧ ¬mantissa tenths < 1024 := by
  have htext : text? 1048575 = some "1024.0 KB".toList := by decide +kernel
  have hshown : Shows 1048575 10240 1 := ⟨by decide, by decide, htext⟩
  refine ⟨by decide, htext, fun tenths power hshows => ?_⟩
  obtain ⟨rfl, rfl⟩ := hshown.unique hshows
  refine ⟨by decide, ?_⟩
  rw [mantissa]
  norm_num

end LinkAudit.Bytes

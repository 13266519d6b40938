import LinkAudit.LinkMap.Reader
import LinkAudit.Proofs.Text.Number
import LinkAudit.Proofs.Text.Trim

/-!
Entries of link maps. An entry as a linker writes it is read as what it says, and whatever is read
as an entry has the form of one: numbers and blanks in their places, and something behind them.
-/

namespace LinkAudit.LinkMap

open Text

structure IsGap (t : Text) : Prop where
  nonempty : t ≠ []
  blank : ∀ c ∈ t, isBlank c = true

/-- Whether a text comes back from behind a gap: it begins with a character other than a blank and
does not end with a carriage return. -/
structure IsField (t : Text) : Prop where
  begins : ∃ c rest, t = c :: rest ∧ isBlank c = false
  ends : t.getLast? ≠ some '\r'

/-- Whether the text is a number in brackets and behind a gap a field, as a linker writes them. The
number is spelled in the digits. -/
def IsNumberedField (index : Nat) (digits field t : Text) : Prop :=
  IsDecimalSpelling index digits ∧
    ∃ indent gap, (∀ c ∈ indent, isBlank c = true) ∧ IsGap gap ∧ IsField field ∧
      t = '[' :: (indent ++ (digits ++ ']' :: (gap ++ field)))

def IsObjectLine (o : Numbered ObjectFile) (line : Text) : Prop :=
  IsNumberedField o.entry.index o.digits o.entry.path line

def IsSymbolLine (s : Numbered Symbol) (line : Text) : Prop :=
  ∃ address gap size gap' entry, IsHexSpelling s.entry.address address ∧ IsGap gap ∧
    IsHexSpelling s.entry.size size ∧ IsGap gap' ∧
    IsNumberedField s.entry.objectIndex s.digits s.entry.name entry ∧
    line = '0' :: 'x' :: (address ++ (gap ++ '0' :: 'x' :: (size ++ (gap' ++ entry))))

/-- The form of an object's entry: a number in brackets, a gap, and something behind it. -/
def HasObjectForm (t : Text) : Prop :=
  ∃ indent digits gap rest, (∀ c ∈ indent, isBlank c = true) ∧ digits ≠ [] ∧
    (∀ c ∈ digits, isDecimal c = true) ∧ IsGap gap ∧ rest ≠ [] ∧
    t = '[' :: (indent ++ (digits ++ ']' :: (gap ++ rest)))

/-- The form of a symbol's entry: two hexadecimal numbers, and then the form of an object's. -/
def HasSymbolForm (t : Text) : Prop :=
  ∃ address gap size gap' entry, address ≠ [] ∧ (∀ c ∈ address, isHex c = true) ∧ IsGap gap ∧
    size ≠ [] ∧ (∀ c ∈ size, isHex c = true) ∧ IsGap gap' ∧ HasObjectForm entry ∧
    t = '0' :: 'x' :: (address ++ (gap ++ '0' :: 'x' :: (size ++ (gap' ++ entry))))

/-! Reading what a linker writes. -/

theorem IsField.trimEnd {t : Text} (h : IsField t) : t.trimEnd (· = '\r') = t := by
  apply trimEnd_eq_self
  intro c hc
  simpa using fun heq : c = '\r' => h.ends (heq ▸ hc)

theorem field?_gap_append {gap field : Text} (hgap : IsGap gap) (hfield : IsField field) :
    field? (gap ++ field) = some field := by
  have htrim := hfield.trimEnd
  obtain ⟨c, rest, rfl, hc⟩ := hfield.begins
  have hstretch := isStretch_before_cons hgap.blank hc rest
  have hblanks : gap.isEmpty = false := by simpa using hgap.nonempty
  simp only [field?, hstretch.takeWhile_append, hstretch.dropWhile_append, hblanks, htrim]
  rfl

theorem bracketed?_append {indent digits : Text} (after : Text)
    (hindent : ∀ c ∈ indent, isBlank c = true) (hne : digits ≠ [])
    (hdigits : ∀ c ∈ digits, isDecimal c = true) :
    bracketed? ('[' :: (indent ++ (digits ++ ']' :: after))) =
      some (digits, after) := by
  have hinside : IsStretch isBlank indent (digits ++ ']' :: after) := by
    obtain ⟨d, rest, rfl⟩ := List.exists_cons_of_ne_nil hne
    have hd := isBlank_eq_false_of_isDecimal (hdigits d List.mem_cons_self)
    exact isStretch_before_cons hindent hd _
  have hnumber : IsStretch isDecimal digits (']' :: after) :=
    isStretch_before_cons hdigits (by decide) after
  have hsome : digits.isEmpty = false := by simpa using hne
  simp only [bracketed?, hinside.dropWhile_append, hnumber.takeWhile_append,
    hnumber.dropWhile_append, hsome]
  rfl

theorem hexField?_append {digits gap : Text} {c : Char} (after : Text) (hne : digits ≠ [])
    (hdigits : ∀ d ∈ digits, isHex d = true) (hgap : IsGap gap) (hc : isBlank c = false) :
    hexField? ('0' :: 'x' :: (digits ++ (gap ++ c :: after))) =
      some (hexValue digits, c :: after) := by
  have hblanks := isStretch_before_cons hgap.blank hc after
  have hnumber : IsStretch isHex digits (gap ++ c :: after) := by
    obtain ⟨d, rest, rfl⟩ := List.exists_cons_of_ne_nil hgap.nonempty
    have hd := isHex_eq_false_of_isBlank (hgap.blank d List.mem_cons_self)
    exact isStretch_before_cons hdigits hd _
  have hsome : digits.isEmpty = false := by simpa using hne
  have hgapsome : gap.isEmpty = false := by simpa using hgap.nonempty
  simp only [hexField?, hnumber.takeWhile_append, hnumber.dropWhile_append,
    hblanks.takeWhile_append, hblanks.dropWhile_append, hsome, hgapsome]
  rfl

theorem bracketed?_written {indent digits : Text} {index : Nat} (after : Text)
    (hindent : ∀ c ∈ indent, isBlank c = true) (hdigits : IsDecimalSpelling index digits) :
    bracketed? ('[' :: (indent ++ (digits ++ ']' :: after))) = some (digits, after) := by
  obtain ⟨zeros, rfl⟩ := hdigits
  exact bracketed?_append after hindent (padded_ne_nil zeros index)
    fun c hc => isDecimal_of_isDigit (isDigit_of_mem_padded hc)

theorem hexField?_written {n : Nat} {digits gap : Text} {c : Char} (after : Text)
    (hdigits : IsHexSpelling n digits) (hgap : IsGap gap) (hc : isBlank c = false) :
    hexField? ('0' :: 'x' :: (digits ++ (gap ++ c :: after))) = some (n, c :: after) := by
  rw [hexField?_append after hdigits.ne_nil (fun d hd => hdigits.isHex hd) hgap hc,
    hdigits.hexValue_eq]

theorem objectHere?_of_isObjectLine {o : Numbered ObjectFile} {line : Text}
    (h : IsObjectLine o line) : objectHere? line = some o := by
  obtain ⟨hdigits, indent, gap, hindent, hgap, hfield, rfl⟩ := h
  simp only [objectHere?, bracketed?_written _ hindent hdigits, field?_gap_append hgap hfield,
    hdigits.decimalValue_eq, Option.bind_eq_bind, Option.bind_some]
  rfl

theorem symbolHere?_of_isSymbolLine {s : Numbered Symbol} {line : Text} (h : IsSymbolLine s line) :
    symbolHere? line = some s := by
  obtain ⟨address, gap, size, gap', entry, haddress, hgap, hsize, hgap', hentry, rfl⟩ := h
  obtain ⟨hdigits, indent, gap'', hindent, hgap'', hfield, rfl⟩ := hentry
  have hzero : isBlank '0' = false := by decide
  have hbracket : isBlank '[' = false := by decide
  simp only [symbolHere?, hexField?_written _ haddress hgap hzero,
    hexField?_written _ hsize hgap' hbracket,
    bracketed?_written _ hindent hdigits, field?_gap_append hgap'' hfield, hdigits.decimalValue_eq,
    Option.bind_eq_bind, Option.bind_some]
  rfl

theorem leftmost?_of_here? {α : Type} {here? : Text → Option α} {line : Text} {a : α}
    (h : here? line = some a) : leftmost? here? line = some a := by
  cases line with
  | nil => exact h
  | cons c rest => rw [leftmost?, h, Option.orElse_eq_orElse, Option.orElse_some]

/-! What is read as an entry are the texts of its form. -/

theorem isSome_field?_append {gap rest : Text} (hgap : IsGap gap) (hrest : rest ≠ []) :
    (field? (gap ++ rest)).isSome = true := by
  have htake : (gap ++ rest).takeWhile isBlank = gap ++ rest.takeWhile isBlank :=
    List.takeWhile_append_of_pos hgap.blank
  have hdrop : (gap ++ rest).dropWhile isBlank = rest.dropWhile isBlank :=
    List.dropWhile_append_of_pos hgap.blank
  have hblanks : (gap ++ rest.takeWhile isBlank).isEmpty = false := by simp [hgap.nonempty]
  simp only [field?, htake, hdrop, hblanks]
  cases hlast : rest.dropWhile isBlank with
  | cons c last => rfl
  | nil =>
      have hwhole : rest.takeWhile isBlank = rest := by
        rw [← List.append_nil (rest.takeWhile isBlank), ← hlast, List.takeWhile_append_dropWhile]
      have htwo : 2 ≤ (gap ++ rest).length := by
        have hgappos := List.length_pos_iff.mpr hgap.nonempty
        have hrestpos := List.length_pos_iff.mpr hrest
        rw [List.length_append]
        omega
      rw [hwhole, if_pos htwo]
      simp [hrest]

theorem exists_of_bracketed? {t digits after : Text} (h : bracketed? t = some (digits, after)) :
    ∃ indent, (∀ c ∈ indent, isBlank c = true) ∧ digits ≠ [] ∧
      (∀ c ∈ digits, isDecimal c = true) ∧ t = '[' :: (indent ++ (digits ++ ']' :: after)) := by
  unfold bracketed? at h
  split at h
  · rename_i rest
    generalize hinside : rest.dropWhile isBlank = inside at h
    dsimp only at h
    split at h
    · rename_i last hlast
      split at h
      · cases h
      · rename_i hdigits
        cases h
        refine ⟨rest.takeWhile isBlank, (isStretch_takeWhile _ _).inside, by simpa using hdigits,
          (isStretch_takeWhile _ _).inside, ?_⟩
        rw [← hlast, List.takeWhile_append_dropWhile, ← hinside, List.takeWhile_append_dropWhile]
    · cases h
  · cases h

theorem exists_of_field? {t field : Text} (h : field? t = some field) :
    ∃ gap rest, IsGap gap ∧ rest ≠ [] ∧ t = gap ++ rest := by
  have hblank := (isStretch_takeWhile isBlank t).inside
  have hwhole : t.takeWhile isBlank ++ t.dropWhile isBlank = t := List.takeWhile_append_dropWhile
  unfold field? at h
  dsimp only at h
  split at h
  · cases h
  · rename_i hgap
    have hne : t.takeWhile isBlank ≠ [] := by simpa using hgap
    split at h
    · rename_i hrest
      exact ⟨_, _, ⟨hne, hblank⟩, by simpa using hrest, hwhole.symm⟩
    · -- nothing but blanks: the last of them is what stands behind the others
      rename_i hrest
      have hempty : t.dropWhile isBlank = [] := by simpa using hrest
      rw [hempty, List.append_nil] at hwhole
      rw [hwhole] at hblank hne h
      split at h
      · rename_i hlength
        refine ⟨t.dropLast, [t.getLast hne], ⟨?_, ?_⟩, List.cons_ne_nil _ _,
          (List.dropLast_append_getLast hne).symm⟩
        · rw [← List.length_pos_iff, List.length_dropLast]
          omega
        · intro c hc
          exact hblank c (List.dropLast_subset t hc)
      · cases h

theorem exists_of_hexField? {t after : Text} {n : Nat} (h : hexField? t = some (n, after)) :
    ∃ digits gap, digits ≠ [] ∧ (∀ c ∈ digits, isHex c = true) ∧ IsGap gap ∧
      t = '0' :: 'x' :: (digits ++ (gap ++ after)) := by
  unfold hexField? at h
  split at h
  · rename_i rest
    dsimp only at h
    split at h
    · cases h
    · rename_i hparts
      rw [Bool.or_eq_true, not_or] at hparts
      obtain rfl : (rest.dropWhile isHex).dropWhile isBlank = after :=
        (Prod.mk.inj (Option.some.inj h)).2
      refine ⟨rest.takeWhile isHex, (rest.dropWhile isHex).takeWhile isBlank,
        by simpa using hparts.1, (isStretch_takeWhile _ _).inside,
        ⟨by simpa using hparts.2, (isStretch_takeWhile _ _).inside⟩, ?_⟩
      rw [List.takeWhile_append_dropWhile, List.takeWhile_append_dropWhile]
  · cases h

theorem isSome_objectHere?_iff {t : Text} : (objectHere? t).isSome = true ↔ HasObjectForm t := by
  constructor
  · intro h
    obtain ⟨o, h⟩ := Option.isSome_iff_exists.mp h
    obtain ⟨⟨digits, after⟩, hbracketed, h⟩ := Option.bind_eq_some_iff.mp h
    obtain ⟨path, hfield, -⟩ := Option.bind_eq_some_iff.mp h
    obtain ⟨indent, hindent, hne, hdigits, rfl⟩ := exists_of_bracketed? hbracketed
    obtain ⟨gap, rest, hgap, hrest, rfl⟩ := exists_of_field? hfield
    exact ⟨indent, digits, gap, rest, hindent, hne, hdigits, hgap, hrest, rfl⟩
  · rintro ⟨indent, digits, gap, rest, hindent, hne, hdigits, hgap, hrest, rfl⟩
    obtain ⟨path, hpath⟩ := Option.isSome_iff_exists.mp (isSome_field?_append hgap hrest)
    simp [objectHere?, bracketed?_append _ hindent hne hdigits, hpath]

theorem isSome_symbolHere?_iff {t : Text} : (symbolHere? t).isSome = true ↔ HasSymbolForm t := by
  constructor
  · intro h
    obtain ⟨s, h⟩ := Option.isSome_iff_exists.mp h
    obtain ⟨⟨address, afterAddress⟩, haddress, h⟩ := Option.bind_eq_some_iff.mp h
    obtain ⟨⟨size, afterSize⟩, hsize, h⟩ := Option.bind_eq_some_iff.mp h
    obtain ⟨⟨number, after⟩, hbracketed, h⟩ := Option.bind_eq_some_iff.mp h
    obtain ⟨name, hfield, -⟩ := Option.bind_eq_some_iff.mp h
    obtain ⟨digits, gap, hne, hdigits, hgap, rfl⟩ := exists_of_hexField? haddress
    obtain ⟨digits', gap', hne', hdigits', hgap', rfl⟩ := exists_of_hexField? hsize
    have hentry : HasObjectForm afterSize := by
      rw [← isSome_objectHere?_iff]
      simp [objectHere?, hbracketed, hfield]
    exact ⟨digits, gap, digits', gap', afterSize, hne, hdigits, hgap, hne', hdigits', hgap', hentry,
      rfl⟩
  · rintro ⟨address, gap, size, gap', entry, hne, hdigits, hgap, hne', hdigits', hgap', hentry, rfl⟩
    obtain ⟨indent, digits, gap'', rest, hindent, hne'', hdigits'', hgap'', hrest, rfl⟩ := hentry
    have hzero : isBlank '0' = false := by decide
    have hbracket : isBlank '[' = false := by decide
    obtain ⟨name, hname⟩ := Option.isSome_iff_exists.mp (isSome_field?_append hgap'' hrest)
    simp [symbolHere?, hexField?_append _ hne hdigits hgap hzero,
      hexField?_append _ hne' hdigits' hgap' hbracket,
      bracketed?_append _ hindent hne'' hdigits'', hname]

/-- A line is passed over if and only if no part of it up to its end has the form. -/
theorem leftmost?_eq_none_iff {α : Type} {here? : Text → Option α} {form : Text → Prop}
    (hform : ∀ {t}, (here? t).isSome = true ↔ form t) {line : Text} :
    leftmost? here? line = none ↔ ∀ entry, entry <:+ line → ¬form entry := by
  have hhere {t : Text} : here? t = none ↔ ¬form t := by
    rw [← hform, Option.not_isSome_iff_eq_none]
  induction line with
  | nil => simp [leftmost?, hhere]
  | cons c rest ih =>
      rw [leftmost?, Option.orElse_eq_orElse, Option.orElse_eq_or, Option.or_eq_none_iff]
      simp only [List.suffix_cons_iff, forall_eq_or_imp, hhere, ih]

end LinkAudit.LinkMap

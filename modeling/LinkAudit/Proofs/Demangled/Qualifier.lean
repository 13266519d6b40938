import LinkAudit.Proofs.Demangled

/-!
Qualifiers of a module in a cleaned text. A qualifier is dropped where it begins a name, which is at
the start of the text or behind a boundary, as the text was before anything was dropped. A module
without boundaries in its name makes no qualifier that begins inside another, and what is brought
together where one was dropped makes no new one, because the dropped dot is a boundary itself. Main
statement: just the qualifiers that begin a name are gone, none that begins a name is left, and
dropping them again changes nothing.
-/

namespace LinkAudit.Demangled

/-- Whether a name with the qualifier begins at the position: the qualifier stands there, at the
start of the text or right behind a boundary. -/
def BeginsAt (qualifier t : Text) (i : Nat) : Prop :=
  (i = 0 ∨ ∃ c ∈ boundary, t[i - 1]? = some c) ∧ qualifier <+: t.drop i

def IsQualifying (qualifier t : Text) (p : Nat) : Prop :=
  ∃ i ≤ p, BeginsAt qualifier t i ∧ p < i + qualifier.length

instance (qualifier t : Text) (i : Nat) : Decidable (BeginsAt qualifier t i) :=
  inferInstanceAs (Decidable (_ ∧ _))

instance (qualifier t : Text) (p : Nat) : Decidable (IsQualifying qualifier t p) :=
  inferInstanceAs (Decidable (∃ i ≤ p, _))

/-- The text without the qualifiers that begin a name. -/
def unqualified (qualifier t : Text) : Text :=
  (t.zipIdx.filter fun x => ¬IsQualifying qualifier t x.2).map Prod.fst

/-- One pass from the left over a text behind a character that drops the qualifiers that begin a
name. What stands behind a dropped one stands behind its dot. -/
inductive Drops (qualifier : Text) : Option Char → Text → Text → Prop
  | done {before : Option Char} : Drops qualifier before [] []
  | keep {before : Option Char} {c : Char} {t t' : Text} :
      ¬(startsName before = true ∧ qualifier <+: c :: t) →
      Drops qualifier (some c) t t' → Drops qualifier before (c :: t) (c :: t')
  | drop {before : Option Char} {t t' : Text} :
      startsName before = true → Drops qualifier (some '.') t t' →
      Drops qualifier before (qualifier ++ t) t'

/-- The character behind a text that was passed over. -/
theorem getLast?_take_succ_or (c : Char) (rest : Text) (skip : Nat) (before : Option Char) :
    ((c :: rest).take (skip + 1)).getLast?.or before = (rest.take skip).getLast?.or (some c) := by
  rw [List.take_succ_cons, List.getLast?_cons]
  cases (rest.take skip).getLast? <;> rfl

theorem drops_dropQualifierFrom (moduleName : Text) (before : Option Char) (skip : Nat) (t : Text) :
    Drops (moduleName ++ ['.']) ((t.take skip).getLast?.or before) (t.drop skip)
      (dropQualifierFrom (moduleName ++ ['.']) before skip t) := by
  induction t generalizing before skip with
  | nil =>
      rw [List.drop_nil]
      cases skip <;> exact .done
  | cons c rest ih =>
      cases skip with
      | succ skip =>
          rw [getLast?_take_succ_or]
          exact ih (some c) skip
      | zero =>
          rw [dropQualifierFrom, List.drop_zero]
          split
          · rename_i hhere
            obtain ⟨hstarts, hfront⟩ := Bool.and_eq_true_iff.mp hhere
            obtain ⟨after, hafter⟩ := List.isPrefixOf_iff_prefix.mp hfront
            have hlength : (moduleName ++ ['.']).length = moduleName.length + 1 :=
              List.length_append
            have hrest := ih (some c) moduleName.length
            rw [← getLast?_take_succ_or c rest moduleName.length before,
              ← List.drop_succ_cons (a := c), ← hafter, List.take_left' hlength,
              List.drop_left' hlength, List.getLast?_concat, Option.some_or] at hrest
            rw [← hafter, hlength, Nat.add_sub_cancel]
            exact .drop hstarts hrest
          · rename_i hhere
            refine .keep (fun hbegins => hhere ?_) (ih (some c) 0)
            exact Bool.and_eq_true_iff.mpr ⟨hbegins.1, List.isPrefixOf_iff_prefix.mpr hbegins.2⟩

theorem drops_dropQualifier {moduleName : Text} (hne : moduleName ≠ []) (t : Text) :
    Drops (moduleName ++ ['.']) none t (dropQualifier t moduleName) := by
  rw [dropQualifier, if_neg (by simpa using hne)]
  exact drops_dropQualifierFrom moduleName none 0 t

theorem beginsAt_length_iff {qualifier front rest : Text} :
    BeginsAt qualifier (front ++ rest) front.length ↔
      startsName front.getLast? = true ∧ qualifier <+: rest := by
  rw [BeginsAt, List.drop_left]
  refine and_congr_left fun _ => ?_
  rcases List.eq_nil_or_concat front with rfl | ⟨before, c, rfl⟩
  · simp [startsName]
  · simp [startsName]

/-- What follows the first character of a qualifier is behind a character of its module. -/
theorem not_beginsAt_of_beginsAt {moduleName t : Text} {i j : Nat}
    (hmodule : ∀ c ∈ moduleName, c ∉ boundary) (h : BeginsAt (moduleName ++ ['.']) t i)
    (hij : i < j) (hj : j < i + (moduleName ++ ['.']).length) :
    ¬BeginsAt (moduleName ++ ['.']) t j := by
  rintro ⟨hzero | ⟨c, hc, hget⟩, -⟩
  · omega
  · obtain ⟨k, rfl⟩ := Nat.exists_eq_add_of_lt hij
    obtain ⟨rest, hrest⟩ := h.2
    have hinside : k < moduleName.length := by
      rw [List.length_append, List.length_singleton] at hj
      omega
    have hchar : moduleName[k]? = some c := by
      rw [Nat.add_sub_cancel, ← List.getElem?_drop, ← hrest, List.append_assoc,
        List.getElem?_append_left hinside] at hget
      exact hget
    exact hmodule c (List.mem_of_getElem? hchar) hc

/-- Whether no qualifier that begins a name in the first text reaches behind it. -/
def IsPassed (qualifier front after : Text) : Prop :=
  ∀ i < front.length, BeginsAt qualifier (front ++ after) i → i + qualifier.length ≤ front.length

section Positions

variable {moduleName qualifier front after : Text}

theorem IsPassed.not_isQualifying (h : IsPassed qualifier front after)
    (hnone : ¬BeginsAt qualifier (front ++ after) front.length) :
    ¬IsQualifying qualifier (front ++ after) front.length := by
  rintro ⟨i, hi, hbegins, hreaches⟩
  rcases Nat.lt_or_eq_of_le hi with hlt | rfl
  · exact Nat.not_lt.mpr (h i hlt hbegins) hreaches
  · exact hnone hbegins

theorem IsPassed.keep {c : Char} (h : IsPassed qualifier front (c :: after))
    (hnone : ¬BeginsAt qualifier (front ++ c :: after) front.length) :
    IsPassed qualifier (front ++ [c]) after := by
  intro i hi hbegins
  rw [← List.append_cons] at hbegins
  rw [List.length_append, List.length_singleton] at hi ⊢
  rcases Nat.lt_succ_iff_lt_or_eq.mp hi with hlt | rfl
  · exact Nat.le_succ_of_le (h i hlt hbegins)
  · exact absurd hbegins hnone

theorem IsPassed.drop (hmodule : ∀ c ∈ moduleName, c ∉ boundary)
    (h : IsPassed (moduleName ++ ['.']) front (moduleName ++ ['.'] ++ after))
    (hhere : BeginsAt (moduleName ++ ['.']) (front ++ (moduleName ++ ['.'] ++ after)) front.length) :
    IsPassed (moduleName ++ ['.']) (front ++ (moduleName ++ ['.'])) after := by
  have hlength : (front ++ (moduleName ++ ['.'])).length =
      front.length + (moduleName ++ ['.']).length := List.length_append
  intro i hi hbegins
  rw [List.append_assoc] at hbegins
  rw [hlength] at hi ⊢
  rcases Nat.lt_trichotomy i front.length with hlt | rfl | hgt
  · exact Nat.le_trans (h i hlt hbegins) (Nat.le_add_right _ _)
  · exact Nat.le_refl _
  · exact absurd hbegins (not_beginsAt_of_beginsAt hmodule hhere hgt hi)

/-- A qualifier that begins a name has only positions that are to be dropped. -/
theorem filter_zipIdx_qualifier
    (hhere : BeginsAt qualifier (front ++ (qualifier ++ after)) front.length) :
    ((qualifier.zipIdx front.length).filter fun x =>
      ¬IsQualifying qualifier (front ++ (qualifier ++ after)) x.2) = [] := by
  rw [List.filter_eq_nil_iff]
  rintro ⟨c, p⟩ hx
  obtain ⟨hle, hlt, -⟩ := List.mem_zipIdx hx
  have hqualifying : IsQualifying qualifier (front ++ (qualifier ++ after)) p :=
    ⟨front.length, hle, hhere, hlt⟩
  simpa using hqualifying

end Positions

section Drops

variable {moduleName t t' : Text} {before : Option Char}

/-- A pass over what stands behind a text drops the positions of qualifiers that begin a name. -/
theorem Drops.eq_map_filter {front : Text} (hmodule : ∀ c ∈ moduleName, c ∉ boundary)
    (h : Drops (moduleName ++ ['.']) front.getLast? t t')
    (hpassed : IsPassed (moduleName ++ ['.']) front t) :
    t' = ((t.zipIdx front.length).filter fun x =>
      ¬IsQualifying (moduleName ++ ['.']) (front ++ t) x.2).map Prod.fst := by
  generalize hbefore : front.getLast? = before at h
  induction h generalizing front with
  | done => rfl
  | @keep before c t t' hhere h ih =>
      have hnone : ¬BeginsAt (moduleName ++ ['.']) (front ++ c :: t) front.length := by
        rw [beginsAt_length_iff, hbefore]
        exact hhere
      have hrest := ih (hpassed.keep hnone) List.getLast?_concat
      rw [← List.append_cons, List.length_append] at hrest
      rw [List.zipIdx_cons, List.filter_cons_of_pos (by simpa using hpassed.not_isQualifying hnone),
        List.map_cons, hrest]
      rfl
  | @drop before t t' hstarts h ih =>
      have hhere : BeginsAt (moduleName ++ ['.']) (front ++ (moduleName ++ ['.'] ++ t))
          front.length := by
        rw [beginsAt_length_iff, hbefore]
        exact ⟨hstarts, List.prefix_append _ t⟩
      have hlast : (front ++ (moduleName ++ ['.'])).getLast? = some '.' := by
        rw [← List.append_assoc]
        exact List.getLast?_concat
      have hlength : (front ++ (moduleName ++ ['.'])).length =
          front.length + (moduleName ++ ['.']).length := List.length_append
      have hrest := ih (hpassed.drop hmodule hhere) hlast
      rw [List.append_assoc, hlength] at hrest
      rw [List.zipIdx_append, List.filter_append, filter_zipIdx_qualifier hhere, List.nil_append,
        hrest]

theorem Drops.eq_unqualified (hmodule : ∀ c ∈ moduleName, c ∉ boundary)
    (h : Drops (moduleName ++ ['.']) none t t') : t' = unqualified (moduleName ++ ['.']) t :=
  @Drops.eq_map_filter moduleName t t' [] hmodule h fun i hi => absurd hi (Nat.not_lt_zero i)

/-- Behind a character that begins no name, characters of a module and one more stand in front only
if they stood there before. -/
theorem Drops.isPrefix_of_isPrefix {qualifier body : Text} {last : Char}
    (h : Drops qualifier before t t') (hbefore : startsName before = false)
    (hbody : ∀ c ∈ body, c ∉ boundary) (hfront : body ++ [last] <+: t') : body ++ [last] <+: t := by
  induction body generalizing before t t' with
  | nil =>
      cases h with
      | done => exact hfront
      | keep _ _ =>
          obtain ⟨rfl, -⟩ := List.cons_prefix_cons.mp hfront
          exact List.cons_prefix_cons.mpr ⟨rfl, List.nil_prefix⟩
      | drop hstarts _ => exact absurd (hstarts.symm.trans hbefore) Bool.noConfusion
  | cons d body ih =>
      rw [List.forall_mem_cons] at hbody
      cases h with
      | done => exact hfront
      | keep _ h =>
          obtain ⟨rfl, hrest⟩ := List.cons_prefix_cons.mp hfront
          have hinside : startsName (some d) = false := by simpa [startsName] using hbody.1
          exact List.cons_prefix_cons.mpr ⟨rfl, ih h hinside hbody.2 hrest⟩
      | drop hstarts _ => exact absurd (hstarts.symm.trans hbefore) Bool.noConfusion

/-- In what is left of a text nothing is to be dropped. -/
theorem Drops.self {before' : Option Char} (hne : moduleName ≠ [])
    (hmodule : ∀ c ∈ moduleName, c ∉ boundary) (h : Drops (moduleName ++ ['.']) before t t')
    (hbefore : startsName before' = true → startsName before = true) :
    Drops (moduleName ++ ['.']) before' t' t' := by
  induction h generalizing before' with
  | done => exact .done
  | @keep before c t t' hhere h ih =>
      refine .keep ?_ (ih id)
      rintro ⟨hstarts, hfront⟩
      refine hhere ⟨hbefore hstarts, ?_⟩
      -- the character begins the module, so that it is no boundary and nothing behind it is dropped
      obtain ⟨d, body, rfl⟩ := List.exists_cons_of_ne_nil hne
      rw [List.forall_mem_cons] at hmodule
      obtain ⟨rfl, hrest⟩ := List.cons_prefix_cons.mp hfront
      have hinside : startsName (some d) = false := by simpa [startsName] using hmodule.1
      exact List.cons_prefix_cons.mpr ⟨rfl, h.isPrefix_of_isPrefix hinside hmodule.2 hrest⟩
  | drop _ _ ih => exact ih fun _ => by decide

end Drops

/-- Where nothing is dropped no qualifier begins a name. -/
theorem not_beginsAt_of_unqualified_eq {qualifier t : Text} (hne : qualifier ≠ [])
    (h : unqualified qualifier t = t) (i : Nat) : ¬BeginsAt qualifier t i := by
  intro hbegins
  have hi : i < t.length := by
    have hlength := hbegins.2.length_le
    have hpositive := List.length_pos_iff.mpr hne
    rw [List.length_drop] at hlength
    omega
  have hall : ∀ x ∈ t.zipIdx, decide (¬IsQualifying qualifier t x.2) = true := by
    apply List.length_filter_eq_length_iff.mp
    rw [List.length_zipIdx]
    simpa [unqualified] using congrArg List.length h
  have hkept := hall (t[i], i) (by simp [List.mem_zipIdx_iff_getElem?])
  have hreaches : i < i + qualifier.length := Nat.lt_add_of_pos_right (List.length_pos_iff.mpr hne)
  exact of_decide_eq_true hkept ⟨i, Nat.le_refl i, hbegins, hreaches⟩

/-- Dropping the qualifier of a module without boundaries leaves the text without just those
qualifiers that begin a name in it. None is left that begins a name, so that dropping them again
changes nothing. -/
theorem dropQualifier_eq_unqualified {moduleName : Text} (hne : moduleName ≠ [])
    (hmodule : ∀ c ∈ moduleName, c ∉ boundary) (t : Text) :
    (∀ i, ¬BeginsAt (moduleName ++ ['.']) (dropQualifier t moduleName) i) ∧
      dropQualifier (dropQualifier t moduleName) moduleName = dropQualifier t moduleName ∧
      dropQualifier t moduleName = unqualified (moduleName ++ ['.']) t := by
  have hdrops (t : Text) : dropQualifier t moduleName = unqualified (moduleName ++ ['.']) t :=
    (drops_dropQualifier hne t).eq_unqualified hmodule
  have hself : unqualified (moduleName ++ ['.']) (dropQualifier t moduleName) =
      dropQualifier t moduleName :=
    (((drops_dropQualifier hne t).self hne hmodule id).eq_unqualified hmodule).symm
  refine ⟨?_, ?_, hdrops t⟩
  · exact not_beginsAt_of_unqualified_eq (by simp) hself
  · rw [hdrops (dropQualifier t moduleName), hself]

/-- Two qualifiers in a row both go, and one inside a name stays. -/
theorem dropQualifier_eq_unqualified_app :
    let t := "App.App.load(App.Kit, MyApp.Kit)".toList
    let moduleName := "App".toList
    (moduleName ≠ [] ∧ ∀ c ∈ moduleName, c ∉ boundary) ∧
      dropQualifier t moduleName = "load(Kit, MyApp.Kit)".toList ∧
      (∀ i, ¬BeginsAt (moduleName ++ ['.']) (dropQualifier t moduleName) i) ∧
      dropQualifier (dropQualifier t moduleName) moduleName = dropQualifier t moduleName ∧
      dropQualifier t moduleName = unqualified (moduleName ++ ['.']) t := by
  intro t moduleName
  have hne : moduleName ≠ [] := by decide
  have hall : (moduleName.all fun c => c ∉ boundary) = true := by decide
  have hmodule : ∀ c ∈ moduleName, c ∉ boundary :=
    fun c hc => of_decide_eq_true (List.all_eq_true.mp hall c hc)
  exact ⟨⟨hne, hmodule⟩, by decide +kernel, dropQualifier_eq_unqualified hne hmodule t⟩

end LinkAudit.Demangled

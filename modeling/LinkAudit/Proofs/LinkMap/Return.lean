import LinkAudit.Proofs.LinkMap.Unbroken
import LinkAudit.Proofs.Text.LineEnds
import LinkAudit.Proofs.Text.Trim
import Mathlib.Data.List.TakeWhile

/-!
Lines of a link map with a carriage return at the end. It is dropped from what stands behind the
number of an object, but where nothing but blanks stands there, it is taken for what stands there,
and nothing is left when it is dropped. Without carriage returns something is always left.
-/

namespace LinkAudit.LinkMap

open Text (decimalValue isBlank isDecimal isHex MayReturn)

/-- Whether the text is a number in brackets with blanks and nothing else behind it. -/
def IsBare (digits t : Text) : Prop := ∃ gap, bracketed? t = some (digits, gap) ∧ IsGap gap

/-! Entries. -/

theorem field?_append_return_of_isGap {t : Text} (h : IsGap t) :
    field? (t ++ ['\r']) = some [] := by
  have hblank : ∀ c ∈ t ++ ['\r'], isBlank c = true := by
    intro c hc
    rcases List.mem_append.mp hc with hc | hc
    · exact h.blank c hc
    · rw [List.mem_singleton.mp hc]
      decide
  have hstretch : Text.IsStretch isBlank (t ++ ['\r']) [] := ⟨hblank, by simp⟩
  have htake := hstretch.takeWhile_append
  have hdrop := hstretch.dropWhile_append
  rw [List.append_nil] at htake hdrop
  have hlength : 2 ≤ (t ++ ['\r']).length := by
    have hpositive := List.length_pos_iff.mpr h.nonempty
    rw [List.length_append, List.length_singleton]
    omega
  simp only [field?, htake, hdrop, if_pos hlength, List.getLast?_concat]
  simp [Text.trimEnd]

theorem field?_append_return {t : Text} (h : ¬IsGap t) : field? (t ++ ['\r']) = field? t := by
  by_cases hdrop : t.dropWhile isBlank = []
  · have hnil : t = [] := by
      by_contra hne
      exact h ⟨hne, List.dropWhile_eq_nil_iff.mp hdrop⟩
    rw [hnil]
    rfl
  · obtain ⟨htake', hdrop'⟩ := Text.takeWhile_dropWhile_append ['\r'] (absurd · hdrop)
    have htrim : Text.trimEnd (t.dropWhile isBlank ++ ['\r']) (· = '\r') =
        Text.trimEnd (t.dropWhile isBlank) (· = '\r') :=
      Text.trimEnd_append_singleton (by simp) _
    have hsome : (t.dropWhile isBlank).isEmpty = false := by simpa using hdrop
    have hsome' : (t.dropWhile isBlank ++ ['\r']).isEmpty = false := by simp
    simp only [field?, htake', hdrop', htrim, hsome, hsome']

theorem dropWhile_isBlank_append_return {t : Text} (h : t.dropWhile isBlank = []) :
    (t ++ ['\r']).dropWhile isBlank = [] := by
  rw [List.dropWhile_append, h]
  rfl

theorem bracketed?_append_return (t : Text) :
    bracketed? (t ++ ['\r']) = (bracketed? t).map fun x => (x.1, x.2 ++ ['\r']) := by
  cases t with
  | nil => rfl
  | cons c rest =>
      by_cases hc : c = '['
      · subst hc
        rw [List.cons_append, bracketed?, bracketed?]
        by_cases hdrop : rest.dropWhile isBlank = []
        · rw [hdrop, dropWhile_isBlank_append_return hdrop]
          rfl
        · obtain ⟨-, hdrop'⟩ := Text.takeWhile_dropWhile_append ['\r'] (absurd · hdrop)
          obtain ⟨hdigits, hafter⟩ := Text.takeWhile_dropWhile_append (p := isDecimal)
            (t := rest.dropWhile isBlank) ['\r'] fun _ => by simp; decide
          simp only [hdrop', hdigits, hafter]
          cases (rest.dropWhile isBlank).dropWhile isDecimal with
          | nil => rfl
          | cons d after =>
              by_cases hd : d = ']'
              · subst hd
                simp only [List.cons_append]
                split <;> rfl
              · simp [hd]
      · simp [bracketed?, hc]

/-- A carriage return also stands for the blanks behind a number, but then nothing else is left. -/
theorem hexField?_append_return (t : Text) :
    hexField? (t ++ ['\r']) = (hexField? t).map (fun x => (x.1, x.2 ++ ['\r'])) ∨
      (∀ x ∈ hexField? (t ++ ['\r']), x.2 = []) ∧ ∀ x ∈ hexField? t, x.2 = [] := by
  match t with
  | [] => exact .inl rfl
  | [c] => exact .inl (by simp [hexField?])
  | c :: d :: rest =>
      by_cases hcd : c = '0' ∧ d = 'x'
      · obtain ⟨rfl, rfl⟩ := hcd
        obtain ⟨hdigits, hafter⟩ := Text.takeWhile_dropWhile_append (p := isHex)
          (t := rest) ['\r'] fun _ => by simp; decide
        rw [List.cons_append, List.cons_append, hexField?, hexField?]
        simp only [hdigits, hafter]
        by_cases hdrop : (rest.dropWhile isHex).dropWhile isBlank = []
        · rw [hdrop, dropWhile_isBlank_append_return hdrop]
          have hempty {fails : Bool} {n : Nat} :
              ∀ x ∈ if fails then none else some (n, ([] : Text)), x.2 = [] := by
            intro x hx
            split at hx
            · cases hx
            · rw [← Option.some.inj hx]
          exact .inr ⟨hempty, hempty⟩
        · obtain ⟨hblanks, hleft⟩ := Text.takeWhile_dropWhile_append ['\r'] (absurd · hdrop)
          rw [hblanks, hleft]
          refine .inl ?_
          split <;> rfl
      · have hnone {after : Text} : hexField? (c :: d :: after) = none := by
          unfold hexField?
          split
          · rename_i heq
            simp_all
          · rfl
        exact .inl (by simp [hnone])

theorem objectHere?_append_return (t : Text) :
    objectHere? (t ++ ['\r']) = objectHere? t ∨
      ∃ o, IsBare o.digits t ∧ o.entry = ⟨decimalValue o.digits, []⟩ ∧
        objectHere? (t ++ ['\r']) = some o := by
  have hwhole := bracketed?_append_return t
  cases hbracketed : bracketed? t with
  | none =>
      rw [hbracketed] at hwhole
      left
      simp [objectHere?, hbracketed, hwhole]
  | some x =>
      obtain ⟨digits, after⟩ := x
      rw [hbracketed] at hwhole
      by_cases hgap : IsGap after
      · right
        refine ⟨⟨digits, decimalValue digits, []⟩, ⟨after, hbracketed, hgap⟩, rfl, ?_⟩
        simp [objectHere?, hwhole, field?_append_return_of_isGap hgap]
      · left
        simp [objectHere?, hbracketed, hwhole, field?_append_return hgap]

theorem hexField?_suffix {t after : Text} {n : Nat} (h : hexField? t = some (n, after)) :
    after <:+ t := by
  obtain ⟨digits, gap, -, -, -, rfl⟩ := exists_of_hexField? h
  exact ⟨'0' :: 'x' :: (digits ++ gap), by simp⟩

/-- Where what is read behind a hexadecimal number needs more than a carriage return, one at the end
is passed on to it. -/
theorem bind_hexField?_append_return {α : Type} {next : Nat × Text → Option α}
    (hnil : ∀ n, next (n, []) = none) (hreturn : ∀ n, next (n, ['\r']) = none) (t : Text) :
    (hexField? (t ++ ['\r'])).bind next =
      (hexField? t).bind fun x => next (x.1, x.2 ++ ['\r']) := by
  rcases hexField?_append_return t with hpassed | ⟨hlonger, hshorter⟩
  · rw [hpassed, Option.bind_map]
    rfl
  · have hleft : (hexField? (t ++ ['\r'])).bind next = none := by
      rw [Option.bind_eq_none_iff]
      rintro ⟨n, after⟩ hx
      obtain rfl : after = [] := hlonger _ hx
      exact hnil n
    rw [hleft, eq_comm, Option.bind_eq_none_iff]
    rintro ⟨n, after⟩ hx
    obtain rfl : after = [] := hshorter _ hx
    exact hreturn n

/-- Behind two hexadecimal numbers a symbol is read like an object. -/
theorem symbolHere?_eq_bind (t : Text) :
    symbolHere? t = (hexField? t).bind fun x => (hexField? x.2).bind fun y =>
      (objectHere? y.2).map fun o => ⟨o.digits, x.1, y.1, o.entry.index, o.entry.path⟩ := by
  rw [symbolHere?]
  refine Option.bind_congr fun x _ => Option.bind_congr fun y _ => ?_
  cases hnumber : bracketed? y.2 with
  | none => simp [objectHere?, hnumber]
  | some x => cases hfield : field? x.2 <;> simp [objectHere?, hnumber, hfield]

theorem symbolHere?_append_return (t : Text) :
    symbolHere? (t ++ ['\r']) = symbolHere? t ∨
      ∃ s, s.entry.name = [] ∧ symbolHere? (t ++ ['\r']) = some s := by
  have hwhole : symbolHere? (t ++ ['\r']) =
      (hexField? t).bind fun x => (hexField? x.2).bind fun y =>
        (objectHere? (y.2 ++ ['\r'])).map fun o =>
          ⟨o.digits, x.1, y.1, o.entry.index, o.entry.path⟩ := by
    rw [symbolHere?_eq_bind, bind_hexField?_append_return (fun _ => rfl) fun _ => rfl]
    refine Option.bind_congr fun x _ => ?_
    rw [bind_hexField?_append_return (fun _ => rfl) fun _ => rfl]
  rw [symbolHere?_eq_bind t]
  cases haddress : hexField? t with
  | none =>
      left
      rw [hwhole, haddress]
      rfl
  | some x =>
      cases hsize : hexField? x.2 with
      | none =>
          left
          rw [hwhole, haddress, Option.bind_some, Option.bind_some, hsize]
          rfl
      | some y =>
          rw [haddress, Option.bind_some, hsize, Option.bind_some] at hwhole
          rw [hwhole, Option.bind_some, hsize, Option.bind_some]
          rcases objectHere?_append_return y.2 with hsame | ⟨o, -, hpathless, hreturned⟩
          · exact .inl (congrArg _ hsame)
          · refine .inr ⟨⟨o.digits, x.1, y.1, o.entry.index, o.entry.path⟩, ?_, ?_⟩
            · rw [hpathless]
            · rw [hreturned, Option.map_some]

/-- Without carriage returns something is left behind a number. -/
theorem ne_nil_of_field? {t field : Text} (h : field? t = some field) (hreturn : '\r' ∉ t) :
    field ≠ [] := by
  have htrim {part : Text} (hpart : part ⊆ t) : part.trimEnd (· = '\r') = part := by
    apply Text.trimEnd_eq_self
    intro c hc
    have hmem : c ∈ t := hpart (List.mem_of_mem_getLast? hc)
    simpa using fun heq : c = '\r' => hreturn (heq ▸ hmem)
  unfold field? at h
  dsimp only at h
  split at h
  · cases h
  · split at h
    · rename_i hrest
      rw [htrim (List.dropWhile_sublist _).subset] at h
      rw [← Option.some.inj h]
      simpa using hrest
    · split at h
      · obtain ⟨c, hc, rfl⟩ := Option.map_eq_some_iff.mp h
        have hlast : c ∈ t := (List.takeWhile_sublist _).subset (List.mem_of_getLast? hc)
        rw [htrim (List.cons_subset.mpr ⟨hlast, List.nil_subset t⟩)]
        exact List.cons_ne_nil c []
      · cases h

theorem path_ne_nil_of_objectHere? {t : Text} {o : Numbered ObjectFile}
    (h : objectHere? t = some o) (hreturn : '\r' ∉ t) : o.entry.path ≠ [] := by
  obtain ⟨⟨digits, after⟩, hbracketed, h⟩ := Option.bind_eq_some_iff.mp h
  obtain ⟨path, hfield, h⟩ := Option.bind_eq_some_iff.mp h
  obtain rfl := Option.some.inj h
  obtain ⟨indent, -, -, -, rfl⟩ := exists_of_bracketed? hbracketed
  exact ne_nil_of_field? hfield fun hmem => hreturn (by simp [hmem])

theorem name_ne_nil_of_symbolHere? {t : Text} {s : Numbered Symbol} (h : symbolHere? t = some s)
    (hreturn : '\r' ∉ t) : s.entry.name ≠ [] := by
  rw [symbolHere?_eq_bind] at h
  obtain ⟨x, haddress, h⟩ := Option.bind_eq_some_iff.mp h
  obtain ⟨y, hsize, h⟩ := Option.bind_eq_some_iff.mp h
  obtain ⟨o, hobject, rfl⟩ := Option.map_eq_some_iff.mp h
  have hsuffix := (hexField?_suffix hsize).trans (hexField?_suffix haddress)
  exact path_ne_nil_of_objectHere? hobject fun hmem => hreturn (hsuffix.subset hmem)

/-! Lines. -/

/-- A carriage return makes no difference to the leftmost entry of a line unless it makes one to an
entry in the line, and then that entry is the leftmost. -/
theorem leftmost?_append_return {α : Type} {here? : Text → Option α} {bare : Text → Prop}
    (hend : here? ['\r'] = none) (h : ∀ t, here? (t ++ ['\r']) = here? t ∨ bare t) (line : Text) :
    leftmost? here? (line ++ ['\r']) = leftmost? here? line ∨
      ∃ entry, bare entry ∧
        leftmost? here? (line ++ ['\r']) = leftmost? here? (entry ++ ['\r']) ∧
        leftmost? here? line = leftmost? here? entry := by
  induction line with
  | nil =>
      left
      change (here? ['\r'] <|> here? []) = here? []
      rw [hend]
      rfl
  | cons c rest ih =>
      rcases h (c :: rest) with hsame | hbare
      · rw [List.cons_append] at hsame
        rw [List.cons_append, leftmost?, leftmost?, hsame]
        cases hhere : here? (c :: rest) with
        | some a => exact .inl rfl
        | none =>
            rcases ih with hrest | ⟨entry, hbare, hlonger, hshorter⟩
            · exact .inl hrest
            · exact .inr ⟨entry, hbare, hlonger, hshorter⟩
      · exact .inr ⟨c :: rest, hbare, rfl, rfl⟩

theorem leftmost?_objectHere?_of_not_mem {t : Text} (h : '[' ∉ t) :
    leftmost? objectHere? t = none := by
  rw [leftmost?_eq_none_iff isSome_objectHere?_iff]
  rintro _ hsuffix ⟨indent, digits, gap, rest, -, -, -, -, -, rfl⟩
  exact h (hsuffix.subset List.mem_cons_self)

/-- If a line that is only a bare number is read as an object, then as one with this number. -/
theorem IsBare.index_eq {digits t : Text} (h : IsBare digits t) :
    ∀ o ∈ leftmost? objectHere? t, o.entry.index = decimalValue digits := by
  obtain ⟨gap, hbracketed, hgap⟩ := h
  obtain ⟨indent, hindent, hne, hdigits, rfl⟩ := exists_of_bracketed? hbracketed
  have hnone : leftmost? objectHere? (indent ++ (digits ++ ']' :: gap)) = none := by
    have hblank : isBlank '[' = false := by decide
    have hdecimal : isDecimal '[' = false := by decide
    apply leftmost?_objectHere?_of_not_mem
    simp only [List.mem_append, List.mem_cons, not_or]
    refine ⟨fun hmem => ?_, fun hmem => ?_, by decide, fun hmem => ?_⟩
    · simp [hindent _ hmem] at hblank
    · simp [hdigits _ hmem] at hdecimal
    · simp [hgap.blank _ hmem] at hblank
  intro o ho
  rw [leftmost?, hnone, Option.orElse_eq_orElse, Option.orElse_eq_or, Option.or_none] at ho
  obtain ⟨x, hx, ho⟩ := Option.bind_eq_some_iff.mp ho
  obtain rfl := Option.some.inj (hbracketed.symm.trans hx)
  obtain ⟨path, -, ho⟩ := Option.bind_eq_some_iff.mp ho
  rw [← Option.some.inj ho]

theorem leftmost?_objectHere?_of_mayReturn {line line' : Text} (h : MayReturn line line') :
    leftmost? objectHere? line' = leftmost? objectHere? line ∨
      ∃ o, leftmost? objectHere? line' = some o ∧ o.entry.path = [] ∧
        ∀ p ∈ leftmost? objectHere? line, p.entry.index = o.entry.index := by
  rcases h with rfl | rfl
  · exact .inl rfl
  · rcases leftmost?_append_return rfl objectHere?_append_return line with
      hsame | ⟨entry, ⟨o, hbare, hpathless, hhere⟩, hlonger, hshorter⟩
    · exact .inl hsame
    · refine .inr ⟨o, hlonger.trans (leftmost?_of_here? hhere), by rw [hpathless], ?_⟩
      rw [hshorter, hpathless]
      exact hbare.index_eq

theorem leftmost?_symbolHere?_of_mayReturn {line line' : Text} (h : MayReturn line line') :
    leftmost? symbolHere? line' = leftmost? symbolHere? line ∨
      ∃ s, leftmost? symbolHere? line' = some s ∧ s.entry.name = [] := by
  rcases h with rfl | rfl
  · exact .inl rfl
  · rcases leftmost?_append_return rfl symbolHere?_append_return line with
      hsame | ⟨entry, ⟨s, hname, hhere⟩, hlonger, -⟩
    · exact .inl hsame
    · exact .inr ⟨s, hlonger.trans (leftmost?_of_here? hhere), hname⟩

theorem heading_of_mayReturn {line line' : Text} (h : MayReturn line line') :
    heading line' = heading line := by
  have hprefix {header : Text} (hreturn : '\r' ∉ header) :
      header.isPrefixOf line' = header.isPrefixOf line := by
    rcases h with rfl | rfl
    · rfl
    · rw [Bool.eq_iff_iff, List.isPrefixOf_iff_prefix, List.isPrefixOf_iff_prefix,
        List.prefix_concat_iff]
      constructor
      · rintro (rfl | hin)
        · simp at hreturn
        · exact hin
      · exact .inr
  rw [heading, heading, hprefix (by decide), hprefix (by decide), hprefix (by decide),
    hprefix (by decide)]

end LinkAudit.LinkMap

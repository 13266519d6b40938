import LinkAudit.Proofs.Comparison.Mention
import LinkAudit.Proofs.Mangled.Spelling
import LinkAudit.Proofs.Text.Search

/-!
What a release names and what it mentions. A name of the release names a stem as a segment of its
mangled part or as the class of a bracketed method. A search for the stem with its length in front
finds every segment, but it may also begin in the length of a longer segment, among the characters
of a segment, or outside of what is read of the name. Main statement: an object is mentioned if and
only if its shortest stem is named or found astray in one of these ways. A stem with a newline, which
no object has that was read from a text, may also be found over the ends of names.
-/

namespace LinkAudit

open Text (BeginsIn)
open ReleaseSide (asSegment asClass)

def HasSegment (stem name : Text) : Prop :=
  ∃ canonical, Mangled.canonical? name = some canonical ∧
    stem ∈ (Mangled.ofText canonical).segments

/-- Whether a name is that of a bracketed method of the class: the class stands between the bracket
and the first space. -/
def IsMethodOf (className name : Text) : Prop :=
  isMethodName name = true ∧ ' ' ∉ className ∧ ']' ∉ className ∧
    ∃ sign selector, name = sign :: asClass className ++ selector

def Names (stem name : Text) : Prop := HasSegment stem name ∨ IsMethodOf stem name

/-- Whether the stem with its length in front stands in the tokens or the rest of a spelling other
than as a segment. No run has a digit, so that it begins in the length of another segment, among the
characters of a segment, or in the rest. -/
def Mangled.StraysIn (stem rest : Text) : List Mangled.Token → Prop
  | [] => asSegment stem <:+: rest
  | .counted digits text :: tokens =>
    BeginsIn (asSegment stem) digits (text ++ (written tokens ++ rest)) ∧ text ≠ stem ∨
      BeginsIn (asSegment stem) text (written tokens ++ rest) ∨ StraysIn stem rest tokens
  | .run _ :: tokens => StraysIn stem rest tokens

/-- Whether the stem with its length in front stands in a name other than as a segment: in a name
without a mangled part, in front of the mangled part, or inside it. -/
inductive StraySegment (stem name : Text) : Prop
  | unmangled (canonical : Mangled.canonical? name = none) (mentions : asSegment stem <:+: name)
  | ahead {before canonical : Text} (canonical_eq : Mangled.canonical? name = some canonical)
      (whole : before ++ canonical = name) (begins : BeginsIn (asSegment stem) before canonical)
  | inside {canonical : Text} {s : Mangled.Spelling}
      (canonical_eq : Mangled.canonical? name = some canonical) (spells : s.Spells canonical)
      (strays : Mangled.StraysIn stem s.rest s.tokens)

/-- Whether the stem is found in a name that does not name it as it was found. -/
def Strays (stem name : Text) : Prop :=
  StraySegment stem name ∨ asClass stem <:+: name ∧ ¬IsMethodOf stem name

theorem asSegment_eq_cons (stem : Text) :
    ∃ c rest, asSegment stem = c :: rest ∧ c.isDigit = true := by
  obtain ⟨c, rest, hdigits⟩ := List.exists_cons_of_ne_nil
    (Nat.toDigits_ne_nil (n := stem.length) (b := 10))
  refine ⟨c, rest ++ stem, by rw [asSegment, Text.ofNat, hdigits]; rfl, ?_⟩
  exact Nat.isDigit_of_mem_toDigits (by decide) (by decide) (hdigits ▸ List.mem_cons_self)

theorem not_beginsIn_of_forall_not_digit {part : Text} (h : ∀ c ∈ part, c.isDigit = false)
    (stem after : Text) : ¬BeginsIn (asSegment stem) part after := by
  obtain ⟨c, rest, heq, hdigit⟩ := asSegment_eq_cons stem
  have hmem : c ∉ part := fun hmem => by simp [h c hmem] at hdigit
  rw [heq]
  exact Text.not_beginsIn_cons hmem rest after

namespace Mangled

/-- A segment is found with its length, of which only zeros may be left out. -/
theorem Token.StandsBefore.beginsIn {digits text after : Text}
    (h : (Token.counted digits text).StandsBefore after) :
    BeginsIn (asSegment text) digits (text ++ after) := by
  obtain ⟨hlength, hpositive, hcount⟩ := h
  refine ⟨Text.ofNat text.length, Nat.toDigits_ne_nil, ?_, ?_⟩
  · rw [hcount]
    exact ofNat_lengthValue_isSuffix hlength.stretch.inside hpositive
  · rw [asSegment, ← List.append_assoc]
    exact List.prefix_append _ _

theorem asSegment_isInfix_written_iff {stem rest : Text} {tokens : List Token}
    (h : AreTokens rest tokens) :
    asSegment stem <:+: written tokens ++ rest ↔
      stem ∈ tokens.filterMap Token.segment? ∨ StraysIn stem rest tokens := by
  induction tokens with
  | nil =>
      rw [StraysIn]
      simp [written]
  | cons token tokens ih =>
      obtain ⟨hstands, htokens⟩ := h
      rw [written_cons, List.append_assoc]
      cases token with
      | counted digits text =>
          rw [Token.written, List.append_assoc, Text.isInfix_append_iff, Text.isInfix_append_iff,
            ih htokens, StraysIn]
          have hsegments : (Token.counted digits text :: tokens).filterMap Token.segment? =
              text :: tokens.filterMap Token.segment? := rfl
          rw [hsegments, List.mem_cons]
          by_cases htext : text = stem
          · subst htext
            simp [hstands.beginsIn]
          · simp only [htext, Ne.symm htext, not_false_eq_true, and_true, false_or, ne_eq]
            tauto
      | run text =>
          have hrun : ∀ c ∈ text, c.isDigit = false := fun c hc => by
            simpa using hstands.2.inside c hc
          rw [Token.written, Text.isInfix_append_iff, ih htokens, StraysIn,
            or_iff_right (not_beginsIn_of_forall_not_digit hrun _ _)]
          rfl

theorem Spelling.Spells.asSegment_isInfix_iff {s : Spelling} {canonical : Text}
    (h : s.Spells canonical) (stem : Text) :
    asSegment stem <:+: canonical ↔
      stem ∈ (ofText canonical).segments ∨ StraysIn stem s.rest s.tokens := by
  have hlead : ∀ c ∈ s.lead, c.isDigit = false := fun c hc => by simpa using h.lead.inside c hc
  rw [ofText_of_spells h, ← h.whole, Text.isInfix_append_iff,
    asSegment_isInfix_written_iff h.tokens, Spelling.parts]
  simp [not_beginsIn_of_forall_not_digit hlead]

theorem suffix_of_canonical?_eq_some {name canonical : Text}
    (h : canonical? name = some canonical) : canonical <:+ name := by
  obtain ⟨marker, -, hfound⟩ := List.exists_of_findSome?_eq_some h
  exact Text.suffix_of_fromFirst?_eq_some hfound

end Mangled

theorem asSegment_isInfix_iff (stem name : Text) :
    asSegment stem <:+: name ↔ HasSegment stem name ∨ StraySegment stem name := by
  constructor
  · intro hin
    cases hcanonical : Mangled.canonical? name with
    | none => exact .inr (.unmangled hcanonical hin)
    | some canonical =>
        obtain ⟨before, hwhole⟩ := Mangled.suffix_of_canonical?_eq_some hcanonical
        obtain ⟨s, hs⟩ := Mangled.exists_spells canonical
        rw [← hwhole, Text.isInfix_append_iff] at hin
        rcases hin with hbegins | hin
        · exact .inr (.ahead hcanonical hwhole hbegins)
        · rcases (hs.asSegment_isInfix_iff stem).mp hin with hsegment | hstrays
          · exact .inl ⟨canonical, hcanonical, hsegment⟩
          · exact .inr (.inside hcanonical hs hstrays)
  · rintro (⟨canonical, hcanonical, hsegment⟩ | hstray)
    · obtain ⟨s, hs⟩ := Mangled.exists_spells canonical
      exact ((hs.asSegment_isInfix_iff stem).mpr (.inl hsegment)).trans
        (Mangled.suffix_of_canonical?_eq_some hcanonical).isInfix
    · cases hstray with
      | unmangled _ hin => exact hin
      | ahead _ hwhole hbegins =>
          rw [← hwhole, Text.isInfix_append_iff]
          exact .inl hbegins
      | inside hcanonical hs hstrays =>
          exact ((hs.asSegment_isInfix_iff stem).mpr (.inr hstrays)).trans
            (Mangled.suffix_of_canonical?_eq_some hcanonical).isInfix

theorem IsMethodOf.asClass_isInfix {className name : Text} (h : IsMethodOf className name) :
    asClass className <:+: name := by
  obtain ⟨-, -, -, sign, selector, rfl⟩ := h
  exact ⟨[sign], selector, rfl⟩

/-- What is found of a stem in a name names it or is astray. -/
theorem names_or_strays_iff (stem name : Text) :
    Names stem name ∨ Strays stem name ↔
      asSegment stem <:+: name ∨ asClass stem <:+: name := by
  rw [asSegment_isInfix_iff, Names, Strays]
  constructor
  · rintro ((hsegment | hmethod) | hstray | ⟨hclass, -⟩)
    · exact .inl (.inl hsegment)
    · exact .inr hmethod.asClass_isInfix
    · exact .inl (.inr hstray)
    · exact .inr hclass
  · rintro ((hsegment | hstray) | hclass)
    · exact .inl (.inl hsegment)
    · exact .inr (.inl hstray)
    · by_cases hmethod : IsMethodOf stem name
      · exact .inl (.inr hmethod)
      · exact .inr (.inr ⟨hclass, hmethod⟩)

/-- Whether a stem goes over the end of a line and is found in the text of the release's names. -/
structure SpansNames (stem : Text) (release : LinkMap) : Prop where
  newline : '\n' ∈ stem
  found : asSegment stem <:+: Text.joinWith ['\n'] (release.symbols.map (·.name)) ∨
    asClass stem <:+: Text.joinWith ['\n'] (release.symbols.map (·.name))

theorem mentions_names_iff (stem : Text) (release : LinkMap) :
    let names := Text.joinWith ['\n'] (release.symbols.map (·.name))
    names.mentions (asSegment stem) = true ∨ names.mentions (asClass stem) = true ↔
      (∃ s ∈ release.symbols, Names stem s.name ∨ Strays stem s.name) ∨
        SpansNames stem release := by
  intro names
  simp only [names_or_strays_iff]
  by_cases hnewline : '\n' ∈ stem
  · rw [Text.mentions_iff_isInfix, Text.mentions_iff_isInfix]
    constructor
    · exact fun hfound => .inr ⟨hnewline, hfound⟩
    · rintro (⟨s, hs, hin⟩ | hspans)
      · have hname := Text.isInfix_joinWith_of_mem ['\n'] (List.mem_map_of_mem (f := (·.name)) hs)
        exact hin.imp (·.trans hname) (·.trans hname)
      · exact hspans.found
  · rw [ReleaseSide.mentions_joinWith_asSegment_or_asClass hnewline,
      or_iff_left fun hspans : SpansNames stem release => hnewline hspans.newline]
    simp only [List.mem_map, exists_exists_and_eq_and]

/-- A release mentions an object if and only if the object has a shortest stem and a name of the
release names this stem or has it astray, or else the stem goes over the end of a line. The stem of
an object that was read from a text never does. -/
theorem mentions_iff (release : LinkMap) (current : Path) :
    (∀ path, (ReleaseSide.ofMap release current).mentions path = true ↔
      ∃ stem, (ObjectFile.stemsOf path).getLast? = some stem ∧
        ((∃ s ∈ release.symbols, Names stem s.name ∨ Strays stem s.name) ∨
          SpansNames stem release)) ∧
      ∀ t, ∀ o ∈ (LinkMap.ofText t).objects.toList,
        ((ReleaseSide.ofMap release current).mentions o.path = true ↔
          ∃ stem, (ObjectFile.stemsOf o.path).getLast? = some stem ∧
            ∃ s ∈ release.symbols, Names stem s.name ∨ Strays stem s.name) := by
  refine ⟨fun path => ?_, fun t o ho => ?_⟩
  · rw [ReleaseSide.mentions]
    cases hstem : (ObjectFile.stemsOf path).getLast? with
    | none => simp
    | some stem =>
        simp only [Bool.or_eq_true, Option.some.injEq, exists_eq_left']
        exact mentions_names_iff stem release
  · rw [ReleaseSide.mentions_ofMap_iff release current (LinkMap.isUnbroken_ofText t o ho)]
    simp only [names_or_strays_iff, List.mem_map, exists_exists_and_eq_and]

/-- The release of a longer name has the stem of an object that was read from a text astray. -/
theorem names_or_strays_of_mentioned :
    let debug := LinkMap.ofText "# Object files:\n[2] /b/A.o\n".toList
    let release := LinkMap.ofText "# Symbols:\n0x1\t0x1\t[1] $s3App11AppDelegateC4mainyyF\n".toList
    ∃ o ∈ debug.objects.toList, ∃ stem, (ObjectFile.stemsOf o.path).getLast? = some stem ∧
      ∃ s ∈ release.symbols, Names stem s.name ∨ Strays stem s.name := by
  intro debug release
  have ho : ⟨2, "/b/A.o".toList⟩ ∈ debug.objects.toList := by decide +kernel
  exact ⟨_, ho, ((mentions_iff release (Path.ofText "/b".toList)).2 _ _ ho).mp (by decide +kernel)⟩

/-- The last digit of a longer length and the first letter behind it are taken for a stem. -/
theorem exists_mentioned_not_named :
    let debug := LinkMap.ofText "# Object files:\n[2] /b/A.o\n".toList
    let release := LinkMap.ofText "# Symbols:\n0x1\t0x1\t[1] $s3App11AppDelegateC4mainyyF\n".toList
    ∃ o ∈ debug.objects.toList,
      (ReleaseSide.ofMap release (Path.ofText "/b".toList)).mentions o.path = true ∧
        ¬∃ stem, (ObjectFile.stemsOf o.path).getLast? = some stem ∧
          ∃ s ∈ release.symbols, Names stem s.name := by
  intro debug release
  refine ⟨⟨2, "/b/A.o".toList⟩, by decide +kernel, by decide +kernel, ?_⟩
  rintro ⟨stem, hstem, s, hs, hnames⟩
  have hsymbols : release.symbols =
      [⟨1, 1, 1, "$s3App11AppDelegateC4mainyyF".toList⟩] := by decide +kernel
  have hshortest : (ObjectFile.stemsOf "/b/A.o".toList).getLast? = some ['A'] := by decide +kernel
  obtain rfl := Option.some.inj (hshortest.symm.trans hstem)
  rw [hsymbols, List.mem_singleton] at hs
  subst hs
  rcases hnames with ⟨canonical, hcanonical, hsegment⟩ | hmethod
  · have hwhole : Mangled.canonical? "$s3App11AppDelegateC4mainyyF".toList =
        some "$s3App11AppDelegateC4mainyyF".toList := by decide
    obtain rfl := Option.some.inj (hwhole.symm.trans hcanonical)
    revert hsegment
    decide +kernel
  · exact absurd hmethod.1 (by decide)

end LinkAudit

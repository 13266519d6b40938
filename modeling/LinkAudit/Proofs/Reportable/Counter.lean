import LinkAudit.Proofs.Mangled.Counter
import LinkAudit.Proofs.Reportable
import LinkAudit.Proofs.Text.Trim

/-!
Reportable names with a counter behind them. A counter makes a name noise only where the name ends
in the beginning of a word of generated names, and it leaves the mangled part and its module where
they are. But it is dropped from a kind code only if it reaches the code in one piece, and of a name
that is read to its end only the dot does.
-/

namespace LinkAudit

open Text (IsCounter isSettled)

variable {digits : Text}

/-! Noise. -/

namespace Noise

theorem mentionsAny_append_counter {needles : List Text}
    (hsettled : ∀ needle ∈ needles, isSettled needle = true)
    (h : ∀ c ∈ digits, c.isDigit = true) (t : Text) :
    mentionsAny (t ++ '.' :: digits) needles = mentionsAny t needles := by
  rw [mentionsAny, mentionsAny, Bool.eq_iff_iff, List.any_eq_true, List.any_eq_true]
  refine exists_congr fun needle => and_congr_right fun hneedle => ?_
  rw [Text.mentions_append_counter (hsettled needle hneedle) h]

theorem any_isPrefixOf_append_counter {needles : List Text}
    (hsettled : ∀ needle ∈ needles, isSettled needle = true)
    (h : ∀ c ∈ digits, c.isDigit = true) (t : Text) :
    needles.any (·.isPrefixOf (t ++ '.' :: digits)) = needles.any (·.isPrefixOf t) := by
  rw [Bool.eq_iff_iff, List.any_eq_true, List.any_eq_true]
  refine exists_congr fun needle => and_congr_right fun hneedle => ?_
  rw [Text.isPrefixOf_append_counter (hsettled needle hneedle) h]

/-- The one word that a counter's dot can complete, without the dot. -/
def unfinishedWord : Text := ".str".toList

theorem isSettled_of_mem_words :
    ∀ word ∈ words, word ≠ unfinishedWord ++ ['.'] → isSettled word = true := by
  decide +kernel

theorem mentionsAny_words_append_counter {t : Text} (h : ∀ c ∈ digits, c.isDigit = true) :
    mentionsAny (t ++ '.' :: digits) words = true ↔
      mentionsAny t words = true ∨ unfinishedWord <:+ t := by
  have hunfinished : isSettled unfinishedWord = true := by decide
  have hword : unfinishedWord ++ ['.'] ∈ words := by decide +kernel
  simp only [mentionsAny, List.any_eq_true]
  constructor
  · rintro ⟨word, hmem, hmentions⟩
    by_cases hdot : word = unfinishedWord ++ ['.']
    · rw [hdot, Text.mentions_dot_append_counter hunfinished h] at hmentions
      exact hmentions.imp_left fun hin => ⟨_, hword, hin⟩
    · rw [Text.mentions_append_counter (isSettled_of_mem_words word hmem hdot) h] at hmentions
      exact .inl ⟨word, hmem, hmentions⟩
  · rintro (⟨word, hmem, hmentions⟩ | hends)
    · refine ⟨word, hmem, ?_⟩
      exact Text.mentions_iff_isInfix.mpr
        ((Text.mentions_iff_isInfix.mp hmentions).trans (List.prefix_append _ _).isInfix)
    · exact ⟨_, hword, (Text.mentions_dot_append_counter hunfinished h).mpr (.inr hends)⟩

theorem not_isSuffixOf_append_counter (h : IsCounter digits) (t : Text) :
    resumeEnding.isSuffixOf (t ++ '.' :: digits) = false := by
  rw [Bool.eq_false_iff, ne_eq, List.isSuffixOf_iff_suffix]
  rintro ⟨before, heq⟩
  have hlast : resumeEnding.getLast? = digits.getLast? := by
    have hends := congrArg List.getLast? heq
    rw [List.getLast?_append_of_ne_nil _ (by decide), List.getLast?_append_of_ne_nil _ (by simp),
      List.getLast?_cons_of_ne_nil h.nonempty] at hends
    exact hends
  exact absurd (h.digit 'e' (List.mem_of_getLast? hlast.symm)) (by decide)

/-- Of a name that is no noise, a counter makes noise only if the name, lowered, ends in the
beginning of that word. -/
theorem inName_append_counter {name : Text} (hname : inName name = false) (h : IsCounter digits) :
    inName (name ++ '.' :: digits) = true ↔ unfinishedWord <:+ name.lower := by
  have hbeginnings : ∀ beginning ∈ beginnings, isSettled beginning = true := by decide +kernel
  have hcontainers : ∀ container ∈ viewContainers, isSettled container = true := by decide +kernel
  have hentries : ∀ entry ∈ unwindEntries, isSettled entry = true := by decide +kernel
  have hrelocations : ∀ mark ∈ relocations, isSettled mark = true := by decide +kernel
  have hdefer : isSettled deferMark = true := by decide
  have hresume : isSettled resumeMark = true := by decide
  have hprivate : isSettled privateMark = true := by decide
  have htable : isSettled unwindTable = true := by decide
  have hdigits := h.digit
  rw [inName] at hname ⊢
  simp only [Bool.or_eq_false_iff] at hname
  simp only [Text.lower_append_counter hdigits, Text.upper_append, Text.upper_counter hdigits,
    any_isPrefixOf_append_counter hbeginnings hdigits,
    Text.mentions_append_counter hdefer hdigits, not_isSuffixOf_append_counter h,
    Text.mentions_append_counter hresume hdigits, mentionsAny_append_counter hcontainers hdigits,
    Text.mentions_append_counter hprivate hdigits, Text.mentions_append_counter htable hdigits,
    mentionsAny_append_counter hentries hdigits, mentionsAny_append_counter hrelocations hdigits,
    Bool.or_eq_true, mentionsAny_words_append_counter hdigits]
  simp [hname]

end Noise

/-! Names. -/

theorem Mangled.canonical?_append_counter (h : ∀ c ∈ digits, c.isDigit = true) (name : Text) :
    canonical? (name ++ '.' :: digits) = (canonical? name).map (· ++ '.' :: digits) := by
  have hmarkers : ∀ marker ∈ markers, isSettled marker = true := by decide
  rw [canonical?, canonical?]
  generalize markers = ms at hmarkers ⊢
  induction ms with
  | nil => rfl
  | cons marker rest ih =>
      obtain ⟨hmarker, hrest⟩ := List.forall_mem_cons.mp hmarkers
      rw [List.findSome?_cons, List.findSome?_cons, Text.fromFirst?_append_counter hmarker h]
      cases name.fromFirst? marker with
      | some canonical => rfl
      | none => exact ih hrest

theorem isMethodName_append_counter (h : ∀ c ∈ digits, c.isDigit = true) (name : Text) :
    isMethodName (name ++ '.' :: digits) = isMethodName name := by
  have hbracket : '[' ∉ digits := fun hmem => absurd (h _ hmem) (by decide)
  match name with
  | [] =>
      cases digits with
      | nil => rfl
      | cons c rest =>
          have hc : c ≠ '[' := fun hc => hbracket (hc ▸ List.mem_cons_self)
          simp [isMethodName, hc]
  | [sign] => simp [isMethodName]
  | sign :: c :: rest =>
      by_cases hc : c = '['
      · subst hc
        have hposition := @Text.position?_append_counter [']'] digits (by decide) h rest
        simp only [List.cons_append, isMethodName, hposition]
      · simp [isMethodName, hc]

/-- A kind code that ends in a dot is all of the suffix. -/
theorem Mangled.kindCode_append_dot (suffix : Text) :
    kindCode (suffix ++ ['.']) = suffix ++ ['.'] := by
  have hcounter : dropCounter (suffix ++ ['.']) = suffix ++ ['.'] := by
    have hdot : Text.isDecimal '.' = false := by decide
    simp [dropCounter, dropCounterAtEnd, hdot]
  have hupper : Text.isUpper '.' = false := by decide
  rw [kindCode, hcounter, Text.trimEnd_eq_self (by simp [terminator])]
  simp [upperTail, hupper]

/-- With a dot in its suffix a name declares what its whole suffix, with the dot, is the kind of. -/
theorem Mangled.declares_dot_iff {kinds modules : List Text} {m : Mangled}
    (h : m.Declares kinds modules) (suffix : Text) :
    { m with suffix := some (suffix ++ ['.']) : Mangled }.Declares kinds modules ↔
      suffix.upper ++ ['.'] ∈ kinds := by
  obtain ⟨-, -, -, -, hhome⟩ := h
  have hsource : { m with suffix := some (suffix ++ ['.']) : Mangled }.kindSource? =
      some (suffix ++ ['.']) := by
    rw [kindSource?, Option.bind_some, Text.nonempty?_of_ne_nil (by simp)]
    rfl
  have hkind : (kindCode (suffix ++ ['.'])).upper = suffix.upper ++ ['.'] := by
    rw [kindCode_append_dot, Text.upper_append, @Text.upper_counter [] (by simp)]
  constructor
  · rintro ⟨source, hsome, -, hmem, -⟩
    rw [hsource] at hsome
    obtain rfl := Option.some.inj hsome
    rwa [hkind] at hmem
  · intro hmem
    rw [← hkind] at hmem
    exact ⟨_, hsource, by simp [hkind], hmem, hhome⟩

theorem Mangled.Spelling.tokens_ne_nil_of_declares {kinds modules : List Text} {s : Spelling}
    (h : s.parts.Declares kinds modules) : s.tokens ≠ [] := by
  intro htokens
  obtain ⟨source, hsource, -⟩ := h
  rw [kindSource?, parts, htokens] at hsource
  cases hsource

/-- Whether a name that declares something of the kinds in the modules still does so with a counter
behind it: either it is read to its end, and its suffix with a dot is one of the kinds, or it ends
in a length that has still nothing to count, or that counts what it needs of the counter. -/
def Mangled.Spelling.Endures (kinds modules : List Text) (digits : Text) (s : Spelling) : Prop :=
  if s.rest = [] then (s.parts.suffix.getD []).upper ++ ['.'] ∈ kinds
  else IsEnd (s.rest ++ '.' :: digits) ∨ (s.filledBy ('.' :: digits)).Declares kinds modules

theorem Mangled.Spelling.Spells.declares_append_counter_iff {kinds modules : List Text}
    {s : Spelling} {canonical : Text} (h : s.Spells canonical)
    (hdeclares : (ofText canonical).Declares kinds modules)
    (hdigits : ∀ c ∈ digits, c.isDigit = true) :
    (ofText (canonical ++ '.' :: digits)).Declares kinds modules ↔
      s.Endures kinds modules digits := by
  rw [ofText_of_spells h] at hdeclares
  rw [Endures]
  have htokens := tokens_ne_nil_of_declares hdeclares
  by_cases hrest : s.rest = []
  · rw [if_pos hrest, ofText_append_counter_of_read h htokens hrest hdigits,
      declares_dot_iff hdeclares]
  · rw [if_neg hrest]
    by_cases hend : IsEnd (s.rest ++ '.' :: digits)
    · rw [ofText_append_of_isEnd h htokens hend]
      exact ⟨fun _ => .inl hend, fun _ => hdeclares⟩
    · rw [ofText_append_counter_of_not_isEnd h htokens hrest hdigits hend]
      exact ⟨.inr, fun hfills => hfills.resolve_left hend⟩

section Names

variable {kinds modules : List Text} {name : Text}

theorem isReportable_iff_of_not_isMethodName (h : isMethodName name = false) :
    isReportable kinds modules name = true ↔ Noise.inName name = false ∧
      ∃ canonical, Mangled.canonical? name = some canonical ∧
        (Mangled.ofText canonical).Declares kinds modules := by
  rw [isReportable, h, Bool.false_or, Bool.and_eq_true, Bool.not_eq_true', isDeclarationIn_iff]

theorem isReportable_append_counter_iff_of_spells {canonical : Text} {s : Mangled.Spelling}
    (hmethod : isMethodName name = false) (hname : isReportable kinds modules name = true)
    (hcounter : IsCounter digits) (hcanonical : Mangled.canonical? name = some canonical)
    (hs : s.Spells canonical) :
    isReportable kinds modules (name ++ '.' :: digits) = true ↔
      ¬Noise.unfinishedWord <:+ name.lower ∧ s.Endures kinds modules digits := by
  obtain ⟨hnoise, whole, hwhole, hdeclares⟩ :=
    (isReportable_iff_of_not_isMethodName hmethod).mp hname
  obtain rfl := Option.some.inj (hcanonical.symm.trans hwhole)
  have hlonger : isMethodName (name ++ '.' :: digits) = false := by
    rw [isMethodName_append_counter hcounter.digit, hmethod]
  rw [isReportable_iff_of_not_isMethodName hlonger, ← Bool.not_eq_true,
    Noise.inName_append_counter hnoise hcounter,
    Mangled.canonical?_append_counter hcounter.digit, hcanonical,
    ← hs.declares_append_counter_iff hdeclares hcounter.digit]
  simp

/-- A reportable name that is no bracketed method stays reportable with a counter behind it if and
only if, lowered, it does not end in the beginning of a word of generated names, and its mangled
part endures the counter. -/
theorem isReportable_append_counter_iff
    (hmethod : isMethodName name = false) (hname : isReportable kinds modules name = true)
    (hcounter : IsCounter digits) :
    isReportable kinds modules (name ++ '.' :: digits) = true ↔
      ¬Noise.unfinishedWord <:+ name.lower ∧
        ∃ (canonical : Text) (s : Mangled.Spelling),
          Mangled.canonical? name = some canonical ∧ s.Spells canonical ∧
            s.Endures kinds modules digits := by
  obtain ⟨-, canonical, hcanonical, -⟩ :=
    (isReportable_iff_of_not_isMethodName hmethod).mp hname
  obtain ⟨s, hs⟩ := Mangled.exists_spells canonical
  rw [isReportable_append_counter_iff_of_spells hmethod hname hcounter hcanonical hs]
  refine and_congr_right fun _ => ?_
  constructor
  · intro hstays
    exact ⟨canonical, s, hcanonical, hs, hstays⟩
  · rintro ⟨whole, s', hwhole, hs', hstays⟩
    obtain rfl := Option.some.inj (hcanonical.symm.trans hwhole)
    obtain rfl := hs'.unique hs
    exact hstays

/-- A length at the end that counts nine characters takes the one behind it, the dot and the digits.
-/
theorem isReportable_append_counter_filling :
    let name := "$s3App4loadyyF9x".toList
    let digits := "1234567".toList
    (isMethodName name = false ∧ isReportable Mangled.reportableKinds [] name = true ∧
      IsCounter digits) ∧
    isReportable Mangled.reportableKinds [] (name ++ '.' :: digits) = true := by
  intro name digits
  have hmethod : isMethodName name = false := by decide
  have hname : isReportable Mangled.reportableKinds [] name = true := by decide +kernel
  have hcounter : IsCounter digits := ⟨by simp [digits], by simp [digits]⟩
  refine ⟨⟨hmethod, hname, hcounter⟩, ?_⟩
  rw [isReportable_append_counter_iff hmethod hname hcounter]
  refine ⟨by decide +kernel, name, ⟨"$s".toList, [.counted ['3'] "App".toList,
    .counted ['4'] "load".toList, .run "yyF".toList], "9x".toList⟩, by decide +kernel, ?_, ?_⟩
  · have hend : Mangled.IsEnd "9x".toList :=
      .inr ⟨['9'], ['x'], rfl, ⟨by simp, by simp, by simp⟩, .inr (by decide)⟩
    have hlead : Text.IsStretch (!·.isDigit) "$s".toList "3App4loadyyF9x".toList :=
      ⟨by simp, by simp⟩
    refine ⟨rfl, hlead, ?_, ?_, ?_, hend⟩
    · exact ⟨⟨by simp, by simp, by simp⟩, by decide, rfl⟩
    · exact ⟨⟨by simp, by simp, by simp [Mangled.written]⟩, by decide, rfl⟩
    · exact ⟨by simp, by simp, by simp [Mangled.written]⟩
  · rw [Mangled.Spelling.Endures, if_neg (by decide)]
    exact .inr ⟨"yyF".toList, rfl, by decide +kernel, by decide +kernel, .inl rfl⟩

/-- Of a name that is read to its end only the dot of the counter reaches the suffix `yyF.`. Its kind
code has the dot, too, and `YYF.` is no kind. -/
theorem not_isReportable_load_append_counter :
    let name := "$s3App4loadyyF".toList
    isMethodName name = false ∧ IsCounter ['1'] ∧
      isReportable Mangled.reportableKinds [] name = true ∧
      isReportable Mangled.reportableKinds [] (name ++ ['.', '1']) = false :=
  ⟨by decide, ⟨by simp, by simp⟩, by decide +kernel, by decide +kernel⟩

end Names

end LinkAudit

import LinkAudit.Proofs.Demangled
import LinkAudit.Proofs.Order
import LinkAudit.Proofs.Text.Split
import LinkAudit.Proofs.Text.Trim

/-!
Homes of extensions in a cleaned text. A demangler names the module that an extension stands in, in
brackets, and cleaning takes the named modules out of those brackets. Main statement: the home of
another module stays in every text if and only if none of the named modules begins its name. The
brackets close behind a name, but the step that takes out homes without brackets does not look at
what stands behind the module.
-/

namespace LinkAudit.Demangled

open Text (Edited IsClearOf)

/-- Names of modules: ASCII letters, digits, and underscores. -/
structure IsIdentifier (name : Text) : Prop where
  ne_nil : name ≠ []
  chars : ∀ c ∈ name, isHashChar c = true ∨ c = '_'

/-- A module as a demangler names it in front of what an extension declares. -/
def extensionOf (home : Text) : Text := "(extension in ".toList ++ home ++ [')']

variable {home moduleName old t : Text} {modules : List Text}

theorem isBlank_of_isHashChar {c : Char} (h : isHashChar c = true) : Text.isBlank c = false := by
  have hrange : 48 ≤ c.toNat ∧ c.toNat ≤ 122 := by
    change (decide (65 ≤ c.val ∧ c.val ≤ 90) || (97 ≤ c.val && c.val ≤ 122) ||
      (48 ≤ c.val && c.val ≤ 57)) = true at h
    simp only [Bool.or_eq_true, Bool.and_eq_true, decide_eq_true_eq, UInt32.le_iff_toNat_le] at h
    change ((65 ≤ c.toNat ∧ c.toNat ≤ 90) ∨ (97 ≤ c.toNat ∧ c.toNat ≤ 122)) ∨
      (48 ≤ c.toNat ∧ c.toNat ≤ 57) at h
    omega
  simp only [Text.isBlank, Bool.or_eq_false_iff, Bool.and_eq_false_iff, decide_eq_false_iff_not,
    beq_eq_false_iff_ne]
  omega

namespace IsIdentifier

theorem of_all {name : Text} (hne : name ≠ [])
    (hall : (name.all fun c => isHashChar c || c == '_') = true) : IsIdentifier name where
  ne_nil := hne
  chars c hc := by simpa using List.all_eq_true.mp hall c hc

theorem not_mem {c : Char} (h : IsIdentifier home) (hchar : isHashChar c = false) (hc : c ≠ '_') :
    c ∉ home := fun hmem => by
  rcases h.chars c hmem with hhash | rfl
  · exact absurd (hhash.symm.trans hchar) Bool.noConfusion
  · exact hc rfl

theorem isBlank_eq_false {c : Char} (h : IsIdentifier home) (hc : c ∈ home) :
    Text.isBlank c = false := by
  rcases h.chars c hc with hhash | rfl
  · exact isBlank_of_isHashChar hhash
  · rfl

end IsIdentifier

theorem extensionOf_eq :
    extensionOf home = '(' :: ("extension in ".toList ++ home ++ [')']) := rfl

theorem extensionOf_ne_nil : extensionOf home ≠ [] := List.cons_ne_nil _ _

theorem length_extensionOf (home : Text) : (extensionOf home).length = home.length + 15 := by
  have hword : "(extension in ".toList.length = 14 := by decide
  unfold extensionOf
  generalize "(extension in ".toList = word at hword ⊢
  rw [List.length_append, List.length_append, hword, List.length_singleton]
  omega

/-- The home of an extension has two spaces, and the name is behind the second. -/
theorem spaces_extensionOf {before after : Text} (hhome : ' ' ∉ home)
    (h : before ++ ' ' :: after = extensionOf home) :
    ' ' ∉ before ∧ after = "in ".toList ++ home ++ [')'] ∨ after = home ++ [')'] := by
  have hspaces : extensionOf home =
      "(extension".toList ++ ' ' :: ("in".toList ++ ' ' :: (home ++ [')'])) := rfl
  rw [hspaces] at h
  rcases Text.eq_or_exists_of_append_cons_eq (by decide) h with ⟨rfl, rfl⟩ | ⟨left, -, h⟩
  · exact .inl ⟨by decide, rfl⟩
  · rcases Text.eq_or_exists_of_append_cons_eq (by decide) h with ⟨-, rfl⟩ | ⟨left, -, h⟩
    · exact .inr rfl
    · have hspace : ' ' ∈ home ++ [')'] := h ▸ by simp
      simp [hhome] at hspace

theorem mem_extensionOf {c : Char} (h : c ∈ extensionOf home) :
    c ∈ "(extension in ".toList ∨ c ∈ home ∨ c = ')' := by
  rcases List.mem_append.mp h with h | h
  · exact (List.mem_append.mp h).imp_right .inl
  · exact .inr (.inr (List.mem_singleton.mp h))

theorem eq_space_of_isBlank {c : Char} (hhome : IsIdentifier home) (hc : c ∈ extensionOf home)
    (hblank : Text.isBlank c = true) : c = ' ' := by
  have hword : ("(extension in ".toList.all fun c => !Text.isBlank c || c == ' ') = true := by
    decide
  rcases mem_extensionOf hc with hc | hc | rfl
  · simpa [hblank] using List.all_eq_true.mp hword c hc
  · exact absurd (hblank.symm.trans (hhome.isBlank_eq_false hc)) Bool.noConfusion
  · exact absurd hblank (by decide)

theorem dot_not_mem_extensionOf (hhome : IsIdentifier home) : '.' ∉ extensionOf home := by
  intro hdot
  rcases mem_extensionOf hdot with hword | hhere | heq
  · exact absurd hword (by decide)
  · exact hhome.not_mem (by decide) (by decide) hhere
  · exact absurd heq (by decide)

theorem word_isInfix_extensionOf_iff (hmodule : IsIdentifier moduleName) (hhome : IsIdentifier home) :
    "extension in ".toList ++ moduleName <:+: extensionOf home ↔ moduleName <+: home := by
  constructor
  · rintro ⟨before, after, h⟩
    have hspace : (before ++ "extension in".toList) ++ ' ' :: (moduleName ++ after) =
        extensionOf home := by
      rw [← h]
      simp only [List.append_assoc]
      rfl
    rcases spaces_extensionOf (hhome.not_mem (by decide) (by decide)) hspace with ⟨hnone, -⟩ | heq
    · exact absurd (List.mem_append_right before (by decide)) hnone
    · rcases List.prefix_concat_iff.mp ⟨after, heq⟩ with rfl | hbegins
      · exact absurd (List.mem_append_right home List.mem_cons_self)
          (hmodule.not_mem (by decide) (by decide))
      · exact hbegins
  · rintro ⟨rest, rfl⟩
    refine ⟨['('], rest ++ [')'], ?_⟩
    rw [extensionOf_eq]
    simp only [List.append_assoc, List.cons_append, List.nil_append]

theorem spaces_not_isInfix_extensionOf (hhome : IsIdentifier home) (n : Nat) :
    ¬List.replicate (n + 2) ' ' <:+: extensionOf home := by
  rintro ⟨before, after, h⟩
  have hnone : ' ' ∉ home := hhome.not_mem (by decide) (by decide)
  rw [List.replicate_succ, List.replicate_succ, List.append_assoc] at h
  rcases spaces_extensionOf hnone h with ⟨-, heq⟩ | heq
  · exact absurd (List.cons.inj heq).1 (by decide)
  · have hmem : ' ' ∈ home ++ [')'] := heq ▸ List.mem_cons_self
    simp [hnone] at hmem

/-- Only a name with an underscore in front makes the home of an extension look like a context. -/
theorem head?_of_isContext {context : Text} (hcontext : IsContext context)
    (hhome : IsIdentifier home) (hin : context <:+: extensionOf home) : home.head? = some '_' := by
  have hnone : ' ' ∉ home := hhome.not_mem (by decide) (by decide)
  obtain ⟨before, between, hash, rfl, ⟨hbefore, hblanks⟩, ⟨hbetween, hblanks'⟩, -⟩ := hcontext
  have hspace {c : Char} (hc : c ∈ before ++ ('i' :: 'n' :: (between ++ '_' :: hash)))
      (hblank : Text.isBlank c = true) : c = ' ' :=
    eq_space_of_isBlank hhome (hin.subset hc) hblank
  obtain ⟨c, before, rfl⟩ := List.exists_cons_of_ne_nil hbefore
  obtain rfl := hspace (by simp) (hblanks c List.mem_cons_self)
  obtain ⟨between, d, rfl⟩ := (List.eq_nil_or_concat between).resolve_left hbetween
  obtain rfl := hspace (by simp) (hblanks' d (by simp))
  -- the space behind the word is the second one, so that the name is behind it
  obtain ⟨left, right, h⟩ := hin
  have hsecond : (left ++ ' ' :: before ++ ('i' :: 'n' :: between)) ++
      ' ' :: ('_' :: hash ++ right) = extensionOf home := by
    rw [← h]
    simp
  rcases spaces_extensionOf hnone hsecond with ⟨hfirst, -⟩ | heq
  · exact absurd (by simp) hfirst
  · obtain ⟨d, home, rfl⟩ := List.exists_cons_of_ne_nil hhome.ne_nil
    rw [(List.cons.inj heq).1]
    rfl

theorem isClearOf_extensionOf (hold : '(' ∉ old ∧ ')' ∉ old) (hin : ¬old <:+: extensionOf home) :
    IsClearOf old (extensionOf home) := by
  rw [extensionOf_eq] at hin ⊢
  exact Text.isClearOf_of_not_isInfix hold.1 hold.2 hin

theorem dropModule_eq (t moduleName : Text) :
    dropModule t moduleName =
      ((dropQualifier t moduleName).replace (extensionOf moduleName) "(extension)".toList).replace
        ("extension in ".toList ++ moduleName) "extension".toList := rfl

section DropModule

variable (hmodule : IsIdentifier moduleName) (hhome : IsIdentifier home)
include hmodule hhome

theorem isClearOf_qualifier : IsClearOf (moduleName ++ ['.']) (extensionOf home) := by
  refine isClearOf_extensionOf ⟨?_, ?_⟩ fun hin => ?_
  · simp [hmodule.not_mem (c := '(') (by decide) (by decide)]
  · simp [hmodule.not_mem (c := ')') (by decide) (by decide)]
  · exact dot_not_mem_extensionOf hhome (hin.subset (by simp))

theorem isClearOf_otherHome (hne : moduleName ≠ home) :
    IsClearOf (extensionOf moduleName) (extensionOf home) := by
  have hinner {name : Text} (hname : IsIdentifier name) :
      '(' ∉ "extension in ".toList ++ name ∧ ')' ∉ "extension in ".toList ++ name := by
    constructor
    · exact List.not_mem_append (by decide) (hname.not_mem (by decide) (by decide))
    · exact List.not_mem_append (by decide) (hname.not_mem (by decide) (by decide))
  rw [extensionOf_eq, extensionOf_eq]
  exact Text.isClearOf_of_ne (by decide) (hinner hmodule) (hinner hhome)
    (mt List.append_cancel_left hne)

theorem isClearOf_word (hbegins : ¬moduleName <+: home) :
    IsClearOf ("extension in ".toList ++ moduleName) (extensionOf home) := by
  refine isClearOf_extensionOf ⟨?_, ?_⟩ (mt (word_isInfix_extensionOf_iff hmodule hhome).mp hbegins)
  · exact List.not_mem_append (by decide) (hmodule.not_mem (by decide) (by decide))
  · exact List.not_mem_append (by decide) (hmodule.not_mem (by decide) (by decide))

theorem isInfix_dropModule (hbegins : ¬moduleName <+: home) (hin : extensionOf home <:+: t) :
    extensionOf home <:+: dropModule t moduleName := by
  have hne : moduleName ≠ home := fun heq => hbegins (heq ▸ List.prefix_rfl)
  have hqualifier := (edited_dropQualifier hmodule.ne_nil t).isInfix
    (fun _ _ hedit => hedit.1 ▸ isClearOf_qualifier hmodule hhome) extensionOf_ne_nil hin
  have hhomes := Text.isInfix_replace hqualifier extensionOf_ne_nil
    (isClearOf_otherHome hmodule hhome hne) "(extension)".toList
  exact Text.isInfix_replace hhomes extensionOf_ne_nil (isClearOf_word hmodule hhome hbegins) _

theorem dropQualifier_extensionOf : dropQualifier (extensionOf home) moduleName = extensionOf home :=
  (edited_dropQualifier hmodule.ne_nil _).eq_self fun _ _ hedit =>
    hedit.1 ▸ (isClearOf_qualifier hmodule hhome).not_isInfix extensionOf_ne_nil

theorem replace_otherHome (hne : moduleName ≠ home) (fresh : Text) :
    (extensionOf home).replace (extensionOf moduleName) fresh = extensionOf home :=
  Text.replace_eq_self ((isClearOf_otherHome hmodule hhome hne).not_isInfix extensionOf_ne_nil) fresh

theorem dropModule_extensionOf (hbegins : ¬moduleName <+: home) :
    dropModule (extensionOf home) moduleName = extensionOf home := by
  have hne : moduleName ≠ home := fun heq => hbegins (heq ▸ List.prefix_rfl)
  rw [dropModule_eq, dropQualifier_extensionOf hmodule hhome, replace_otherHome hmodule hhome hne]
  exact Text.replace_eq_self (mt (word_isInfix_extensionOf_iff hmodule hhome).mp hbegins) _

omit hhome in
theorem length_dropModule_le (t : Text) : (dropModule t moduleName).length ≤ t.length := by
  have hhomes : "(extension)".toList.length ≤ (extensionOf moduleName).length := by
    rw [length_extensionOf]
    exact Nat.le_trans (by decide) (Nat.le_add_left 15 _)
  have hword : "extension".toList.length ≤ ("extension in ".toList ++ moduleName).length := by
    rw [List.length_append]
    exact Nat.le_trans (by decide) (Nat.le_add_right 13 _)
  have hqualifier := (edited_dropQualifier hmodule.ne_nil t).length_le fun _ _ hedit =>
    hedit.2 ▸ Nat.zero_le _
  rw [dropModule_eq]
  exact Nat.le_trans (Text.length_replace_le hword _)
    (Nat.le_trans (Text.length_replace_le hhomes _) hqualifier)

/-- A module whose name begins the name of the home makes it shorter. -/
theorem length_dropModule_lt (hbegins : moduleName <+: home) :
    (dropModule (extensionOf home) moduleName).length < (extensionOf home).length := by
  have hhomes : "(extension)".toList.length < (extensionOf moduleName).length := by
    rw [length_extensionOf]
    exact Nat.lt_of_lt_of_le (by decide) (Nat.le_add_left 15 _)
  have hword : "extension".toList.length < ("extension in ".toList ++ moduleName).length := by
    rw [List.length_append]
    exact Nat.lt_of_lt_of_le (by decide) (Nat.le_add_right 13 _)
  rw [dropModule_eq, dropQualifier_extensionOf hmodule hhome]
  by_cases hne : moduleName = home
  · rw [hne]
    rw [hne] at hhomes hword
    exact Nat.lt_of_le_of_lt (Text.length_replace_le (Nat.le_of_lt hword) _)
      (Text.length_replace_lt List.infix_rfl hhomes)
  · rw [replace_otherHome hmodule hhome hne]
    exact Text.length_replace_lt ((word_isInfix_extensionOf_iff hmodule hhome).mpr hbegins) hword

end DropModule

theorem isInfix_foldl_dropModule (hmodules : ∀ m ∈ modules, IsIdentifier m)
    (hhome : IsIdentifier home) (hbegins : ∀ m ∈ modules, ¬m <+: home)
    (hin : extensionOf home <:+: t) : extensionOf home <:+: modules.foldl dropModule t := by
  induction modules generalizing t with
  | nil => exact hin
  | cons m modules ih =>
      rw [List.forall_mem_cons] at hmodules hbegins
      exact ih hmodules.2 hbegins.2 (isInfix_dropModule hmodules.1 hhome hbegins.1 hin)

theorem length_foldl_dropModule_le (hmodules : ∀ m ∈ modules, IsIdentifier m) (t : Text) :
    (modules.foldl dropModule t).length ≤ t.length := by
  induction modules generalizing t with
  | nil => exact Nat.le_refl _
  | cons m modules ih =>
      rw [List.forall_mem_cons] at hmodules
      exact Nat.le_trans (ih hmodules.2 _) (length_dropModule_le hmodules.1 t)

/-- The first module whose name begins the name of the home makes it shorter. -/
theorem length_foldl_dropModule_lt (hmodules : ∀ m ∈ modules, IsIdentifier m)
    (hhome : IsIdentifier home) (hbegins : ∃ m ∈ modules, m <+: home) :
    (modules.foldl dropModule (extensionOf home)).length < (extensionOf home).length := by
  induction modules with
  | nil => simp at hbegins
  | cons m modules ih =>
      rw [List.forall_mem_cons] at hmodules
      rw [List.exists_mem_cons_iff] at hbegins
      rw [List.foldl_cons]
      by_cases hfirst : m <+: home
      · exact Nat.lt_of_le_of_lt (length_foldl_dropModule_le hmodules.2 _)
          (length_dropModule_lt hmodules.1 hhome hfirst)
      · rw [dropModule_extensionOf hmodules.1 hhome hfirst]
        exact ih hmodules.2 (hbegins.resolve_left hfirst)

theorem isClearOf_importMarker (hhome : IsIdentifier home) :
    IsClearOf importMarker (extensionOf home) :=
  isClearOf_extensionOf (by decide) fun hin =>
    dot_not_mem_extensionOf hhome (hin.subset (by decide))

theorem isClearOf_spaces (hhome : IsIdentifier home) (n : Nat) :
    IsClearOf (List.replicate (n + 2) ' ') (extensionOf home) := by
  refine isClearOf_extensionOf ?_ (spaces_not_isInfix_extensionOf hhome n)
  simp [List.mem_replicate]

theorem not_mem_of_isContext {context : Text} {bracket : Char} (h : IsContext context)
    (hblank : Text.isBlank bracket = false) (hhash : isHashChar bracket = false)
    (hword : bracket ≠ 'i' ∧ bracket ≠ 'n' ∧ bracket ≠ '_') : bracket ∉ context := by
  obtain ⟨before, between, hash, rfl, ⟨-, hbefore⟩, ⟨-, hbetween⟩, hhashes⟩ := h
  have hout {p : Char → Bool} {part : Text} (hpart : ∀ c ∈ part, p c = true)
      (hbracket : p bracket = false) : bracket ∉ part := fun hmem =>
    absurd ((hpart bracket hmem).symm.trans hbracket) Bool.noConfusion
  simp [hout hbefore hblank, hout hbetween hblank, hout hhashes hhash, hword]

theorem isClearOf_context {context : Text} (hcontext : IsContext context) (hhome : IsIdentifier home)
    (hhead : home.head? ≠ some '_') : IsClearOf context (extensionOf home) := by
  refine isClearOf_extensionOf ⟨?_, ?_⟩ (mt (head?_of_isContext hcontext hhome) hhead)
  · exact not_mem_of_isContext hcontext (by decide) (by decide) (by decide)
  · exact not_mem_of_isContext hcontext (by decide) (by decide) (by decide)

/-- A name in brackets stays in every cleaned text unless a module that is taken out begins it. -/
theorem isInfix_clean (hmodules : ∀ m ∈ modules, IsIdentifier m) (hhome : IsIdentifier home)
    (hhead : home.head? ≠ some '_') (hbegins : ∀ m ∈ modules, ¬m <+: home)
    (hin : extensionOf home <:+: t) : extensionOf home <:+: clean t modules := by
  have hbare := isInfix_foldl_dropModule (fun m hm => hmodules m (Text.mem_distinct.mp hm)) hhome
    (fun m hm => hbegins m (Text.mem_distinct.mp hm))
    (Text.isInfix_replace hin extensionOf_ne_nil (isClearOf_importMarker hhome) [])
  have hcontexts := (edited_substitute_contextLength _).isInfix
    (fun _ _ hedit => isClearOf_context hedit.1 hhome hhead) extensionOf_ne_nil hbare
  have hpairs := Text.isInfix_replace hcontexts extensionOf_ne_nil (isClearOf_spaces hhome 0) [' ']
  have hsqueezed := (edited_squeezeSpaces _).isInfix
    (fun _ _ ⟨⟨n, hold⟩, _⟩ => hold ▸ isClearOf_spaces hhome n) extensionOf_ne_nil hpairs
  refine Text.isInfix_trim hsqueezed (fun c hc => ?_) (fun c hc => ?_)
  · obtain rfl := Option.mem_some_iff.mp hc
    rfl
  · have hlast : (extensionOf home).getLast? = some ')' := List.getLast?_concat
    rw [hlast] at hc
    obtain rfl := Option.mem_some_iff.mp hc
    rfl

theorem length_clean_lt (hmodules : ∀ m ∈ modules, IsIdentifier m) (hhome : IsIdentifier home)
    (hbegins : ∃ m ∈ modules, m <+: home) :
    (clean (extensionOf home) modules).length < (extensionOf home).length := by
  obtain ⟨m, hm, hbegin⟩ := hbegins
  have hmarked : (extensionOf home).replace importMarker [] = extensionOf home :=
    Text.replace_eq_self ((isClearOf_importMarker hhome).not_isInfix extensionOf_ne_nil) []
  have hbare := length_foldl_dropModule_lt (fun m hm => hmodules m (Text.mem_distinct.mp hm)) hhome
    ⟨m, Text.mem_distinct.mpr hm, hbegin⟩
  rw [clean, hmarked]
  calc _ ≤ _ := Text.length_trim_le _ _
    _ ≤ _ := length_squeezeSpaces_le _
    _ ≤ _ := length_dropContexts_le _
    _ < _ := hbare

/-- The home of an extension that is none of the modules stays in every cleaned text if and only if
none of them begins its name. -/
theorem isInfix_clean_iff (hmodules : ∀ m ∈ modules, IsIdentifier m) (hhome : IsIdentifier home)
    (hhead : home.head? ≠ some '_') :
    (∀ before after, extensionOf home <:+: clean (before ++ extensionOf home ++ after) modules) ↔
      ∀ m ∈ modules, ¬m <+: home := by
  constructor
  · intro h m hm hbegins
    have hkept := (h [] []).length_le
    rw [List.nil_append, List.append_nil] at hkept
    exact absurd (length_clean_lt hmodules hhome ⟨m, hm, hbegins⟩) (Nat.not_lt.mpr hkept)
  · exact fun hbegins before after => isInfix_clean hmodules hhome hhead hbegins ⟨before, after, rfl⟩

/-- A module can be left alone: `Kit` does not begin `AppKit`. -/
theorem isInfix_clean_appKit :
    extensionOf "AppKit".toList <:+:
      clean ("Kit.".toList ++ extensionOf "AppKit".toList ++ ".load".toList) ["Kit".toList] := by
  have hkit : IsIdentifier "Kit".toList := .of_all (by decide) (by decide)
  have happKit : IsIdentifier "AppKit".toList := .of_all (by decide) (by decide)
  exact (isInfix_clean_iff (by simpa using hkit) happKit (by decide)).mpr (by decide) _ _

/-- A module whose name begins the name of another is taken out of it. -/
theorem clean_extensionOf_appKit :
    "AppKit".toList ∉ ["App".toList] ∧
      clean (extensionOf "AppKit".toList) ["App".toList] = "(extensionKit)".toList ∧
      ¬extensionOf "AppKit".toList <:+: clean (extensionOf "AppKit".toList) ["App".toList] := by
  decide +kernel

end LinkAudit.Demangled

import LinkAudit.Proofs.Mangled

/-!
The grammar of mangled names. A spelling cuts a name into its lead, its tokens and a rest at which
reading ends; a token is a length with the characters that it counts, or a run. Every piece is
judged with the text after it in view, because lead, lengths and runs reach as far as they can. Main
statement: each name has exactly one spelling, and its parts are those that are read from the name.
-/

namespace LinkAudit.Mangled

open Text (IsStretch)

/-- A piece of a mangled name as it is written: a length and the characters it counts, or a run. -/
inductive Token where
  | counted (digits text : Text)
  | run (text : Text)

namespace Token

def written : Token → Text
  | .counted digits text => digits ++ text
  | .run text => text

def segment? : Token → Option Text
  | .counted _ text => some text
  | .run _ => none

def run? : Token → Option Text
  | .counted _ _ => none
  | .run text => some text

end Token

/-- Whether the digits are all those of a length that stands in front of the text. -/
structure IsLength (digits after : Text) : Prop where
  nonempty : digits ≠ []
  stretch : IsStretch Char.isDigit digits after

/-- Whether a token stands in front of the text: a positive length counts the characters behind it,
and a run ends where a digit or nothing follows. -/
def Token.StandsBefore (after : Text) : Token → Prop
  | .counted digits text =>
    IsLength digits (text ++ after) ∧ 0 < lengthValue digits ∧ text.length = lengthValue digits
  | .run text => text ≠ [] ∧ IsStretch (!·.isDigit) text after

/-- Whether reading ends at the text: nothing is left, or a length that is zero or counts more
characters than there are. -/
def IsEnd (rest : Text) : Prop :=
  rest = [] ∨ ∃ digits after, digits ++ after = rest ∧ IsLength digits after ∧
    (lengthValue digits = 0 ∨ after.length < lengthValue digits)

def written (tokens : List Token) : Text := tokens.flatMap Token.written

/-- Whether each of the tokens stands before what follows it, up to a rest at which reading ends. -/
def AreTokens (rest : Text) : List Token → Prop
  | [] => IsEnd rest
  | token :: tokens => token.StandsBefore (written tokens ++ rest) ∧ AreTokens rest tokens

structure Spelling where
  lead : Text
  tokens : List Token
  rest : Text

def Spelling.parts (s : Spelling) : Mangled where
  lead := s.lead
  segments := s.tokens.filterMap Token.segment?
  suffix := Text.nonempty? (s.tokens.filterMap Token.run?).flatten

structure Spelling.Spells (s : Spelling) (name : Text) : Prop where
  whole : s.lead ++ (written s.tokens ++ s.rest) = name
  lead : IsStretch (!·.isDigit) s.lead (written s.tokens ++ s.rest)
  tokens : AreTokens s.rest s.tokens

def Token.item : Token → Item
  | .counted _ text => .segment text
  | .run text => .run text

theorem written_cons (token : Token) (tokens : List Token) :
    written (token :: tokens) = token.written ++ written tokens :=
  List.flatMap_cons

theorem IsLength.exists_cons {digits after : Text} (h : IsLength digits after) :
    ∃ c rest, digits = c :: rest ∧ c.isDigit = true := by
  cases digits with
  | nil => exact absurd rfl h.nonempty
  | cons c rest => exact ⟨c, rest, rfl, h.stretch.inside c List.mem_cons_self⟩

theorem IsLength.cons_stretch {c : Char} {rest after : Text} (h : IsLength (c :: rest) after) :
    (rest ++ after).takeWhile Char.isDigit = rest ∧
      (rest ++ after).dropWhile Char.isDigit = after := by
  have hrest : IsStretch Char.isDigit rest after :=
    ⟨fun d hd => h.stretch.inside d (List.mem_cons_of_mem c hd), h.stretch.ends⟩
  exact ⟨hrest.takeWhile_append, hrest.dropWhile_append⟩

theorem items_counted {digits text after : Text} (hlength : IsLength digits (text ++ after))
    (hpositive : 0 < lengthValue digits) (hcount : text.length = lengthValue digits) :
    items (digits ++ (text ++ after)) = .segment text :: items after := by
  obtain ⟨c, rest, rfl, hdigit⟩ := hlength.exists_cons
  obtain ⟨htake, hdrop⟩ := hlength.cons_stretch
  have hwithin : lengthWithin? (c :: (rest ++ (text ++ after)).takeWhile Char.isDigit)
      ((rest ++ (text ++ after)).dropWhile Char.isDigit).length = some text.length := by
    rw [htake, hdrop, lengthWithin?_eq_some_iff hlength.stretch.inside, List.length_append]
    omega
  rw [List.cons_append, items_cons_of_fits hdigit hwithin, hdrop, List.take_left, List.drop_left]

theorem items_of_isEnd {rest : Text} (h : IsEnd rest) : items rest = [] := by
  rcases h with rfl | ⟨digits, after, rfl, hlength, hmisfits⟩
  · rw [items]
  · obtain ⟨c, digits, rfl, hdigit⟩ := hlength.exists_cons
    obtain ⟨htake, hdrop⟩ := hlength.cons_stretch
    rw [List.cons_append, items_cons_of_misfits hdigit]
    rw [htake, hdrop]
    exact (lengthWithin?_eq_none_iff hlength.stretch.inside).mpr hmisfits

theorem items_run {text after : Text} (hne : text ≠ [])
    (hrun : IsStretch (!·.isDigit) text after) :
    items (text ++ after) = .run text :: items after := by
  cases text with
  | nil => exact absurd rfl hne
  | cons c rest =>
      have hdigit : ¬c.isDigit = true := by simpa using hrun.inside c List.mem_cons_self
      have hrest : IsStretch (!·.isDigit) rest after :=
        ⟨fun d hd => hrun.inside d (List.mem_cons_of_mem c hd), hrun.ends⟩
      rw [List.cons_append, items_cons_of_not_digit hdigit, hrest.takeWhile_append,
        hrest.dropWhile_append]

theorem items_written {rest : Text} {tokens : List Token} (h : AreTokens rest tokens) :
    items (written tokens ++ rest) = tokens.map Token.item := by
  induction tokens with
  | nil => exact items_of_isEnd h
  | cons token tokens ih =>
      obtain ⟨hstands, htokens⟩ := h
      rw [written_cons, List.append_assoc, List.map_cons, ← ih htokens]
      cases token with
      | counted digits text =>
          obtain ⟨hlength, hpositive, hcount⟩ := hstands
          rw [Token.written, List.append_assoc]
          exact items_counted hlength hpositive hcount
      | run text => exact items_run hstands.1 hstands.2

/-- Every text is a sequence of tokens up to a rest at which reading ends. -/
theorem exists_areTokens (t : Text) :
    ∃ tokens rest, written tokens ++ rest = t ∧ AreTokens rest tokens := by
  -- the tokens are found the way the items are read
  induction t using items.induct with
  | case1 => exact ⟨[], [], rfl, .inl rfl⟩
  | case2 c rest hdigit after length hwithin ih =>
      obtain ⟨tokens, last, hwhole, htokens⟩ := ih
      have hstretch := Text.isStretch_cons_takeWhile hdigit rest
      obtain ⟨hvalue, hpositive, hle⟩ := (lengthWithin?_eq_some_iff hstretch.inside).mp hwithin
      have hafter : after.take length ++ (written tokens ++ last) = after := by
        rw [hwhole, List.take_append_drop]
      refine ⟨.counted (c :: rest.takeWhile Char.isDigit) (after.take length) :: tokens, last, ?_,
        ⟨⟨List.cons_ne_nil _ _, ?_⟩, ?_, ?_⟩, htokens⟩
      · rw [written_cons, Token.written, List.append_assoc, List.append_assoc, hafter,
          List.cons_append, List.takeWhile_append_dropWhile]
      · rw [hafter]
        exact hstretch
      · rw [hvalue]
        exact hpositive
      · rw [hvalue, List.length_take]
        exact Nat.min_eq_left hle
  | case3 c rest hdigit after hmisfits =>
      have hstretch := Text.isStretch_cons_takeWhile hdigit rest
      refine ⟨[], c :: rest, rfl, .inr ⟨c :: rest.takeWhile Char.isDigit, after, ?_,
        ⟨List.cons_ne_nil _ _, hstretch⟩, ?_⟩⟩
      · rw [List.cons_append, List.takeWhile_append_dropWhile]
      · exact (lengthWithin?_eq_none_iff hstretch.inside).mp hmisfits
  | case4 c rest hdigit ih =>
      obtain ⟨tokens, last, hwhole, htokens⟩ := ih
      refine ⟨.run (c :: rest.takeWhile (!·.isDigit)) :: tokens, last, ?_,
        ⟨List.cons_ne_nil _ _, ?_⟩, htokens⟩
      · rw [written_cons, Token.written, List.append_assoc, hwhole, List.cons_append,
          List.takeWhile_append_dropWhile]
      · rw [hwhole]
        exact Text.isStretch_cons_takeWhile (p := (!·.isDigit)) (by simpa using hdigit) rest

theorem not_run_of_isLength {digits after text after' : Text} (hlength : IsLength digits after)
    (hne : text ≠ []) (hrun : IsStretch (!·.isDigit) text after') :
    digits ++ after ≠ text ++ after' := by
  -- the first characters differ: one is a digit and the other is not
  intro heq
  obtain ⟨c, digits, rfl, hdigit⟩ := hlength.exists_cons
  cases text with
  | nil => exact hne rfl
  | cons d text =>
      have hd : c = d := (List.cons.inj heq).1
      have hnondigit := hrun.inside d List.mem_cons_self
      rw [← hd, hdigit] at hnondigit
      exact Bool.noConfusion hnondigit

theorem Token.StandsBefore.unique {token token' : Token} {after after' : Text}
    (h : token.StandsBefore after) (h' : token'.StandsBefore after')
    (heq : token.written ++ after = token'.written ++ after') :
    token = token' ∧ after = after' := by
  cases token with
  | counted digits text =>
      obtain ⟨hlength, -, hcount⟩ := h
      rw [Token.written, List.append_assoc] at heq
      cases token' with
      | counted digits' text' =>
          obtain ⟨hlength', -, hcount'⟩ := h'
          rw [Token.written, List.append_assoc] at heq
          -- equal lengths count equally many characters
          obtain ⟨rfl, hrest⟩ := hlength.stretch.unique hlength'.stretch heq
          obtain ⟨rfl, hafter⟩ := List.append_inj hrest (hcount.trans hcount'.symm)
          exact ⟨rfl, hafter⟩
      | run text' => exact absurd heq (not_run_of_isLength hlength h'.1 h'.2)
  | run text =>
      cases token' with
      | counted digits' text' =>
          obtain ⟨hlength', -, -⟩ := h'
          rw [Token.written, Token.written, List.append_assoc] at heq
          exact absurd heq.symm (not_run_of_isLength hlength' h.1 h.2)
      | run text' =>
          obtain ⟨rfl, hafter⟩ := h.2.unique h'.2 heq
          exact ⟨rfl, hafter⟩

theorem Token.StandsBefore.not_isEnd {token : Token} {after : Text} (h : token.StandsBefore after) :
    ¬IsEnd (token.written ++ after) := by
  rintro (hnil | ⟨digits, last, hwhole, hlength, hmisfits⟩)
  · cases token with
    | counted digits text =>
        have hdigits := (List.append_eq_nil_iff.mp (List.append_eq_nil_iff.mp hnil).1).1
        exact h.1.nonempty hdigits
    | run text => exact h.1 (List.append_eq_nil_iff.mp hnil).1
  · cases token with
    | counted digits' text =>
        obtain ⟨hlength', hpositive, hcount⟩ := h
        rw [Token.written, List.append_assoc] at hwhole
        obtain ⟨rfl, rfl⟩ := hlength.stretch.unique hlength'.stretch hwhole
        rw [List.length_append] at hmisfits
        omega
    | run text => exact not_run_of_isLength hlength h.1 h.2 hwhole

/-- A text is cut into tokens and a rest in one way only. -/
theorem AreTokens.unique {rest rest' : Text} {tokens tokens' : List Token}
    (h : AreTokens rest tokens) (h' : AreTokens rest' tokens')
    (heq : written tokens ++ rest = written tokens' ++ rest') :
    tokens = tokens' ∧ rest = rest' := by
  induction tokens generalizing tokens' with
  | nil =>
      cases tokens' with
      | nil => exact ⟨rfl, heq⟩
      | cons token' tokens' =>
          rw [written_cons, List.append_assoc] at heq
          exact absurd (heq ▸ h) h'.1.not_isEnd
  | cons token tokens ih =>
      rw [written_cons, List.append_assoc] at heq
      cases tokens' with
      | nil => exact absurd (heq ▸ h') h.1.not_isEnd
      | cons token' tokens' =>
          rw [written_cons, List.append_assoc] at heq
          obtain ⟨rfl, hafter⟩ := h.1.unique h'.1 heq
          obtain ⟨rfl, hrest⟩ := ih h.2 h'.2 hafter
          exact ⟨rfl, hrest⟩

theorem Spelling.Spells.unique {s s' : Spelling} {name : Text} (h : s.Spells name)
    (h' : s'.Spells name) : s = s' := by
  obtain ⟨lead, tokens, rest⟩ := s
  obtain ⟨lead', tokens', rest'⟩ := s'
  obtain ⟨rfl, hafter⟩ := h.lead.unique h'.lead (h.whole.trans h'.whole.symm)
  obtain ⟨rfl, rfl⟩ := h.tokens.unique h'.tokens hafter
  rfl

theorem exists_spells (name : Text) : ∃ s : Spelling, s.Spells name := by
  obtain ⟨tokens, rest, hwhole, htokens⟩ := exists_areTokens (name.dropWhile (!·.isDigit))
  refine ⟨⟨name.takeWhile (!·.isDigit), tokens, rest⟩, ?_, ?_, htokens⟩
  · rw [hwhole, List.takeWhile_append_dropWhile]
  · rw [hwhole]
    exact Text.isStretch_takeWhile _ name

theorem ofText_of_spells {s : Spelling} {name : Text} (h : s.Spells name) :
    ofText name = s.parts := by
  have hsegments : Item.segment? ∘ Token.item = Token.segment? := by
    funext token
    cases token <;> rfl
  have hruns : Item.run? ∘ Token.item = Token.run? := by
    funext token
    cases token <;> rfl
  rw [ofText, ← h.whole, h.lead.takeWhile_append, h.lead.dropWhile_append, items_written h.tokens,
    List.filterMap_map, List.filterMap_map, hsegments, hruns]
  rfl

/-- A name has exactly one spelling, and the parts read of the name are the parts of its spelling:
the lead, the characters that the lengths count, none of them empty, and the runs in one suffix,
which is there only if it is not empty. -/
theorem exists_spelling_ofText (name : Text) :
    ∃ s : Spelling, (∀ s', s'.Spells name ↔ s' = s) ∧ ofText name = s.parts ∧
      [] ∉ s.parts.segments ∧ s.parts.suffix ≠ some [] := by
  obtain ⟨s, hs⟩ := exists_spells name
  refine ⟨s, ?_, ofText_of_spells hs, ?_, ?_⟩
  · intro s'
    constructor
    · intro hs'
      exact hs'.unique hs
    · rintro rfl
      exact hs
  · rw [← ofText_of_spells hs]
    intro hempty
    exact ne_nil_of_mem_segments hempty rfl
  · exact Text.nonempty?_ne_some_nil _

end LinkAudit.Mangled

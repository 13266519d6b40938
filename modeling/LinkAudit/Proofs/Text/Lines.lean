import LinkAudit.Text.Blank

/-!
Lines of a text. Lines that are ended one by one with line breaks, of whatever kinds, come back from
the text that they make.
-/

namespace LinkAudit.Text

def IsOneLine (t : Text) : Prop := ∀ c ∈ t, isLineBreak c = false

/-- Whether the text ends a line whatever follows it. A carriage return without a line feed does
not, because a line feed that follows would belong to it. -/
inductive EndsLine : Text → Prop
  | pair : EndsLine ['\r', '\n']
  | single {c : Char} (isBreak : isLineBreak c = true) (ne : c ≠ '\r') : EndsLine [c]

theorem isOneLine_append {a b : Text} : IsOneLine (a ++ b) ↔ IsOneLine a ∧ IsOneLine b :=
  List.forall_mem_append

theorem breakOnto_cons {c : Char} (hc : c ≠ '\r') (begun rest : Text) (done : List Text) :
    breakOnto begun done (c :: rest) =
      if isLineBreak c then breakOnto [] (begun.reverse :: done) rest
      else breakOnto (c :: begun) done rest := by
  rw [breakOnto]
  rintro after rfl
  exact absurd rfl hc

theorem breakOnto_append {line : Text} (h : IsOneLine line) (begun rest : Text)
    (done : List Text) :
    breakOnto begun done (line ++ rest) = breakOnto (line.reverse ++ begun) done rest := by
  induction line generalizing begun with
  | nil => rfl
  | cons c line ih =>
      obtain ⟨hc, hline⟩ := List.forall_mem_cons.mp h
      have hne : c ≠ '\r' := by
        rintro rfl
        exact absurd hc (by decide)
      rw [List.cons_append, breakOnto_cons hne, if_neg (by simp [hc]), ih hline]
      simp

theorem EndsLine.breakOnto_append {ending : Text} (h : EndsLine ending) (begun rest : Text)
    (done : List Text) :
    breakOnto begun done (ending ++ rest) = breakOnto [] (begun.reverse :: done) rest := by
  cases h with
  | pair => rfl
  | single hbreak hne =>
      rw [List.singleton_append, breakOnto_cons hne, if_pos hbreak]

theorem breakOnto_flatMap {ended : List (Text × Text)}
    (h : ∀ x ∈ ended, IsOneLine x.1 ∧ EndsLine x.2) (done : List Text) :
    breakOnto [] done (ended.flatMap fun x => x.1 ++ x.2) = done.reverse ++ ended.map (·.1) := by
  induction ended generalizing done with
  | nil => simp [breakOnto]
  | cons first rest ih =>
      obtain ⟨⟨hline, hending⟩, hrest⟩ := List.forall_mem_cons.mp h
      rw [List.flatMap_cons, List.append_assoc, Text.breakOnto_append hline,
        hending.breakOnto_append, ih hrest]
      simp

/-- The lines of a text come back when each of them was ended with a line break. -/
theorem lines_flatMap {ended : List (Text × Text)}
    (h : ∀ x ∈ ended, IsOneLine x.1 ∧ EndsLine x.2) :
    lines (ended.flatMap fun x => x.1 ++ x.2) = ended.map (·.1) :=
  breakOnto_flatMap h []

end LinkAudit.Text

import LinkAudit.Demangler.Output
import LinkAudit.Proofs.Table
import LinkAudit.Proofs.Text.Lines
import LinkAudit.Proofs.Text.Search
import LinkAudit.Proofs.Text.Trim
import Mathlib.Data.List.Forall2

/-!
Transcripts, the outputs that a demangler writes. A transcript has one entry after the other, each
with its name and the first line of its text in one row and the further lines in rows of their own,
and stray rows where no entry is open. Main statement: a transcript is read as the texts of its
entries, where of several entries for one name the last one counts.
-/

namespace LinkAudit.Demangler

open Text

def isMargin (c : Char) : Bool := c = ' ' || c = '\t'

/-- Whether a line of a text comes back from a row: it is not empty and has no margin. -/
structure IsPiece (t : Text) : Prop where
  nonempty : t ≠ []
  oneLine : IsOneLine t
  begins : ∀ c ∈ t.head?, isMargin c = false
  ends : ∀ c ∈ t.getLast?, isMargin c = false

/-- A mangled name with the lines of the text that stands for it. -/
structure Entry where
  name : Text
  first : Text
  further : List Text

namespace Entry

def text (e : Entry) : Text := (e.first :: e.further).flatten

structure IsWritable (e : Entry) : Prop where
  name_ne_nil : e.name ≠ []
  name_oneLine : IsOneLine e.name
  name_unspaced : ∀ c ∈ e.name, isMargin c = false
  pieces : ∀ t ∈ e.first :: e.further, IsPiece t

def heading (e : Entry) : Text := e.name ++ (separator ++ e.first)

end Entry

/-- Whether a row has a further line of a text behind a margin. -/
def Continues (piece row : Text) : Prop :=
  ∃ indent, (∀ c ∈ indent, isMargin c = true) ∧ row = indent ++ piece ∧ ¬separator <:+: row

/-- Whether a row is passed over where no entry is open. -/
def IsStray (row : Text) : Prop := IsOneLine row ∧ ¬separator <:+: row

/-- Whether the rows may stand behind an entry: there are none, or an empty one comes first. -/
def IsPause (rows : List Text) : Prop :=
  rows = [] ∨ ∃ strays, rows = [] :: strays ∧ ∀ row ∈ strays, IsStray row

/-- The rows of the entries, in order. -/
inductive Writes : List Entry → List Text → Prop
  | done : Writes [] []
  | entry {e : Entry} {es : List Entry} {further pause rows : List Text} (writable : e.IsWritable)
      (continued : List.Forall₂ Continues e.further further) (paused : IsPause pause)
      (rest : Writes es rows) : Writes (e :: es) (e.heading :: (further ++ (pause ++ rows)))

/-- An output, row by row, with the line break that ends each row. -/
structure Transcript where
  entries : List Entry
  strays : List Text
  rows : List Text
  ended : List (Text × Text)
  strays_stray : ∀ row ∈ strays, IsStray row
  writes_rows : Writes entries rows
  ended_rows : ended.map (·.1) = strays ++ rows
  ends_line : ∀ x ∈ ended, EndsLine x.2

def Transcript.text (t : Transcript) : Text := t.ended.flatMap fun x => x.1 ++ x.2

/-! Every list of writable entries has a transcript, if no further line needs to be told from the
heading of an entry. -/

theorem forall₂_continues_self {pieces : List Text} (h : ∀ t ∈ pieces, ¬separator <:+: t) :
    List.Forall₂ Continues pieces pieces :=
  List.forall₂_same.mpr fun t ht => ⟨[], by simp, rfl, h t ht⟩

theorem exists_writes {entries : List Entry}
    (h : ∀ e ∈ entries, e.IsWritable ∧ ∀ t ∈ e.further, ¬separator <:+: t) :
    ∃ rows, Writes entries rows := by
  induction entries with
  | nil => exact ⟨[], .done⟩
  | cons e es ih =>
      obtain ⟨⟨hwritable, hfurther⟩, hes⟩ := List.forall_mem_cons.mp h
      obtain ⟨rows, hrows⟩ := ih hes
      exact ⟨_, .entry hwritable (forall₂_continues_self hfurther) (.inl rfl) hrows⟩

theorem exists_transcript {entries : List Entry}
    (h : ∀ e ∈ entries, e.IsWritable ∧ ∀ t ∈ e.further, ¬separator <:+: t) :
    ∃ t : Transcript, t.entries = entries := by
  obtain ⟨rows, hrows⟩ := exists_writes h
  refine ⟨{
    entries, rows
    strays := []
    ended := rows.map fun row => (row, ['\n'])
    strays_stray := by simp
    writes_rows := hrows
    ended_rows := by simp [Function.comp_def]
    ends_line := ?_ }, rfl⟩
  intro x hx
  obtain ⟨row, -, rfl⟩ := List.mem_map.mp hx
  exact .single (by decide) (by decide)

/-! Pieces and names in their rows. -/

theorem IsPiece.trimBlanks_append {piece indent : Text} (h : IsPiece piece)
    (hindent : ∀ c ∈ indent, isMargin c = true) : trimBlanks (indent ++ piece) = piece :=
  trim_append hindent h.begins h.ends

theorem IsPiece.trimBlanks_eq {piece : Text} (h : IsPiece piece) : trimBlanks piece = piece :=
  trim_eq_self h.begins h.ends

theorem Entry.IsWritable.trimBlanks_name {e : Entry} (h : e.IsWritable) :
    trimBlanks e.name = e.name :=
  trim_eq_self (fun c hc => h.name_unspaced c (List.mem_of_head? hc))
    fun c hc => h.name_unspaced c (List.mem_of_getLast? hc)

theorem Entry.IsWritable.text_ne_nil {e : Entry} (h : e.IsWritable) : e.text ≠ [] := by
  rw [Entry.text, List.flatten_cons]
  exact List.append_ne_nil_of_left_ne_nil (h.pieces _ List.mem_cons_self).nonempty _

theorem isOneLine_of_isMargin {indent : Text} (h : ∀ c ∈ indent, isMargin c = true) :
    IsOneLine indent := by
  intro c hc
  have hmargin : c = ' ' ∨ c = '\t' := by simpa [isMargin] using h c hc
  rcases hmargin with rfl | rfl <;> decide

theorem Entry.IsWritable.isOneLine_heading {e : Entry} (h : e.IsWritable) :
    IsOneLine e.heading := by
  have hseparator : IsOneLine separator := by
    have hall : separator.all (!isLineBreak ·) = true := by decide
    intro c hc
    simpa using List.all_eq_true.mp hall c hc
  rw [Entry.heading, isOneLine_append, isOneLine_append]
  exact ⟨h.name_oneLine, hseparator, (h.pieces _ List.mem_cons_self).oneLine⟩

theorem isOneLine_of_continues {pieces further : List Text}
    (h : List.Forall₂ Continues pieces further) (hpieces : ∀ t ∈ pieces, IsPiece t) :
    ∀ row ∈ further, IsOneLine row := by
  induction h with
  | nil => simp
  | cons hrow _ ih =>
      obtain ⟨hpiece, hpieces⟩ := List.forall_mem_cons.mp hpieces
      obtain ⟨indent, hindent, rfl, -⟩ := hrow
      rw [List.forall_mem_cons]
      exact ⟨isOneLine_append.mpr ⟨isOneLine_of_isMargin hindent, hpiece.oneLine⟩, ih hpieces⟩

theorem IsPause.isOneLine {pause : List Text} (h : IsPause pause) :
    ∀ row ∈ pause, IsOneLine row := by
  rcases h with rfl | ⟨strays, rfl, hstrays⟩
  · simp
  · rw [List.forall_mem_cons]
    exact ⟨by simp [IsOneLine], fun row hrow => (hstrays row hrow).1⟩

theorem Writes.isOneLine {entries : List Entry} {rows : List Text} (h : Writes entries rows) :
    ∀ row ∈ rows, IsOneLine row := by
  induction h with
  | done => simp
  | entry hwritable hcontinued hpaused _ ih =>
      have hfurther := isOneLine_of_continues hcontinued fun t ht =>
        hwritable.pieces t (List.mem_cons_of_mem _ ht)
      simp only [List.forall_mem_cons, List.forall_mem_append]
      exact ⟨hwritable.isOneLine_heading, hfurther, hpaused.isOneLine, ih⟩

theorem Transcript.lines_text (t : Transcript) : lines t.text = t.strays ++ t.rows := by
  rw [Transcript.text, lines_flatMap, t.ended_rows]
  intro x hx
  refine ⟨?_, t.ends_line x hx⟩
  have hrow : x.1 ∈ t.strays ++ t.rows := t.ended_rows ▸ List.mem_map_of_mem hx
  rcases List.mem_append.mp hrow with hstray | hrow
  · exact (t.strays_stray _ hstray).1
  · exact t.writes_rows.isOneLine _ hrow

/-! Reading rows. The open entry takes the further lines of its text, and a pause closes it. -/

namespace OutputReading

@[simp] theorem current_close (r : OutputReading) : r.close.current = none := by
  unfold close
  split
  · assumption
  · rfl

@[simp] theorem close_close (r : OutputReading) : r.close.close = r.close := by
  have hcurrent := r.current_close
  have hpieces : r.close.pieces = [] := by
    unfold close
    split <;> rfl
  generalize r.close = closed at hcurrent hpieces
  obtain ⟨current, pieces, found⟩ := closed
  subst hcurrent hpieces
  rfl

theorem line_heading {e : Entry} (h : e.IsWritable) (r : OutputReading) :
    r.line e.heading = ⟨some e.name, [e.first], r.close.found⟩ := by
  have hspace : ' ' ∉ e.name := fun hmem => absurd (h.name_unspaced _ hmem) (by decide)
  have hposition : e.heading.position? separator = some e.name.length :=
    position?_append hspace _
  have hname : nonempty? e.name = some e.name := nonempty?_of_ne_nil h.name_ne_nil
  have hne : e.heading.isEmpty = false := by
    simp [Entry.heading, h.name_ne_nil]
  have htake : e.heading.take e.name.length = e.name := List.take_left
  have hdrop : e.heading.drop (e.name.length + separator.length) = e.first := by
    rw [Entry.heading, ← List.append_assoc, ← List.length_append, List.drop_left]
  have hfirst := (h.pieces _ List.mem_cons_self).trimBlanks_eq
  simp only [line, hne, hposition, htake, hdrop, h.trimBlanks_name, hname, hfirst]
  rfl

/-- A row with a further line adds the line to the open entry. -/
theorem line_of_continues {piece row name : Text} {pieces : List Text} {found : Texts}
    (hpiece : IsPiece piece) (h : Continues piece row) :
    line ⟨some name, pieces, found⟩ row = ⟨some name, piece :: pieces, found⟩ := by
  obtain ⟨indent, hindent, rfl, hseparator⟩ := h
  have hne : (indent ++ piece).isEmpty = false := by simp [hpiece.nonempty]
  rw [line, hne, position?_eq_none_iff.mpr hseparator, hpiece.trimBlanks_append hindent]
  rfl

theorem foldl_line_of_continues {pieces further before : List Text} {name : Text} {found : Texts}
    (hpieces : ∀ t ∈ pieces, IsPiece t) (h : List.Forall₂ Continues pieces further) :
    further.foldl line ⟨some name, before, found⟩ =
      ⟨some name, pieces.reverse ++ before, found⟩ := by
  induction h generalizing before with
  | nil => rfl
  | cons hrow _ ih =>
      obtain ⟨hpiece, hpieces⟩ := List.forall_mem_cons.mp hpieces
      rw [List.foldl_cons, line_of_continues hpiece hrow, ih hpieces]
      simp

theorem line_of_isStray {r : OutputReading} {row : Text} (hr : r.close = r) (h : IsStray row) :
    r.line row = r := by
  have hcurrent : r.current = none := by rw [← hr, current_close]
  rw [line]
  split
  · exact hr
  · rw [position?_eq_none_iff.mpr h.2, hcurrent]
    rfl

theorem foldl_line_of_isStray {r : OutputReading} {strays : List Text} (hr : r.close = r)
    (h : ∀ row ∈ strays, IsStray row) : strays.foldl line r = r := by
  induction strays with
  | nil => rfl
  | cons row strays ih =>
      obtain ⟨hrow, hstrays⟩ := List.forall_mem_cons.mp h
      rw [List.foldl_cons, line_of_isStray hr hrow, ih hstrays]

/-- A pause may close the open entry, and whatever comes next would close it too. -/
theorem close_foldl_of_isPause {r : OutputReading} {pause : List Text} (h : IsPause pause) :
    (pause.foldl line r).close = r.close := by
  rcases h with rfl | ⟨strays, rfl, hstrays⟩
  · rfl
  · have hclosed : r.line [] = r.close := rfl
    rw [List.foldl_cons, hclosed, foldl_line_of_isStray r.close_close hstrays, close_close]

/-- What the rows of one entry add to the texts that were found before. -/
theorem found_close_foldl_entry {e : Entry} {further pause : List Text} (hwritable : e.IsWritable)
    (hcontinued : List.Forall₂ Continues e.further further) (hpaused : IsPause pause)
    (r : OutputReading) :
    ((e.heading :: (further ++ pause)).foldl line r).close.found =
      r.close.found.insert e.name e.text := by
  have htext : e.text.isEmpty = false := by simpa using hwritable.text_ne_nil
  have hpieces : (e.further.reverse ++ [e.first]).reverse.flatten = e.text := by
    simp [Entry.text]
  rw [List.foldl_cons, line_heading hwritable, List.foldl_append, close_foldl_of_isPause hpaused,
    foldl_line_of_continues (fun t ht => hwritable.pieces t (List.mem_cons_of_mem _ ht)) hcontinued]
  simp only [close, hpieces, htext]
  rfl

/-- Whatever was open before, the entries add their texts one after the other. -/
theorem found_close_foldl_of_writes {entries : List Entry} {rows : List Text}
    (h : Writes entries rows) (r : OutputReading) :
    (rows.foldl line r).close.found =
      entries.foldl (fun found e => found.insert e.name e.text) r.close.found := by
  induction h generalizing r with
  | done => rfl
  | entry hwritable hcontinued hpaused _ ih =>
      rw [← List.append_assoc, ← List.cons_append, List.foldl_append, ih,
        found_close_foldl_entry hwritable hcontinued hpaused, List.foldl_cons]

end OutputReading

theorem readOutput_text (t : Transcript) :
    readOutput t.text = t.entries.foldl (fun found e => found.insert e.name e.text) ∅ := by
  have hstrays : t.strays.foldl OutputReading.line .start = .start :=
    OutputReading.foldl_line_of_isStray rfl t.strays_stray
  rw [readOutput, t.lines_text, List.foldl_append, hstrays,
    OutputReading.found_close_foldl_of_writes t.writes_rows]
  rfl

/-- Reading a transcript gives for each name the lines of its last entry, one directly behind the
other, and nothing for a name without an entry. -/
theorem getElem?_readOutput_text (t : Transcript) (name : Text) :
    (readOutput t.text)[name]? = (t.entries.reverse.find? (·.name == name)).map Entry.text := by
  rw [readOutput_text, getElem?_foldl_insert_of_last]
  simp

example :
    (readOutput ("warning\n$s1a ---> A\r\n  .run\n\x0cstray\u2028" ++
      "$s1b ---> B ---> C\n\t.go\n$s1a ---> D\n").toList).toList =
      [("$s1a".toList, "D".toList), ("$s1b".toList, "B ---> C.go".toList)] := by
  decide +kernel

end LinkAudit.Demangler

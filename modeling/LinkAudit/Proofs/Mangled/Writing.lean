import LinkAudit.Proofs.Mangled.Spelling
import LinkAudit.Proofs.Text.Number
import LinkAudit.Proofs.Text.Search
import Mathlib.Data.List.Infix

/-!
Writing mangled names. A name is written from a lead and from items, where a segment is preceded by
the number of its characters and a run stands as it is. Main statement: reading what was written
gives the lead and the segments back, whatever characters the segments hold, and the runs as one
suffix. Runs next to each other are read as one run, so that the items themselves do not come back.
-/

namespace LinkAudit.Mangled

open Text (IsStretch)

/-- An item as it is written. The length of a segment has zeros in front. -/
def Item.written (zeros : Nat) : Item → Text
  | .segment text => Text.padded zeros text.length ++ text
  | .run text => text

/-- The name with this lead and these items, each with the number of zeros for its length. -/
def write (lead : Text) (pieces : List (Nat × Item)) : Text :=
  lead ++ pieces.flatMap fun x => x.2.written x.1

/-- Whether an item can be told from what stands around it: a segment begins with a character other
than a digit, and a run holds only such characters. -/
def Item.IsWritable : Item → Prop
  | .segment text => ∃ c rest, text = c :: rest ∧ c.isDigit = false
  | .run text => text ≠ [] ∧ ∀ c ∈ text, c.isDigit = false

/-- The segments that are read of a text behind a lead; `suffixIn` has its runs, joined. -/
def segmentsIn (t : Text) : List Text := (items t).filterMap Item.segment?

def suffixIn (t : Text) : Text := ((items t).filterMap Item.run?).flatten

theorem lengthValue_padded (zeros n : Nat) : lengthValue (Text.padded zeros n) = n := by
  rw [lengthValue_eq_ofDigitChars, Text.ofDigitChars_padded]

theorem ofText_of_isStretch {lead after : Text} (h : IsStretch (!·.isDigit) lead after) :
    ofText (lead ++ after) =
      { lead, segments := segmentsIn after, suffix := Text.nonempty? (suffixIn after) } := by
  rw [ofText, h.takeWhile_append, h.dropWhile_append]
  rfl

theorem segmentsIn_suffixIn_of_isEnd {rest : Text} (h : IsEnd rest) :
    segmentsIn rest = [] ∧ suffixIn rest = [] := by
  rw [segmentsIn, suffixIn, items_of_isEnd h]
  exact ⟨rfl, rfl⟩

theorem segmentsIn_suffixIn_counted {digits text after : Text}
    (hlength : IsLength digits (text ++ after)) (hpositive : 0 < lengthValue digits)
    (hcount : text.length = lengthValue digits) :
    segmentsIn (digits ++ (text ++ after)) = text :: segmentsIn after ∧
      suffixIn (digits ++ (text ++ after)) = suffixIn after := by
  rw [segmentsIn, suffixIn, items_counted hlength hpositive hcount]
  exact ⟨rfl, rfl⟩

/-- A written length is read as the length that it is, because the segment behind it does not begin
with a digit. -/
theorem items_written_segment {text after : Text} (zeros : Nat)
    (h : (Item.segment text).IsWritable) :
    items ((Item.segment text).written zeros ++ after) = .segment text :: items after := by
  obtain ⟨c, rest, rfl, hc⟩ := h
  have hvalue := lengthValue_padded zeros (c :: rest).length
  rw [Item.written, List.append_assoc]
  have hstretch : IsStretch Char.isDigit (Text.padded zeros (c :: rest).length)
      ((c :: rest) ++ after) :=
    Text.isStretch_before_cons (fun d hd => Text.isDigit_of_mem_padded hd) hc _
  refine items_counted ⟨Text.padded_ne_nil _ _, hstretch⟩ ?_ hvalue.symm
  rw [hvalue]
  exact Nat.succ_pos _

/-- A run joins the run that may follow it, which changes neither the segments nor the suffix beyond
the run itself. -/
theorem segmentsIn_suffixIn_run_append {text after : Text} (hne : text ≠ [])
    (h : ∀ c ∈ text, c.isDigit = false) :
    segmentsIn (text ++ after) = segmentsIn after ∧
      suffixIn (text ++ after) = text ++ suffixIn after := by
  have hmore := Text.isStretch_takeWhile (!·.isDigit) after
  generalize hlast : after.dropWhile (!·.isDigit) = last at hmore
  generalize htake : after.takeWhile (!·.isDigit) = more at hmore
  have hafter : after = more ++ last := by
    rw [← hlast, ← htake, List.takeWhile_append_dropWhile]
  have hjoined : IsStretch (!·.isDigit) (text ++ more) last := by
    refine ⟨?_, hmore.ends⟩
    intro c hc
    rcases List.mem_append.mp hc with hc | hc
    · simp [h c hc]
    · exact hmore.inside c hc
  have hread : items (text ++ after) = .run (text ++ more) :: items last := by
    rw [hafter, ← List.append_assoc]
    exact items_run (List.append_ne_nil_of_left_ne_nil hne _) hjoined
  -- the run stays an item of its own only if no other run follows it
  cases more with
  | nil =>
      rw [List.nil_append] at hafter
      rw [segmentsIn, suffixIn, hread, List.append_nil, hafter]
      exact ⟨rfl, rfl⟩
  | cons c more =>
      have hrun : items after = .run (c :: more) :: items last := by
        rw [hafter]
        exact items_run (List.cons_ne_nil _ _) hmore
      rw [segmentsIn, suffixIn, hread, segmentsIn, suffixIn, hrun]
      exact ⟨rfl, List.append_assoc _ _ _⟩

/-- Characters that are no digits are one run. -/
theorem segmentsIn_suffixIn_run {text : Text} (h : ∀ c ∈ text, c.isDigit = false) :
    segmentsIn text = [] ∧ suffixIn text = text := by
  obtain ⟨hnone, hempty⟩ := segmentsIn_suffixIn_of_isEnd (.inl rfl)
  by_cases hne : text = []
  · rw [hne]
    exact ⟨hnone, hempty⟩
  · obtain ⟨hsegments, hsuffix⟩ := @segmentsIn_suffixIn_run_append text [] hne h
    rw [List.append_nil, hnone] at hsegments
    rw [List.append_nil, hempty, List.append_nil] at hsuffix
    exact ⟨hsegments, hsuffix⟩

theorem segmentsIn_suffixIn_written {pieces : List (Nat × Item)}
    (h : ∀ x ∈ pieces, x.2.IsWritable) :
    segmentsIn (pieces.flatMap fun x => x.2.written x.1) =
        pieces.filterMap (·.2.segment?) ∧
      suffixIn (pieces.flatMap fun x => x.2.written x.1) =
        (pieces.filterMap (·.2.run?)).flatten := by
  induction pieces with
  | nil => exact ⟨by simp [segmentsIn, items], by simp [suffixIn, items]⟩
  | cons first rest ih =>
      obtain ⟨zeros, item⟩ := first
      obtain ⟨hsegments, hsuffix⟩ := ih fun x hx => h x (List.mem_cons_of_mem _ hx)
      have hwritable := h _ List.mem_cons_self
      rw [List.flatMap_cons]
      cases item with
      | segment text =>
          have hread : items ((Item.segment text).written zeros ++
              rest.flatMap fun x => x.2.written x.1) =
                .segment text :: items (rest.flatMap fun x => x.2.written x.1) :=
            items_written_segment zeros hwritable
          rw [segmentsIn, suffixIn, hread]
          exact ⟨congrArg (text :: ·) hsegments, hsuffix⟩
      | run text =>
          obtain ⟨hrest, hjoined⟩ := segmentsIn_suffixIn_run_append hwritable.1 hwritable.2
          exact ⟨hrest.trans hsegments, hjoined.trans (congrArg (text ++ ·) hsuffix)⟩

theorem isStretch_lead {lead : Text} {pieces : List (Nat × Item)}
    (hlead : ∀ c ∈ lead, c.isDigit = false)
    (hfirst : ∀ x ∈ pieces.head?, x.2.segment?.isSome = true) :
    IsStretch (!·.isDigit) lead (pieces.flatMap fun x => x.2.written x.1) := by
  have hinside : ∀ c ∈ lead, (!c.isDigit) = true := fun c hc => by simp [hlead c hc]
  cases pieces with
  | nil => exact ⟨hinside, by simp⟩
  | cons first rest =>
      obtain ⟨zeros, item⟩ := first
      cases item with
      | run text => simpa [Item.segment?] using hfirst _ rfl
      | segment text =>
          obtain ⟨d, digits, hdigits⟩ :=
            List.exists_cons_of_ne_nil (Text.padded_ne_nil zeros text.length)
          have hmem : d ∈ Text.padded zeros text.length := by
            rw [hdigits]
            exact List.mem_cons_self
          have hd : d.isDigit = true := Text.isDigit_of_mem_padded hmem
          rw [List.flatMap_cons, Item.written, hdigits]
          exact Text.isStretch_before_cons hinside (by simp [hd]) _

/-- No run of writable items is empty, so that their suffix is there if and only if a run is. -/
theorem nonempty?_flatten_runs {pieces : List (Nat × Item)} (h : ∀ x ∈ pieces, x.2.IsWritable) :
    Text.nonempty? (pieces.filterMap (·.2.run?)).flatten =
      if pieces.filterMap (·.2.run?) = [] then none
      else some (pieces.filterMap (·.2.run?)).flatten := by
  cases hruns : pieces.filterMap (·.2.run?) with
  | nil => rfl
  | cons text rest =>
      have hmem : text ∈ pieces.filterMap (·.2.run?) := by
        rw [hruns]
        exact List.mem_cons_self
      obtain ⟨⟨zeros, item⟩, hitem, hrun⟩ := List.mem_filterMap.mp hmem
      have hwritable := h _ hitem
      cases item with
      | segment other => simp [Item.run?] at hrun
      | run other =>
          obtain rfl : other = text := Option.some.inj hrun
          rw [if_neg (List.cons_ne_nil _ _), Text.nonempty?, List.flatten_cons]
          simp [hwritable.1]

/-- Reading what was written gives back the lead and, whatever their characters, the segments in
order, with the runs joined to the suffix. The module is the second segment where the lead has the
mark of an imported declaration and there is a second segment, and else the first. -/
theorem ofText_write {lead : Text} {pieces : List (Nat × Item)}
    (hlead : ∀ c ∈ lead, c.isDigit = false) (hpieces : ∀ x ∈ pieces, x.2.IsWritable)
    (hfirst : ∀ x ∈ pieces.head?, x.2.segment?.isSome = true) :
    let segments := pieces.filterMap (·.2.segment?)
    let runs := pieces.filterMap (·.2.run?)
    ofText (write lead pieces) =
        { lead, segments, suffix := if runs = [] then none else some runs.flatten } ∧
      (ofText (write lead pieces)).module? =
        if "So".toList <:+: lead ∧ 2 ≤ segments.length then segments[1]? else segments.head? := by
  intro segments runs
  have hstretch := isStretch_lead hlead hfirst
  obtain ⟨hsegments, hsuffix⟩ := segmentsIn_suffixIn_written hpieces
  have hparts : ofText (write lead pieces) =
      { lead, segments, suffix := if runs = [] then none else some runs.flatten } := by
    rw [ofText, write, hstretch.takeWhile_append, hstretch.dropWhile_append]
    change Mangled.mk lead (segmentsIn _) (Text.nonempty? (suffixIn _)) = _
    rw [hsegments, hsuffix, nonempty?_flatten_runs hpieces]
  refine ⟨hparts, ?_⟩
  rw [hparts, module?]
  simp only [Bool.and_eq_true, decide_eq_true_eq, Text.mentions_iff_isInfix]
  rfl

/-- The name of an imported declaration. Its second segment has a digit, a length has a zero in
front, and two runs stand next to each other. -/
theorem ofText_write_imported :
    let lead := "$sSo".toList
    let pieces := [(0, Item.segment "UIView".toList), (1, .segment "C3Kit".toList),
      (0, .run "E".toList), (0, .run "FZ".toList)]
    ((∀ c ∈ lead, c.isDigit = false) ∧ (∀ x ∈ pieces, x.2.IsWritable) ∧
      ∀ x ∈ pieces.head?, x.2.segment?.isSome = true) ∧
    ofText (write lead pieces) =
        ⟨lead, ["UIView".toList, "C3Kit".toList], some "EFZ".toList⟩ ∧
      (ofText (write lead pieces)).module? = some "C3Kit".toList := by
  intro lead pieces
  have hlead : ∀ c ∈ lead, c.isDigit = false := by simp [lead]
  have hpieces : ∀ x ∈ pieces, x.2.IsWritable := by
    simp only [pieces, List.forall_mem_cons, Item.IsWritable]
    exact ⟨⟨'U', _, rfl, rfl⟩, ⟨'C', _, rfl, rfl⟩, by simp, by simp, by simp⟩
  have hfirst : ∀ x ∈ pieces.head?, x.2.segment?.isSome = true := by simp [pieces, Item.segment?]
  obtain ⟨hparts, hmodule⟩ := ofText_write hlead hpieces hfirst
  exact ⟨⟨hlead, hpieces, hfirst⟩, hparts, hmodule⟩

end LinkAudit.Mangled

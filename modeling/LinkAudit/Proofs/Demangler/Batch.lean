import LinkAudit.Demangler.Batch
import LinkAudit.Proofs.Order
import LinkAudit.Proofs.Table
import LinkAudit.Proofs.Text.Utf8
import Mathlib.Data.List.Basic

/-!
Demangling in batches. The batches together hold the canonical forms of the names and nothing else.
Of a tool that answers each batch from one dictionary, or fails on it, a name has the text that the
dictionary has for its canonical form, unless the batch of that form failed. So a batch that fails
does no harm to the others, and where none fails it makes no difference how the names are batched.
-/

namespace LinkAudit

namespace Demangler

section Chunks

variable {α : Type} {size : Nat}

theorem flatten_chunks (hsize : 1 ≤ size) (l : List α) : (chunks size l).flatten = l := by
  induction l using chunks.induct size with
  | case1 l hstop =>
      rw [chunks, dif_pos hstop]
      simp only [Bool.or_eq_true, List.isEmpty_iff, beq_iff_eq] at hstop
      rw [hstop.resolve_right (by omega)]
      rfl
  | case2 l hgo ih =>
      rw [chunks, dif_neg hgo, List.flatten_cons, ih, List.take_append_drop]

theorem ne_nil_of_mem_chunks {l chunk : List α} (h : chunk ∈ chunks size l) : chunk ≠ [] := by
  induction l using chunks.induct size with
  | case1 l hstop =>
      rw [chunks, dif_pos hstop] at h
      simp at h
  | case2 l hgo ih =>
      rw [chunks, dif_neg hgo, List.mem_cons] at h
      rcases h with rfl | h
      · simp only [Bool.or_eq_true, List.isEmpty_iff, beq_iff_eq, not_or] at hgo
        simp [List.take_eq_nil_iff, hgo.1, hgo.2]
      · exact ih h

end Chunks

variable {tool : Tool} {command names : List Text} {size : Nat} {batch : List Text}
  {dictionary : Text → Option Text} {name canonical text : Text}

/-- A form is in a batch if it is the canonical form of one of the names. -/
theorem exists_batch_iff (hsize : 1 ≤ size) :
    (∃ batch ∈ batches size names, canonical ∈ batch) ↔
      ∃ name ∈ names, Mangled.canonical? name = some canonical := by
  rw [batches, ← List.mem_flatten, flatten_chunks hsize, Text.mem_distinct, List.mem_filterMap]

/-- Whether a call failed: the tool could not be launched, or its status says that it failed. -/
def ToolOutcome.IsFailure : ToolOutcome → Prop
  | .launchFailed _ => True
  | .exited status _ _ _ => status ≠ 0

instance (outcome : ToolOutcome) : Decidable outcome.IsFailure :=
  match outcome with
  | .launchFailed _ => .isTrue trivial
  | .exited status _ _ _ => inferInstanceAs (Decidable (status ≠ 0))

/-- Whether a call was answered from the dictionary: its output reads as what the dictionary has for
the names of the batch. -/
def ToolOutcome.Answers (outcome : ToolOutcome) (dictionary : Text → Option Text)
    (batch : List Text) : Prop :=
  ∃ output errors elapsed, outcome = .exited 0 output errors elapsed ∧
    ∀ c, (readOutput (toolText output))[c]? = if c ∈ batch then dictionary c else none

/-- Whether each of the batches fails or is answered from the dictionary. -/
def Tool.Follows (tool : Tool) (command : List Text) (dictionary : Text → Option Text)
    (batches : List (List Text)) : Prop :=
  ∀ batch ∈ batches, (tool (command ++ batch)).IsFailure ∨
    (tool (command ++ batch)).Answers dictionary batch

theorem texts_of_isFailure {outcome : ToolOutcome} (h : outcome.IsFailure) (number : Nat) :
    (outcome.yield number).texts = ∅ := by
  cases outcome with
  | launchFailed reason => rfl
  | exited status output errors elapsed =>
      rw [ToolOutcome.yield, if_neg h]

theorem not_isFailure_of_answers {outcome : ToolOutcome} (h : outcome.Answers dictionary batch) :
    ¬outcome.IsFailure := by
  obtain ⟨output, errors, elapsed, rfl, -⟩ := h
  exact fun hne => hne rfl

/-- What a batch yields does not depend on its number. -/
theorem getElem?_texts_runBatch (hbatch : batch ≠ [])
    (htool : (tool (command ++ batch)).IsFailure ∨
      (tool (command ++ batch)).Answers dictionary batch) (number : Nat) :
    (runBatch tool command number batch).texts[canonical]? = some text ↔
      canonical ∈ batch ∧ dictionary canonical = some text ∧
        ¬(tool (command ++ batch)).IsFailure := by
  rw [runBatch, if_neg (by simpa using hbatch)]
  rcases htool with hfailure | hanswers
  · simp [texts_of_isFailure hfailure, hfailure]
  · have hsuccess := not_isFailure_of_answers hanswers
    obtain ⟨output, errors, elapsed, houtcome, hreads⟩ := hanswers
    have htexts : ((tool (command ++ batch)).yield number).texts =
        readOutput (toolText output) := by
      rw [houtcome]
      rfl
    rw [htexts, hreads]
    by_cases hmem : canonical ∈ batch
    · simp [hmem, hsuccess]
    · simp [hmem]

/-- Of all batches a form has the text of the dictionary, if it is in one that did not fail. -/
theorem findSome?_yields_iff {all : List (List Text)} (hne : ∀ batch ∈ all, batch ≠ [])
    (htool : tool.Follows command dictionary all) :
    (all.mapIdx (runBatch tool command)).findSome? (·.texts[canonical]?) = some text ↔
      dictionary canonical = some text ∧
        ∃ batch ∈ all, canonical ∈ batch ∧ ¬(tool (command ++ batch)).IsFailure := by
  have hfound {t : Text}
      (h : (all.mapIdx (runBatch tool command)).findSome? (·.texts[canonical]?) = some t) :
      dictionary canonical = some t ∧
        ∃ batch ∈ all, canonical ∈ batch ∧ ¬(tool (command ++ batch)).IsFailure := by
    obtain ⟨yielded, hyielded, htext⟩ := List.exists_of_findSome?_eq_some h
    obtain ⟨i, hi, rfl⟩ := List.mem_mapIdx.mp hyielded
    have hbatch := List.getElem_mem hi
    obtain ⟨hmem, hdictionary, hsuccess⟩ :=
      (getElem?_texts_runBatch (hne _ hbatch) (htool _ hbatch) i).mp htext
    exact ⟨hdictionary, _, hbatch, hmem, hsuccess⟩
  constructor
  · exact hfound
  · rintro ⟨hdictionary, batch, hbatch, hmem, hsuccess⟩
    cases hsome : (all.mapIdx (runBatch tool command)).findSome? (·.texts[canonical]?) with
    | some t => rw [← (hfound hsome).1, hdictionary]
    | none =>
        obtain ⟨i, hi, rfl⟩ := List.mem_iff_getElem.mp hbatch
        have hnone := List.findSome?_eq_none_iff.mp hsome _ (List.mem_mapIdx.mpr ⟨i, hi, rfl⟩)
        have htext := (getElem?_texts_runBatch (hne _ hbatch) (htool _ hbatch) i).mpr
          ⟨hmem, hdictionary, hsuccess⟩
        rw [hnone] at htext
        cases htext

/-- A name has the text that the dictionary has for its canonical form, if it was asked about and
the batch of that form did not fail. -/
theorem getElem?_demangle_iff (htool : tool.Follows command dictionary (batches size names)) :
    (demangle tool command size names).texts[name]? = some text ↔
      name ∈ names ∧ ∃ canonical, Mangled.canonical? name = some canonical ∧
        dictionary canonical = some text ∧
        ∃ batch ∈ batches size names, canonical ∈ batch ∧ ¬(tool (command ++ batch)).IsFailure := by
  have hne : ∀ batch ∈ batches size names, batch ≠ [] := fun batch hbatch =>
    ne_nil_of_mem_chunks hbatch
  have htexts : (demangle tool command size names).texts[name]? =
      (if name ∈ names then
        textFor? ((batches size names).mapIdx (runBatch tool command)) name else none).or
        (∅ : Texts)[name]? :=
    getElem?_foldl_insert (textFor? ((batches size names).mapIdx (runBatch tool command))) names ∅
      name
  rw [htexts, Std.TreeMap.getElem?_emptyc, Option.or_none, Option.ite_none_right_eq_some]
  apply and_congr_right
  intro hname
  rw [textFor?, Option.bind_eq_bind, Option.bind_eq_some_iff]
  simp only [findSome?_yields_iff hne htool]

/-- Without failures the batches make no difference. -/
theorem getElem?_demangle_of_success (hsize : 1 ≤ size)
    (htool : tool.Follows command dictionary (batches size names))
    (hsuccess : ∀ batch ∈ batches size names, ¬(tool (command ++ batch)).IsFailure) :
    (demangle tool command size names).texts[name]? =
      if name ∈ names then (Mangled.canonical? name).bind dictionary else none := by
  apply Option.ext
  intro text
  rw [getElem?_demangle_iff htool, Option.ite_none_right_eq_some, Option.bind_eq_some_iff]
  apply and_congr_right
  intro hname
  apply exists_congr
  intro canonical
  refine and_congr_right fun hcanonical => and_iff_left ?_
  obtain ⟨batch, hbatch, hmem⟩ := (exists_batch_iff hsize).mpr ⟨name, hname, hcanonical⟩
  exact ⟨batch, hbatch, hmem, hsuccess batch hbatch⟩

/-- A tool that also fails on one more batch has the same text for a name outside that batch. -/
theorem getElem?_demangle_of_isFailure {other : Tool} {failing : List Text}
    (htool : tool.Follows command dictionary (batches size names))
    (hagrees : ∀ batch ∈ batches size names, batch ≠ failing →
      other (command ++ batch) = tool (command ++ batch))
    (hfails : (other (command ++ failing)).IsFailure)
    (hcanonical : Mangled.canonical? name = some canonical) (houtside : canonical ∉ failing) :
    (demangle other command size names).texts[name]? =
      (demangle tool command size names).texts[name]? := by
  have hother : other.Follows command dictionary (batches size names) := by
    intro batch hbatch
    by_cases hfailing : batch = failing
    · rw [hfailing]
      exact .inl hfails
    · rw [hagrees batch hbatch hfailing]
      exact htool batch hbatch
  have hsame {batch : List Text} (hbatch : batch ∈ batches size names) (hmem : canonical ∈ batch) :
      other (command ++ batch) = tool (command ++ batch) :=
    hagrees batch hbatch fun heq => houtside (heq ▸ hmem)
  have hsuccess : (∃ batch ∈ batches size names,
        canonical ∈ batch ∧ ¬(other (command ++ batch)).IsFailure) ↔
      ∃ batch ∈ batches size names, canonical ∈ batch ∧ ¬(tool (command ++ batch)).IsFailure := by
    apply exists_congr
    intro batch
    refine and_congr_right fun hbatch => and_congr_right fun hmem => ?_
    rw [hsame hbatch hmem]
  apply Option.ext
  intro text
  rw [getElem?_demangle_iff hother, getElem?_demangle_iff htool]
  simp only [hcanonical, Option.some.injEq, exists_eq_left', hsuccess]

/-- Demangling in batches is demangling name by name. Each name that was asked about has the text of
its canonical form, unless that form is in a batch that failed. A further batch that fails takes no
text from a name outside it. Where no batch fails, the texts are those of the dictionary, for every
size of the batches and for the names in any order and number. -/
theorem texts_demangle_eq_dictionary (tool : Tool) (command : List Text)
    (dictionary : Text → Option Text) (size : Nat) (names : List Text) (hsize : 1 ≤ size)
    (htool : tool.Follows command dictionary (batches size names)) :
    let texts := (demangle tool command size names).texts
    (∀ name text : Text, texts[name]? = some text ↔
      name ∈ names ∧ ∃ canonical, Mangled.canonical? name = some canonical ∧
        dictionary canonical = some text ∧
        ∃ batch ∈ batches size names, canonical ∈ batch ∧
          ¬(tool (command ++ batch)).IsFailure) ∧
    (∀ (other : Tool) (failing : List Text),
      (∀ batch ∈ batches size names, batch ≠ failing →
        other (command ++ batch) = tool (command ++ batch)) →
      (other (command ++ failing)).IsFailure →
      ∀ name canonical : Text, Mangled.canonical? name = some canonical → canonical ∉ failing →
        (demangle other command size names).texts[name]? = texts[name]?) ∧
    ((∀ batch ∈ batches size names, ¬(tool (command ++ batch)).IsFailure) →
      (∀ name : Text, texts[name]? =
        if name ∈ names then (Mangled.canonical? name).bind dictionary else none) ∧
      ∀ (size' : Nat) (names' : List Text), 1 ≤ size' → (∀ name, name ∈ names' ↔ name ∈ names) →
        tool.Follows command dictionary (batches size' names') →
        (∀ batch ∈ batches size' names', ¬(tool (command ++ batch)).IsFailure) →
        ∀ name : Text, (demangle tool command size' names').texts[name]? = texts[name]?) := by
  refine ⟨fun name text => getElem?_demangle_iff htool,
    fun other failing hagrees hfails name canonical =>
      getElem?_demangle_of_isFailure htool hagrees hfails,
    fun hsuccess => ⟨fun name => getElem?_demangle_of_success hsize htool hsuccess, ?_⟩⟩
  intro size' names' hsize' hnames htool' hsuccess' name
  rw [getElem?_demangle_of_success hsize' htool' hsuccess',
    getElem?_demangle_of_success hsize htool hsuccess]
  simp only [hnames]

/-- A tool that fails where it is asked about one form, has a text for another and answers nothing
else. -/
def pickyTool (words : List Text) : ToolOutcome :=
  if "$s1p1q".toList ∈ words then .exited 1 [] [] "0.01s".toList
  else if "$s1a1b".toList ∈ words then
    .exited 0 (Text.Utf8.encode "$s1a1b ---> a.b\n".toList) [] "0.01s".toList
  else .exited 0 [] [] "0.01s".toList

def soleDictionary (canonical : Text) : Option Text :=
  if canonical = "$s1a1b".toList then some "a.b".toList else none

theorem readOutput_pickyTool :
    readOutput (toolText (Text.Utf8.encode "$s1a1b ---> a.b\n".toList)) =
      (∅ : Texts).insert "$s1a1b".toList "a.b".toList := by
  rw [toolText, Text.Utf8.decodeLossy_encode]
  rfl

theorem answers_pickyTool (h : "$s1p1q".toList ∉ batch) :
    (pickyTool batch).Answers soleDictionary batch := by
  by_cases hasked : "$s1a1b".toList ∈ batch
  · refine ⟨_, _, _, (if_neg h).trans (if_pos hasked), fun c => ?_⟩
    rw [readOutput_pickyTool, Std.TreeMap.getElem?_insert, Std.TreeMap.getElem?_emptyc]
    by_cases hc : c = "$s1a1b".toList
    · subst hc
      rw [if_pos hasked, if_pos Std.ReflCmp.compare_self]
      rfl
    · have hnone : soleDictionary c = none := if_neg hc
      rw [hnone, ite_self, if_neg fun h => hc (Std.LawfulEqCmp.eq_of_compare h).symm]
  · refine ⟨_, _, _, (if_neg h).trans (if_neg hasked), fun c => ?_⟩
    have hread : readOutput (toolText []) = ∅ := rfl
    rw [hread, Std.TreeMap.getElem?_emptyc]
    by_cases hc : c = "$s1a1b".toList
    · rw [hc, if_neg hasked]
    · have hnone : soleDictionary c = none := if_neg hc
      rw [hnone, ite_self]

theorem follows_pickyTool (all : List (List Text)) :
    Tool.Follows pickyTool [] soleDictionary all := by
  intro batch _
  by_cases h : "$s1p1q".toList ∈ batch
  · left
    rw [List.nil_append, pickyTool, if_pos h]
    decide
  · exact .inr (answers_pickyTool h)

/-- Two spellings of one form, a form whose batch fails, a form without a text, and a name that is
not mangled. -/
def mixedNames : List Text :=
  ["_$s1a1b".toList, "$s1p1q".toList, "main".toList, "$s1a1b".toList, "$s1x1y".toList]

theorem batches_mixedNames : batches 1 mixedNames =
    [["$s1a1b".toList], ["$s1p1q".toList], ["$s1x1y".toList]] := by
  decide +kernel

/-- The tool, launched in vain where it would be asked about one form alone. -/
def pickierTool (words : List Text) : ToolOutcome :=
  if words = ["$s1x1y".toList] then .launchFailed [] else pickyTool words

def quietNames : List Text := ["$s1x1y".toList, "_$s1a1b".toList]

theorem texts_demangle_mixedNames :
    (1 ≤ 1 ∧ Tool.Follows pickyTool [] soleDictionary (batches 1 mixedNames)) ∧
      (demangle pickyTool [] 1 mixedNames).texts["_$s1a1b".toList]? = some "a.b".toList ∧
      (∀ text : Text, (demangle pickyTool [] 1 mixedNames).texts["$s1p1q".toList]? ≠ some text) ∧
      (demangle pickierTool [] 1 mixedNames).texts["_$s1a1b".toList]? = some "a.b".toList ∧
      (demangle pickyTool [] 1 quietNames).texts["_$s1a1b".toList]? = some "a.b".toList ∧
      ∀ name : Text, (demangle pickyTool [] 2 (quietNames ++ quietNames).reverse).texts[name]? =
        (demangle pickyTool [] 1 quietNames).texts[name]? := by
  have hmixed := texts_demangle_eq_dictionary pickyTool [] soleDictionary 1 mixedNames le_rfl
    (follows_pickyTool _)
  have hquiet := texts_demangle_eq_dictionary pickyTool [] soleDictionary 1 quietNames le_rfl
    (follows_pickyTool _)
  have hforms : Mangled.canonical? "_$s1a1b".toList = some "$s1a1b".toList := by decide
  have hanswered : (demangle pickyTool [] 1 mixedNames).texts["_$s1a1b".toList]? =
      some "a.b".toList := by
    refine (hmixed.1 _ _).mpr ⟨by decide, _, hforms, by decide, ?_⟩
    rw [batches_mixedNames]
    exact ⟨_, List.mem_cons_self, by decide, by decide⟩
  refine ⟨⟨le_rfl, follows_pickyTool _⟩, hanswered, ?_, ?_, ?_, ?_⟩
  · intro text htext
    obtain ⟨-, canonical, hcanonical, hdictionary, -⟩ := (hmixed.1 _ _).mp htext
    cases Option.some.inj hcanonical
    cases hdictionary
  · refine (hmixed.2.1 pickierTool ["$s1x1y".toList] ?_ (by decide) _ _ hforms (by decide)).trans
      hanswered
    intro batch _ hne
    exact if_neg hne
  · rw [(hquiet.2.2 (by decide +kernel)).1]
    decide
  · exact (hquiet.2.2 (by decide +kernel)).2 2 _ (by decide) (by simp) (follows_pickyTool _)
      (by decide +kernel)

end Demangler

end LinkAudit

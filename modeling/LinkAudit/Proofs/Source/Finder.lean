import LinkAudit.Proofs.FileTree.Order
import LinkAudit.Proofs.FirstBy
import LinkAudit.Proofs.Path
import LinkAudit.Proofs.Text.Case
import LinkAudit.Source.Finder

/-!
Runs of a finder. A run is a list of questions, each asked of the tree as it is at that time, so that
the tree may change in any way between two of them. The invariant of a run is that a finder
remembers, for each root and file name, what a walk found when they were asked for first. Main
statement: this is what the finder answers, whatever the tree has become, and the questions for other
roots or names, or those that are never looked for, have no part in it.
-/

namespace LinkAudit.SourceFinder

/-- A question to a finder, with the tree as it is at that time. -/
structure Query where
  tree : FileTree
  fileName : Text
  root : Option Path

/-- Whether a name has the mark of generated sources, with letters of any case. -/
def IsMarked (fileName : Text) : Prop :=
  ∃ stretch : Text, stretch <:+: fileName ∧ stretch.lower = generatedMark

theorem isGenerated_iff {fileName : Text} : isGenerated fileName = true ↔ IsMarked fileName := by
  rw [isGenerated, Text.mentions_iff_isInfix]
  exact Text.isInfix_lower_iff (by decide) (by decide) (by decide) (by decide) fileName

namespace Query

/-- Whether a file of the name is asked for below a root whose normal path is `place`. -/
structure AsksFor (q : Query) (place : Path) (fileName : Text) : Prop where
  name_eq : q.fileName = fileName
  normal_eq : ∃ root, q.root = some root ∧ root.normal q.tree.here = place

/-- What a question is for, if it is one that is looked for. -/
def key? (q : Query) : Option (Path × Text) :=
  if isGenerated q.fileName then none
  else q.root.map fun root => (root.normal q.tree.here, q.fileName)

def walked (q : Query) : Option Path := q.root.bind (search q.tree q.fileName)

/-- What a walk found when the same was asked for first. -/
def answerAfter (q : Query) (asked : List Query) : Option Path :=
  q.key?.bind fun key => ((asked ++ [q]).find? (·.key? == some key)).bind walked

variable {q : Query} {place : Path} {fileName : Text}

theorem key?_eq_none_iff : q.key? = none ↔ q.root = none ∨ IsMarked q.fileName := by
  rw [← isGenerated_iff, key?]
  split <;> simp [*]

theorem key?_eq_some_iff :
    q.key? = some (place, fileName) ↔ q.AsksFor place fileName ∧ ¬IsMarked fileName := by
  rw [← isGenerated_iff, key?]
  constructor
  · intro h
    split at h
    · cases h
    · rename_i hname
      obtain ⟨root, hroot, hkey⟩ := Option.map_eq_some_iff.mp h
      cases hkey
      exact ⟨⟨rfl, root, hroot, rfl⟩, hname⟩
  · rintro ⟨⟨rfl, root, hroot, rfl⟩, hname⟩
    rw [if_neg hname, hroot]
    rfl

end Query

structure Exchange where
  query : Query
  answer : Option Path

def transcript (finder : SourceFinder) : List Query → List Exchange
  | [] => []
  | q :: rest =>
    let found := finder.find q.tree q.fileName q.root
    ⟨q, found.1⟩ :: found.2.transcript rest

theorem map_query_transcript (finder : SourceFinder) (run : List Query) :
    (finder.transcript run).map (·.query) = run := by
  induction run generalizing finder with
  | nil => rfl
  | cons q rest ih => rw [transcript, List.map_cons, ih]

/-- What was asked for is remembered as it was found when it was asked for first, and nothing else is
remembered. -/
def Remembers (finder : SourceFinder) (asked : List Query) : Prop :=
  ∀ key, finder.known.lookup key = (asked.find? (·.key? == some key)).map Query.walked

variable {finder finder' : SourceFinder} {asked run : List Query} {q : Query}

theorem find_eq (finder : SourceFinder) (q : Query) :
    finder.find q.tree q.fileName q.root =
      match q.key? with
      | none => (none, finder)
      | some key =>
        match finder.known.lookup key with
        | some answer => (answer, finder)
        | none => (q.walked, ⟨(key, q.walked) :: finder.known⟩) := by
  obtain ⟨tree, fileName, root⟩ := q
  rw [Query.key?]
  cases root with
  | none => cases hname : isGenerated fileName <;> rfl
  | some root =>
      rw [find]
      split <;> rfl

theorem remembers_fresh : fresh.Remembers [] := fun _ => rfl

/-- After a question only what it is for can be remembered anew. -/
theorem Remembers.concat {key : Path × Text} (h : finder.Remembers asked)
    (hkey : q.key? = some key)
    (hhere : finder'.known.lookup key =
      ((asked ++ [q]).find? (·.key? == some key)).map Query.walked)
    (hother : ∀ key', key ≠ key' → finder'.known.lookup key' = finder.known.lookup key') :
    finder'.Remembers (asked ++ [q]) := by
  intro key'
  by_cases heq : key = key'
  · rw [← heq, hhere]
  · rw [hother key' heq, h key', List.find?_append]
    simp [hkey, heq]

/-- One question is answered from the first one for the same, and the finder goes on to remember. -/
theorem Remembers.find (h : finder.Remembers asked) (q : Query) :
    (finder.find q.tree q.fileName q.root).1 = q.answerAfter asked ∧
      (finder.find q.tree q.fileName q.root).2.Remembers (asked ++ [q]) := by
  rw [find_eq, Query.answerAfter]
  cases hkey : q.key? with
  | none =>
      refine ⟨rfl, fun key => ?_⟩
      rw [h key, List.find?_append]
      simp [hkey]
  | some key =>
      have hlookup := h key
      cases hasked : asked.find? (·.key? == some key) with
      | some first =>
          rw [hasked, Option.map_some] at hlookup
          have hfirst : (asked ++ [q]).find? (·.key? == some key) = some first := by
            rw [List.find?_append, hasked, Option.some_or]
          simp only [hlookup, hfirst, Option.bind_some]
          refine ⟨trivial, h.concat hkey ?_ fun _ _ => rfl⟩
          rw [hlookup, hfirst, Option.map_some]
      | none =>
          rw [hasked, Option.map_none] at hlookup
          have hfirst : (asked ++ [q]).find? (·.key? == some key) = some q := by
            rw [List.find?_append, hasked, Option.none_or]
            simp [hkey]
          simp only [hlookup, hfirst, Option.bind_some]
          refine ⟨trivial, h.concat hkey ?_ fun key' hne => ?_⟩
          · rw [List.lookup_cons_self, hfirst, Option.map_some]
          · rw [List.lookup_cons, beq_eq_false_iff_ne.mpr (Ne.symm hne)]

/-- Each question of a run is answered from the first one for the same. -/
theorem Remembers.getElem?_transcript (h : finder.Remembers asked) (run : List Query) (i : Nat) :
    (finder.transcript run)[i]? =
      run[i]?.map fun q => ⟨q, q.answerAfter (asked ++ run.take i)⟩ := by
  induction run generalizing finder asked i with
  | nil => rfl
  | cons q rest ih =>
      obtain ⟨hanswer, hnext⟩ := h.find q
      cases i with
      | zero => simp [transcript, hanswer]
      | succ i =>
          rw [transcript, List.getElem?_cons_succ, ih hnext]
          simp

/-- What is asked for first does not change if questions for something else are left out. -/
theorem Query.answerAfter_filter {selects : Option (Path × Text) → Bool}
    (hq : selects q.key? = true) :
    q.answerAfter (asked.filter (selects ·.key?)) = q.answerAfter asked := by
  rw [answerAfter, answerAfter]
  cases hkey : q.key? with
  | none => rfl
  | some key =>
      rw [hkey] at hq
      simp only [Option.bind_some, List.find?_append]
      rw [find?_filter_key hq]

/-- A finder that is asked only some of the questions gives the same answers to them. -/
theorem Remembers.filter_transcript {selects : Option (Path × Text) → Bool}
    (h : finder.Remembers asked) (h' : finder'.Remembers (asked.filter (selects ·.key?)))
    (run : List Query) :
    (finder.transcript run).filter (selects ·.query.key?) =
      finder'.transcript (run.filter (selects ·.key?)) := by
  induction run generalizing finder finder' asked with
  | nil => rfl
  | cons q rest ih =>
      obtain ⟨hanswer, hnext⟩ := h.find q
      cases hq : selects q.key? with
      | true =>
          obtain ⟨hanswer', hnext'⟩ := h'.find q
          rw [Query.answerAfter_filter hq] at hanswer'
          have hasked : (finder'.find q.tree q.fileName q.root).2.Remembers
              ((asked ++ [q]).filter (selects ·.key?)) := by
            simpa [hq] using hnext'
          simp only [transcript, List.filter_cons, hq, ↓reduceIte, ih hnext hasked, hanswer, hanswer']
      | false =>
          have hasked : finder'.Remembers ((asked ++ [q]).filter (selects ·.key?)) := by
            simpa [hq] using h'
          simp only [transcript, List.filter_cons, hq, Bool.false_eq_true, ↓reduceIte,
            ih hnext hasked]

/-- The answer to a question that is looked for comes from the first one for the same. -/
theorem Query.exists_first {i : Nat} {key : Path × Text} (hq : run[i]? = some q)
    (hkey : q.key? = some key) :
    ∃ j ≤ i, ∃ first, run[j]? = some first ∧ first.key? = some key ∧
      (∀ k < j, ∀ other, run[k]? = some other → other.key? ≠ some key) ∧
      q.answerAfter (run.take i) = first.walked := by
  have hanswer : q.answerAfter (run.take i) =
      ((run.take (i + 1)).find? (·.key? == some key)).bind walked := by
    rw [answerAfter, hkey, Option.bind_some, List.take_add_one, hq, Option.toList_some]
  rw [hanswer]
  cases hfind : (run.take (i + 1)).find? (·.key? == some key) with
  | none =>
      have hmem : q ∈ run.take (i + 1) := by
        rw [List.take_add_one, hq]
        simp
      exact absurd (List.find?_eq_none.mp hfind q hmem) (by simp [hkey])
  | some first =>
      obtain ⟨hfirst, j, hj, hget, hbefore⟩ := List.find?_eq_some_iff_getElem.mp hfind
      rw [List.length_take] at hj
      rw [List.getElem_take] at hget
      refine ⟨j, by omega, first, ?_, by simpa using hfirst, fun k hk other hother => ?_, rfl⟩
      · rw [← hget]
        exact List.getElem?_eq_getElem (by omega)
      · have hne := hbefore k hk
        rw [List.getElem_take, (List.getElem?_eq_some_iff.mp hother).2] at hne
        simpa using hne

/-- Whether each question is answered with what a walk found when a file of the same name was asked
for first below a root of the same normal path. Without a root, and for marked names, nothing is
found. -/
structure AnswersByFirstWalk (exchanges : List Exchange) : Prop where
  rootless : ∀ e ∈ exchanges, e.query.root = none → e.answer = none
  marked : ∀ e ∈ exchanges, IsMarked e.query.fileName → e.answer = none
  rooted : ∀ (i : Nat) (e : Exchange) (root : Path), exchanges[i]? = some e →
    e.query.root = some root → ¬IsMarked e.query.fileName →
    ∃ j ≤ i, ∃ first, exchanges[j]? = some first ∧
      first.query.AsksFor (root.normal e.query.tree.here) e.query.fileName ∧
      (∀ k < j, ∀ other, exchanges[k]? = some other →
        ¬other.query.AsksFor (root.normal e.query.tree.here) e.query.fileName) ∧
      e.answer = first.query.walked

theorem getElem?_transcript_eq_some_iff {i : Nat} {e : Exchange} :
    (fresh.transcript run)[i]? = some e ↔
      run[i]? = some e.query ∧ e.answer = e.query.answerAfter (run.take i) := by
  obtain ⟨q, answer⟩ := e
  rw [remembers_fresh.getElem?_transcript, Option.map_eq_some_iff]
  simp [eq_comm]

theorem eq_none_of_mem_transcript {e : Exchange} (he : e ∈ fresh.transcript run)
    (hkey : e.query.key? = none) : e.answer = none := by
  obtain ⟨i, hi⟩ := List.mem_iff_getElem?.mp he
  rw [(getElem?_transcript_eq_some_iff.mp hi).2, Query.answerAfter, hkey]
  rfl

theorem answersByFirstWalk_fresh (run : List Query) :
    AnswersByFirstWalk (fresh.transcript run) := by
  refine ⟨fun e he hroot => ?_, fun e he hmarked => ?_, fun i e root hi hroot hmarked => ?_⟩
  · exact eq_none_of_mem_transcript he (Query.key?_eq_none_iff.mpr (.inl hroot))
  · exact eq_none_of_mem_transcript he (Query.key?_eq_none_iff.mpr (.inr hmarked))
  · obtain ⟨hquery, hanswer⟩ := getElem?_transcript_eq_some_iff.mp hi
    have hkey (q : Query) : q.key? = some (root.normal e.query.tree.here, e.query.fileName) ↔
        q.AsksFor (root.normal e.query.tree.here) e.query.fileName := by
      rw [Query.key?_eq_some_iff, and_iff_left hmarked]
    obtain ⟨j, hj, first, hget, hfirst, hbefore, hwalked⟩ :=
      Query.exists_first hquery ((hkey e.query).mpr ⟨rfl, root, hroot, rfl⟩)
    refine ⟨j, hj, ⟨first, first.answerAfter (run.take j)⟩, ?_, (hkey first).mp hfirst, ?_,
      hanswer.trans hwalked⟩
    · exact getElem?_transcript_eq_some_iff.mpr ⟨hget, rfl⟩
    · intro k hk other hother
      rw [← hkey]
      exact hbefore k hk other.query (getElem?_transcript_eq_some_iff.mp hother).1

/-- The files of a name that a walk lists are those in reach. -/
theorem mem_walk_and_name_iff {tree : FileTree} {root : Path} {location names : List Text}
    {d : Directory} {fileName : Text} :
    names ∈ d.walk (tree.opens (fun _ => true) root location) ∧
        (Path.name { root with parts := root.parts ++ names } == fileName) = true ↔
      (∃ content, d.HasFile names content) ∧ names.getLast? = some fileName ∧
        tree.IsInReach root location names := by
  rw [Directory.mem_walk_iff_hasFile, FileTree.forall_opens_iff, beq_iff_eq]
  constructor
  · rintro ⟨⟨⟨content, hfile⟩, -, hreach⟩, hname⟩
    rw [Path.name_extended hfile.ne_nil] at hname
    exact ⟨⟨content, hfile⟩, hname ▸ List.getLast?_eq_some_getLast hfile.ne_nil, hreach⟩
  · rintro ⟨⟨content, hfile⟩, hname, hreach⟩
    rw [List.getLast?_eq_some_getLast hfile.ne_nil, Option.some_inj] at hname
    rw [Path.name_extended hfile.ne_nil]
    exact ⟨⟨⟨content, hfile⟩, fun _ _ => rfl, hreach⟩, hname⟩

/-- A walk finds the first file of the name in reach. -/
theorem Query.walked_eq_some_iff {root path : Path} {location : List Text} {d : Directory}
    (hroot : q.root = some root) (htree : q.tree.root.IsOrderly)
    (hlocate : q.tree.locate root = .ok (.folder location d)) :
    q.walked = some path ↔
      ∃ names, Directory.IsFirst (fun names => (∃ content, d.HasFile names content) ∧
          names.getLast? = some q.fileName ∧ q.tree.IsInReach root location names) names ∧
        path = { root with parts := root.parts ++ names } := by
  rw [walked, hroot, Option.bind_some, search,
    FileTree.find?_filesBelow_eq_some_iff htree hlocate]
  simp only [mem_walk_and_name_iff]

/-- In every run a finder answers with what a walk of the tree found when the same was asked for
first. Left out of a run, questions for other roots or names, and those without a root or with a
marked name, change no answer. -/
theorem answersByFirstWalk_transcript (run : List Query) :
    (fresh.transcript run).map (·.query) = run ∧
      AnswersByFirstWalk (fresh.transcript run) ∧
      (∀ selects : Option (Path × Text) → Bool,
        (fresh.transcript run).filter (selects ·.query.key?) =
          fresh.transcript (run.filter (selects ·.key?))) ∧
      ∀ q ∈ run, ∀ root path location d, q.root = some root → q.tree.root.IsOrderly →
        q.tree.locate root = .ok (.folder location d) →
        (q.walked = some path ↔
          ∃ names, Directory.IsFirst (fun names => (∃ content, d.HasFile names content) ∧
              names.getLast? = some q.fileName ∧ q.tree.IsInReach root location names) names ∧
            path = { root with parts := root.parts ++ names }) := by
  refine ⟨map_query_transcript fresh run, answersByFirstWalk_fresh run, fun selects => ?_, ?_⟩
  · exact remembers_fresh.filter_transcript remembers_fresh run
  · intro q _ root path location d hroot htree hlocate
    exact Query.walked_eq_some_iff hroot htree hlocate

/-- A file that was missed at first is missed again below the same root in another spelling, although
it is there by then. -/
theorem answers_of_missed :
    let before : FileTree := { root := .mk [] [(['p'], .empty)], current := [] }
    let after : FileTree :=
      { root := .mk [] [(['p'], .mk [("A.m".toList, [])] [])], current := [] }
    let missing : Query := ⟨before, "A.m".toList, some (Path.ofText ['p'])⟩
    let late : Query := ⟨after, "A.m".toList, some (Path.ofText "p/../p".toList)⟩
    late.walked = some (Path.ofText "p/../p/A.m".toList) ∧
      ∀ e ∈ fresh.transcript [missing, late], e.answer = none := by
  intro before after missing late
  obtain ⟨hqueries, hanswers, -, hwalk⟩ := answersByFirstWalk_transcript [missing, late]
  refine ⟨?_, fun e he => ?_⟩
  · have htree : after.root.IsOrderly :=
      .singleton (by decide) (by decide) (.mk (by decide) (by decide) (by simp))
    have hlate := hwalk late (by simp) (Path.ofText "p/../p".toList)
      (Path.ofText "p/../p/A.m".toList) [['p']] (.mk [("A.m".toList, [])] []) rfl htree rfl
    have hreach : after.IsInReach (Path.ofText "p/../p".toList) [['p']] ["A.m".toList] :=
      ⟨Nat.zero_le _, fun _ _ => List.not_mem_nil⟩
    refine hlate.mpr ⟨["A.m".toList], ⟨⟨⟨[], .own List.mem_cons_self⟩, rfl, hreach⟩, ?_⟩, rfl⟩
    rintro other ⟨⟨content, hfile⟩, -⟩
    cases hfile with
    | own hfile =>
        cases List.mem_singleton.mp hfile
        exact .inl rfl
    | inFolder hfolder => cases hfolder
  · have hmissing : missing.walked = none := by
      have hlocate : before.locate (Path.ofText ['p']) = .ok (.folder [['p']] .empty) := rfl
      rw [Query.walked, Option.bind_some, search, FileTree.filesBelow_eq_map hlocate]
      simp [Directory.empty, Directory.walk, Directory.walkFolders]
    have hunmarked : ¬IsMarked "A.m".toList := by
      rw [← isGenerated_iff]
      decide
    -- both questions are for the same file
    let place : Path := ⟨.root, [['p']]⟩
    have hfor : ∀ q ∈ [missing, late], q.AsksFor place "A.m".toList := by
      simp only [List.forall_mem_cons]
      exact ⟨⟨rfl, _, rfl, by decide⟩, ⟨rfl, _, rfl, by decide⟩, by simp⟩
    have hquery : e.query ∈ [missing, late] := hqueries ▸ List.mem_map_of_mem he
    obtain ⟨hname, root, hroot, hplace⟩ := hfor _ hquery
    have hstart : ((fresh.transcript [missing, late]).map (·.query))[0]? = some missing := by
      rw [hqueries]
      rfl
    rw [List.getElem?_map, Option.map_eq_some_iff] at hstart
    obtain ⟨start, hstart, hstartQuery⟩ := hstart
    obtain ⟨i, hi⟩ := List.mem_iff_getElem?.mp he
    obtain ⟨j, -, first, hfirst, -, hbefore, hanswer⟩ :=
      hanswers.rooted i e root hi hroot (hname ▸ hunmarked)
    rw [hname, hplace] at hbefore
    cases j with
    | zero =>
        rw [hstart, Option.some_inj] at hfirst
        rw [hanswer, ← hfirst, hstartQuery, hmissing]
    | succ j =>
        refine absurd ?_ (hbefore 0 (Nat.succ_pos j) start hstart)
        rw [hstartQuery]
        exact hfor missing (by simp)

end LinkAudit.SourceFinder

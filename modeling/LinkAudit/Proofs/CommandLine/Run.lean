import LinkAudit.CommandLine.Run
import LinkAudit.Proofs.Comparison.Findings
import LinkAudit.Proofs.Demangler.Calls
import LinkAudit.Proofs.FileTree.Update
import LinkAudit.Proofs.Report
import Mathlib.Data.List.TakeWhile

/-!
What a run leaves behind. A run that compares stops before its report, and then it has printed
nothing and written no file, or it prints the report. In the second case it prints all of it, and a
file that was asked for holds what was printed or the run ends with a message about that file, if
and only if the screen can show every line and the file has a path that can be handed to the system.
What can stop a run are its arguments and settings, its link maps, a name that no demangler can be
started with, a limit without a number, and a total that is too large to show.
-/

namespace LinkAudit.CommandLine

variable {s : Surroundings} {programs : Programs} {arguments : List Text}

def toolReader (tool : Demangler.Tool) : NameReader := fun names name =>
  (Demangler.demangle tool Demangler.defaultCommand Demangler.batchSize names).texts[name]?

/-- All that a run has read when it can compare. -/
structure Material (s : Surroundings) (arguments : List Text) where
  given : Arguments
  config : Configuration
  debug : LinkMap
  release : LinkMap
  index : SourceIndex
  read_eq : read s.conventions arguments = .ok (.compare given)
  configure_eq : configure s.tree s.environment given = .ok config
  debug_eq : LinkMap.ofFile s.tree config.debugMap = .ok debug
  release_eq : LinkMap.ofFile s.tree config.releaseMap = .ok release
  index_eq : SourceIndex.build s.tree config.withDependencies config.root = .ok index

namespace Material

variable (m : Material s arguments)

def project : Project := { tree := s.tree, root := m.config.root, index := m.index }

def survey : Survey := Survey.ofMaps m.project m.debug m.release

def prepared : Prepared where
  config := m.config
  limitHasNumber := m.given.groupLimit != some .noNumber
  survey := m.survey
  log := [readEntry m.config.debugMap m.debug, readEntry m.config.releaseMap m.release]

def tool (programs : Programs) : Demangler.Tool := (programs s.tree m.prepared.callsMade).1

def left (programs : Programs) : FileTree := (programs s.tree m.prepared.callsMade).2

def log (programs : Programs) : List LogEntry :=
  m.prepared.log ++
    (Demangler.warnings (m.tool programs) m.prepared.callsMade).map (⟨.warning, ·⟩)

def isStartable : Bool := m.prepared.calls.all Demangler.isStartable

/-- The analysis of the two link maps, with the texts of the tool and in the tree that it leaves. -/
def analysis (programs : Programs) : Analysis :=
  m.survey.conclude (m.survey.revisited (m.left programs))
    (m.survey.answers m.config.demangles (toolReader (m.tool programs)))

def context (programs : Programs) : ReportContext := ⟨m.config, m.left programs⟩

theorem analysis_eq_analyze (h : m.left programs = s.tree) :
    m.analysis programs =
      analyze m.project m.config.demangles (toolReader (m.tool programs)) m.debug m.release := by
  have hhint : (m.survey.revisited s.tree).hint = m.project.hint := m.project.hint_revisited _
  have hfiles : m.survey.filesOfIdleObjects (m.survey.revisited s.tree) =
      m.survey.filesOfIdleObjects m.project := by
    unfold Survey.filesOfIdleObjects
    rw [hhint]
    rfl
  rw [analysis, h, Survey.conclude, Survey.files, hfiles]
  rfl

theorem texts_demangled (tool : Demangler.Tool) :
    ((m.prepared.demangled tool).texts[·]?) =
      m.survey.answers m.config.demangles (toolReader tool) := by
  funext name
  simp only [Prepared.demangled, Survey.answers, prepared]
  cases m.survey.question? m.config.demangles with
  | none => exact Std.TreeMap.getElem?_emptyc
  | some names => rfl

/-- A run that makes all its calls has logged what demangling warns of. -/
theorem log_eq_of_isStartable (h : m.isStartable = true) (programs : Programs) :
    m.log programs = m.prepared.log ++
      (m.prepared.demangled (m.tool programs)).warnings.map (⟨.warning, ·⟩) := by
  have hmade : m.prepared.callsMade = m.prepared.calls :=
    List.takeWhile_eq_self_iff.mpr (List.all_eq_true.mp h)
  rw [log, hmade, Prepared.calls, Prepared.demangled]
  cases m.prepared.survey.question? m.prepared.config.demangles with
  | none => rfl
  | some names => rw [Demangler.warnings_demangle]

end Material

/-- What stops a run before its report, and how it then ends. -/
inductive Stops (s : Surroundings) (programs : Programs) (arguments : List Text) : Ending → Prop
  | usage {e : UsageError} (h : read s.conventions arguments = .error e) :
      Stops s programs arguments (.usage e)
  | settings {a : Arguments} {e : SettingsError}
      (hread : read s.conventions arguments = .ok (.compare a))
      (h : configure s.tree s.environment a = .error e) :
      Stops s programs arguments (Surroundings.settingsEnding e)
  | linkMap {a : Arguments} {config : Configuration} {e : LinkMap.ReadError}
      (hread : read s.conventions arguments = .ok (.compare a))
      (hconfigure : configure s.tree s.environment a = .ok config)
      (h : LinkMap.ofFile s.tree config.debugMap = .error e ∨
        (∃ debug, LinkMap.ofFile s.tree config.debugMap = .ok debug) ∧
          LinkMap.ofFile s.tree config.releaseMap = .error e) :
      Stops s programs arguments (Surroundings.readEnding e)
  | demangling (m : Material s arguments) (h : m.isStartable = false) :
      Stops s programs arguments (.breakdown .nullCharacter)
  | limit {lines : List Text} (m : Material s arguments) (hstartable : m.isStartable = true)
      (h : m.given.groupLimit = some .noNumber)
      (hlines : Report.lines? (m.context programs) (m.analysis programs) = some lines)
      (hshown : (m.analysis programs).isEmpty = false) :
      Stops s programs arguments (.breakdown .limitWithoutNumber)
  | total (m : Material s arguments) (hstartable : m.isStartable = true)
      (hverbose : m.config.verbose = true)
      (h : Bytes.text? (m.analysis programs).rawSize = none ∨
        Bytes.text? (m.analysis programs).findingsSize = none) :
      Stops s programs arguments (.breakdown .sizeTooLarge)

theorem Stops.status_ne_zero {ending : Ending} (h : Stops s programs arguments ending) :
    ending.status ≠ 0 := by
  cases h with
  | @settings a e => cases e <;> simp [Surroundings.settingsEnding, Ending.status]
  | @linkMap a config e => cases e <;> simp [Surroundings.readEnding, Ending.status]
  | usage | demangling | limit | total => simp [Ending.status]

theorem exists_directory_of_root? {tree : FileTree} {given : Option Text} {root : Path}
    (h : root? tree given = .ok (some root)) : ∃ d, tree.directory? root = .ok (some d) := by
  cases given with
  | none => cases h
  | some value =>
      unfold root? at h
      dsimp only at h
      split at h
      · cases h
      · split at h
        · rename_i d hdirectory
          cases h
          exact ⟨d, hdirectory⟩
        · cases h
        · cases h

/-- The settings name a root only if it is a directory, so that its sources can be indexed. -/
theorem exists_build_of_configure {tree : FileTree} {e : Environment} {a : Arguments}
    {config : Configuration} (h : configure tree e a = .ok config) :
    ∃ index, SourceIndex.build tree config.withDependencies config.root = .ok index := by
  obtain ⟨maps, -, h⟩ := exists_of_bind_eq_ok h
  obtain ⟨root, hroot, h⟩ := exists_of_bind_eq_ok h
  obtain ⟨limit, -, h⟩ := exists_of_bind_eq_ok h
  cases h
  cases root with
  | none => exact ⟨∅, rfl⟩
  | some root =>
      obtain ⟨d, hdirectory⟩ := exists_directory_of_root? hroot
      exact ⟨_, by rw [SourceIndex.build, hdirectory]⟩

/-- Before names are demangled a run stops without a trace, or it has read all that it compares. -/
theorem prepare_cases (programs : Programs) (hhelp : read s.conventions arguments ≠ .ok .help)
    (hversion : read s.conventions arguments ≠ .ok .version) :
    (∃ ending log, s.prepare arguments = .error (s.stop ending [] log) ∧
      Stops s programs arguments ending) ∨
    Nonempty (Material s arguments) := by
  unfold Surroundings.prepare
  split
  · rename_i e hread
    exact .inl ⟨.usage e, [], rfl, .usage hread⟩
  · rename_i hread
    exact absurd hread hhelp
  · rename_i hread
    exact absurd hread hversion
  · rename_i a hread
    split
    · rename_i e hconfigure
      exact .inl ⟨Surroundings.settingsEnding e, [], rfl, .settings hread hconfigure⟩
    · rename_i config hconfigure
      obtain ⟨index, hindex⟩ := exists_build_of_configure hconfigure
      unfold Surroundings.survey
      split
      · rename_i e hdebug
        exact .inl ⟨_, _, rfl, .linkMap hread hconfigure (.inl hdebug)⟩
      · rename_i debug hdebug
        split
        · rename_i e hrelease
          exact .inl ⟨_, _, rfl, .linkMap hread hconfigure (.inr ⟨⟨debug, hdebug⟩, hrelease⟩)⟩
        · rename_i release hrelease
          exact .inr ⟨a, config, debug, release, index, hread, hconfigure, hdebug, hrelease, hindex⟩

/-- Whether a run has delivered a report: it has printed all lines, and a file that was asked for
holds what was printed, or else it cannot be written to the tree and the run says so. -/
def Outcome.Delivers (o : Outcome) (tree : FileTree) (output : Option Path) (lines : List Text) :
    Prop :=
  o.printed = Report.screenText lines ∧
    match output with
    | none => o.ending.status = 0
    | some path =>
      (o.ending.status = 0 ∧ ∃ bytes, o.tree.read path = .ok bytes ∧
        Text.Utf8.decode? bytes = some o.printed) ∨
      (o.ending.status ≠ 0 ∧ ∃ e f, Report.writeFile tree path lines = .error (.file e) ∧
        o.ending = .failure f ∧
        "error: Unable to write report to ".toList ++ path.toText <+: f.message)

/-- Whether nothing but the file tree can come in the way of a report: the screen can show it, and
its file can be named. -/
structure IsDeliverable (shows : Char → Bool) (tree : FileTree) (output : Option Path)
    (lines : List Text) : Prop where
  shown : lines.all (·.all shows) = true
  named : ∀ path ∈ output, Report.IsNameable tree path

/-- Whether a run has broken off without a message: at the first line that the screen cannot show,
or behind the whole report where its file cannot be named. -/
structure Outcome.BreaksOff (o : Outcome) (shows : Char → Bool) (tree : FileTree)
    (lines : List Text) : Prop where
  ending_eq : o.ending =
    .breakdown (if lines.all (·.all shows) then .nullCharacter else .unshown)
  printed_eq : o.printed = Report.screenText (lines.takeWhile (·.all shows))
  tree_eq : o.tree = tree

theorem Outcome.BreaksOff.printed_of_shown {o : Outcome} {shows : Char → Bool} {tree : FileTree}
    {lines : List Text} (h : o.BreaksOff shows tree lines)
    (hshown : lines.all (·.all shows) = true) : o.printed = Report.screenText lines := by
  rw [h.printed_eq, List.takeWhile_eq_self_iff.mpr (List.all_eq_true.mp hshown)]

theorem Outcome.BreaksOff.not_delivers {o : Outcome} {shows : Char → Bool} {tree : FileTree}
    {lines : List Text} (h : o.BreaksOff shows tree lines) (output : Option Path) :
    ¬o.Delivers tree output lines := by
  rintro ⟨-, hsaved⟩
  rw [h.ending_eq] at hsaved
  cases output with
  | none => exact Nat.one_ne_zero hsaved
  | some path =>
      obtain ⟨hstatus, -⟩ | ⟨-, e, f, -, hending, -⟩ := hsaved
      · exact Nat.one_ne_zero hstatus
      · cases hending

theorem prefix_message_report (path : Path) (e : FileError) :
    "error: Unable to write report to ".toList ++ path.toText <+: (Failure.report path e).message :=
  ⟨": ".toList ++ e.message, (List.append_assoc _ _ _).symm⟩

theorem delivers_save (p : Prepared) {tree : FileTree} {lines : List Text} (log : List LogEntry)
    (hlines : lines ≠ []) (hnamed : ∀ path ∈ p.config.output, Report.IsNameable tree path) :
    (p.save tree lines log).Delivers tree p.config.output lines := by
  unfold Prepared.save
  cases houtput : p.config.output with
  | none => exact ⟨rfl, rfl⟩
  | some path =>
      cases hwritten : Report.writeFile tree path lines with
      | ok written =>
          simp only [hwritten]
          exact ⟨rfl, .inl ⟨rfl, Report.exists_read_of_writeFile hlines hwritten⟩⟩
      | error e =>
          cases e with
          | file e =>
              simp only [hwritten]
              exact ⟨rfl, .inr ⟨Nat.one_ne_zero, e, _, hwritten, rfl, prefix_message_report path e⟩⟩
          | nullCharacter =>
              exact absurd (hnamed path houtput) (Report.writeFile_eq_null_iff.mp hwritten)

theorem save_of_not_isNameable (p : Prepared) {tree : FileTree} {path : Path} (lines : List Text)
    (log : List LogEntry) (houtput : p.config.output = some path)
    (hnamed : ¬Report.IsNameable tree path) :
    p.save tree lines log = ⟨.breakdown .nullCharacter, Report.screenText lines, log, tree⟩ := by
  have hwritten : Report.writeFile tree path lines = .error .nullCharacter :=
    Report.writeFile_eq_null_iff.mpr hnamed
  unfold Prepared.save
  simp only [houtput, hwritten]

theorem breaksOff_report (p : Prepared) {shows : Char → Bool} {tree : FileTree} {lines : List Text}
    (log : List LogEntry) (h : ¬IsDeliverable shows tree p.config.output lines) :
    (p.report shows tree lines log).BreaksOff shows tree lines := by
  by_cases hshown : lines.all (·.all shows) = true
  · have hwhole : lines.takeWhile (·.all shows) = lines :=
      List.takeWhile_eq_self_iff.mpr (List.all_eq_true.mp hshown)
    obtain ⟨path, houtput, hnamed⟩ :
        ∃ path, p.config.output = some path ∧ ¬Report.IsNameable tree path := by
      by_contra hnone
      exact h ⟨hshown, fun path hpath => by_contra fun hnamed => hnone ⟨path, hpath, hnamed⟩⟩
    rw [Prepared.report, if_pos hshown, save_of_not_isNameable p lines log houtput hnamed]
    exact ⟨by rw [if_pos hshown], by rw [hwhole], rfl⟩
  · rw [Prepared.report, if_neg hshown]
    exact ⟨by rw [if_neg hshown], rfl, rfl⟩

/-- A report is delivered if and only if it can be. -/
theorem delivers_report_iff (p : Prepared) {shows : Char → Bool} {tree : FileTree}
    {lines : List Text} (log : List LogEntry) (hlines : lines ≠ []) :
    (p.report shows tree lines log).Delivers tree p.config.output lines ↔
      IsDeliverable shows tree p.config.output lines := by
  constructor
  · intro hdelivers
    by_contra h
    exact (breaksOff_report p log h).not_delivers _ hdelivers
  · rintro ⟨hshown, hnamed⟩
    rw [Prepared.report, if_pos hshown]
    exact delivers_save p log hlines hnamed

theorem Material.prepare_eq (m : Material s arguments) :
    s.prepare arguments = .ok m.prepared := by
  rw [Surroundings.prepare, m.read_eq]
  simp only [m.configure_eq]
  rw [Surroundings.survey, m.debug_eq]
  simp only [m.release_eq, m.index_eq]
  rfl

/-- Once names are demangled the run draws the conclusion from the texts of the tool. -/
theorem Material.run_eq (m : Material s arguments) (programs : Programs) :
    run s programs arguments =
      if m.isStartable then
        match Report.lines? (m.context programs) (m.analysis programs) with
        | some lines =>
          if m.prepared.limitHasNumber || (m.analysis programs).isEmpty then
            m.prepared.report s.shows (m.left programs) lines (m.log programs)
          else ⟨.breakdown .limitWithoutNumber, [], m.log programs, m.left programs⟩
        | none => ⟨.breakdown .sizeTooLarge, [], m.log programs, m.left programs⟩
      else ⟨.breakdown .nullCharacter, [], m.log programs, m.left programs⟩ := by
  have hrun : run s programs arguments =
      m.prepared.finish s.shows (m.tool programs) (m.left programs) := by
    rw [run, m.prepare_eq]
    rfl
  have hanalysis : m.prepared.survey.conclude (m.prepared.survey.revisited (m.left programs))
      ((m.prepared.demangled (m.tool programs)).texts[·]?) = m.analysis programs := by
    rw [m.texts_demangled]
    rfl
  rw [hrun, Prepared.finish, hanalysis]
  rfl

/-- Once names are demangled a run stops for one of three causes, or it gives its report. -/
theorem Material.run_cases (m : Material s arguments) (programs : Programs) :
    (∃ ending, run s programs arguments = ⟨ending, [], m.log programs, m.left programs⟩ ∧
      Stops s programs arguments ending) ∨
    ∃ lines, Report.lines? (m.context programs) (m.analysis programs) = some lines ∧
      run s programs arguments =
        m.prepared.report s.shows (m.left programs) lines (m.log programs) := by
  have hrun := m.run_eq programs
  split at hrun
  · rename_i hstartable
    split at hrun
    · rename_i lines hlines
      split at hrun
      · exact .inr ⟨lines, hlines, hrun⟩
      · rename_i hlimit
        rw [Bool.or_eq_true, not_or, Bool.not_eq_true, Bool.not_eq_true] at hlimit
        have hnumber : m.given.groupLimit = some .noNumber := by
          simpa [prepared] using hlimit.1
        exact .inl ⟨_, hrun, .limit m hstartable hnumber hlines hlimit.2⟩
    · rename_i hlines
      obtain ⟨hverbose, htotal⟩ := Report.lines?_eq_none_iff.mp hlines
      exact .inl ⟨_, hrun, .total m hstartable hverbose htotal⟩
  · rename_i hunstartable
    exact .inl ⟨_, hrun, .demangling m (Bool.eq_false_of_not_eq_true hunstartable)⟩

/-- Each of the causes stops the run, and nothing is printed. -/
theorem run_of_stops {ending : Ending} (h : Stops s programs arguments ending) :
    (run s programs arguments).ending = ending ∧ (run s programs arguments).printed = [] := by
  cases h with
  | usage hread =>
      rw [run, Surroundings.prepare, hread]
      exact ⟨rfl, rfl⟩
  | settings hread hconfigure =>
      rw [run, Surroundings.prepare, hread]
      simp only [hconfigure]
      exact ⟨rfl, rfl⟩
  | linkMap hread hconfigure hmaps =>
      rw [run, Surroundings.prepare, hread]
      simp only [hconfigure]
      rcases hmaps with hdebug | ⟨⟨debug, hdebug⟩, hrelease⟩
      · rw [Surroundings.survey, hdebug]
        exact ⟨rfl, rfl⟩
      · rw [Surroundings.survey, hdebug]
        simp only [hrelease]
        exact ⟨rfl, rfl⟩
  | demangling m hunstartable =>
      rw [m.run_eq programs, hunstartable]
      exact ⟨rfl, rfl⟩
  | limit m hstartable hlimit hlines hshown =>
      have hnumber : m.prepared.limitHasNumber = false := by simp [Material.prepared, hlimit]
      rw [m.run_eq programs, if_pos hstartable, hlines]
      simp [hnumber, hshown]
  | total m hstartable hverbose htotal =>
      rw [m.run_eq programs, if_pos hstartable,
        Report.lines?_eq_none_iff.mpr ⟨hverbose, htotal⟩]
      exact ⟨rfl, rfl⟩

/-- A run that compares stops, for one of the causes and with a status that is not zero, before it
has printed or written anything; or it gives the report on the analysis of the two link maps. It
prints every line of it and a file that was asked for holds what was printed, unless the run fails
with a message about that file, if and only if the screen can show the lines and the file can be
named. Otherwise it breaks off without a message. -/
theorem prints_report_or_stops (s : Surroundings) (programs : Programs) (arguments : List Text)
    (hhelp : read s.conventions arguments ≠ .ok .help)
    (hversion : read s.conventions arguments ≠ .ok .version) :
    let o := run s programs arguments
    (∀ ending, Stops s programs arguments ending → o.ending = ending ∧ o.printed = []) ∧
      ((o.ending.status ≠ 0 ∧ o.printed = [] ∧
          (o.tree = s.tree ∨ ∃ m : Material s arguments, o.tree = m.left programs) ∧
          Stops s programs arguments o.ending) ∨
        ∃ (m : Material s arguments) (lines : List Text),
          (m.left programs = s.tree → m.analysis programs =
            analyze m.project m.config.demangles (toolReader (m.tool programs)) m.debug
              m.release) ∧
          Report.lines? (m.context programs) (m.analysis programs) = some lines ∧
          (o.Delivers (m.left programs) m.config.output lines ↔
            IsDeliverable s.shows (m.left programs) m.config.output lines) ∧
          (¬IsDeliverable s.shows (m.left programs) m.config.output lines →
            o.BreaksOff s.shows (m.left programs) lines)) := by
  intro o
  refine ⟨fun _ => run_of_stops, ?_⟩
  obtain ⟨ending, log, hprepare, hstops⟩ | ⟨⟨m⟩⟩ := prepare_cases programs hhelp hversion
  · have ho : o = s.stop ending [] log := by
      change run s programs arguments = _
      rw [run, hprepare]
    rw [ho]
    exact .inl ⟨hstops.status_ne_zero, rfl, .inl rfl, hstops⟩
  · obtain ⟨ending, hrun, hstops⟩ | ⟨lines, hlines, hrun⟩ := m.run_cases programs
    · have ho : o = ⟨ending, [], m.log programs, m.left programs⟩ := hrun
      rw [ho]
      exact .inl ⟨hstops.status_ne_zero, rfl, .inr ⟨m, rfl⟩, hstops⟩
    · have ho : o = m.prepared.report s.shows (m.left programs) lines (m.log programs) := hrun
      rw [ho]
      exact .inr ⟨m, lines, m.analysis_eq_analyze, hlines,
        delivers_report_iff m.prepared _ (Report.ne_nil_of_lines? hlines),
        breaksOff_report m.prepared _⟩

def mapFile (symbols : String) : List UInt8 :=
  Text.Utf8.encode ("# Object files:\n[  1] /b/App.o\n# Symbols:\n" ++ symbols).toList

/-- Two link maps in one directory, of which the debug map has one function more. -/
def twoMaps : Surroundings where
  conventions := { dropsSeparators := false, leavesLetters := true }
  environment := [("DEAD_CODE_OUTPUT".toList, "out/report".toList)]
  tree := {
    root := .mk [("D".toList, mapFile "0x10 0x8 [  1] _$s3App4loadyyF\n"),
      ("R".toList, mapFile "")] []
    current := [] }

def noPrograms : Programs := fun tree _ => (fun _ => .launchFailed [], tree)

def mapArguments : List Text := ["D".toList, "R".toList, "--no-demangle".toList]

def compareMaps (output : Option Text) : Arguments where
  maps := ["D".toList, "R".toList]
  demangles := some false
  output

theorem read_mapArguments :
    read twoMaps.conventions mapArguments = .ok (.compare (compareMaps none)) := by
  rfl

theorem ne_help_and_ne_version_of_read {a : Arguments}
    (hread : read s.conventions arguments = .ok (.compare a)) :
    read s.conventions arguments ≠ .ok .help ∧ read s.conventions arguments ≠ .ok .version := by
  rw [hread]
  simp

theorem output_eq_of_read {arguments : List Text} {output : Option Text} (path : Path)
    (hread : read twoMaps.conventions arguments = .ok (.compare (compareMaps output)))
    (houtput : (configure twoMaps.tree twoMaps.environment (compareMaps output)).map (·.output) =
      .ok (some path)) (m : Material twoMaps arguments) : m.config.output = some path := by
  have hgiven := Request.compare.inj (Except.ok.inj (m.read_eq.symm.trans hread))
  have hconfigure := m.configure_eq
  rw [hgiven] at hconfigure
  rw [hconfigure] at houtput
  exact Except.ok.inj houtput

theorem output_twoMaps (m : Material twoMaps mapArguments) :
    m.config.output = some (Path.ofText "out/report".toList) :=
  output_eq_of_read _ read_mapArguments rfl m

theorem status_twoMaps : (run twoMaps noPrograms mapArguments).ending.status = 0 := by
  decide +kernel

theorem delivers_twoMaps :
    (read twoMaps.conventions mapArguments ≠ .ok .help ∧
        read twoMaps.conventions mapArguments ≠ .ok .version) ∧
      ∃ (m : Material twoMaps mapArguments) (lines : List Text) (bytes : List UInt8),
        Report.lines? (m.context noPrograms) (m.analysis noPrograms) = some lines ∧
        (run twoMaps noPrograms mapArguments).printed = Report.screenText lines ∧
        (run twoMaps noPrograms mapArguments).tree.read (Path.ofText "out/report".toList) =
          .ok bytes ∧
        Text.Utf8.decode? bytes = some (run twoMaps noPrograms mapArguments).printed := by
  obtain ⟨hhelp, hversion⟩ := ne_help_and_ne_version_of_read read_mapArguments
  refine ⟨⟨hhelp, hversion⟩, ?_⟩
  obtain ⟨-, ⟨hstatus, -⟩ | ⟨m, lines, -, hlines, hdelivers, -⟩⟩ :=
    prints_report_or_stops twoMaps noPrograms mapArguments hhelp hversion
  · exact absurd status_twoMaps hstatus
  · have hdeliverable : IsDeliverable twoMaps.shows (m.left noPrograms) m.config.output lines := by
      rw [output_twoMaps m]
      refine ⟨by simp [twoMaps], fun path hpath => .inl ?_⟩
      obtain rfl := Option.some.inj hpath
      decide
    obtain ⟨hprinted, hsaved⟩ := hdelivers.mpr hdeliverable
    rw [output_twoMaps m] at hsaved
    obtain ⟨-, bytes, hread, htext⟩ | ⟨hstatus, -⟩ := hsaved
    · exact ⟨m, lines, bytes, hlines, hprinted, hread, htext⟩
    · exact absurd status_twoMaps hstatus

def nullName : Text := "a\x00b".toList

def nullArguments : List Text := mapArguments ++ ["--out".toList, nullName]

theorem read_nullArguments :
    read twoMaps.conventions nullArguments = .ok (.compare (compareMaps (some nullName))) := by
  rfl

theorem run_nullArguments : (run twoMaps noPrograms nullArguments).printed ≠ [] := by
  decide +kernel

theorem not_isNameable_nullName : ¬Report.IsNameable twoMaps.tree (Path.ofText nullName) := by
  rintro (hpath | ⟨-, e, hrefused⟩)
  · exact absurd hpath (by decide)
  · have hmade : (twoMaps.tree.makeDirectories (Path.ofText nullName).parent).isOk = true := by
      decide
    rw [hrefused] at hmade
    cases hmade

/-- A report whose file cannot be named is printed as a whole, and then the run breaks off without
a message. -/
theorem not_delivers_nullArguments :
    ∃ (m : Material twoMaps nullArguments) (lines : List Text),
      Report.lines? (m.context noPrograms) (m.analysis noPrograms) = some lines ∧
      m.config.output = some (Path.ofText nullName) ∧
      (run twoMaps noPrograms nullArguments).printed = Report.screenText lines ∧
      (run twoMaps noPrograms nullArguments).ending = .breakdown .nullCharacter ∧
      ¬(run twoMaps noPrograms nullArguments).Delivers (m.left noPrograms) m.config.output
        lines := by
  obtain ⟨hhelp, hversion⟩ := ne_help_and_ne_version_of_read read_nullArguments
  obtain ⟨ending, log, hprepare, -⟩ | ⟨⟨m⟩⟩ :=
    prepare_cases noPrograms hhelp hversion
  · refine absurd ?_ run_nullArguments
    rw [run, hprepare]
    rfl
  · obtain ⟨ending, hrun, -⟩ | ⟨lines, hlines, hrun⟩ := m.run_cases noPrograms
    · refine absurd ?_ run_nullArguments
      rw [hrun]
    · have houtput : m.config.output = some (Path.ofText nullName) :=
        output_eq_of_read _ read_nullArguments rfl m
      have hundeliverable :
          ¬IsDeliverable twoMaps.shows (m.left noPrograms) m.config.output lines :=
        fun h => not_isNameable_nullName (h.named _ houtput)
      have hbreaks := breaksOff_report m.prepared (m.log noPrograms) hundeliverable
      rw [← hrun] at hbreaks
      have hshown : lines.all (·.all twoMaps.shows) = true := by simp [twoMaps]
      refine ⟨m, lines, hlines, houtput, hbreaks.printed_of_shown hshown, ?_,
        hbreaks.not_delivers _⟩
      rw [hbreaks.ending_eq, if_pos hshown]

end LinkAudit.CommandLine

import LinkAudit.Proofs.LinkMap
import LinkAudit.Proofs.LinkMap.Entry
import LinkAudit.Proofs.Text.Split

/-!
Listings, the link maps that a linker writes. Each section has its entries in order, with remarks
between them that have the form of no entry; whatever stands behind the header of the dead-stripped
symbols is no part of the listing. Main statement: a listing is read as the symbols and objects that
it was written from, where of several objects with one number the last one counts, if and only if no
object number is written in too many digits.
-/

namespace LinkAudit.LinkMap

open Text

def objectHeader : Text := "# Object files:".toList
def sectionHeader : Text := "# Sections:".toList
def symbolHeader : Text := "# Symbols:".toList
def deadHeader : Text := "# Dead Stripped Symbols:".toList

def IsHeaderless (line : Text) : Prop :=
  ∀ header ∈ [objectHeader, sectionHeader, symbolHeader, deadHeader], ¬header <+: line

/-- Lines with one entry for each of the list, in order, and with remarks between them. -/
inductive Lists {α : Type} (writes : α → Text → Prop) (form : Text → Prop) :
    List α → List Text → Prop
  | done : Lists writes form [] []
  | entry {a : α} {as : List α} {line : Text} {lines : List Text} (written : writes a line)
      (rest : Lists writes form as lines) : Lists writes form (a :: as) (line :: lines)
  | remark {as : List α} {line : Text} {lines : List Text} (headerless : IsHeaderless line)
      (formless : ∀ entry, entry <:+ line → ¬form entry) (rest : Lists writes form as lines) :
      Lists writes form as (line :: lines)

/-- The lines of a link map, section by section, with the objects and symbols they are written from.
-/
structure Listing where
  objects : List (Numbered ObjectFile)
  symbols : List (Numbered Symbol)
  preamble : List Text
  objectLines : List Text
  sectionLines : List Text
  symbolLines : List Text
  deadLines : List Text
  preamble_headerless : ∀ line ∈ preamble, IsHeaderless line
  lists_objects : Lists IsObjectLine HasObjectForm objects objectLines
  sections_headerless : ∀ line ∈ sectionLines, IsHeaderless line
  lists_symbols : Lists IsSymbolLine HasSymbolForm symbols symbolLines
  dead_headed : ∀ line ∈ deadLines.head?, deadHeader <+: line
  unbroken : ∀ line ∈ preamble ++ objectLines ++ sectionLines ++ symbolLines ++ deadLines,
    '\n' ∉ line

def Listing.lines (l : Listing) : List Text :=
  l.preamble ++ objectHeader :: (l.objectLines ++ sectionHeader ::
    (l.sectionLines ++ symbolHeader :: (l.symbolLines ++ l.deadLines)))

def Listing.text (l : Listing) : Text := joinWith ['\n'] l.lines

def Listing.digits (l : Listing) : List Text := l.objects.map (·.digits) ++ l.symbols.map (·.digits)

/-! The headings of lines. -/

theorem IsHeaderless.heading {line : Text} (h : IsHeaderless line) : heading line = .none := by
  simp only [IsHeaderless, List.forall_mem_cons] at h
  obtain ⟨hobjects, hsections, hsymbols, hdead, -⟩ := h
  simp only [← List.isPrefixOf_iff_prefix] at hobjects hsections hsymbols hdead
  exact (if_neg hobjects).trans <| (if_neg hsections).trans <|
    (if_neg hsymbols).trans (if_neg hdead)

/-- Every header begins with a hash. -/
theorem isHeaderless_cons {c : Char} (hc : c ≠ '#') (rest : Text) : IsHeaderless (c :: rest) := by
  intro header hheader hprefix
  have hhash : header.head? = some '#' := by
    simp only [List.mem_cons, List.not_mem_nil, or_false] at hheader
    rcases hheader with rfl | rfl | rfl | rfl <;> rfl
  obtain ⟨tail, rfl⟩ := List.head?_eq_some_iff.mp hhash
  exact hc (List.cons_prefix_cons.mp hprefix).1.symm

theorem IsObjectLine.isHeaderless {o : Numbered ObjectFile} {line : Text}
    (h : IsObjectLine o line) : IsHeaderless line := by
  obtain ⟨-, indent, gap, -, -, -, rfl⟩ := h
  exact isHeaderless_cons (by decide) _

theorem IsSymbolLine.isHeaderless {s : Numbered Symbol} {line : Text} (h : IsSymbolLine s line) :
    IsHeaderless line := by
  obtain ⟨address, gap, size, gap', entry, -, -, -, -, -, rfl⟩ := h
  exact isHeaderless_cons (by decide) _

namespace Reading

theorem lines_of_headerless {r : Reading} {line : Text} {rest : List Text}
    (h : IsHeaderless line) : r.lines (line :: rest) = (r.entry line).lines rest := by
  rw [lines, h.heading]

/-- Lines of the preamble and of the table of sections are passed over. -/
theorem lines_append_of_headerless {r : Reading} {block : List Text} (rest : List Text)
    (hblock : ∀ line ∈ block, IsHeaderless line)
    (hr : r.current = .preamble ∨ r.current = .sections) :
    r.lines (block ++ rest) = r.lines rest := by
  induction block with
  | nil => rfl
  | cons line block ih =>
      have hentry : r.entry line = r := by
        rw [entry]
        rcases hr with hr | hr <;> rw [hr]
      rw [List.cons_append, lines_of_headerless (hblock line List.mem_cons_self), hentry]
      exact ih fun line hline => hblock line (List.mem_cons_of_mem _ hline)

/-- How a section is read: the line that an entry is written in adds the entry, and a line without
the form of an entry adds nothing. -/
structure ReadsAs {α : Type} (s : Section) (writes : α → Text → Prop) (form : Text → Prop)
    (add : Reading → α → Reading) : Prop where
  headerless {a : α} {line : Text} : writes a line → IsHeaderless line
  current (r : Reading) (a : α) : (add r a).current = r.current
  entry {r : Reading} {a : α} {line : Text} :
    r.current = s → writes a line → r.entry line = add r a
  remark {r : Reading} {line : Text} :
    r.current = s → (∀ entry, entry <:+ line → ¬form entry) → r.entry line = r

theorem ReadsAs.lines_append {α : Type} {s : Section} {writes : α → Text → Prop}
    {form : Text → Prop} {add : Reading → α → Reading} {as : List α} {block : List Text}
    (h : ReadsAs s writes form add) (hblock : Lists writes form as block) {r : Reading}
    (hr : r.current = s) (rest : List Text) :
    r.lines (block ++ rest) = (as.foldl add r).lines rest := by
  induction hblock generalizing r with
  | done => rfl
  | entry hline _ ih =>
      rw [List.cons_append, lines_of_headerless (h.headerless hline), h.entry hr hline,
        List.foldl_cons]
      exact ih ((h.current r _).trans hr)
  | remark hheaderless hformless _ ih =>
      rw [List.cons_append, lines_of_headerless hheaderless, h.remark hr hformless]
      exact ih hr

theorem readsAs_objects : ReadsAs .objects IsObjectLine HasObjectForm addObject where
  headerless := IsObjectLine.isHeaderless
  current _ _ := rfl
  entry hr hline := by
    rw [entry, hr, leftmost?_of_here? (objectHere?_of_isObjectLine hline)]
  remark hr hformless := by
    rw [entry, hr, (leftmost?_eq_none_iff isSome_objectHere?_iff).mpr hformless]

theorem readsAs_symbols : ReadsAs .symbols IsSymbolLine HasSymbolForm addSymbol where
  headerless := IsSymbolLine.isHeaderless
  current _ _ := rfl
  entry hr hline := by
    rw [entry, hr, leftmost?_of_here? (symbolHere?_of_isSymbolLine hline)]
  remark hr hformless := by
    rw [entry, hr, (leftmost?_eq_none_iff isSome_symbolHere?_iff).mpr hformless]

theorem lines_deadLines (r : Reading) (l : Listing) : r.lines l.deadLines = r := by
  have hheaded := l.dead_headed
  cases hdead : l.deadLines with
  | nil => rfl
  | cons line rest =>
      rw [hdead] at hheaded
      obtain ⟨tail, rfl⟩ := hheaded line rfl
      rfl

theorem findSome?_cons_eq_or {α β : Type} (f : α → Option β) (a : α) (as : List α) :
    (a :: as).findSome? f = (f a).or (as.findSome? f) := by
  rw [List.findSome?_cons]
  cases f a <;> rfl

theorem foldl_addObject (objects : List (Numbered ObjectFile)) (r : Reading) :
    objects.foldl addObject r =
      { r with
        objects := (objects.map (·.entry)).foldl ObjectTable.insert r.objects
        overlong := r.overlong <|> (objects.map (·.digits)).findSome? overlong? } := by
  induction objects generalizing r with
  | nil => simp
  | cons o rest ih =>
      rw [List.foldl_cons, ih]
      simp only [addObject, List.map_cons, List.foldl_cons, findSome?_cons_eq_or,
        Option.orElse_eq_orElse, Option.orElse_eq_or, Option.or_assoc]

theorem foldl_addSymbol (symbols : List (Numbered Symbol)) (r : Reading) :
    symbols.foldl addSymbol r =
      { r with
        symbols := (symbols.map (·.entry)).reverse ++ r.symbols
        overlong := r.overlong <|> (symbols.map (·.digits)).findSome? overlong? } := by
  induction symbols generalizing r with
  | nil => simp
  | cons s rest ih =>
      rw [List.foldl_cons, ih]
      simp only [addSymbol, List.map_cons, List.reverse_cons, List.append_assoc,
        List.singleton_append, findSome?_cons_eq_or, Option.orElse_eq_orElse, Option.orElse_eq_or,
        Option.or_assoc]

/-- A listing is read section by section. -/
theorem lines_listing (l : Listing) :
    start.lines l.lines =
      ⟨.symbols, .filledWith (l.objects.map (·.entry)), (l.symbols.map (·.entry)).reverse,
        l.digits.findSome? overlong?⟩ := by
  let opened (s : Section) (r : Reading) : Reading := { r with current := s }
  let listed : Reading :=
    ⟨.sections, .filledWith (l.objects.map (·.entry)), [],
      (l.objects.map (·.digits)).findSome? overlong?⟩
  calc start.lines l.lines
    _ = (opened .objects start).lines (l.objectLines ++ sectionHeader ::
          (l.sectionLines ++ symbolHeader :: (l.symbolLines ++ l.deadLines))) :=
        lines_append_of_headerless _ l.preamble_headerless (.inl rfl)
    _ = listed.lines (l.sectionLines ++ symbolHeader :: (l.symbolLines ++ l.deadLines)) := by
        rw [readsAs_objects.lines_append l.lists_objects rfl, foldl_addObject]
        rfl
    _ = (opened .symbols listed).lines (l.symbolLines ++ l.deadLines) :=
        lines_append_of_headerless _ l.sections_headerless (.inr rfl)
    _ = _ := by
        rw [readsAs_symbols.lines_append l.lists_symbols rfl, foldl_addSymbol, lines_deadLines,
          Listing.digits, List.findSome?_append, List.append_nil, Option.orElse_eq_orElse,
          Option.orElse_eq_or]

end Reading

theorem Listing.newline_not_mem (l : Listing) : ∀ line ∈ l.lines, '\n' ∉ line := by
  have hunbroken := l.unbroken
  intro line hline
  simp only [lines, List.mem_append, List.mem_cons] at hline hunbroken
  rcases hline with h | rfl | h | rfl | h | rfl | h | h
  · exact hunbroken line (.inl (.inl (.inl (.inl h))))
  · decide
  · exact hunbroken line (.inl (.inl (.inl (.inr h))))
  · decide
  · exact hunbroken line (.inl (.inl (.inr h)))
  · decide
  · exact hunbroken line (.inl (.inr h))
  · exact hunbroken line (.inr h)

theorem Listing.splitOn_text (l : Listing) : l.text.splitOn '\n' = l.lines :=
  splitOn_joinWith l.newline_not_mem (by simp [lines])

/-! Every list of objects and of symbols has a listing. -/

def objectLine (o : Numbered ObjectFile) : Text := '[' :: (o.digits ++ ']' :: ' ' :: o.entry.path)

def symbolLine (s : Numbered Symbol) : Text :=
  '0' :: 'x' :: (Nat.toDigits 16 s.entry.address ++ '\t' :: '0' :: 'x' ::
    (Nat.toDigits 16 s.entry.size ++ '\t' ::
      objectLine ⟨s.digits, s.entry.objectIndex, s.entry.name⟩))

theorem isGap_singleton {c : Char} (hc : isBlank c = true) : IsGap [c] :=
  ⟨List.cons_ne_nil _ _, fun _ hd => List.mem_singleton.mp hd ▸ hc⟩

theorem isObjectLine_objectLine {o : Numbered ObjectFile}
    (hdigits : IsDecimalSpelling o.entry.index o.digits) (hpath : IsField o.entry.path) :
    IsObjectLine o (objectLine o) :=
  ⟨hdigits, [], [' '], by simp, isGap_singleton (by decide), hpath, rfl⟩

theorem isSymbolLine_symbolLine {s : Numbered Symbol}
    (hdigits : IsDecimalSpelling s.entry.objectIndex s.digits) (hname : IsField s.entry.name) :
    IsSymbolLine s (symbolLine s) :=
  ⟨_, ['\t'], _, ['\t'], _, isHexSpelling_toDigits _, isGap_singleton (by decide),
    isHexSpelling_toDigits _, isGap_singleton (by decide),
    ⟨hdigits, [], [' '], by simp, isGap_singleton (by decide), hname, rfl⟩, rfl⟩

theorem newline_not_mem_objectLine {o : Numbered ObjectFile}
    (hdigits : IsDecimalSpelling o.entry.index o.digits) (hpath : '\n' ∉ o.entry.path) :
    '\n' ∉ objectLine o := by
  obtain ⟨zeros, hzeros⟩ := hdigits
  have hindex : '\n' ∉ o.digits := by
    rw [hzeros]
    intro hmem
    exact absurd (isDigit_of_mem_padded hmem) (by decide)
  simp [objectLine, hindex, hpath]

theorem newline_not_mem_symbolLine {s : Numbered Symbol}
    (hdigits : IsDecimalSpelling s.entry.objectIndex s.digits) (hname : '\n' ∉ s.entry.name) :
    '\n' ∉ symbolLine s := by
  have hnumber (n : Nat) : '\n' ∉ Nat.toDigits 16 n := by
    intro hmem
    exact absurd ((isHexSpelling_toDigits n).isHex hmem) (by decide)
  have hentry : '\n' ∉ objectLine ⟨s.digits, s.entry.objectIndex, s.entry.name⟩ :=
    newline_not_mem_objectLine hdigits hname
  simp [symbolLine, hnumber, hentry]

theorem lists_map {α : Type} {writes : α → Text → Prop} {form : Text → Prop} {as : List α}
    {line : α → Text} (h : ∀ a ∈ as, writes a (line a)) : Lists writes form as (as.map line) := by
  induction as with
  | nil => exact .done
  | cons a as ih =>
      exact .entry (h a List.mem_cons_self) (ih fun b hb => h b (List.mem_cons_of_mem a hb))

/-- Objects and symbols have a listing if their paths and names are fields without a newline. -/
theorem exists_listing {objects : List (Numbered ObjectFile)} {symbols : List (Numbered Symbol)}
    (hobjects : ∀ o ∈ objects, IsDecimalSpelling o.entry.index o.digits ∧ IsField o.entry.path ∧
      '\n' ∉ o.entry.path)
    (hsymbols : ∀ s ∈ symbols, IsDecimalSpelling s.entry.objectIndex s.digits ∧
      IsField s.entry.name ∧ '\n' ∉ s.entry.name) :
    ∃ l : Listing, l.objects = objects ∧ l.symbols = symbols := by
  refine ⟨{
    objects, symbols
    preamble := []
    objectLines := objects.map objectLine
    sectionLines := []
    symbolLines := symbols.map symbolLine
    deadLines := []
    preamble_headerless := by simp
    lists_objects := lists_map fun o ho =>
      isObjectLine_objectLine (hobjects o ho).1 (hobjects o ho).2.1
    sections_headerless := by simp
    lists_symbols := lists_map fun s hs =>
      isSymbolLine_symbolLine (hsymbols s hs).1 (hsymbols s hs).2.1
    dead_headed := by simp
    unbroken := ?_ }, rfl, rfl⟩
  intro line hline
  rw [List.nil_append, List.append_nil, List.append_nil] at hline
  rcases List.mem_append.mp hline with hline | hline
  · obtain ⟨o, ho, rfl⟩ := List.mem_map.mp hline
    exact newline_not_mem_objectLine (hobjects o ho).1 (hobjects o ho).2.2
  · obtain ⟨s, hs, rfl⟩ := List.mem_map.mp hline
    exact newline_not_mem_symbolLine (hsymbols s hs).1 (hsymbols s hs).2.2

/-! Reading a listing. -/

/-- Whether a link map has what a listing was written from: its symbols in order, and in the order in
which their numbers first occur the last object of each number. -/
structure Listing.IsReadAs (l : Listing) (m : LinkMap) : Prop where
  symbols_eq : m.symbols = l.symbols.map (·.entry)
  indices_eq : m.objects.toList.map (·.index) = (l.objects.map (·.entry.index)).eraseDups
  find?_eq : ∀ index,
    m.objects.find? index = (l.objects.map (·.entry)).reverse.find? (·.index == index)
  lineCount_eq : m.lineCount = l.text.count '\n' + 1

theorem Listing.isReadAs_ofText (l : Listing) : l.IsReadAs (ofText l.text) := by
  have hread : ofText l.text = ⟨.filledWith (l.objects.map (·.entry)), l.symbols.map (·.entry),
      l.text.count '\n' + 1⟩ := by
    rw [ofText, length_splitOn, l.splitOn_text, Reading.lines_listing, Reading.linkMap,
      List.reverse_reverse]
  rw [hread]
  refine ⟨rfl, ?_, ObjectTable.find?_filledWith _, rfl⟩
  rw [ObjectTable.map_index_filledWith, List.map_map]
  rfl

theorem parse_text (l : Listing) :
    parse l.text = match l.digits.findSome? overlong? with
      | some digitCount => .error ⟨digitCount⟩
      | none => .ok (ofText l.text) := by
  have hread := parse_eq l.text
  rw [l.splitOn_text, Reading.lines_listing] at hread
  exact hread

theorem overlong?_eq_none_iff {digits : Text} :
    overlong? digits = none ↔ digits.length ≤ digitLimit := by
  rw [overlong?]
  split
  · rename_i hlong
    simp [Nat.not_le.mpr hlong]
  · rename_i hshort
    simp [Nat.not_lt.mp hshort]

/-- A listing is read as what it was written from if and only if none of its object numbers has too
many digits. Otherwise the first of them that has too many makes it unreadable. -/
theorem exists_parse_text_iff (l : Listing) :
    ((∃ m, parse l.text = .ok m ∧ l.IsReadAs m) ↔
        ∀ digits ∈ l.digits, digits.length ≤ digitLimit) ∧
      ∀ e, parse l.text = .error e ↔ l.digits.findSome? overlong? = some e.digitCount := by
  have hread := parse_text l
  cases hoverlong : l.digits.findSome? overlong? with
  | none =>
      rw [hoverlong] at hread
      refine ⟨⟨fun _ digits hdigits => ?_, fun _ => ⟨_, hread, l.isReadAs_ofText⟩⟩, fun e => ?_⟩
      · exact overlong?_eq_none_iff.mp (List.findSome?_eq_none_iff.mp hoverlong digits hdigits)
      · simp [hread]
  | some digitCount =>
      rw [hoverlong] at hread
      obtain ⟨digits, hdigits, hlong⟩ := List.exists_of_findSome?_eq_some hoverlong
      refine ⟨⟨fun ⟨m, hm, _⟩ => ?_, fun hall => ?_⟩, fun e => ?_⟩
      · cases hread.symm.trans hm
      · rw [overlong?_eq_none_iff.mpr (hall digits hdigits)] at hlong
        cases hlong
      · rw [hread, Except.error.injEq, Option.some_inj]
        exact ⟨fun h => h ▸ rfl, fun h => h ▸ rfl⟩

example :
    let m := ofText ("# Object files:\n[1] /A.o\n[no] e\n[01]\t/B [2].o\n# Sections:\n" ++
      "# Symbols:\n0x0A  0xff\t[1] -[A b]\n# Dead Stripped Symbols:\n0x0 0x1 [1] _c").toList
    m.objects.toList = [⟨1, "/B [2].o".toList⟩] ∧
      m.symbols = [⟨10, 255, 1, "-[A b]".toList⟩] ∧ m.lineCount = 9 := by
  decide +kernel

/-- An object whose number has four thousand and three hundred zeros in front makes its listing
unreadable. -/
theorem exists_listing_parse_eq_error :
    ∃ l : Listing, l.objects = [⟨padded 4300 1, 1, "/b/A.o".toList⟩] ∧ l.symbols = [] ∧
      parse l.text = .error ⟨4301⟩ ∧ ¬∃ m, parse l.text = .ok m ∧ l.IsReadAs m := by
  have hpath : IsField "/b/A.o".toList := ⟨⟨'/', _, rfl, by decide⟩, by decide⟩
  have hobjects : ∀ o ∈ [(⟨padded 4300 1, 1, "/b/A.o".toList⟩ : Numbered ObjectFile)],
      IsDecimalSpelling o.entry.index o.digits ∧ IsField o.entry.path ∧ '\n' ∉ o.entry.path := by
    simpa using ⟨⟨4300, rfl⟩, hpath⟩
  have hsymbols : ∀ s ∈ ([] : List (Numbered Symbol)),
      IsDecimalSpelling s.entry.objectIndex s.digits ∧ IsField s.entry.name ∧
        '\n' ∉ s.entry.name := by
    simp
  obtain ⟨l, hobjects, hsymbols⟩ := exists_listing hobjects hsymbols
  have hlength : (padded 4300 1).length = 4301 := by
    rw [padded, List.length_append, List.length_replicate]
    rfl
  have herror : parse l.text = .error ⟨4301⟩ := by
    rw [parse_text, Listing.digits, hobjects, hsymbols]
    simp [overlong?, hlength, digitLimit]
  refine ⟨l, hobjects, hsymbols, herror, ?_⟩
  rintro ⟨m, hm, -⟩
  cases herror.symm.trans hm

end LinkAudit.LinkMap

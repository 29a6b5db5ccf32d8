import SpriteText.Proofs.Drawing.OfText
import SpriteText.Proofs.Sheet.Faults
import SpriteText.Proofs.Text.Readings

/-!
# Sheets given as text

A sheet is cut into drawings as its readings are (`TextSheet.parse_read`), so what is known of a
sheet of characters holds for one with surrogates: every line of a drawing is the line of the sheet
with its number, and a drawing without surrogates is refused in its place. A drawing with surrogates
is refused for them, without a place.
-/

namespace SpriteText

namespace TextSheet

variable {told : CodePoint}

/-! ## Readings of a sheet -/

/-- A line read as characters. -/
def Line.read (told : CodePoint) (line : Line) : Sheet.Line where
  number := line.number
  characters := Text.reading told line.codes

/-- A section read as characters. -/
def Section.read (told : CodePoint) (part : Section) : Sheet.Section where
  headerLine := part.headerLine
  name := part.name.map (Text.spelling told)
  body := part.body.map (Line.read told)

/-- A source read as characters. -/
def Source.read (told : CodePoint) (source : Source) : Sheet.Source where
  name := source.name
  text := Text.spelling told source.text
  firstLine := source.firstLine

/-- A fault of the layout read as characters. -/
def LayoutFault.read (told : CodePoint) : LayoutFault → SpriteText.Fault
  | .loneName name line => { cause := .invalidName (Text.spelling told name), line }
  | .plain fault => fault

/-- What a sheet is parsed to, read as characters. -/
def readParsed (told : CodePoint) :
    Except LayoutFault (List Source) → Except SpriteText.Fault (List Sheet.Source)
  | .ok sources => .ok (sources.map (Source.read told))
  | .error fault => .error (fault.read told)

/-- A carriage return is dropped from a reading as from the line. -/
theorem dropReturn_reading (told : CodePoint) (line : List CodePoint) :
    Sheet.dropReturn (Text.reading told line) = Text.reading told (dropReturn line) := by
  have last : (Text.reading told line).getLast? = some '\r' ↔
      line.getLast? = some carriageReturn := by
    rw [Text.reading, List.getLast?_map, Option.map_eq_some_iff]
    constructor
    · rintro ⟨code, ending, read⟩
      rw [ending, (CodePoint.readAs_eq_iff (by decide)).mp read]
      rfl
    · intro ending
      exact ⟨_, ending, CodePoint.readAs_ofChar '\r' told⟩
  rw [Sheet.dropReturn, dropReturn]
  by_cases returned : line.getLast? = some carriageReturn
  · rw [if_pos returned, if_pos (last.mpr returned), Text.reading, Text.reading, List.map_dropLast]
  · rw [if_neg returned, if_neg (mt last.mp returned)]

/-- The lines of a reading are those of the sheet, with the same numbers. -/
theorem numberedLines_read (told : CodePoint) (text : List CodePoint) :
    Sheet.numberedLines (Text.spelling told text) = (numberedLines text).map (Line.read told) := by
  have dropped : Sheet.dropReturn ∘ Text.reading told = Text.reading told ∘ dropReturn :=
    funext fun line => dropReturn_reading told line
  rw [Sheet.numberedLines, numberedLines, Text.toList_spelling, Text.lines_reading, List.map_map,
    dropped, ← List.map_map, List.zipIdx_map, List.map_map, List.map_map]
  rfl

/-- A line is a header if its reading is, and gives the same name. -/
theorem header?_read (told : CodePoint) (line : List CodePoint) :
    Sheet.header? (Text.reading told line) =
      (header? line).map (Option.map (Text.spelling told)) := by
  have word (word : List CodePoint) :
      Text.reading told word = Sheet.headerWord ↔ word = headerWord :=
    @Text.reading_eq_iff _ _ "@sprite" (by simp [NoSign, toldSign, otherSign])
  rw [Sheet.header?, header?, Text.words_reading]
  rcases words line with _ | ⟨first, _ | ⟨name, _ | ⟨another, rest⟩⟩⟩
  · rfl
  · by_cases opens : first = headerWord <;> simp [word, opens]
  · by_cases opens : first = headerWord <;> simp [word, opens, Text.spelling]
  · rfl

/-- A reading is cut where the sheet is. -/
theorem cut_read (told : CodePoint) (lines : List Line) :
    Sheet.cut (lines.map (Line.read told)) =
      ((cut lines).1.map (Line.read told), (cut lines).2.map (Section.read told)) := by
  induction lines with
  | nil => rfl
  | cons line lines ih =>
    have read : Sheet.header? (line.read told).characters = _ := header?_read told line.codes
    cases header : header? line.codes with
    | none =>
      have cutting : cut (line :: lines) = (line :: (cut lines).1, (cut lines).2) := by
        simp [cut, header]
      rw [header] at read
      rw [List.map_cons, Sheet.cut_cons_of_none read, ih, cutting, List.map_cons]
    | some name =>
      have cutting : cut (line :: lines) =
          ([], ⟨line.number, name, (cut lines).1⟩ :: (cut lines).2) := by
        simp [cut, header]
      rw [header] at read
      rw [List.map_cons, Sheet.cut_cons_of_some read, ih, cutting, List.map_nil, List.map_cons]
      rfl

/-- A line is blank if its reading is. -/
theorem isBlank_read (told : CodePoint) (line : Line) :
    (line.read told).isBlank = line.isBlank := by
  rw [Sheet.Line.isBlank, Line.isBlank, Line.read, Text.reading, List.all_map]
  congr 1
  exact funext fun code => code.isBlank_readAs told

/-- A line is a comment if its reading is. -/
theorem isComment_read (told : CodePoint) (line : Line) :
    Sheet.isComment (line.read told) = isComment line := by
  rw [Sheet.isComment, isComment, Line.read, Text.trim_reading]
  cases trim line.codes with
  | nil => rfl
  | cons first rest =>
    exact decide_eq_decide.mpr (CodePoint.readAs_eq_iff (by decide))

/-- Lines are drawn in a reading as in the sheet. -/
theorem drawing_read (told : CodePoint) (lines : List Line) :
    Sheet.Source.drawing (lines.map (Line.read told)) =
      Text.spelling told (Source.drawing lines) := by
  have feed : CodePoint.newline.readAs told = '\n' := CodePoint.readAs_ofChar '\n' told
  rw [Sheet.Source.drawing, Source.drawing, Text.spelling, Text.reading, List.map_cons, feed,
    List.map_flatMap, List.flatMap_map]
  simp [Line.read, Text.reading, feed]

/-- A body is drawn in a reading as in the sheet, from the same line on. -/
theorem ofBody_read (told : CodePoint) (name : String) (headerLine : Nat) (body : List Line) :
    Sheet.Source.ofBody name headerLine (body.map (Line.read told)) =
      (Source.ofBody name headerLine body).read told := by
  have blank : Sheet.Line.isBlank ∘ Line.read told = Line.isBlank :=
    funext fun line => isBlank_read told line
  have trimmed : Sheet.Source.trimLines (body.map (Line.read told)) =
      (Source.trimLines body).map (Line.read told) := by
    rw [Sheet.Source.trimLines, Source.trimLines, List.dropWhile_map, blank, ← List.map_reverse,
      List.dropWhile_map, blank, ← List.map_reverse]
  rw [Sheet.Source.ofBody, trimmed, drawing_read, List.takeWhile_map, blank, List.length_map]
  rfl

/-- A name with a surrogate is read as no sprite name. -/
theorem isSpriteName_spelling {name : List CodePoint} (lone : ¬Text.Encodable name) :
    Sheet.isSpriteName (Text.spelling told name) = false := by
  rw [Text.Encodable] at lone
  push Not at lone
  obtain ⟨code, member, surrogate⟩ := lone
  rw [← Bool.not_eq_true]
  intro named
  have inside : code.readAs told ∈ (Text.spelling told name).toList := by
    rw [Text.toList_spelling]
    exact List.mem_map_of_mem member
  have part := Sheet.isNamePart_of_isSpriteName named _ inside
  rw [CodePoint.readAs_of_isSurrogate (by simpa using surrogate)] at part
  split at part <;> revert part <;> decide

/-- A name is a sprite name if its reading is, and is refused as the reading otherwise. -/
theorem spriteName_read (told : CodePoint) (name : List CodePoint) (line : Option Int) :
    (Sheet.isSpriteName (Text.spelling told name) = true ∧
        spriteName name line = .ok (Text.spelling told name)) ∨
      Sheet.isSpriteName (Text.spelling told name) = false ∧
        ∃ fault, spriteName name line = .error fault ∧
          fault.read told = { cause := .invalidName (Text.spelling told name), line } := by
  by_cases plain : Text.Encodable name
  · obtain ⟨spelled, rfl⟩ := Text.encodable_iff.mp plain
    rw [spriteName, Text.spelled?_codePoints, Text.spelling_codePoints]
    cases named : Sheet.isSpriteName spelled with
    | true => exact .inl ⟨rfl, if_pos named⟩
    | false => exact .inr ⟨rfl, _, if_neg (by simp [named]), rfl⟩
  · rw [spriteName, Text.spelled?_of_not_encodable plain, isSpriteName_spelling plain]
    exact .inr ⟨rfl, _, rfl, rfl⟩

/-- The name of a section is checked in a reading as in the sheet. -/
theorem checkedName_read (told : CodePoint) (part : Section) (taken : List String) :
    (part.read told).checkedName taken =
      (part.checkedName taken).mapError (LayoutFault.read told) := by
  rw [Sheet.Section.checkedName, Section.checkedName, Section.read]
  cases part.name with
  | none => rfl
  | some name =>
    simp only [Option.map_some]
    rcases spriteName_read told name (some part.headerLine) with
      ⟨valid, named⟩ | ⟨invalid, fault, refused, told⟩
    · simp only [valid, named, Bool.not_true, Bool.false_eq_true, if_false]
      split <;> rfl
    · simp only [invalid, refused, Bool.not_false, if_true]
      exact congrArg Except.error told.symm

/-- Sections give the same sources in a reading as in the sheet. -/
theorem sourcesOf_read (told : CodePoint) (taken : List String) (sections : List Section) :
    Sheet.sourcesOf taken (sections.map (Section.read told)) =
      readParsed told (sourcesOf taken sections) := by
  induction sections generalizing taken with
  | nil => rfl
  | cons part sections ih =>
    rw [List.map_cons, Sheet.sourcesOf, sourcesOf, checkedName_read]
    cases part.checkedName taken with
    | error fault => rfl
    | ok name =>
      simp only [Except.mapError, ih]
      cases sourcesOf (name :: taken) sections with
      | error fault => rfl
      | ok sources =>
        simp only [readParsed, List.map_cons, ← ofBody_read]
        rfl

/-- The only drawing of a sheet without headers has the same name in a reading. -/
theorem soleName_read (told : CodePoint) (defaultName : Option (List CodePoint)) :
    Sheet.soleName (defaultName.map (Text.spelling told)) =
      Text.spelling told (soleName defaultName) := by
  cases defaultName with
  | none => exact (Text.spelling_codePoints told "sprite").symm
  | some name =>
    cases name with
    | nil => exact (Text.spelling_codePoints told "sprite").symm
    | cons first rest =>
      have some_letter : (Text.spelling told (first :: rest)).isEmpty = false := by
        rw [← Bool.not_eq_true, String.isEmpty_iff, ← String.toList_eq_nil_iff,
          Text.toList_spelling]
        exact List.cons_ne_nil _ _
      rw [Option.map_some, Sheet.soleName, some_letter]
      rfl

/-- A sheet is parsed as its readings are, whatever surrogate is told from the others. -/
theorem parse_read (told : CodePoint) (text : List CodePoint)
    (defaultName : Option (List CodePoint)) :
    Sheet.parse (Text.spelling told text) (defaultName.map (Text.spelling told)) =
      readParsed told (parse text defaultName) := by
  rw [Sheet.parse, parse, numberedLines_read, cut_read]
  cases cut (numberedLines text) with
  | mk preamble sections =>
    cases sections with
    | nil =>
      have sole : Sheet.soleName (defaultName.map (Text.spelling told)) =
          Text.spelling told (soleName defaultName) := soleName_read told defaultName
      simp only [List.map_nil, sole]
      rcases spriteName_read told (soleName defaultName) none with
        ⟨valid, named⟩ | ⟨invalid, fault, refused, told⟩
      · simp only [valid, named, if_true, ofBody_read]
        rfl
      · simp only [invalid, refused, Bool.false_eq_true, if_false]
        exact congrArg Except.error told.symm
    | cons part sections =>
      have stray : ((preamble.map (Line.read told)).find? fun line => !Sheet.isComment line) =
          (preamble.find? fun line => !isComment line).map (Line.read told) := by
        rw [List.find?_map]
        congr 2
        exact funext fun line => congrArg not (isComment_read told line)
      simp only [List.map_cons, stray]
      cases preamble.find? fun line => !isComment line with
      | some line => rfl
      | none => exact sourcesOf_read told [] (part :: sections)

/-! ## Drawings in the sheet -/

variable {text : List CodePoint} {defaultName : Option (List CodePoint)} {sources : List Source}
  {source : Source}

/-- Every reading of a parsed sheet is parsed to the readings of its sources. -/
theorem parse_spelling (parsed : parse text defaultName = .ok sources) (told : CodePoint) :
    Sheet.parse (Text.spelling told text) (defaultName.map (Text.spelling told)) =
      .ok (sources.map (Source.read told)) := by
  rw [parse_read, parsed]
  rfl

/-- A line is one of the numbered lines if this is so in every reading. -/
theorem mem_numberedLines_of_read {line : Line}
    (read : ∀ told, line.read told ∈ Sheet.numberedLines (Text.spelling told text)) :
    line ∈ numberedLines text := by
  -- The number of the line tells its place, which is the same in every reading.
  obtain ⟨index, number, -⟩ := Sheet.getElem?_of_mem_numberedLines (read .newline)
  have place (told : CodePoint) :
      ((numberedLines text).map (Line.read told))[index]? = some (line.read told) := by
    obtain ⟨place, here⟩ := List.mem_iff_getElem?.mp (read told)
    have same : line.number = place + 1 := Sheet.number_of_getElem? here
    obtain rfl : index = place := Nat.succ.inj (number.symm.trans same)
    rw [← numberedLines_read]
    exact here
  cases held : (numberedLines text)[index]? with
  | none => simpa [held] using place .newline
  | some other =>
    have same (told : CodePoint) : other.read told = line.read told := by
      simpa [held] using place told
    have numbers : other.number = line.number := congrArg Sheet.Line.number (same .newline)
    have codes : other.codes = line.codes :=
      Text.eq_of_reading fun told => congrArg Sheet.Line.characters (same told)
    have equal : other = line := by
      cases other
      cases line
      exact (Line.mk.injEq ..).mpr ⟨numbers, codes⟩
    exact List.mem_of_getElem? (equal ▸ held)

/-- Every line of a drawing is the line of the sheet with its number. -/
theorem mem_numberedLines_of_parse (parsed : parse text defaultName = .ok sources)
    (member : source ∈ sources) :
    ∃ rows, source.text = .newline :: rows ∧
      ∀ index line, (lines rows)[index]? = some line →
        ⟨source.firstLine + index, line⟩ ∈ numberedLines text := by
  have shown (told : CodePoint) :
      ∃ rows, Text.reading told source.text = '\n' :: rows ∧
        ∀ index line, (Text.lines rows)[index]? = some line →
          ⟨source.firstLine + index, line⟩ ∈ Sheet.numberedLines (Text.spelling told text) := by
    rw [← Text.toList_spelling]
    exact Sheet.mem_numberedLines_of_parse (parse_spelling parsed told) (List.mem_map_of_mem member)
  obtain ⟨rows, leading⟩ : ∃ rows, source.text = .newline :: rows := by
    obtain ⟨read, leading, -⟩ := shown .newline
    obtain ⟨code, rows, split, feed, -⟩ := List.map_eq_cons_iff.mp leading
    have newline : code = CodePoint.ofChar '\n' := (CodePoint.readAs_eq_iff (by decide)).mp feed
    exact ⟨rows, split.trans (congrArg (fun code => code :: rows) newline)⟩
  refine ⟨rows, leading, fun index line place => mem_numberedLines_of_read fun told => ?_⟩
  obtain ⟨read, split, inside⟩ := shown told
  obtain rfl : Text.reading told rows = read := by
    rw [leading] at split
    exact (List.cons.inj split).2
  refine inside index (Text.reading told line) ?_
  rw [Text.lines_reading, List.getElem?_map, place, Option.map_some]

/-! ## Sheets of characters -/

variable {alignTail : Bool} {sprite : Sprite}

/-- A source of characters is compiled as its readings are. -/
theorem Source.compile_read {spelled : String} (same : source.text = Text.codePoints spelled)
    (told : CodePoint) (alignTail : Bool) :
    source.compile alignTail = ((source.read told).compile alignTail).mapError .drawing := by
  have text : (source.read told).text = spelled := by
    rw [read, same, Text.spelling_codePoints]
  rw [compile, Sheet.Source.compile, text, same, Drawing.compileText_codePoints]
  have offset : (source.read told).lineOffset = source.lineOffset := rfl
  rw [offset]
  cases Drawing.compile spelled alignTail source.lineOffset <;> rfl

/-- Sources of characters are compiled as their readings are. -/
theorem compileInto_read (plain : ∀ source ∈ sources, Text.Encodable source.text)
    (told : CodePoint) (set : SpriteSet) (alignTail : Bool) :
    compileInto set alignTail sources =
      (Sheet.compileInto set alignTail (sources.map (Source.read told))).mapError .drawing := by
  induction sources generalizing set with
  | nil => rfl
  | cons source sources ih =>
    obtain ⟨first, others⟩ := List.forall_mem_cons.mp plain
    obtain ⟨spelled, same⟩ := Text.encodable_iff.mp first
    rw [List.map_cons, compileInto, Sheet.compileInto, Source.compile_read same told]
    cases (source.read told).compile alignTail with
    | error fault => rfl
    | ok sprite => exact ih others (set.insert source.name sprite)

/-- The sources of a sheet of characters are drawings of characters. -/
theorem encodable_of_parse {sheet : String}
    (parsed : parse (Text.codePoints sheet) defaultName = .ok sources)
    (named : ∀ name, defaultName = some name → Text.Encodable name) :
    ∀ source ∈ sources, Text.Encodable source.text := by
  have sole (told : CodePoint) :
      defaultName.map (Text.spelling told) = defaultName.map (Text.spelling .newline) := by
    cases defaultName with
    | none => rfl
    | some name =>
      obtain ⟨spelled, rfl⟩ := Text.encodable_iff.mp (named name rfl)
      rw [Option.map_some, Option.map_some, Text.spelling_codePoints, Text.spelling_codePoints]
  have same (told : CodePoint) :
      sources.map (Source.read told) = sources.map (Source.read .newline) := by
    have first := parse_spelling parsed told
    rw [sole, Text.spelling_codePoints, ← Text.spelling_codePoints .newline sheet,
      parse_spelling parsed .newline, Except.ok.injEq] at first
    exact first.symm
  intro source member
  refine Text.encodable_of_reading fun told => ?_
  have read := congrArg Sheet.Source.text (List.map_inj_left.mp (same told) source member)
  rw [← Text.toList_spelling, ← Text.toList_spelling]
  exact congrArg String.toList read

/-- A fault of a sheet of characters, read as such. Surrogates are no such fault. -/
def Fault.read? (told : CodePoint) : Fault → Option DrawingFault
  | .layout fault => some (.text (fault.read told))
  | .drawing (.encoding _) => none
  | .drawing (.drawing fault) => some fault

/-- A sheet of characters is compiled as the sheet that it spells. -/
theorem compile_codePoints (sheet : String) (defaultName : Option String) (alignTail : Bool)
    (told : CodePoint) :
    match compile (Text.codePoints sheet) (defaultName.map Text.codePoints) alignTail with
    | .ok set => Sheet.compile sheet defaultName alignTail = .ok set
    | .error fault => ∃ found, fault.read? told = some found ∧
        Sheet.compile sheet defaultName alignTail = .error found := by
  have same : (defaultName.map Text.codePoints).map (Text.spelling told) = defaultName := by
    rw [Option.map_map]
    have undone : Text.spelling told ∘ Text.codePoints = id :=
      funext fun name => Text.spelling_codePoints told name
    rw [undone, Option.map_id]
    rfl
  have read := parse_read told (Text.codePoints sheet) (defaultName.map Text.codePoints)
  rw [same, Text.spelling_codePoints] at read
  rw [compile, Sheet.compile, read]
  cases parsed : parse (Text.codePoints sheet) (defaultName.map Text.codePoints) with
  | error fault => exact ⟨_, rfl, rfl⟩
  | ok sources =>
    have plain := encodable_of_parse parsed fun name given => by
      obtain ⟨spelled, -, rfl⟩ := Option.map_eq_some_iff.mp given
      exact Text.encodable_iff.mpr ⟨spelled, rfl⟩
    simp only [readParsed, compileInto_read plain told, Sheet.compileSources]
    cases Sheet.compileInto .empty alignTail (sources.map (Source.read told)) with
    | ok set => rfl
    | error fault => exact ⟨fault, rfl, rfl⟩

/-! ## Sources that are refused -/

/-- A source that is compiled is a drawing that is compiled alone. -/
theorem Source.compileText_of_compile (compiled : source.compile alignTail = .ok sprite) :
    Drawing.compileText source.text alignTail 0 = .ok sprite := by
  have moved : Drawing.compileText source.text alignTail source.lineOffset = .ok sprite := by
    rw [compile] at compiled
    cases outcome : Drawing.compileText source.text alignTail source.lineOffset with
    | ok found => simpa [outcome, Except.mapError] using compiled
    | error fault => simp [outcome, Except.mapError] at compiled
  obtain ⟨spelled, same⟩ := Text.encodable_iff.mp (Drawing.encodable_of_compileText moved)
  rw [same, Drawing.compileText_eq_ok_iff] at moved ⊢
  exact Drawing.compile_of_compile moved 0

/-- Sources are refused for the first that cannot be compiled. -/
theorem exists_of_compileInto_error {set : SpriteSet} {fault : TextFault}
    (refused : compileInto set alignTail sources = .error fault) :
    ∃ front source back, sources = front ++ source :: back ∧
      (∀ earlier ∈ front, ∃ sprite, Drawing.compileText earlier.text alignTail 0 = .ok sprite) ∧
      source.compile alignTail = .error fault := by
  induction sources generalizing set with
  | nil => contradiction
  | cons source sources ih =>
    rw [compileInto] at refused
    cases outcome : source.compile alignTail with
    | error found =>
      simp only [outcome, Except.error.injEq] at refused
      exact ⟨[], source, sources, rfl, List.forall_mem_nil _, refused ▸ outcome⟩
    | ok sprite =>
      simp only [outcome] at refused
      obtain ⟨front, other, back, rfl, compiled, stopped⟩ := ih refused
      exact ⟨source :: front, other, back, rfl, List.forall_mem_cons.mpr
        ⟨⟨sprite, Source.compileText_of_compile outcome⟩, compiled⟩, stopped⟩

/-- What is wrong with the layout of a sheet is a fault of the sheet. -/
theorem kind_of_parse_error {found : LayoutFault}
    (refused : parse text defaultName = .error found) :
    found.kind = .sheet := by
  have read := parse_read .newline text defaultName
  rw [refused] at read
  have kind := Sheet.kind_of_parse_error read
  cases found with
  | loneName name line => rfl
  | plain fault => exact kind

/-- A fault of a sheet is the one that the drawing of a source has alone, placed in the sheet. -/
structure Source.Reports (sheet : List CodePoint) (source : Source)
    (alone found : SpriteText.Fault) : Prop where
  /-- The drawing alone is refused, however its tail would be aligned. -/
  refused : ∀ alignTail,
    Drawing.compileText source.text alignTail 0 = .error (.drawing (.text alone))
  /-- The cause is the same, with the widths that it compares. -/
  cause : found.cause = alone.cause
  /-- The column is the same. -/
  column : found.column = alone.column
  /-- The line is further down by the lines of the sheet before the drawing. -/
  line : ∃ line, alone.line = some line ∧ found.line = some (line + source.firstLine - 2)
  /-- The source is named. -/
  sprite : found.sprite = some source.name
  /-- Unless there is no row, both places are those of one letter. -/
  letter : alone.kind ≠ .noRows → ∃ letter line column,
    alone.line = some line ∧ alone.column = some column ∧
      Text.FoundAt .newline (lines source.text) letter line column ∧
      Text.FoundAt .newline ((numberedLines sheet).map Line.codes) letter
        (line + source.firstLine - 2) column

/-- The fault of a drawing of characters is placed at one letter, and this letter is in the sheet as
far below as the drawing starts. -/
theorem exists_foundAt_of_parse (parsed : parse text defaultName = .ok sources)
    (member : source ∈ sources) {spelled : String} (same : source.text = Text.codePoints spelled)
    {alone : SpriteText.Fault} (rejected : Rejected (codes spelled) 0 alone)
    (some_row : alone.kind ≠ .noRows) :
    ∃ letter line column, alone.line = some line ∧ alone.column = some column ∧
      Text.FoundAt .newline (lines source.text) letter line column ∧
      Text.FoundAt .newline ((numberedLines text).map Line.codes) letter
        (line + source.firstLine - 2) column := by
  have spelling (told : CodePoint) : (source.read told).text = spelled := by
    rw [Source.read, same, Text.spelling_codePoints]
  have found (told : CodePoint) := Sheet.exists_foundAt_of_parse (parse_spelling parsed told)
    (List.mem_map_of_mem member) (by rw [spelling]; exact rejected) some_row
  obtain ⟨letter, line, column, at_line, at_column, first, -⟩ := found .newline
  -- The place is told by the fault and the letter by the place, so every reading has the same.
  have here (told : CodePoint) :
      Text.FoundAt '\n' (Text.lines (Text.reading told source.text)) letter line column ∧
        Text.FoundAt '\n'
          ((Sheet.numberedLines (Text.spelling told text)).map Sheet.Line.characters) letter
          (line + source.firstLine - 2) column := by
    obtain ⟨other, row, place, same_row, same_place, inside, below⟩ := found told
    obtain rfl : row = line := Option.some.inj (same_row.symm.trans at_line)
    obtain rfl : place = column := Option.some.inj (same_place.symm.trans at_column)
    rw [spelling] at inside first
    obtain rfl : other = letter := inside.unique first
    refine ⟨?_, below⟩
    rw [same, Text.reading_codePoints]
    exact inside
  refine ⟨.ofChar letter, line, column, at_line, at_column,
    Text.foundAt_of_reading fun told => ?_, Text.foundAt_of_reading fun told => ?_⟩
  · rw [← Text.lines_reading]
    exact (here told).1
  · have below := (here told).2
    rw [numberedLines_read, List.map_map] at below
    rw [List.map_map]
    exact below

/-- A source without surrogates is refused in its place. -/
theorem reports_of_compile_error (parsed : parse text defaultName = .ok sources)
    (member : source ∈ sources) (plain : Text.Encodable source.text) {fault : TextFault}
    (refused : source.compile alignTail = .error fault) :
    ∃ alone found, source.Reports text alone found ∧ fault = .drawing (.text found) := by
  obtain ⟨spelled, same⟩ := Text.encodable_iff.mp plain
  rw [Source.compile_read same .newline] at refused
  cases outcome : (source.read .newline).compile alignTail with
  | ok sprite => simp [outcome, Except.mapError] at refused
  | error found =>
    obtain ⟨alone, rejected, rfl⟩ := Sheet.Source.exists_of_compile_error outcome
    rw [Source.read, same, Text.spelling_codePoints] at rejected
    refine ⟨alone, (alone.below source.lineOffset).inSprite source.name, ?_, ?moved⟩
    case moved =>
      rw [outcome] at refused
      exact (Except.error.inj refused).symm
    constructor
    case refused =>
      intro alignTail
      rw [same, Drawing.compileText_codePoints,
        Drawing.compile_eq_error_iff.mpr ⟨alone, rfl, rejected⟩]
      rfl
    case cause => rfl
    case column => rfl
    case line =>
      obtain ⟨cause, line, column, rfl⟩ := rejected.exists_located
      exact ⟨line, rfl, congrArg some (Int.add_sub_assoc line source.firstLine 2).symm⟩
    case sprite => rfl
    case letter => exact exists_foundAt_of_parse parsed member same rejected

/-- A source with surrogates is refused for them, without its name or a place. -/
theorem Source.compile_of_not_encodable (lone : ¬Text.Encodable source.text) (alignTail : Bool) :
    source.compile alignTail = .error (.encoding (.find source.text)) := by
  rw [compile, Drawing.compileText_of_not_encodable lone]
  rfl

/-- Faults of a sheet are reported in their places. Every line of a drawing is the line of the sheet
with its number. A sheet that is not refused for its layout is refused for the first source that
cannot be compiled. If this source holds no surrogates, the fault is the one that its drawing has
alone, named and moved into the lines of the sheet, and the line and column lead to one letter in
both. If it does, the fault is the one that its drawing has alone and nothing else. -/
theorem faults_lead_into_sheet (text : List CodePoint) (defaultName : Option (List CodePoint)) :
    (∀ sources, parse text defaultName = .ok sources → ∀ source ∈ sources,
      ∃ rows, source.text = .newline :: rows ∧
        ∀ index line, (lines rows)[index]? = some line →
          ⟨source.firstLine + index, line⟩ ∈ numberedLines text) ∧
    ∀ alignTail fault, compile text defaultName alignTail = .error fault →
      (∃ found, parse text defaultName = .error found ∧ found.kind = .sheet ∧
        fault = .layout found) ∨
      ∃ front source back, parse text defaultName = .ok (front ++ source :: back) ∧
        (∀ earlier ∈ front, ∃ sprite, Drawing.compileText earlier.text alignTail 0 = .ok sprite) ∧
        (Text.Encodable source.text → ∃ alone found,
          source.Reports text alone found ∧ fault = .drawing (.drawing (.text found))) ∧
        (¬Text.Encodable source.text → ∃ found, found.Leads source.text ∧
          Drawing.compileText source.text alignTail 0 = .error (.encoding found) ∧
          fault = .drawing (.encoding found)) := by
  refine ⟨fun sources parsed source => mem_numberedLines_of_parse parsed,
    fun alignTail fault refused => ?_⟩
  rw [compile] at refused
  cases parsed : parse text defaultName with
  | error found =>
    simp only [parsed, Except.error.injEq] at refused
    exact .inl ⟨found, rfl, kind_of_parse_error parsed, refused.symm⟩
  | ok sources =>
    simp only [parsed] at refused
    cases outcome : compileInto .empty alignTail sources with
    | ok set => simp [outcome, Except.mapError] at refused
    | error found =>
      obtain rfl : .drawing found = fault := by simpa [outcome, Except.mapError] using refused
      obtain ⟨front, source, back, rfl, compiled, stopped⟩ := exists_of_compileInto_error outcome
      refine .inr ⟨front, source, back, rfl, compiled, fun plain => ?_, fun lone => ?_⟩
      · obtain ⟨alone, located, reports, rfl⟩ :=
          reports_of_compile_error parsed List.mem_append_cons_self plain stopped
        exact ⟨alone, located, reports, rfl⟩
      · rw [Source.compile_of_not_encodable lone, Except.error.injEq] at stopped
        subst stopped
        exact ⟨_, Text.Surrogates.leads_find lone,
          Drawing.compileText_of_not_encodable lone _ _, rfl⟩

/-- Behind a comment with a surrogate, another drawing, blank lines and carriage returns, a pair
that does not match is reported on its line of the sheet. -/
theorem faults_lead_behind_drawings :
    let sheet := Text.codePoints "# dots " ++ ⟨0xD800, by decide⟩ ::
      Text.codePoints "\r\n@sprite dot\r\n\n00\n\n@sprite bar\n \n 00\r\n0.\n"
    ∃ alone, Source.Reports sheet ⟨"bar", Text.codePoints "\n 00\n0.\n", 8⟩ alone
      ⟨.pairMismatch, some 9, some 2, some "bar"⟩ := by
  intro sheet
  have parsed : parse sheet none = .ok [⟨"dot", Text.codePoints "\n00\n", 4⟩,
      ⟨"bar", Text.codePoints "\n 00\n0.\n", 8⟩] := by
    decide
  have refused : compile sheet none false =
      .error (.drawing (.drawing (.text ⟨.pairMismatch, some 9, some 2, some "bar"⟩))) := rfl
  rcases (faults_lead_into_sheet sheet none).2 false _ refused with
    ⟨found, malformed, -⟩ | ⟨front, source, back, split, -, placed, unplaced⟩
  · rw [parsed] at malformed
    cases malformed
  · rw [parsed, Except.ok.injEq] at split
    have member : source ∈ front ++ source :: back := List.mem_append_cons_self
    rw [← split, List.mem_pair] at member
    have plain : Text.Encodable source.text := by rcases member with rfl | rfl <;> decide
    obtain ⟨alone, found, reports, same⟩ := placed plain
    cases same
    rcases member with rfl | rfl
    · exact absurd reports.sprite (by decide)
    · exact ⟨alone, reports⟩

/-- A drawing of surrogates is cut out of its sheet, and is refused without its name and line. -/
theorem lone_surrogates_unplaced :
    let lone : CodePoint := ⟨0xD800, by decide⟩
    let sheet := Text.codePoints "@sprite a\n" ++ [lone, lone, .newline]
    parse sheet none = .ok [⟨"a", [.newline, lone, lone, .newline], 2⟩] ∧
      compile sheet none false =
        .error (.drawing (.encoding { start := 1, run := [lone, lone] })) ∧
      ¬∃ source alone found, Source.Reports sheet source alone found ∧
        compile sheet none false = .error (.drawing (.drawing (.text found))) := by
  intro lone sheet
  have parsed : parse sheet none = .ok [⟨"a", [.newline, lone, lone, .newline], 2⟩] := by decide
  have lead : Text.Surrogates.find [.newline, lone, lone, .newline] =
      { start := 1, run := [lone, lone] } := by decide
  have refused : compile sheet none false =
      .error (.drawing (.encoding { start := 1, run := [lone, lone] })) := by
    rw [compile, parsed, ← lead]
    simp only
    rw [compileInto, Source.compile_of_not_encodable (by decide)]
    rfl
  refine ⟨parsed, refused, ?_⟩
  rintro ⟨source, alone, found, -, placed⟩
  rw [refused] at placed
  cases placed

end TextSheet

end SpriteText

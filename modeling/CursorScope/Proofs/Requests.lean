import CursorScope.CommandLine.Run
import CursorScope.Proofs.Budgets

/-!
# What becomes of a request

`ExtractRequest.problems` lists whatever is wrong with a request for an excerpt, each problem by a
condition of its own: no source, a missing file, no language, a selection that is reversed.
`CommandLine.run_extract`, the theorem to read first, says that a run ends with the first of them,
and where there is none with the excerpt of the document that the source names. A document has the
normal form of the path of its file, which goes by the same suffix (`Path.suffix_normalize`).
-/

namespace CursorScope

/-! ## Paths -/

namespace Path

/-- A slash in front adds an empty component, which does not count. -/
theorem components_slash_append (text : String) : components ("/" ++ text) = components text := by
  have hslash : ("/" ++ text).toList.splitOn '/' = [] :: text.toList.splitOn '/' := by
    rw [String.toList_append]
    exact List.splitOn_cons_eq_if_modifyHead ..
  rw [components, hslash]
  rfl

theorem components_root_append (path text : String) :
    components (root path ++ text) = components text := by
  unfold root
  split
  · rw [String.empty_append]
  · exact (components_slash_append ("/" ++ text)).trans (components_slash_append text)
  · exact components_slash_append text

/-- A component has no slashes. -/
theorem slash_not_mem_of_mem_components {path part : String} (h : part ∈ components path) :
    '/' ∉ part.toList := by
  obtain ⟨cs, hcs, rfl⟩ := List.mem_map.1 (List.mem_filter.1 h).1
  rw [String.toList_ofList]
  exact Text.not_mem_of_mem_splitOn hcs

/-- Components are read back from the text that joins them. -/
theorem components_intercalate (path : String) :
    components (String.intercalate "/" (components path)) = components path := by
  cases hparts : components path with
  | nil => decide
  | cons part parts =>
      rw [← hparts]
      have hslash : ∀ cs ∈ (components path).map String.toList, '/' ∉ cs := by
        intro cs hcs
        obtain ⟨part, hpart, rfl⟩ := List.mem_map.1 hcs
        exact slash_not_mem_of_mem_components hpart
      have hsplit : (String.intercalate "/" (components path)).toList.splitOn '/' =
          (components path).map String.toList := by
        rw [String.toList_intercalate]
        exact List.splitOn_intercalate _ hslash (by simp [hparts])
      rw [components, hsplit, List.map_map, String.ofList_comp_toList, List.map_id]
      exact List.filter_eq_self.2 fun part hpart => (List.mem_filter.1 hpart).2

/-- The normal form of a path has the components of the path. -/
theorem components_normalize (path : String) : components (normalize path) = components path := by
  have htext := (components_root_append path _).trans (components_intercalate path)
  dsimp only [normalize]
  split
  · next hempty =>
      rw [String.isEmpty_iff.1 hempty] at htext
      rw [← htext]
      decide
  · exact htext

theorem suffix_normalize (path : String) : suffix (normalize path) = suffix path := by
  rw [suffix, components_normalize, ← suffix]

theorem isEmpty_normalize (path : String) : (normalize path).isEmpty = false := by
  dsimp only [normalize]
  split
  · decide
  · next hne => exact Bool.eq_false_iff.2 hne

end Path

/-- A path has the language of its normal form. -/
theorem Language.ofPath_normalize (path : String) : ofPath (Path.normalize path) = ofPath path := by
  unfold ofPath
  rw [Path.suffix_normalize]

theorem Language.resolve_normalize (name : Option String) (path : String) :
    resolve name (some (Path.normalize path)) = resolve name (some path) := by
  unfold resolve
  cases name.filter (!·.isEmpty) with
  | some name => rfl
  | none => exact ofPath_normalize path

/-! ## Sources -/

namespace Source

variable {source : Source} {readFile : String → Except FileError String} {doc : Document}

/-- The path that a source is at, which a given text hides. -/
def visiblePath (source : Source) : Option String :=
  if source.code.isSome then none else source.path

theorem visiblePath_of_code {text : String} (hcode : source.code = some text) :
    source.visiblePath = none := by
  rw [visiblePath, hcode]
  rfl

theorem visiblePath_of_no_code (hcode : source.code = none) : source.visiblePath = source.path := by
  rw [visiblePath, hcode]
  rfl

/-- The file that a source is at, if it is at one, is missing or can be read. -/
def Readable (source : Source) (readFile : String → Except FileError String) : Prop :=
  ∀ path, source.visiblePath = some path →
    readFile path = .error .missing ∨ ∃ text, readFile path = .ok text

/-- A source names a document: the given text, which is nowhere, or the text of a file with unified
newlines, at the normal form of its path. -/
inductive Names (source : Source) (readFile : String → Except FileError String) : Document → Prop
  | code {text : String} (hcode : source.code = some text) :
      Names source readFile (.ofText text "")
  | file {path text : String} (hcode : source.code = none) (hpath : source.path = some path)
      (hread : readFile path = .ok text) :
      Names source readFile
        (.ofText (.ofList (Text.unifyNewlines text.toList)) (Path.normalize path))

/-- Everything that is wrong with a source, each problem by a condition of its own. -/
def problems (source : Source) (readFile : String → Except FileError String) :
    List RequestError :=
  (if source.code = none ∧ source.path = none then [.noSource] else []) ++
  (match source.visiblePath with
    | some path => if readFile path = .error .missing then [.missingFile path] else []
    | none => []) ++
  (match Language.resolve source.language source.visiblePath with
    | .error e => [.language e]
    | .ok _ => [])

/-- There is no text and no path, or only the path of a missing file, or a document. -/
theorem Readable.cases (h : source.Readable readFile) :
    (source.code = none ∧ source.path = none) ∨
    (∃ path, source.code = none ∧ source.path = some path ∧ readFile path = .error .missing) ∨
    ∃ doc, source.Names readFile doc := by
  cases hcode : source.code with
  | some text => exact .inr (.inr ⟨_, .code hcode⟩)
  | none =>
      cases hpath : source.path with
      | none => exact .inl ⟨rfl, rfl⟩
      | some path =>
          rcases h path ((visiblePath_of_no_code hcode).trans hpath) with hmissing | ⟨text, hread⟩
          · exact .inr (.inl ⟨path, rfl, rfl, hmissing⟩)
          · exact .inr (.inr ⟨_, .file hcode hpath hread⟩)

theorem Names.document_eq (h : source.Names readFile doc) :
    CommandLine.document readFile source = .ok doc := by
  unfold CommandLine.document
  cases h with
  | code hcode => rw [hcode]
  | file hcode hpath hread =>
      rw [hcode, hpath]
      dsimp only
      rw [hread]

/-- The language of a document is looked for where the source is. -/
theorem Names.resolve_eq (h : source.Names readFile doc) (name : Option String) :
    Language.resolve name (if doc.uri.isEmpty then none else some doc.uri) =
      Language.resolve name source.visiblePath := by
  cases h with
  | code hcode =>
      rw [visiblePath_of_code hcode]
      rfl
  | file hcode hpath hread =>
      rw [Document.uri_ofText, Path.isEmpty_normalize, if_neg Bool.false_ne_true,
        Language.resolve_normalize, visiblePath_of_no_code hcode, hpath]

/-- A source that names a document can only be without a language. -/
theorem Names.problems_eq (h : source.Names readFile doc) : source.problems readFile =
    match Language.resolve source.language source.visiblePath with
    | .error e => [.language e]
    | .ok _ => [] := by
  unfold problems
  cases h with
  | code hcode =>
      rw [visiblePath_of_code hcode, hcode]
      rfl
  | file hcode hpath hread =>
      rw [visiblePath_of_no_code hcode, hpath]
      simp [hread]

end Source

/-! ## Selections -/

namespace ExtractRequest

variable {request : ExtractRequest}

/-- Where the selection of a request ends: missing parts are those of its start. -/
def stop (request : ExtractRequest) : Position :=
  ⟨request.endLine.getD request.start.line, request.endCharacter.getD request.start.character⟩

/-- Everything that is wrong with a request, each problem by a condition of its own. -/
def problems (request : ExtractRequest) (readFile : String → Except FileError String) :
    List RequestError :=
  request.source.problems readFile ++
    if request.stop < request.start then [.reversedSelection] else []

theorem target_of_lt (h : request.stop < request.start) :
    request.target = .error .reversedSelection :=
  dif_neg (Position.not_le.2 h)

/-- A selection that is not reversed is the range of its coordinates, which are accepted as one. -/
theorem exists_target (h : ¬ request.stop < request.start) :
    ∃ target, request.target = .ok target ∧
      Range.ofInts request.start.line request.start.character request.stop.line
        request.stop.character = .ok target := by
  have hle : request.start ≤ request.stop := Classical.not_not.1 (mt Position.not_le.1 h)
  refine ⟨⟨request.start, request.stop, hle⟩, dif_pos hle, ?_⟩
  unfold Range.ofInts
  rw [Position.ofInts_natCast, Position.ofInts_natCast]
  exact Range.between_eq_ok hle

end ExtractRequest

/-! ## Runs -/

namespace CommandLine

variable {setting : Setting} {source : Source} {request : ExtractRequest}

/-- What is left behind for an excerpt, or for the error in its place. -/
def Result.ofExtraction (json : Bool) (language : Language) :
    Except ExcerptError Excerpt → Result
  | .error e => { outcome := .failure e }
  | .ok excerpt =>
      if json then { outcome := .success, written := excerpt.toJson.render 0 ++ "\n" }
      else { outcome := .success, shown := excerpt.display language }

/-- The first problem of a source is what loading it ends with. -/
theorem load_of_problem (maxLines : Option Int) (hreadable : source.Readable setting.readFile)
    {e : RequestError} (h : (source.problems setting.readFile).head? = some e) :
    load setting source maxLines = pure (.error (.request e)) := by
  unfold load
  -- Whatever else is wrong with the source stands behind the problem of each case.
  rcases hreadable.cases with ⟨hcode, hpath⟩ | ⟨path, hcode, hpath, hmissing⟩ | ⟨doc, hnames⟩
  · have he : e = .noSource := by
      simpa [Source.problems, hcode, hpath, eq_comm] using h
    have hdocument : document setting.readFile source = .error (.request .noSource) := by
      rw [document, hcode, hpath]
    rw [hdocument, he]
  · have he : e = .missingFile path := by
      simpa [Source.problems, Source.visiblePath, hcode, hpath, hmissing, eq_comm] using h
    have hdocument : document setting.readFile source = .error (.request (.missingFile path)) := by
      rw [document, hcode, hpath]
      dsimp only
      rw [hmissing]
    rw [hdocument, he]
  · rw [hnames.problems_eq] at h
    have hresolve := hnames.resolve_eq source.language
    cases hlanguage : Language.resolve source.language source.visiblePath with
    | ok language => simp [hlanguage] at h
    | error problem =>
        have he : e = .language problem := by simpa [hlanguage, eq_comm] using h
        rw [hlanguage] at hresolve
        rw [hnames.document_eq, he]
        dsimp only
        rw [Finder.forDocument, hresolve]
        rfl

/-- A source without problems is loaded as the document that it names. -/
theorem load_of_no_problem (maxLines : Option Int) (hreadable : source.Readable setting.readFile)
    (h : source.problems setting.readFile = []) :
    ∃ doc finder, source.Names setting.readFile doc ∧
      (Finder.forDocument doc source.language maxLines setting.environment).value = .ok finder ∧
      load setting source maxLines =
        ⟨(Finder.forDocument doc source.language maxLines setting.environment).records,
          .ok (doc, finder)⟩ := by
  rcases hreadable.cases with ⟨hcode, hpath⟩ | ⟨path, hcode, hpath, hmissing⟩ | ⟨doc, hnames⟩
  · simp [Source.problems, hcode, hpath] at h
  · simp [Source.problems, Source.visiblePath, hcode, hpath, hmissing] at h
  · rw [hnames.problems_eq] at h
    cases hlanguage : Language.resolve source.language source.visiblePath with
    | error problem => simp [hlanguage] at h
    | ok language =>
        have hfinder := Finder.value_forDocument doc source.language maxLines setting.environment
        rw [hnames.resolve_eq, hlanguage] at hfinder
        refine ⟨doc, _, hnames, hfinder, ?_⟩
        unfold load
        rw [hnames.document_eq]
        dsimp only
        rw [Logged.bind_eq, hfinder]
        simp [Except.map]

/-- A request ends with its first problem: one of its source, or else a reversed selection. -/
theorem extract_of_problem (hreadable : request.source.Readable setting.readFile)
    {e : RequestError} (h : (request.problems setting.readFile).head? = some e) :
    (extract setting request).value = { outcome := .usage (.request e) } := by
  unfold extract
  rw [Logged.value_bind]
  rw [ExtractRequest.problems, List.head?_append] at h
  cases hsource : (request.source.problems setting.readFile).head? with
  | some problem =>
      rw [load_of_problem request.maxLines hreadable hsource]
      rw [hsource] at h
      cases h
      rfl
  | none =>
      obtain ⟨doc, finder, -, -, hload⟩ :=
        load_of_no_problem request.maxLines hreadable (List.head?_eq_none_iff.1 hsource)
      rw [hload]
      rw [hsource, Option.none_or] at h
      split at h
      · next hlt =>
          cases h
          dsimp only
          rw [ExtractRequest.target_of_lt hlt]
          rfl
      · cases h

/-- A request without problems ends with the excerpt of the document that its source names. -/
theorem extract_of_no_problem (hreadable : request.source.Readable setting.readFile)
    (h : request.problems setting.readFile = []) :
    ∃ doc finder target, request.source.Names setting.readFile doc ∧
      Range.ofInts request.start.line request.start.character request.stop.line
        request.stop.character = .ok target ∧
      let made :=
        Finder.forDocument doc request.source.language request.maxLines setting.environment
      let extraction := finder.extract doc setting.answer target none
      made.value = .ok finder ∧
      extract setting request = ⟨made.records ++ extraction.records,
        .ofExtraction request.json finder.language extraction.value⟩ := by
  obtain ⟨hsource, hselection⟩ := List.append_eq_nil_iff.1 h
  have hordered : ¬ request.stop < request.start := by
    intro hlt
    rw [if_pos hlt] at hselection
    cases hselection
  obtain ⟨target, htarget, hrange⟩ := ExtractRequest.exists_target hordered
  obtain ⟨doc, finder, hnames, hfinder, hload⟩ :=
    load_of_no_problem request.maxLines hreadable hsource
  refine ⟨doc, finder, target, hnames, hrange, hfinder, ?_⟩
  unfold extract
  rw [hload, Logged.bind_eq]
  dsimp only
  rw [htarget]
  simp only [Logged.records_bind, Logged.value_bind]
  cases (finder.extract doc setting.answer target none).value with
  | error e => simp [Result.ofExtraction]
  | ok excerpt => cases request.json <;> simp [Result.ofExtraction]

theorem runWith_of_command {reader : Reader} {words : List String} {opening : Opening}
    {level : Level} {command : Command} (hopening : reader.opening words = .ok (some opening))
    (hlevel : logLevel setting.environment opening.verbose = .ok level)
    (hcommand : reader.command opening.command opening.words = .ok command) :
    runWith reader setting words = reportOf level (perform setting command) := by
  unfold runWith
  simp only [hopening, hlevel, hcommand]

/-- However its words are read, a command line that asks for an excerpt, of a text or of a file that
is missing or can be read, ends with the first of its problems, and without problems with what its
finder extracts from its document for its selection, whose coordinates are then accepted as a
range. -/
theorem run_extract (reader : Reader) {words : List String} {opening : Opening} {level : Level}
    (hopening : reader.opening words = .ok (some opening))
    (hlevel : logLevel setting.environment opening.verbose = .ok level)
    (hcommand : reader.command opening.command opening.words = .ok (.extract request))
    (hreadable : request.source.Readable setting.readFile) :
    let report := runWith reader setting words
    (∀ e, (request.problems setting.readFile).head? = some e →
      report.outcome = .usage (.request e) ∧ report.written = "" ∧ report.shown = []) ∧
    (request.problems setting.readFile = [] →
      ∃ doc finder target, request.source.Names setting.readFile doc ∧
        Range.ofInts request.start.line request.start.character request.stop.line
          request.stop.character = .ok target ∧
        let made :=
          Finder.forDocument doc request.source.language request.maxLines setting.environment
        let extraction := finder.extract doc setting.answer target none
        made.value = .ok finder ∧
        report = reportOf level ⟨made.records ++ extraction.records,
          .ofExtraction request.json finder.language extraction.value⟩) := by
  intro report
  have hreport : report = reportOf level (extract setting request) :=
    runWith_of_command hopening hlevel hcommand
  refine ⟨fun e he => ?_, fun hnone => ?_⟩
  · rw [hreport, reportOf, extract_of_problem hreadable he]
    exact ⟨rfl, rfl, rfl⟩
  · obtain ⟨doc, finder, target, hnames, hrange, hmade, hextract⟩ :=
      extract_of_no_problem hreadable hnone
    refine ⟨doc, finder, target, hnames, hrange, hmade, ?_⟩
    rw [hreport, hextract]

/-- Of three problems the first is told, and a file is shown from the line that is asked for. -/
theorem run_extract_notes :
    let setting : Setting := ⟨.empty, Files.read [("notes.py", "a\r\nb\n")], .nothing⟩
    let wrong : ExtractRequest :=
      ⟨⟨some "notes.txt", none, none⟩, ⟨2, 1⟩, some 1, none, none, false⟩
    let right : ExtractRequest :=
      ⟨⟨some "./notes.py", none, none⟩, ⟨1, 0⟩, none, some 1, some 1, false⟩
    let wrongWords := ["-l", "2", "-c", "1", "--end-line", "1", "notes.txt"]
    let rightWords := ["-l", "1", "-c0", "--end-character=1", "--max-lines", "1", "./notes.py"]
    Opening.read ("extract" :: wrongWords) = .ok (some ⟨false, .extract, wrongWords⟩) ∧
    Opening.read ("extract" :: rightWords) = .ok (some ⟨false, .extract, rightWords⟩) ∧
    logLevel setting.environment false = .ok .warning ∧
    Command.read .extract wrongWords = .ok (.extract wrong) ∧
    Command.read .extract rightWords = .ok (.extract right) ∧
    wrong.source.Readable setting.readFile ∧ right.source.Readable setting.readFile ∧
    wrong.problems setting.readFile =
      [.missingFile "notes.txt", .language (.unsupportedSuffix ".txt"), .reversedSelection] ∧
    (run setting ("extract" :: wrongWords)).outcome =
      .usage (.request (.missingFile "notes.txt")) ∧
    right.problems setting.readFile = [] ∧
    (run setting ("extract" :: rightWords)).shown = [.code "b" "python" 2 true,
      .text "[yellow]Focused code truncated to fit the line budget.[/yellow]" none] := by
  intro setting wrong right wrongWords rightWords
  have hwrongWords : Opening.read ("extract" :: wrongWords) =
      .ok (some ⟨false, .extract, wrongWords⟩) := by decide +kernel
  have hrightWords : Opening.read ("extract" :: rightWords) =
      .ok (some ⟨false, .extract, rightWords⟩) := by decide +kernel
  have hlevel : logLevel setting.environment false = .ok .warning := by decide +kernel
  have hwrong : Command.read .extract wrongWords = .ok (.extract wrong) := by decide +kernel
  have hright : Command.read .extract rightWords = .ok (.extract right) := by decide +kernel
  have hmissing : wrong.source.Readable setting.readFile := by
    rintro path hpath
    cases hpath
    exact .inl (by decide +kernel)
  have hread : setting.readFile "./notes.py" = .ok "a\r\nb\n" := by decide +kernel
  have hreadable : right.source.Readable setting.readFile := by
    rintro path hpath
    cases hpath
    exact .inr ⟨_, hread⟩
  have hproblems : wrong.problems setting.readFile =
      [.missingFile "notes.txt", .language (.unsupportedSuffix ".txt"), .reversedSelection] := by
    decide +kernel
  have hnone : right.problems setting.readFile = [] := by decide +kernel
  obtain ⟨htold, -⟩ := run_extract .ofOptions hwrongWords hlevel hwrong hmissing
  obtain ⟨-, hshown⟩ := run_extract .ofOptions hrightWords hlevel hright hreadable
  obtain ⟨hfirst, -⟩ := htold _ (by rw [hproblems]; rfl)
  obtain ⟨doc, finder, target, hnames, hrange, hmade, hreport⟩ := hshown hnone
  refine ⟨hwrongWords, hrightWords, hlevel, hwrong, hright, hmissing, hreadable, hproblems, hfirst,
    hnone, ?_⟩
  have hdoc : doc = .ofText "a\nb\n" "notes.py" := by
    cases hnames with
    | code hcode => cases hcode
    | file hcode hpath htext =>
        cases hpath
        rw [hread] at htext
        cases htext
        decide +kernel
  have hfinder : finder = ⟨.python, .ofInt 1⟩ := by
    rw [hdoc] at hmade
    exact Except.ok.inj (hmade.symm.trans (by decide +kernel))
  have htarget : target = ⟨⟨1, 0⟩, ⟨1, 1⟩, by decide⟩ :=
    Except.ok.inj (hrange.symm.trans (by decide +kernel))
  rw [run, hreport, hdoc, hfinder, htarget]
  decide +kernel

end CommandLine

end CursorScope

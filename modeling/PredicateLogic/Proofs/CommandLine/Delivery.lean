import PredicateLogic.CommandLine.Run
import PredicateLogic.Proofs.CommandLine.Reply
import PredicateLogic.Proofs.Files.Writing

/-!
# A report in full or none at all

Reading settings and sources changes no files. So a run whose files can be read
and written delivers the report of its reply as it is, to the output or into a
file, and leaves both alone if there is none.
-/

namespace PredicateLogic.CommandLine

/-- Whether there is something to report about a text: it can be read, its
identifiers have roles if these are asked for, and its truth table is not too
large if that is asked for. -/
def Reportable (r : Request) (limit : Nat) (text : String) : Prop :=
  ∃ f, Formula.parse text = .ok f ∧
    (r.noAnalysis = true ∨ ∃ roles, f.analyze = .ok roles) ∧
    r.command.Manages limit f

/-- A request with its surroundings and the files that it meets. -/
structure Job where
  surroundings : Surroundings
  request : Request
  tree : FileTree

namespace Job

/-- The outcome of a job, and the files after it. -/
def result (j : Job) : Outcome × FileTree :=
  (respond FileTree.access j.surroundings j.request).run j.tree

/-- The answer of a job, given what it reads. -/
def reply (j : Job) (settings : Settings) (source : Source) : Reply :=
  j.request.command.reply (mannerOf j.surroundings settings j.request) source

/-- Whether the settings and the source of a job can be read, and its report can
be written. -/
structure Served (j : Job) (settings : Settings) (source : Source) : Prop where
  settings_read : ∃ loaded,
    ((loadSettings FileTree.access j.surroundings.debugging
      (settingsPath? j.surroundings j.request.config)).run j.tree).1 =
        .ok (settings, loaded)
  source_read :
    ((loadSource FileTree.access j.request.input).run j.tree).1 = .ok source
  written : ∀ path, j.request.out = some path → ∀ text,
    ((FileTree.access.writeText path text).run j.tree).1 = .ok ()

/-- What the output holds after a job, or the file that takes the report. -/
def delivered (j : Job) : Except Fault String :=
  match j.request.out with
  | none => .ok j.result.1.output
  | some path => j.result.2.read (.ofText path)

theorem run_loadSettings (debugging : Bool) (path? : Option String)
    (t : FileTree) :
    ((loadSettings FileTree.access debugging path?).run t).2 = t := by
  cases path? with
  | none => rfl
  | some path =>
      rw [loadSettings, FileTree.run_bind (FileTree.run_isPresent path t)]
      split
      · rw [FileTree.run_bind (FileTree.run_readText path t)]
        split
        · rfl
        · split <;> rfl
      · rfl

theorem run_loadSource (input : Input) (t : FileTree) :
    ((loadSource FileTree.access input).run t).2 = t := by
  cases input with
  | formula text => rfl
  | file path =>
      rw [loadSource, FileTree.run_bind (FileTree.run_readText path t)]
      split <;> rfl

variable {j : Job} {settings : Settings} {source : Source} {report : String}

/-- A job that can be served sends what its reply has to report, if anything. -/
theorem Served.result_eq (h : j.Served settings source) :
    ∃ messages, j.result =
      match (j.reply settings source).report with
      | none => (⟨1, "", messages⟩, j.tree)
      | some report =>
        (deliver FileTree.access
          (mannerOf j.surroundings settings j.request).colored j.request.out
          messages report).run j.tree := by
  obtain ⟨loaded, hsettings⟩ := h.settings_read
  have hload : (loadSettings FileTree.access j.surroundings.debugging
      (settingsPath? j.surroundings j.request.config)).run j.tree =
        (.ok (settings, loaded), j.tree) :=
    Prod.ext hsettings (run_loadSettings _ _ _)
  have hsource : (loadSource FileTree.access j.request.input).run j.tree =
      (.ok source, j.tree) :=
    Prod.ext h.source_read (run_loadSource _ _)
  refine ⟨loaded ++ (j.reply settings source).messages, ?_⟩
  rw [result, respond, FileTree.run_bind hload]
  simp only
  rw [FileTree.run_bind hsource, reply]
  simp only
  cases
    (j.request.command.reply (mannerOf j.surroundings settings j.request)
      source).report <;> rfl

theorem Served.refuses (h : j.Served settings source)
    (hreport : (j.reply settings source).report = none) :
    j.result.1.code ≠ 0 ∧ j.result.1.output = "" ∧ j.result.2 = j.tree := by
  obtain ⟨messages, hresult⟩ := h.result_eq
  rw [hreport] at hresult
  rw [hresult]
  exact ⟨Nat.one_ne_zero, rfl, rfl⟩

theorem Served.delivers (h : j.Served settings source)
    (hreport : (j.reply settings source).report = some report) :
    j.result.1.code = 0 ∧ j.delivered = .ok report ∧
      (j.request.out = none → j.result.2 = j.tree) := by
  obtain ⟨messages, hresult⟩ := h.result_eq
  rw [hreport] at hresult
  cases hout : j.request.out with
  | none =>
      rw [hout] at hresult
      rw [delivered, hout, hresult]
      exact ⟨rfl, rfl, fun _ => rfl⟩
  | some path =>
      have hwrite :
          (FileTree.access.writeText path report).run j.tree = (.ok (), _) :=
        Prod.ext (h.written path hout report) rfl
      simp only [hout, deliver] at hresult
      rw [FileTree.run_bind hwrite] at hresult
      rw [delivered, hout, hresult]
      exact ⟨rfl, FileTree.read_writeText hwrite,
        fun hnone => absurd hnone (by simp)⟩

/-- There is a report exactly if there is something to report. -/
theorem exists_report_iff :
    (∃ report, (j.reply settings source).report = some report) ↔
      Reportable j.request settings.maxTableTerms source.text := by
  simp only [reply, Command.reply_report_eq_some_iff, check_eq_ok_iff,
    Reportable, mannerOf]
  constructor
  · rintro ⟨report, c, ⟨hparse, hroles⟩, hmanages, -⟩
    refine ⟨c.formula, hparse, ?_, hmanages⟩
    rcases hroles with ⟨hskipped, -⟩ | ⟨-, roles, hanalyze, -⟩
    · exact .inl (by simpa using hskipped)
    · exact .inr ⟨roles, hanalyze⟩
  · rintro ⟨f, hparse, hroles, hmanages⟩
    cases hskipped : j.request.noAnalysis with
    | true => exact ⟨_, ⟨f, none⟩, ⟨hparse, .inl ⟨rfl, rfl⟩⟩, hmanages, rfl⟩
    | false =>
        obtain ⟨roles, hanalyze⟩ := hroles.resolve_left (by simp [hskipped])
        exact ⟨_, ⟨f, some roles⟩, ⟨hparse, .inr ⟨rfl, roles, hanalyze, rfl⟩⟩,
          hmanages, rfl⟩

/-- The exit code tells whether there is a report. -/
theorem Served.code_eq_zero_iff (h : j.Served settings source) :
    j.result.1.code = 0 ↔
      ∃ report, (j.reply settings source).report = some report := by
  cases hreport : (j.reply settings source).report with
  | none => simpa using (h.refuses hreport).1
  | some report => simpa using (h.delivers hreport).1

/-- What is delivered is the text of the report about the checked formula. -/
theorem Served.exists_delivered (h : j.Served settings source)
    (hcode : j.result.1.code = 0) :
    ∃ c, check source.text (!j.request.noAnalysis) = .ok c ∧
      j.delivered =
        .ok (j.request.command.reportText j.request.json settings.glyphs c) ∧
      (j.request.out = none → j.result.2 = j.tree) := by
  obtain ⟨report, hreport⟩ := h.code_eq_zero_iff.mp hcode
  obtain ⟨c, hcheck, -, rfl⟩ := Command.reply_report_eq_some_iff.mp hreport
  obtain ⟨-, hdelivered, hkept⟩ := h.delivers hreport
  exact ⟨c, hcheck, hdelivered, hkept⟩

/-- Jobs that ask about the same text for reports in the same form. -/
structure Alike (j j' : Job) (settings settings' : Settings)
    (source source' : Source) : Prop where
  noAnalysis : j'.request.noAnalysis = j.request.noAnalysis
  json : j'.request.json = j.request.json
  glyphs : settings'.glyphs = settings.glyphs
  text : source'.text = source.text

/-- A job that can be served succeeds exactly if there is something to report,
and otherwise leaves the output and all files alone. If it succeeds, the report
is delivered in full. Jobs that are alike deliver the same report if they have
the same subcommand; and a table says what a check says, with a truth table
behind it if the formula is propositional. -/
theorem delivers_all_or_nothing (h : j.Served settings source) :
    (j.result.1.code = 0 ↔
      Reportable j.request settings.maxTableTerms source.text) ∧
      (j.result.1.code ≠ 0 → j.result.1.output = "" ∧ j.result.2 = j.tree) ∧
      (j.result.1.code = 0 →
        ∃ c, check source.text (!j.request.noAnalysis) = .ok c ∧
        j.delivered =
          .ok (j.request.command.reportText j.request.json settings.glyphs c) ∧
        (j.request.out = none → j.result.2 = j.tree)) ∧
      ∀ j' settings' source', j'.Served settings' source' →
        j.Alike j' settings settings' source source' →
        j.result.1.code = 0 → j'.result.1.code = 0 →
        ∃ report report', j.delivered = .ok report ∧
          j'.delivered = .ok report' ∧
          (j'.request.command = j.request.command → report' = report) ∧
          (j.request.command = .check → j'.request.command = .table →
            ∀ f, Formula.parse source.text = .ok f →
              (f.isPropositional = false → report' = report) ∧
              (f.isPropositional = true → j.request.json = false →
                ∃ rest, report' = report ++ rest)) := by
  refine ⟨h.code_eq_zero_iff.trans exists_report_iff, fun hcode => ?_,
    h.exists_delivered, ?_⟩
  · cases hreport : (j.reply settings source).report with
    | none => exact (h.refuses hreport).2
    | some report => exact absurd (h.delivers hreport).1 hcode
  · intro j' settings' source' h' halike hcode hcode'
    obtain ⟨c, hcheck, hdelivered, -⟩ := h.exists_delivered hcode
    obtain ⟨c', hcheck', hdelivered', -⟩ := h'.exists_delivered hcode'
    rw [halike.text, halike.noAnalysis, hcheck] at hcheck'
    obtain rfl := Except.ok.inj hcheck'
    rw [halike.json, halike.glyphs] at hdelivered'
    refine ⟨_, _, hdelivered, hdelivered', fun hsame => by rw [hsame],
      fun hfirst hsecond f hparse => ?_⟩
    obtain rfl : c.formula = f :=
      Except.ok.inj ((check_eq_ok_iff.mp hcheck).1.symm.trans hparse)
    rw [hfirst, hsecond]
    refine ⟨Command.reportText_table_of_not_propositional,
      fun hproper hjson => ?_⟩
    obtain ⟨table, htable⟩ := Command.reportText_table_of_propositional hproper
    rw [hjson]
    exact ⟨_, htable⟩

theorem delivers_all_or_nothing_into_file :
    let tree : FileTree := ⟨.folder [], .ofText "/"⟩
    let j : Job :=
      ⟨⟨none, false, false⟩,
        ⟨.check, .formula "a", false, false, false, none, none⟩, tree⟩
    let j' : Job :=
      ⟨⟨none, true, true⟩,
        ⟨.table, .formula "a", true, false, false, none, some "r.txt"⟩, tree⟩
    let source : Source := ⟨"<formula>", "a"⟩
    (j.Served .default source ∧ j'.Served .default source ∧
      j.Alike j' .default .default source source) ∧
      j.result.1.code = 0 ∧ j'.result.1.code = 0 ∧
      ∃ report rest, j.result.1.output = report ∧
        j'.result.2.read (.ofText "r.txt") = .ok (report ++ rest) := by
  intro tree j j' source
  have hsource : Source.ofRaw "<formula>" "a" = source := by decide +kernel
  have hserved : j.Served .default source :=
    ⟨⟨_, rfl⟩, congrArg _ hsource, fun path hpath => absurd hpath (by simp [j])⟩
  have hserved' : j'.Served .default source := by
    refine ⟨⟨_, rfl⟩, congrArg _ hsource, fun path hpath text => ?_⟩
    obtain rfl : "r.txt" = path := Option.some.inj hpath
    let draft := (Path.ofText "r.txt").draft tree.home 0
    -- the search of a text for a character does not evaluate by itself
    have hfault : ∀ p ∈ [.here, draft, .ofText "r.txt"], p.fault? = none := by
      simp only [Path.fault?, Path.hasNul, String.contains_char_eq]
      decide +kernel
    have hwalk : ∀ p ∈ [.here, draft, .ofText "r.txt"],
        tree.walk p = (tree.home.join p).names.foldlM tree.step [] :=
      fun p hp => FileTree.walk_of_fault?_eq_none (hfault p hp)
    have hwritten := FileTree.run_writeText text (by decide)
      (hwalk .here (by simp)) rfl (hwalk draft (by simp)) (by decide)
      (by decide) (hwalk (.ofText "r.txt") (by simp)) rfl
    rw [hwritten]
  have halike : j.Alike j' .default .default source source :=
    ⟨rfl, rfl, rfl, rfl⟩
  have hnfc : Unicode.nfc "a".toList = "a".toList := by decide +kernel
  have hparse : Formula.parse "a" = .ok (.symbol "a" ⟨0, 1⟩) := by
    rw [Formula.parse, Session.ofText, hnfc]
    rfl
  obtain ⟨hcode, -, -, hpairs⟩ := delivers_all_or_nothing hserved
  obtain ⟨hcode', -⟩ := delivers_all_or_nothing hserved'
  have hzero := hcode.mpr
    ⟨_, hparse, .inr ⟨_, rfl⟩, fun htable => absurd htable (by decide)⟩
  have hzero' := hcode'.mpr ⟨_, hparse, .inr ⟨_, rfl⟩, fun _ _ => by decide⟩
  obtain ⟨report, report', hreport, hreport', -, htable⟩ :=
    hpairs j' .default source hserved' halike hzero hzero'
  obtain ⟨rest, rfl⟩ := (htable rfl rfl _ hparse).2 rfl rfl
  exact ⟨⟨hserved, hserved', halike⟩, hzero, hzero', report, rest,
    Except.ok.inj hreport, hreport'⟩

end Job

end PredicateLogic.CommandLine

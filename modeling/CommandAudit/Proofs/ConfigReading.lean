import CommandAudit.Proofs.DocumentBytes
import CommandAudit.Proofs.PathLength
import CommandAudit.Proofs.ValidSettings

/-!
# Reading settings and catalogues

A file of settings gives valid settings or is refused with its path, and so is a catalogue, unless
its document breaks off the reading (`FileTree.BreaksOff`): a document that is no text, a scalar
without a value and a key that is no text are not refused, but end the run. Which documents these
are is for the reader of documents to say; the short ones that are no text are among them for the
usual one (`FileTree.breaksOff_of_ill_formed`). A command ends accordingly, with the line for the
error or with the fault (`Environment.reads_configuration`).
-/

namespace CommandAudit

/-! ## Breaking off -/

namespace FileTree

/-- Reading a record from the bytes of a document ends the run with the fault. -/
inductive BreaksOff (t : FileTree) (bytes : List UInt8) : Breakdown → Prop
  /-- The reader fails for a reason that is no error of the document as such: the document is no
  text, a scalar in it has no value, or it is nested too deeply. -/
  | document {e : Yaml.YamlError} : t.readYaml bytes = .error e → e.isOfDocument = false →
      BreaksOff t bytes (.document e)
  /-- The document is a mapping with a key that is no text. -/
  | key {entries : List (Value × Value)} {entry : Value × Value} :
      t.readYaml bytes = .ok (.mapping entries) → entry ∈ entries → (∀ s, entry.1 ≠ .text s) →
      BreaksOff t bytes .keyNotText

variable {t : FileTree} {bytes : List UInt8}

theorem BreaksOff.unique {fault fault' : Breakdown} (h : t.BreaksOff bytes fault)
    (h' : t.BreaksOff bytes fault') : fault = fault' := by
  cases h with
  | document hread =>
    cases h' with
    | document hread' => rw [Except.error.inj (hread.symm.trans hread')]
    | key hread' => exact absurd (hread.symm.trans hread') (by simp)
  | key hread =>
    cases h' with
    | document hread' => exact absurd (hread.symm.trans hread') (by simp)
    | key => rfl

/-- An error of the document as such does not break off the reading. -/
theorem not_breaksOff_of_error {e : Yaml.YamlError} (hread : t.readYaml bytes = .error e)
    (hkind : e.isOfDocument = true) (fault : Breakdown) : ¬t.BreaksOff bytes fault := by
  intro h
  cases h with
  | document hread' hkind' =>
    obtain rfl := Except.error.inj (hread.symm.trans hread')
    exact absurd (hkind.symm.trans hkind') (by decide)
  | key hread' => exact absurd (hread.symm.trans hread') (by simp)

theorem not_breaksOff_of_ok {v : Value} (hread : t.readYaml bytes = .ok v)
    (htexts : ∀ entries, v = .mapping entries → ∀ entry ∈ entries, ∃ s, entry.1 = .text s)
    (fault : Breakdown) : ¬t.BreaksOff bytes fault := by
  intro h
  cases h with
  | document hread' => exact absurd (hread.symm.trans hread') (by simp)
  | key hread' hentry hkey =>
    obtain ⟨s, hs⟩ := htexts _ (Except.ok.inj (hread.symm.trans hread')) _ hentry
    exact hkey s hs

/-- A short document that is no text breaks off the reading. -/
theorem breaksOff_of_ill_formed (hreader : t.readYaml = fun bytes => Yaml.parse bytes)
    (hsize : bytes.length < 2 * Yaml.Source.pieceSize) (h : decodeUtf8? bytes = none) :
    t.BreaksOff bytes (.document .notUtf8) :=
  .document (by rw [hreader]; exact Yaml.parse_of_ill_formed hsize h) rfl

end FileTree

/-! ## Answers -/

/-- The outcome is a good value, or a refusal that has the path and a message without surrogates. -/
inductive Answers {α : Type} (p : Path) (good : α → Prop) : Outcome α → Prop
  | returns {a : α} : good a → Answers p good (.ok a)
  | refuses {e : InputError} : e.path = some p → (∃ s, e.message = .string s) →
      Answers p good (.error (.input e))

/-- The outcome of reading a record from the bytes of the file at `p`. -/
structure ReadsRecord {α : Type} (t : FileTree) (p : Path) (bytes : List UInt8) (good : α → Prop)
    (x : Outcome α) : Prop where
  /-- The faults that end the run. -/
  breaks : ∀ fault, x = .error (.breakdown fault) ↔ t.BreaksOff bytes fault
  /-- Without a fault there is an answer. -/
  answers : (∀ fault, ¬t.BreaksOff bytes fault) → Answers p good x

section

variable {α β : Type} {t : FileTree} {p : Path} {bytes : List UInt8} {good : α → Prop}
  {good' : β → Prop}

theorem ReadsRecord.of_breaksOff {fault : Breakdown} (h : t.BreaksOff bytes fault) :
    ReadsRecord t p bytes good (.error (.breakdown fault)) where
  breaks fault' := by
    refine ⟨fun heq => ?_, fun h' => by rw [h.unique h']⟩
    rwa [← Failure.breakdown.inj (Except.error.inj heq)]
  answers hnone := absurd h (hnone fault)

theorem ReadsRecord.of_answers {x : Outcome α} (hnone : ∀ fault, ¬t.BreaksOff bytes fault)
    (h : Answers p good x) : ReadsRecord t p bytes good x where
  breaks fault := by
    refine ⟨fun heq => ?_, fun h' => absurd h' (hnone fault)⟩
    cases h <;> simp at heq
  answers _ := h

theorem ReadsRecord.exists_message {e : InputError}
    (h : ReadsRecord t p bytes good (.error (.input e))) : ∃ s, e.message = .string s := by
  have hnone : ∀ fault, ¬t.BreaksOff bytes fault := by
    intro fault hbreaks
    exact absurd ((h.breaks fault).2 hbreaks) (by simp)
  cases h.answers hnone with
  | refuses _ hmessage => exact hmessage

theorem ReadsRecord.map {x : Outcome α} {f : α → β} (h : ReadsRecord t p bytes good x)
    (hf : ∀ a, good a → good' (f a)) : ReadsRecord t p bytes good' (f <$> x) where
  breaks fault := by
    rw [← h.breaks fault]
    cases x <;> simp [Functor.map, Except.map]
  answers hnone := by
    cases h.answers hnone with
    | returns ha => exact .returns (hf _ ha)
    | refuses hpath hmessage => exact .refuses hpath hmessage

end

/-! ## Refusals -/

/-- What is made of a valid value, or a refusal that lists the problems. -/
def Checked.orRefuse {α β : Type} (x : Checked α) (f : α → β)
    (problem : List Problem → InputProblem) (p : Path) : Outcome β :=
  match x with
  | .valid a => .ok (f a)
  | .invalid ps => refuse (problem ps) p

/-- The line for an error asks for nothing but a style of the program, whatever its path holds. -/
theorem isOwn_errorBlock {e : InputError} {s : String} (h : e.message = .string s) :
    (errorBlock e).IsOwn := by
  intro t ht
  obtain rfl := List.mem_singleton.1 ht
  refine ⟨"[red]Error: " ++ "" ++ Markup.escape s ++ "" ++ "[/red]", by rw [h]; rfl, ?_⟩
  have htext : ∀ {ms}, Markup.HasMarks
      ((Markup.escape s).toList ++ ('[' :: "/red".toList ++ [']'])) ms →
      Markup.HasMarks ("[red]Error: " ++ "" ++ Markup.escape s ++ "" ++ "[/red]").toList
        ("red".toList :: ms) := by
    intro ms hms
    have hintro : IsUnmarked "Error: " := by decide
    have hmarks := (hms.plain_append hintro).mark_append (by decide : Markup.IsMark "red".toList)
    simpa using hmarks
  rcases Markup.hasMarks_escape_append s (by decide : Markup.IsMark "/red".toList) with hms | hms
  · exact (congrArg Markup.areOwn (htext hms).marks_eq).trans (by decide)
  · exact (congrArg Markup.areOwn (htext hms).marks_eq).trans (by decide)

/-- The text of a path of plain names is a string. -/
theorem Path.exists_toText_eq {p : Path} {names : List String} (h : p.parts = names.map .string) :
    ∃ s, p.toText = .string s := by
  unfold toText
  split
  · exact ⟨_, rfl⟩
  · rw [h]
    cases names with
    | nil => exact ⟨_, rfl⟩
    | cons name names =>
      rw [List.map_cons, Text.join, Text.foldl_append_string]
      exact ⟨_, rfl⟩

namespace FileTree

/-- Only plain names can be followed. -/
theorem exists_names_of_follow {trail : List (String × FileNode)} {node : FileNode}
    {parts : List Text} {found : List String × FileNode}
    (h : follow trail node parts = .ok found) :
    ∃ names : List String, parts = names.map .string := by
  fun_induction follow trail node parts with
  | case1 => exact ⟨[], rfl⟩
  | case2 rest entries step above trail ih =>
    obtain ⟨names, rfl⟩ := ih h
    exact ⟨".." :: names, rfl⟩
  | case3 rest entries ih =>
    obtain ⟨names, rfl⟩ := ih h
    exact ⟨".." :: names, rfl⟩
  | case6 trail rest entries name hsize next hlookup hparent ih =>
    obtain ⟨names, rfl⟩ := ih h
    exact ⟨name :: names, rfl⟩
  | case4 | case5 | case7 | case8 => exact absurd h (by simp)

theorem exists_names_of_find {t : FileTree} {p : Path} {found : List String × FileNode}
    (h : t.find p = .ok found) : ∃ names : List String, p.parts = names.map .string := by
  unfold find at h
  cases hcheck : checkPath p with
  | error e => simp [hcheck, bind, Except.bind] at h
  | ok =>
    simp only [hcheck, bind, Except.bind] at h
    obtain ⟨names, hnames⟩ := exists_names_of_follow h
    unfold fromRoot at hnames
    split at hnames
    · exact ⟨names, hnames⟩
    · obtain ⟨_, names, -, -, hparts⟩ := List.map_eq_append_iff.1 hnames.symm
      exact ⟨names, hparts.symm⟩

/-- A file that was found can be refused, unless the wording of the problem holds surrogates. -/
theorem answers_refuse {α : Type} {t : FileTree} {p : Path} {found : List String × FileNode}
    (h : t.find p = .ok found) {good : α → Prop} {problem : InputProblem} {s : String}
    (htext : problem.text = .string s) : Answers p good (refuse problem p) := by
  obtain ⟨names, hnames⟩ := exists_names_of_find h
  obtain ⟨path, hpath⟩ := Path.exists_toText_eq hnames
  refine .refuses rfl ⟨path ++ ": " ++ s, ?_⟩
  simp only [InputError.message, htext, hpath]
  rfl

/-! ## Reading a file -/

variable {t : FileTree} {p : Path} {way : List String} {bytes : List UInt8}

theorem read_of_file (h : t.find p = .ok (way, .file bytes)) : t.read p = .ok bytes := by
  rw [read, h]
  rfl

theorem recordEntries_cases (entries : List (Value × Value)) :
    recordEntries entries = .ok entries ∧ (∀ entry ∈ entries, ∃ t, entry.1 = .text t) ∨
      recordEntries entries = .error (.breakdown .keyNotText) ∧
        ∃ entry ∈ entries, ∀ t, entry.1 ≠ .text t := by
  unfold recordEntries
  split
  · next h =>
    refine .inl ⟨rfl, fun entry hentry => ?_⟩
    have htext := List.all_eq_true.1 h entry hentry
    split at htext
    · next t ht => exact ⟨t, ht⟩
    · simp at htext
  · next h =>
    refine .inr ⟨rfl, ?_⟩
    simp only [List.all_eq_true, not_forall] at h
    obtain ⟨entry, hentry, hnot⟩ := h
    refine ⟨entry, hentry, fun t ht => hnot ?_⟩
    rw [ht]

/-- What is read from the data of a file breaks off with the document only, if every record is
answered and so is all other data. -/
theorem readsRecord_of_data {α : Type} {good : α → Prop} {unreadable : InputProblem}
    {ofData : Value → Outcome α} (ofRecord : List (Value × Value) → Outcome α)
    (hfile : t.find p = .ok (way, .file bytes)) (hunreadable : ∃ s, unreadable.text = .string s)
    (hmapping : ∀ entries, ofData (.mapping entries) = recordEntries entries >>= ofRecord)
    (hrecord : ∀ entries, Answers p good (ofRecord entries))
    (hother : ∀ v, (∀ entries, v ≠ .mapping entries) → Answers p good (ofData v)) :
    ReadsRecord t p bytes good (t.loadData p unreadable >>= ofData) := by
  have hbytes := read_of_file hfile
  cases hread : t.readYaml bytes with
  | error e =>
    simp only [loadData, hbytes, hread]
    cases hkind : e.isOfDocument with
    | true =>
      obtain ⟨s, hs⟩ := hunreadable
      exact .of_answers (not_breaksOff_of_error hread hkind) (answers_refuse hfile hs)
    | false => exact .of_breaksOff (.document hread hkind)
  | ok v =>
    have hdata : t.loadData p unreadable = .ok v := by simp only [loadData, hbytes, hread]
    rw [hdata]
    by_cases hv : ∃ entries, v = .mapping entries
    · obtain ⟨entries, rfl⟩ := hv
      change ReadsRecord t p bytes good (ofData (.mapping entries))
      rw [hmapping]
      rcases recordEntries_cases entries with ⟨hentries, htexts⟩ | ⟨hentries, entry, hmem, hkey⟩
      · rw [hentries]
        refine .of_answers (not_breaksOff_of_ok hread ?_) (hrecord entries)
        rintro _ heq
        rwa [← Value.mapping.inj heq]
      · rw [hentries]
        exact .of_breaksOff (.key hread hmem hkey)
    · have hv := not_exists.1 hv
      refine .of_answers (not_breaksOff_of_ok hread ?_) (hother v hv)
      exact fun entries heq => absurd heq (hv entries)

theorem answers_orRefuse {α β : Type} {good : β → Prop} {x : Checked α} {f : α → β}
    {problem : List Problem → InputProblem} (hfile : t.find p = .ok (way, .file bytes))
    (hgood : ∀ a, x = .valid a → good (f a)) (htext : ∀ ps, ∃ s, (problem ps).text = .string s) :
    Answers p good (x.orRefuse f problem p) := by
  cases x with
  | valid a => exact .returns (hgood a rfl)
  | invalid ps =>
    obtain ⟨s, hs⟩ := htext ps
    exact answers_refuse hfile hs

theorem readsRecord_loadCatalogue (hfile : t.find p = .ok (way, .file bytes)) :
    ReadsRecord t p bytes (fun _ => True) (t.loadCatalogue p) := by
  unfold loadCatalogue
  rw [read_of_file hfile, if_neg (by simp)]
  refine readsRecord_of_data (fun entries => (Catalogue.ofRecord entries).orRefuse id
    .catalogueInvalid p) hfile ⟨_, rfl⟩ (fun entries => bind_congr fun entries => ?_) ?_ ?_
  · cases Catalogue.ofRecord entries <;> rfl
  · exact fun entries => answers_orRefuse hfile (fun _ _ => trivial) fun _ => ⟨_, rfl⟩
  · intro v hv
    split
    · exact absurd rfl (hv _)
    · exact answers_refuse hfile rfl

theorem readsRecord_loadConfig (hfile : t.find p = .ok (way, .file bytes)) :
    ReadsRecord t p bytes Settings.IsValid (t.loadConfig p) := by
  have hrecord : ∀ entries, Answers p Settings.IsValid
      ((Settings.ofRecord entries).orRefuse (anchorCatalogue p) .configInvalid p) := fun entries =>
    answers_orRefuse hfile (fun _ hs => (Settings.isValid_of_ofRecord hs).anchorCatalogue p)
      fun _ => ⟨_, rfl⟩
  refine readsRecord_of_data (fun entries => (Settings.ofRecord entries).orRefuse
    (anchorCatalogue p) .configInvalid p) hfile ⟨_, rfl⟩ (fun entries => ?_) hrecord ?_
  · have hdata : (if (Value.mapping entries).isEmpty then .mapping [] else .mapping entries) =
        Value.mapping entries := by
      cases entries <;> rfl
    rw [hdata]
    refine bind_congr fun entries => ?_
    cases Settings.ofRecord entries <;> rfl
  · intro v hv
    cases hempty : v.isEmpty with
    | true => exact hrecord []
    | false =>
      rw [if_neg (by decide)]
      split
      · exact absurd rfl (hv _)
      · exact answers_refuse hfile rfl

theorem readsRecord_loadSettings {named : Option Path} {fromEnvironment : Option String}
    (hpath : t.settingsPath named fromEnvironment = .ok p)
    (hfile : t.find p = .ok (way, .file bytes)) :
    ReadsRecord t p bytes (fun r => r.1.IsValid ∧ r.2 = .loaded p)
      (t.loadSettings named fromEnvironment) := by
  have hnode : t.node? p = .ok (some (.file bytes)) := by
    rw [node?, hfile]
  have hload : t.loadSettings named fromEnvironment =
      (fun s => (s, .loaded p)) <$> t.loadConfig p := by
    rw [loadSettings_eq_bind, hpath]
    simp only [hnode, ofFile, bind, Except.bind]
    cases t.loadConfig p <;> rfl
  rw [hload]
  exact (readsRecord_loadConfig hfile).map fun s hs => ⟨hs, rfl⟩

end FileTree

/-! ## Commands -/

/-- The file of the settings and the fields given for one run that a command starts with. -/
def Command.choice? : Command → Option (Option String × Overrides)
  | .scan c => some (c.config, c.overrides)
  | .sets c => some (c.config, { platform := c.platform })
  | .help => none

/-- The command is over because of the failure and has written nothing else: the line for a problem
of the input, as the terminal shows it, and nothing for a fault. -/
def RunResult.EndsWith (r : RunResult) (terminal : Terminal) (failure : Failure) : Prop :=
  r.exitCode = 1 ∧ r.json = none ∧ r.saved = none ∧
    match failure with
    | .input e => r.breakdown = none ∧ terminal.write (errorBlock e) = .ok r.lines
    | .breakdown fault => r.breakdown = some fault ∧ r.lines = []

theorem RunResult.ofRun_endsWith {α : Type} {env : Environment} {threshold : LogLevel}
    {run : Run α} {code : α → Nat} {failure : Failure} {log : List LogRecord}
    (hterminal : env.terminal.ShowsStyles)
    (h : run.run { files := env.files } = (.error failure, { files := env.files, log }))
    (hmessage : ∀ e, failure = .input e → ∃ s, e.message = .string s) :
    (ofRun env threshold run code).EndsWith env.terminal failure := by
  rw [ofRun, h]
  cases failure with
  | breakdown fault => exact ⟨rfl, rfl, rfl, rfl, rfl⟩
  | input e =>
    obtain ⟨s, hs⟩ := hmessage e rfl
    obtain ⟨lines, hlines⟩ := hterminal _ (isOwn_errorBlock hs)
    simp only [hlines]
    exact ⟨rfl, rfl, rfl, rfl, hlines⟩

/-- A command whose settings fail is over. -/
theorem Command.endsWith_of_settings {env : Environment} {cmd : Command} {config : Option String}
    {overrides : Overrides} {failure : Failure} {log : List LogRecord}
    (hterminal : env.terminal.ShowsStyles) (hchoice : cmd.choice? = some (config, overrides))
    (h : (env.settings config overrides).run { files := env.files } =
      (.error failure, { files := env.files, log }))
    (hmessage : ∀ e, failure = .input e → ∃ s, e.message = .string s) :
    (cmd.run env).EndsWith env.terminal failure := by
  cases cmd with
  | scan c =>
    obtain ⟨rfl, rfl⟩ := Prod.mk.inj (Option.some.inj hchoice)
    have hrun : (c.run env).run { files := env.files } =
        (.error failure, { files := env.files, log }) := by
      rw [ScanCommand.run, Run.run_bind, h]
    exact RunResult.ofRun_endsWith hterminal hrun hmessage
  | sets c =>
    obtain ⟨rfl, rfl⟩ := Prod.mk.inj (Option.some.inj hchoice)
    have hrun : (c.run env).run { files := env.files } =
        (.error failure, { files := env.files, log }) := by
      rw [SetsCommand.run, Run.run_bind, h]
    exact RunResult.ofRun_endsWith hterminal hrun hmessage
  | help => simp [choice?] at hchoice

namespace Environment

variable {env : Environment} {config : Option String} {overrides : Overrides} {failure : Failure}

theorem settings_of_loadSettings
    (h : env.files.loadSettings (namedPath config) env.configVariable = .error failure)
    (s : RunState) : (env.settings config overrides).run s = (.error failure, s) := by
  unfold settings
  dsimp only
  rw [Run.run_bind, Run.run_liftM, ← namedPath, h]

theorem settings_of_loadCatalogue {loaded chosen : Settings} {source : FileTree.SettingsSource}
    {q : Path}
    (hload : env.files.loadSettings (namedPath config) env.configVariable = .ok (loaded, source))
    (hchosen : loaded.override overrides = .valid chosen) (hq : chosen.catalogue = some q)
    (h : env.files.loadCatalogue q = .error failure) (s : RunState) :
    (env.settings config overrides).run s =
      (.error failure, { s with log := s.log ++ [source.record] }) := by
  have hcatalogue : env.files.catalogueAt chosen.catalogue = .error failure := by
    rw [hq]
    exact h
  unfold settings
  dsimp only
  rw [Run.run_bind, Run.run_liftM, ← namedPath, hload]
  dsimp only
  rw [Run.run_bind, Run.run_record]
  simp only [hchosen]
  rw [Run.run_bind, Run.run_liftM, hcatalogue]

/-- A file of settings gives valid settings, and a file of a catalogue gives a catalogue, or it is
refused with its path, unless its document breaks off the reading; no other fault comes up. A
command that reads such a file ends with the error line for a refusal, if the terminal shows the
styles of the program, but with the fault if the reading breaks off. -/
theorem reads_configuration (env : Environment) {p : Path} {way : List String}
    {bytes : List UInt8} (hfile : env.files.find p = .ok (way, .file bytes)) :
    (∀ named fromEnvironment, env.files.settingsPath named fromEnvironment = .ok p →
      ReadsRecord env.files p bytes (fun r => r.1.IsValid ∧ r.2 = .loaded p)
        (env.files.loadSettings named fromEnvironment)) ∧
    ReadsRecord env.files p bytes (fun _ => True) (env.files.loadCatalogue p) ∧
    ∀ (cmd : Command) (config : Option String) (overrides : Overrides),
      cmd.choice? = some (config, overrides) → env.terminal.ShowsStyles →
      (∀ failure, env.files.settingsPath (namedPath config) env.configVariable = .ok p →
        env.files.loadSettings (namedPath config) env.configVariable = .error failure →
        (cmd.run env).EndsWith env.terminal failure) ∧
      ∀ loaded source chosen failure,
        env.files.loadSettings (namedPath config) env.configVariable = .ok (loaded, source) →
        loaded.override overrides = .valid chosen → chosen.catalogue = some p →
        env.files.loadCatalogue p = .error failure →
        (cmd.run env).EndsWith env.terminal failure := by
  refine ⟨fun named fromEnvironment hpath => FileTree.readsRecord_loadSettings hpath hfile,
    FileTree.readsRecord_loadCatalogue hfile, fun cmd config overrides hchoice hterminal =>
      ⟨?_, ?_⟩⟩
  · intro failure hpath hload
    refine Command.endsWith_of_settings hterminal hchoice (settings_of_loadSettings hload _) ?_
    rintro e rfl
    have hread := FileTree.readsRecord_loadSettings hpath hfile
    rw [hload] at hread
    exact hread.exists_message
  · intro loaded source chosen failure hload hchosen hp hcatalogue
    refine Command.endsWith_of_settings hterminal hchoice
      (settings_of_loadCatalogue hload hchosen hp hcatalogue _) ?_
    rintro e rfl
    have hread := FileTree.readsRecord_loadCatalogue hfile
    rw [hcatalogue] at hread
    exact hread.exists_message

/-- A list where settings are expected, and a byte that is no text. -/
def twoConfigs : Environment where
  files.root := .directory [("list.yaml", .file [0x2D]), ("byte.yaml", .file [0xFF])]
  timestamp := ""
  bundledPlace := ""

theorem reads_configuration_of_two_configs :
    (Command.run twoConfigs (.sets { config := some "list.yaml" })).EndsWith twoConfigs.terminal
        (.input { problem := .configNotMapping, path := some { parts := ["list.yaml"] } }) ∧
      (Command.run twoConfigs (.sets { config := some "byte.yaml" })).EndsWith twoConfigs.terminal
        (.breakdown (.document .notUtf8)) := by
  have hterminal : twoConfigs.terminal.ShowsStyles := Terminal.showsStyles_plain _
  have hlist : namedPath (some "list.yaml") = some { parts := ["list.yaml"] } := by decide +kernel
  have hbyte : namedPath (some "byte.yaml") = some { parts := ["byte.yaml"] } := by decide +kernel
  constructor
  · have hfile : twoConfigs.files.find { parts := ["list.yaml"] } =
        .ok (["list.yaml"], .file [0x2D]) := rfl
    obtain ⟨-, -, hends⟩ := reads_configuration twoConfigs hfile
    refine (hends _ (some "list.yaml") {} rfl hterminal).1 _ ?_ ?_
    · rw [hlist]
      rfl
    · rw [hlist]
      decide +kernel
  · have hfile : twoConfigs.files.find { parts := ["byte.yaml"] } =
        .ok (["byte.yaml"], .file [0xFF]) := rfl
    have hpath : twoConfigs.files.settingsPath (namedPath (some "byte.yaml"))
        twoConfigs.configVariable = .ok { parts := ["byte.yaml"] } := by
      rw [hbyte]
      rfl
    have hbreaks : twoConfigs.files.BreaksOff [0xFF] (.document .notUtf8) :=
      FileTree.breaksOff_of_ill_formed rfl (by decide) (by decide +kernel)
    obtain ⟨hsettings, -, hends⟩ := reads_configuration twoConfigs hfile
    exact (hends _ (some "byte.yaml") {} rfl hterminal).1 _ hpath
      (((hsettings _ _ hpath).breaks _).2 hbreaks)

/-- A file of settings that is not refused, since it holds a byte that is no text: the run ends
without a line. -/
theorem settings_break_off_of_byte :
    twoConfigs.files.loadSettings (some { parts := ["byte.yaml"] }) none =
        .error (.breakdown (.document .notUtf8)) ∧
      (Command.run twoConfigs (.sets { config := some "byte.yaml" })).lines = [] := by
  decide +kernel

end Environment

end CommandAudit

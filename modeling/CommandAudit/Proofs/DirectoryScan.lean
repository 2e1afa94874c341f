import CommandAudit.Proofs.PathLength
import CommandAudit.Proofs.ReportSummary
import CommandAudit.Proofs.ScriptLoading
import Mathlib.Data.List.Forall2

/-!
# The scan of a directory

The scripts below a directory are loaded and audited one after the other, and no step depends on the
steps before it (`FileTree.Accepts.scanFound_returnsIff`). So the run either returns the reports on
all scripts that can be loaded, or a fault ends it, and `ScanCommand.Completes` says when the first
happens. A script that is refused is skipped; one that can be neither loaded nor refused ends the
run. The summary never does on a terminal that shows the styles of the program
(`FileTree.Accepts.isOwn_summary`).
-/

namespace CommandAudit

/-! ## Scanning -/

section

variable (c : ScanCommand) (env : Environment) (settings : Settings) (target : Path)

/-- Loads and audits the script at a path below the target. -/
def ScanCommand.auditAt (path : Path) : Outcome ScriptReport := do
  let script ← env.files.loadScript (target.join path) settings path.toString
  env.files.auditScript script settings (settings.scanOptions c.window c.trace)

/-- The reports on the scripts at the paths; those that cannot be loaded have none. -/
def ScanCommand.reports (found : List Path) : List ScriptReport :=
  found.filterMap fun path => (c.auditAt env settings target path).toOption

/-- The report on the scripts at the paths. -/
def ScanCommand.directoryReport (found : List Path) : Report :=
  { target := target.toString
    timestamp := env.timestamp
    platform := settings.platform
    escapeMode := settings.escapeMode
    scripts := c.reports env settings target found }

variable {c env settings target}

theorem FileTree.Accepts.auditLoaded_returnsIff (haccepts : env.files.Accepts settings)
    (script : Script) :
    ∃ r, env.files.auditScript script settings (settings.scanOptions c.window c.trace) = .ok r ∧
      ∀ t, (c.auditLoaded env settings script).ReturnsIff t r t True := by
  obtain ⟨r, -, -, haudit, -⟩ :=
    haccepts.exists_audit script (settings.scanOptions c.window c.trace)
  refine ⟨r, haudit, fun t => ?_⟩
  exact (Run.returnsIff_ok haudit t).then
    ((Run.returnsIff_record _ t).then (Run.returnsIff_pure r t))

theorem ScanCommand.auditAt_eq_ok_iff {path : Path} {r : ScriptReport} :
    c.auditAt env settings target path = .ok r ↔
      ∃ script, env.files.loadScript (target.join path) settings path.toString = .ok script ∧
        env.files.auditScript script settings (settings.scanOptions c.window c.trace) = .ok r := by
  unfold auditAt
  cases env.files.loadScript (target.join path) settings path.toString with
  | error e => simp [bind, Except.bind]
  | ok script => simp [bind, Except.bind]

theorem ScanCommand.mem_reports {found : List Path} {r : ScriptReport} :
    r ∈ c.reports env settings target found ↔
      ∃ path ∈ found, c.auditAt env settings target path = .ok r := by
  rw [reports, List.mem_filterMap]
  refine exists_congr fun path => and_congr_right fun _ => ?_
  cases c.auditAt env settings target path <;> simp [Except.toOption]

/-- The reports belong, in order, to the scripts that can be loaded. -/
theorem FileTree.Accepts.forall₂_reports (haccepts : env.files.Accepts settings)
    (found : List Path) :
    List.Forall₂ (fun path r => c.auditAt env settings target path = .ok r)
      (found.filter fun path =>
        (env.files.loadScript (target.join path) settings path.toString).isOk)
      (c.reports env settings target found) := by
  induction found with
  | nil => exact .nil
  | cons path rest ih =>
    rw [ScanCommand.reports, List.filterMap_cons]
    cases hload : env.files.loadScript (target.join path) settings path.toString with
    | error e =>
      have haudit : c.auditAt env settings target path = .error e := by
        simp only [ScanCommand.auditAt, hload, bind, Except.bind]
      rw [List.filter_cons_of_neg (by rw [hload]; simp [Except.isOk, Except.toBool]), haudit]
      exact ih
    | ok script =>
      obtain ⟨r, -, -, haudit, -⟩ :=
        haccepts.exists_audit script (settings.scanOptions c.window c.trace)
      have haudit : c.auditAt env settings target path = .ok r :=
        ScanCommand.auditAt_eq_ok_iff.2 ⟨script, hload, haudit⟩
      rw [List.filter_cons_of_pos (by rw [hload]; rfl), haudit]
      exact .cons haudit ih

/-- Every report of a directory answers for the tokens of some script. -/
theorem FileTree.Accepts.exists_answers (haccepts : env.files.Accepts settings) {found : List Path}
    {r : ScriptReport} (hr : r ∈ c.reports env settings target found) :
    ∃ (script : Script) (known : String → Prop) (_ : DecidablePred known),
      r.Answers (script.tokens (settings.scanOptions c.window c.trace)) known := by
  obtain ⟨path, -, hpath⟩ := ScanCommand.mem_reports.1 hr
  obtain ⟨script, -, haudit⟩ := ScanCommand.auditAt_eq_ok_iff.1 hpath
  obtain ⟨r', known, hdecidable, haudit', hanswers⟩ :=
    haccepts.exists_audit script (settings.scanOptions c.window c.trace)
  obtain rfl := Except.ok.inj (haudit.symm.trans haudit')
  exact ⟨script, known, hdecidable, hanswers⟩

theorem FileTree.Accepts.isOwn_summary (haccepts : env.files.Accepts settings)
    (c : ScanCommand) (target : Path) (found : List Path) :
    ∀ b ∈ (c.directoryReport env settings target found).summaryBlocks, b.IsOwn := by
  refine fun b hb => Report.isOwn_of_mem_summaryBlocks (fun r hr word hword => ?_) hb
  obtain ⟨script, known, _, hanswers⟩ := haccepts.exists_answers hr
  exact hanswers.isUnmarked hword

theorem FileTree.Accepts.unresolved_eq_nil_iff (haccepts : env.files.Accepts settings)
    (c : ScanCommand) (target : Path) (found : List Path) :
    (c.directoryReport env settings target found).unresolved = [] ↔
      ∀ r ∈ c.reports env settings target found, r.classification.status ≠ .unresolved := by
  have hnil : ∀ xs : List String, xs.eraseDups = [] ↔ xs = [] := by
    intro xs
    cases xs with
    | nil => simp
    | cons x xs => simp [List.eraseDups_cons]
  rw [Report.unresolved_eq, hnil, List.flatMap_eq_nil_iff]
  refine forall_congr' fun r => forall_congr' fun hr => ?_
  obtain ⟨script, known, _, hanswers⟩ := haccepts.exists_answers hr
  rw [Ne, hanswers.unresolved_iff, not_not]

/-- The run gets past the script at a path: it is loaded or refused, and if its details are shown,
the terminal writes them. -/
def ScanCommand.Passes (c : ScanCommand) (env : Environment) (settings : Settings)
    (target path : Path) : Prop :=
  env.files.LoadsOrRefuses settings (target.join path) ∧
    (c.isInteractive = true → c.verbose = true →
      ∀ r, c.auditAt env settings target path = .ok r →
        ∀ b ∈ r.detailBlocks settings.platform, env.terminal.Writes b)

/-- The loop over the scripts: the induction is on the paths that are left, and no step depends on
the steps before it. -/
theorem FileTree.Accepts.scanFound_returnsIff (haccepts : env.files.Accepts settings)
    (found : List Path) :
    (c.scanFound env settings target found).ReturnsIff env.files
      (c.reports env settings target found) env.files
      (∀ path ∈ found, c.Passes env settings target path) := by
  induction found with
  | nil => exact (Run.returnsIff_pure [] _).congr (by simp)
  | cons path rest ih =>
    rw [ScanCommand.scanFound, ScanCommand.reports, List.filterMap_cons, List.forall_mem_cons]
    cases hload : env.files.loadScript (target.join path) settings path.toString with
    | error failure =>
      have haudit : c.auditAt env settings target path = .error failure := by
        simp only [ScanCommand.auditAt, hload, bind, Except.bind]
      rw [haudit]
      cases failure with
      | input e =>
        have hpasses : c.Passes env settings target path := by
          refine ⟨.of_input hload, fun _ _ r hr => ?_⟩
          rw [haudit] at hr
          exact absurd hr (by simp)
        exact ((Run.returnsIff_record _ _).then ih).congr (by simp [hpasses])
      | breakdown fault =>
        have hstops : ¬c.Passes env settings target path :=
          fun h => loadScript_ne_breakdown_iff.2 h.1 fault hload
        exact ⟨fun h => absurd h.1 hstops, fun _ s _ => ⟨fault, s, rfl⟩⟩
    | ok script =>
      obtain ⟨r, hr, hreturns⟩ := haccepts.auditLoaded_returnsIff (c := c) script
      have haudit : c.auditAt env settings target path = .ok r := by
        simp only [ScanCommand.auditAt, hload, hr, bind, Except.bind]
      have hpasses : c.Passes env settings target path ↔
          ((c.isInteractive && c.verbose) = true →
            ∀ b ∈ r.detailBlocks settings.platform, env.terminal.Writes b) := by
        simp [ScanCommand.Passes, LoadsOrRefuses.of_ok hload, haudit]
      rw [haudit, hpasses]
      refine (hreturns _).then ?_
      exact (ih.bind_pure (r :: ·)).print_if _ _ _

/-- Nothing ends the scan of a directory before its report is complete, with the scripts at the
given paths, and has been written. -/
structure ScanCommand.Completes (c : ScanCommand) (env : Environment) (settings : Settings)
    (target : Path) (found : List Path) : Prop where
  /-- Every script is passed. -/
  passes : ∀ path ∈ found, c.Passes env settings target path
  /-- If the summary is shown, the terminal writes it. -/
  summarized : c.isInteractive = true →
    ∀ b ∈ (c.directoryReport env settings target found).summaryBlocks, env.terminal.Writes b
  /-- The report can be saved. -/
  saved : ∀ output : String, c.output = some output →
    (c.directoryReport env settings target found).isEncodable = true ∧
      ∃ files, env.files.save (.ofText output) (encodeUtf8
        (c.directoryReport env settings target found).toJson.canonical.toList) = .ok files
  /-- The report can be printed. -/
  printed : c.json = true → (c.directoryReport env settings target found).isEncodable = true

/-- The last part of a scan: the report is saved and printed as the command asks. -/
def ScanCommand.deliver (c : ScanCommand) (report : Report) : Run Report := do
  if let some output := c.output then saveReport report (.ofText output)
  if c.json then printReport report
  return report

theorem ScanCommand.deliver_returnsIff (c : ScanCommand) (report : Report) (t : FileTree) :
    ∃ t', (c.deliver report).ReturnsIff t report t'
      ((∀ output : String, c.output = some output → report.isEncodable = true ∧
        ∃ files, t.save (.ofText output) (encodeUtf8 report.toJson.canonical.toList) = .ok files) ∧
        (c.json = true → report.isEncodable = true)) := by
  have hprint : ∀ t, (if c.json = true then do
      printReport report
      return report
    else return report : Run Report).ReturnsIff t report t
      (c.json = true → report.isEncodable = true) := by
    intro t
    split
    · next hjson =>
      exact ((returnsIff_printReport report t).bind_pure fun _ => report).congr (by simp [hjson])
    · next hjson => exact (Run.returnsIff_pure report t).congr (by simp [hjson])
  unfold deliver
  dsimp only
  cases houtput : c.output with
  | none => exact ⟨t, (hprint t).congr (by simp)⟩
  | some output =>
    refine ⟨_, ((returnsIff_saveReport report (.ofText output) t).bind (hprint _)).congr ?_⟩
    simp

theorem ScanCommand.run_returnsIff {c : ScanCommand} {env : Environment} {settings : Settings}
    {node : FileNode} {found : List Path} {s s' : RunState}
    (hsettings : (env.settings c.config c.overrides).run s = (.ok settings, s'))
    (htarget : env.files.node? (.ofText c.target) = .ok (some node))
    (hnode : node.isDirectory = true) (hfound : env.files.discover (.ofText c.target) = .ok found) :
    ∃ t, (c.run env).ReturnsIff env.files
      (c.directoryReport env settings (.ofText c.target) found) t
      (c.Completes env settings (.ofText c.target) found) := by
  obtain ⟨hreturns, haccepts⟩ := Environment.settings_returnsIff hsettings
  have hscan : (c.scanDirectory env settings (.ofText c.target)).ReturnsIff env.files
      (c.reports env settings (.ofText c.target) found) env.files
      (∀ path ∈ found, c.Passes env settings (.ofText c.target) path) :=
    (Run.returnsIff_ok hfound _).then
      ((Run.returnsIff_record _ _).then (haccepts.scanFound_returnsIff found))
  have hnode? : ofFile (env.files.node? (.ofText c.target)) = .ok (some node) := by
    rw [htarget]
    rfl
  obtain ⟨t, hdeliver⟩ :=
    c.deliver_returnsIff (c.directoryReport env settings (.ofText c.target) found) env.files
  have hrest := hdeliver.print_if (c.isInteractive = true) env.terminal
    (c.directoryReport env settings (.ofText c.target) found).summaryBlocks
  refine ⟨t, ?_⟩
  unfold run
  dsimp only
  refine hreturns.then ((Run.returnsIff_ok hnode? _).then ?_)
  rw [Option.any_some, if_pos hnode]
  refine (hscan.bind hrest).congr ?_
  exact ⟨fun ⟨hpasses, hsummary, hsaved, hprinted⟩ => ⟨hpasses, hsummary, hsaved, hprinted⟩,
    fun h => ⟨h.passes, h.summarized, h.saved, h.printed⟩⟩

/-- If the directory cannot be searched, the run is over. -/
theorem ScanCommand.run_breaks {c : ScanCommand} {env : Environment} {settings : Settings}
    {node : FileNode} {fault : Breakdown} {s s' : RunState}
    (hsettings : (env.settings c.config c.overrides).run s = (.ok settings, s'))
    (htarget : env.files.node? (.ofText c.target) = .ok (some node))
    (hnode : node.isDirectory = true)
    (hfound : env.files.discover (.ofText c.target) = .error (.breakdown fault)) (report : Report) :
    (c.run env).ReturnsIff env.files report env.files False := by
  obtain ⟨hreturns, -⟩ := Environment.settings_returnsIff hsettings
  have hnode? : ofFile (env.files.node? (.ofText c.target)) = .ok (some node) := by
    rw [htarget]
    rfl
  have hscan : (c.scanDirectory env settings (.ofText c.target)).ReturnsIff env.files [] env.files
      False := (Run.returnsIff_breakdown hfound env.files [] env.files).bind_of_false _ _
  unfold run
  dsimp only
  refine hreturns.then ((Run.returnsIff_ok hnode? _).then ?_)
  rw [Option.any_some, if_pos hnode]
  exact hscan.bind_of_false _ _

end

/-! ## A script alone -/

/-- The quiet scan of a single script returns the report on it. -/
theorem ScanCommand.run_script {c : ScanCommand} {env : Environment} {settings : Settings}
    {script : Script} {r : ScriptReport} {s s' : RunState}
    (hsettings : (env.settings c.config c.overrides).run s = (.ok settings, s'))
    (hload : env.files.loadScript (.ofText c.target) settings (Path.ofText c.target).toString =
      .ok script)
    (haudit : env.files.auditScript script settings (settings.scanOptions c.window c.trace) = .ok r)
    (hquiet : c.quiet = true) (hjson : c.json = false) (houtput : c.output = none) :
    (c.run env).ReturnsIff env.files
      { target := (Path.ofText c.target).toString, timestamp := env.timestamp
        platform := settings.platform, escapeMode := settings.escapeMode, scripts := [r] }
      env.files True := by
  obtain ⟨hreturns, haccepts⟩ := Environment.settings_returnsIff hsettings
  obtain ⟨node, hnode, hfile, -⟩ := FileTree.exists_of_loadScript_eq_ok hload
  have hnode? : ofFile (env.files.node? (.ofText c.target)) = .ok (some node) := by
    rw [hnode]
    rfl
  have hdirectory : node.isDirectory = false := by
    cases node with
    | directory => exact absurd hfile (by simp [FileNode.isFile])
    | _ => rfl
  obtain ⟨r', haudit', hlogged⟩ := haccepts.auditLoaded_returnsIff (c := c) script
  obtain rfl := Except.ok.inj (haudit.symm.trans haudit')
  have hinteractive : c.isInteractive = false := by rw [isInteractive, hquiet]; rfl
  have hscan : (c.scanFile env settings (.ofText c.target)).ReturnsIff env.files r env.files
      True := by
    unfold scanFile
    refine (Run.returnsIff_ok hload _).then ?_
    simp only [hinteractive, Bool.false_eq_true, if_false]
    exact (hlogged _).then (Run.returnsIff_pure _ _)
  unfold run
  dsimp only
  refine hreturns.then ((Run.returnsIff_ok hnode? _).then ?_)
  rw [Option.any_some, hdirectory, if_neg Bool.false_ne_true]
  refine hscan.then ?_
  simp only [houtput, hjson, Bool.false_eq_true, if_false]
  exact (Run.returnsIff_pure _ _).then (Run.returnsIff_pure _ _)

/-! ## The whole run -/

section

variable {α : Type} {env : Environment} {threshold : LogLevel} {run : Run α} {code : α → Nat}
  {s : RunState}

theorem RunResult.exitCode_ofRun {a : α} (h : run.run { files := env.files } = (.ok a, s)) :
    (ofRun env threshold run code).exitCode = code a := by
  rw [ofRun, h]

theorem RunResult.ofRun_breakdown {fault : Breakdown}
    (h : run.run { files := env.files } = (.error (.breakdown fault), s)) :
    (ofRun env threshold run code).breakdown = some fault ∧
      (ofRun env threshold run code).exitCode = 1 := by
  rw [ofRun, h]
  exact ⟨rfl, rfl⟩

end

/-- The report is the audit of the script at a path below the target, and, apart from its name, what
a scan of this script alone reports. -/
structure ScanCommand.ReportsOn (c : ScanCommand) (env : Environment) (settings : Settings)
    (target path : Path) (r : ScriptReport) : Prop where
  /-- The script is loaded and audited. -/
  audit : ∃ script, env.files.loadScript (target.join path) settings path.toString = .ok script ∧
    env.files.auditScript script settings (settings.scanOptions c.window c.trace) = .ok r
  /-- It may be scanned alone. -/
  alone : ∀ text : String, Path.ofText text = target.join path →
    ∃ report, ((({ c with target := text, quiet := true, json := false, output := none } :
        ScanCommand).run env).run { files := env.files }).1 = .ok report ∧
      report.scripts = [{ r with script := (target.join path).toString }]

theorem ScanCommand.reportsOn_of_auditAt {c : ScanCommand} {env : Environment} {settings : Settings}
    {target path : Path} {r : ScriptReport} {s : RunState}
    (hsettings : (env.settings c.config c.overrides).run { files := env.files } =
      (.ok settings, s))
    (h : c.auditAt env settings target path = .ok r) : c.ReportsOn env settings target path r := by
  obtain ⟨script, hload, haudit⟩ := auditAt_eq_ok_iff.1 h
  refine ⟨⟨script, hload, haudit⟩, fun text htext => ?_⟩
  obtain ⟨node, -, -, hnamed⟩ := FileTree.exists_of_loadScript_eq_ok hload
  have hload : env.files.loadScript (.ofText text) settings (Path.ofText text).toString =
      .ok { script with name := (target.join path).toString } := by
    rw [htext, hnamed, ite_self]
  have hrun := run_script
    (c := { c with target := text, quiet := true, json := false, output := none })
    hsettings hload (FileTree.auditScript_withName haudit _) rfl rfl rfl
  obtain ⟨s', hs', -⟩ := hrun.returns trivial { files := env.files } rfl
  exact ⟨_, congrArg Prod.fst hs', rfl⟩

/-- The scan of a directory returns its report or ends with a fault. -/
theorem ScanCommand.run_directory_cases {c : ScanCommand} {env : Environment} {settings : Settings}
    {node : FileNode} {s : RunState}
    (hsettings : (env.settings c.config c.overrides).run { files := env.files } = (.ok settings, s))
    (htarget : env.files.node? (.ofText c.target) = .ok (some node))
    (hnode : node.isDirectory = true) :
    (∃ found s', env.files.discover (.ofText c.target) = .ok found ∧
      c.Completes env settings (.ofText c.target) found ∧
      (c.run env).run { files := env.files } =
        (.ok (c.directoryReport env settings (.ofText c.target) found), s')) ∨
    ((∀ found, env.files.discover (.ofText c.target) = .ok found →
        ¬c.Completes env settings (.ofText c.target) found) ∧
      ∃ fault s', (c.run env).run { files := env.files } = (.error (.breakdown fault), s')) := by
  rcases FileTree.discover_of_directory htarget hnode with ⟨-, hfound⟩ | ⟨-, fault, hfault⟩
  · obtain ⟨t, hrun⟩ := run_returnsIff hsettings htarget hnode hfound
    by_cases hcompletes : c.Completes env settings (.ofText c.target)
      (node.scripts.map fun way => { parts := way.map .string })
    · obtain ⟨s', hs', -⟩ := hrun.returns hcompletes { files := env.files } rfl
      exact .inl ⟨_, s', hfound, hcompletes, hs'⟩
    · refine .inr ⟨fun found h => ?_, hrun.breaks hcompletes { files := env.files } rfl⟩
      rwa [← Except.ok.inj (hfound.symm.trans h)]
  · have hrun := run_breaks hsettings htarget hnode hfault
      (c.directoryReport env settings (.ofText c.target) [])
    refine .inr ⟨fun found h => ?_, hrun.breaks id { files := env.files } rfl⟩
    rw [hfault] at h
    exact absurd h (by simp)

/-- The scan of a directory has a report exactly if nothing ends it before, and the summary does not
on a terminal that shows the styles of the program. Then the report has the audits of exactly the
scripts that can be loaded, in the order in which they were found, and each is what a scan of this
script alone reports, apart from its name; the unresolved names are those of the scripts without
repetitions, and on request the exit code says whether there are any. -/
theorem ScanCommand.run_directory (env : Environment) (c : ScanCommand) {settings : Settings}
    {node : FileNode}
    (hsettings : ((env.settings c.config c.overrides).run { files := env.files }).1 = .ok settings)
    (htarget : env.files.node? (.ofText c.target) = .ok (some node))
    (hnode : node.isDirectory = true) :
    ((∃ found, env.files.discover (.ofText c.target) = .ok found) ↔
      FileTree.checkPath (env.files.resolve (.ofText c.target)) = .ok () ∧
        env.files.ReachesBelow (env.files.resolve (.ofText c.target)) node) ∧
    (∀ report, ((c.run env).run { files := env.files }).1 = .ok report ↔
      ∃ found, env.files.discover (.ofText c.target) = .ok found ∧
        c.Completes env settings (.ofText c.target) found ∧
        report = c.directoryReport env settings (.ofText c.target) found) ∧
    (env.terminal.ShowsStyles → ∀ found,
      ∀ b ∈ (c.directoryReport env settings (.ofText c.target) found).summaryBlocks,
        env.terminal.Writes b) ∧
    (∀ report found, ((c.run env).run { files := env.files }).1 = .ok report →
      env.files.discover (.ofText c.target) = .ok found →
      List.Forall₂ (c.ReportsOn env settings (.ofText c.target))
        (found.filter fun path => (env.files.loadScript
          ((Path.ofText c.target).join path) settings path.toString).isOk) report.scripts ∧
      report.unresolved =
        (report.scripts.flatMap fun r => r.classification.remainder).eraseDups ∧
      (Command.run env (.scan c)).exitCode =
        if c.failOnUnresolved = true ∧
          ∃ r ∈ report.scripts, r.classification.status = .unresolved then 1 else 0) ∧
    ((∀ report, ((c.run env).run { files := env.files }).1 ≠ .ok report) →
      ∃ fault, (Command.run env (.scan c)).breakdown = some fault) := by
  obtain ⟨s, hsettings⟩ : ∃ s, (env.settings c.config c.overrides).run { files := env.files } =
      (.ok settings, s) := ⟨_, Prod.ext hsettings rfl⟩
  obtain ⟨-, haccepts⟩ := Environment.settings_returnsIff hsettings
  have hsummary : env.terminal.ShowsStyles → ∀ found,
      ∀ b ∈ (c.directoryReport env settings (.ofText c.target) found).summaryBlocks,
        env.terminal.Writes b :=
    fun hterminal found b hb => hterminal b (haccepts.isOwn_summary c _ found b hb)
  refine ⟨?_, ?_⟩
  · rcases FileTree.discover_of_directory htarget hnode with ⟨hreach, hfound⟩ | ⟨hnot, h⟩
    · exact iff_of_true ⟨_, hfound⟩ hreach
    · obtain ⟨fault, hfault⟩ := h
      refine iff_of_false (fun ⟨found, hfound⟩ => ?_) hnot
      exact absurd (hfault.symm.trans hfound) (by simp)
  rcases run_directory_cases hsettings htarget hnode with
    ⟨found, s', hfound, hcompletes, hrun⟩ | ⟨hincomplete, fault, s', hrun⟩
  · rw [hrun]
    refine ⟨fun report => ?_, hsummary, ?_, fun h => absurd rfl (h _)⟩
    · constructor
      · intro h
        exact ⟨found, hfound, hcompletes, (Except.ok.inj h).symm⟩
      · rintro ⟨found', hfound', -, rfl⟩
        rw [Except.ok.inj (hfound.symm.trans hfound')]
    · intro report found' h hfound'
      obtain rfl := Except.ok.inj h
      obtain rfl := Except.ok.inj (hfound.symm.trans hfound')
      refine ⟨?_, Report.unresolved_eq _, ?_⟩
      · exact (haccepts.forall₂_reports found).imp fun path r h => reportsOn_of_auditAt hsettings h
      · refine (RunResult.exitCode_ofRun hrun).trans ?_
        have hnil := haccepts.unresolved_eq_nil_iff c (.ofText c.target) found
        refine if_congr ?_ rfl rfl
        rw [Bool.and_eq_true, Bool.not_eq_true', List.isEmpty_eq_false_iff, Ne, hnil]
        simp [directoryReport]
  · rw [hrun]
    refine ⟨fun report => ?_, hsummary, fun report found h => absurd h (by simp), fun _ => ?_⟩
    · refine ⟨fun h => absurd h (by simp), fun ⟨found, hfound, hcompletes, _⟩ => ?_⟩
      exact absurd hcompletes (hincomplete found hfound)
    · exact ⟨fault, (RunResult.ofRun_breakdown hrun).1⟩

/-- The directory `d` with a script that uses an unknown command, and an empty one. -/
def twoScripts : Environment where
  files.root := .directory
    [("d", .directory [("a.sh", .file [122, 97, 112, 10]), ("b.sh", .file [])])]
  timestamp := ""
  bundledPlace := ""

/-- The scan of this directory. -/
def twoScriptsScan : ScanCommand where
  target := "d"
  quiet := true
  failOnUnresolved := true

theorem ScanCommand.run_directory_of_two_scripts :
    ∃ report r, ((twoScriptsScan.run twoScripts).run { files := twoScripts.files }).1 =
        .ok report ∧
      report.scripts = [r] ∧ "zap" ∈ r.classification.remainder ∧
      (Command.run twoScripts (.scan twoScriptsScan)).exitCode = 1 := by
  have hsettings : ((twoScripts.settings none {}).run { files := twoScripts.files }).1 = .ok {} :=
    Environment.settings_of_missing rfl rfl
  have htext : Path.ofText twoScriptsScan.target = { parts := ["d"] } := by decide +kernel
  have htarget : twoScripts.files.node? (Path.ofText twoScriptsScan.target) =
      .ok (some (.directory [("a.sh", .file [122, 97, 112, 10]), ("b.sh", .file [])])) := by
    rw [htext]
    rfl
  have hload : twoScripts.files.loadScript { parts := ["d", "a.sh"] } {} "a.sh" =
      .ok { text := "zap\n", name := "a.sh" } := by decide +kernel
  have hrefused : twoScripts.files.loadScript { parts := ["d", "b.sh"] } {} "b.sh" =
      .error (.input ⟨.sizeOutOfBounds 0 1 50000, some { parts := ["d", "b.sh"] }⟩) := by
    decide +kernel
  have hfound : twoScripts.files.discover (.ofText twoScriptsScan.target) =
      .ok [{ parts := ["a.sh"] }, { parts := ["b.sh"] }] := by
    have hscripts : FileNode.scripts (.directory
        [("a.sh", .file [122, 97, 112, 10]), ("b.sh", .file [])]) = [["a.sh"], ["b.sh"]] :=
      List.mergeSort_of_pairwise (by decide)
    have hcheck : FileTree.checkPath (twoScripts.files.resolve (.ofText twoScriptsScan.target)) =
        .ok () := by decide +kernel
    have hreach : twoScripts.files.ReachesBelow
        (twoScripts.files.resolve (.ofText twoScriptsScan.target)) (.directory
          [("a.sh", .file [122, 97, 112, 10]), ("b.sh", .file [])]) :=
      FileTree.reachesBelow_iff.2 (by decide +kernel)
    rw [FileTree.discover_of_checkPath htarget rfl hcheck hreach, hscripts]
    rfl
  have hcompletes : twoScriptsScan.Completes twoScripts {} (.ofText twoScriptsScan.target)
      [{ parts := ["a.sh"] }, { parts := ["b.sh"] }] := by
    rw [htext]
    refine ⟨?_, nofun, nofun, nofun⟩
    simp only [List.forall_mem_cons, List.not_mem_nil, false_implies, implies_true, and_true]
    exact ⟨⟨.of_ok hload, nofun⟩, ⟨.of_input hrefused, nofun⟩⟩
  have hloaded : ([{ parts := ["a.sh"] }, { parts := ["b.sh"] }] : List Path).filter (fun path =>
      (twoScripts.files.loadScript ((Path.ofText twoScriptsScan.target).join path) {}
        path.toString).isOk) = [{ parts := ["a.sh"] }] := by decide +kernel
  obtain ⟨-, hreport, -, hanswer, -⟩ :=
    run_directory twoScripts twoScriptsScan hsettings htarget rfl
  obtain ⟨report, hrun⟩ : ∃ report, ((twoScriptsScan.run twoScripts).run
      { files := twoScripts.files }).1 = .ok report :=
    ⟨_, (hreport _).2 ⟨_, hfound, hcompletes, rfl⟩⟩
  obtain ⟨hscripts, -, hexit⟩ := hanswer report _ hrun hfound
  rw [hloaded] at hscripts
  obtain ⟨r, hr, hone⟩ : ∃ r, twoScriptsScan.ReportsOn twoScripts {}
      (.ofText twoScriptsScan.target) { parts := ["a.sh"] } r ∧ report.scripts = [r] := by
    rw [List.forall₂_cons_left_iff] at hscripts
    obtain ⟨r, rest, hr, hrest, hscripts⟩ := hscripts
    rw [List.forall₂_nil_left_iff] at hrest
    exact ⟨r, hr, hrest ▸ hscripts⟩
  obtain ⟨script, hscript, haudit⟩ := hr.audit
  rw [htext] at hscript
  obtain rfl := Except.ok.inj (hload.symm.trans hscript)
  obtain ⟨r', haudit', hanswers⟩ :=
    @Script.exists_audit? { text := "zap\n", name := "a.sh" } .bundled {} _ rfl {}
  obtain rfl := Except.ok.inj (haudit.symm.trans (FileTree.auditScript_of_audit? rfl haudit'))
  have hzap : "zap" ∈ r.classification.remainder := by
    simp only [hanswers.remainder, List.mem_filter, hanswers.mem_terms]
    decide +kernel
  refine ⟨report, r, hrun, hone, hzap, hexit.trans (if_pos ⟨rfl, r, ?_, ?_⟩)⟩
  · rw [hone]
    exact List.mem_singleton_self r
  · exact hanswers.unresolved_iff.2 (List.ne_nil_of_mem hzap)

/-- The directory `d` with one script. -/
def oneScript : Environment where
  files.root := .directory [("d", .directory [("a.sh", .file [108, 115, 10])])]
  timestamp := ""
  bundledPlace := ""

/-- The scan of this directory under a path that leaves no room for the name of the script. -/
def detourScan : ScanCommand where
  target := detourText 818
  quiet := true
  failOnUnresolved := true

/-- A script that cannot be loaded and is not skipped: the path to it is too long, although the path
to its directory is not. There is no report, and the exit code is that of a failure. -/
theorem ScanCommand.run_directory_of_detour :
    ((oneScript.settings none {}).run { files := oneScript.files }).1 = .ok {} ∧
      oneScript.files.discover (.ofText detourScan.target) = .ok [{ parts := ["a.sh"] }] ∧
      (∀ report, ((detourScan.run oneScript).run { files := oneScript.files }).1 ≠ .ok report) ∧
      (Command.run oneScript (.scan detourScan)).exitCode = 1 := by
  have hsettings : ((oneScript.settings none {}).run { files := oneScript.files }).1 = .ok {} :=
    Environment.settings_of_missing rfl rfl
  have hpath : Path.ofText detourScan.target =
      { parts := (FileTree.detours 818 "d" ++ ["d"]).map .string } := Path.ofText_detourText 818
  have hfind : oneScript.files.find (.ofText detourScan.target) =
      .ok (["d"], .directory [("a.sh", .file [108, 115, 10])]) := by
    rw [hpath, FileTree.find_detours rfl rfl rfl (by decide) (by decide) (by decide),
      if_neg (by decide)]
    rfl
  have hscript : oneScript.files.find ((Path.ofText detourScan.target).join
      { parts := ["a.sh"] }) = .error .tooLong := by
    have hjoin : (Path.ofText detourScan.target).join { parts := ["a.sh"] } =
        { parts := (FileTree.detours 818 "d" ++ "d" :: ["a.sh"]).map .string } := by
      rw [hpath, Path.join, if_neg (by decide), List.map_append, List.map_append, List.append_assoc]
      rfl
    rw [hjoin, FileTree.find_detours rfl rfl rfl (by decide) (by decide) (by decide),
      if_pos (by decide)]
  have htarget : oneScript.files.node? (.ofText detourScan.target) =
      .ok (some (.directory [("a.sh", .file [108, 115, 10])])) := by
    rw [FileTree.node?, hfind]
  have hfound : oneScript.files.discover (.ofText detourScan.target) =
      .ok [{ parts := ["a.sh"] }] := by
    have hscripts : FileNode.scripts (.directory [("a.sh", .file [108, 115, 10])]) = [["a.sh"]] :=
      List.mergeSort_of_pairwise (by decide)
    have hcheck : FileTree.checkPath (oneScript.files.resolve (.ofText detourScan.target)) =
        .ok () := by
      rw [hpath, FileTree.resolve_detours rfl (by decide)]
      decide +kernel
    have hreach : oneScript.files.ReachesBelow
        (oneScript.files.resolve (.ofText detourScan.target))
        (.directory [("a.sh", .file [108, 115, 10])]) := by
      rw [hpath, FileTree.resolve_detours rfl (by decide)]
      exact FileTree.reachesBelow_iff.2 (by decide +kernel)
    rw [FileTree.discover_of_checkPath htarget rfl hcheck hreach, hscripts]
    rfl
  obtain ⟨s, hrun⟩ : ∃ s, (oneScript.settings none {}).run { files := oneScript.files } =
      (.ok {}, s) := ⟨_, Prod.ext hsettings rfl⟩
  refine ⟨hsettings, hfound, ?_⟩
  rcases run_directory_cases (c := detourScan) hrun htarget rfl with
    ⟨found, s', h, hcompletes, -⟩ | ⟨-, fault, s', h⟩
  · obtain rfl := Except.ok.inj (hfound.symm.trans h)
    exact absurd hscript (hcompletes.passes _ List.mem_cons_self).1.located
  · refine ⟨fun report => ?_, (RunResult.ofRun_breakdown h).2⟩
    rw [h]
    simp

end CommandAudit

import CommandAudit.Proofs.Audit
import CommandAudit.Proofs.ValidSettings

/-!
# Settings and scripts of a run

Settings that a run accepts name a catalogue that loads and has their platform
(`Environment.settings_returnsIff`), so that no audit under them is refused
(`FileTree.Accepts.exists_audit`). What is left to fail is loading. It either gives a script, or
refuses it, or ends the run, and `FileTree.LoadsOrRefuses` says when the last does not happen
(`FileTree.loadScript_ne_breakdown_iff`).
-/

namespace CommandAudit

/-! ## Accepted settings -/

/-- The catalogue that the settings name can be loaded and has their platform. -/
def FileTree.Accepts (t : FileTree) (settings : Settings) : Prop :=
  ∃ catalogue entry, t.catalogueAt settings.catalogue = .ok catalogue ∧
    catalogue.platforms.lookup settings.platform = some entry

theorem Catalogue.exists_lookup_of_mem {c : Catalogue} {platform : Text}
    (h : platform ∈ c.platformNames) : ∃ entry, c.platforms.lookup platform = some entry := by
  rw [platformNames, List.mem_mergeSort, List.mem_map] at h
  obtain ⟨⟨name, entry⟩, hmem, rfl⟩ := h
  cases hlookup : c.platforms.lookup name with
  | some entry => exact ⟨entry, rfl⟩
  | none =>
    rw [List.lookup_eq_none_iff] at hlookup
    exact absurd (hlookup _ hmem) (by simp)

/-- Settings that a run has once returned are returned again, and are accepted. -/
theorem Environment.settings_returnsIff {env : Environment} {config : Option String}
    {overrides : Overrides} {settings : Settings} {s s' : RunState}
    (h : (env.settings config overrides).run s = (.ok settings, s')) :
    (env.settings config overrides).ReturnsIff env.files settings env.files True ∧
      env.files.Accepts settings := by
  obtain ⟨loaded, source, catalogue, hload, hoverride, hcatalogue, hknown⟩ := exists_of_settings h
  constructor
  · unfold Environment.settings
    refine (Run.returnsIff_ok hload _).then ((Run.returnsIff_record _ _).then ?_)
    simp only [hoverride]
    refine (Run.returnsIff_ok hcatalogue _).then ?_
    rw [if_pos (List.contains_iff_mem.2 hknown)]
    -- Whether the catalogue is logged does not matter.
    split
    · exact (Run.returnsIff_record _ _).then (Run.returnsIff_pure _ _)
    · exact Run.returnsIff_pure _ _
  · obtain ⟨entry, hentry⟩ := Catalogue.exists_lookup_of_mem hknown
    exact ⟨catalogue, entry, hcatalogue, hentry⟩

/-- If there is no file of settings in the usual places, a run has the default settings. -/
theorem Environment.settings_of_missing {env : Environment} {path : Path} {s : RunState}
    (hpath : env.files.defaultConfigPath env.configVariable = .ok path)
    (hmissing : env.files.node? path = .ok none) :
    ((env.settings none {}).run s).1 = .ok {} := by
  have hload : env.files.loadSettings (namedPath none) env.configVariable =
      .ok ({}, .defaults path) := by
    simp only [namedPath, FileTree.loadSettings, hpath, hmissing, ofFile, bind, Except.bind]
    rfl
  have hknown : Catalogue.bundled.platformNames.contains ({} : Settings).platform = true := by
    rw [List.contains_iff_mem, Catalogue.platformNames, List.mem_mergeSort]
    decide +kernel
  rw [fst_run_settings]
  simp only [hload, bind, Except.bind]
  exact if_pos hknown

/-! ## Audits -/

theorem FileTree.auditScript_of_audit? {t : FileTree} {settings : Settings} {catalogue : Catalogue}
    {script : Script} {options : ScanOptions} {r : ScriptReport}
    (hcatalogue : t.catalogueAt settings.catalogue = .ok catalogue)
    (haudit : script.audit? catalogue settings options = some r) :
    t.auditScript script settings options = .ok r := by
  simp only [auditScript, hcatalogue, haudit, bind, Except.bind]

theorem FileTree.Accepts.exists_audit {t : FileTree} {settings : Settings}
    (h : t.Accepts settings) (script : Script) (options : ScanOptions) :
    ∃ (r : ScriptReport) (known : String → Prop) (_ : DecidablePred known),
      t.auditScript script settings options = .ok r ∧ r.Answers (script.tokens options) known := by
  obtain ⟨catalogue, entry, hcatalogue, hentry⟩ := h
  obtain ⟨r, haudit, hanswers⟩ := script.exists_audit? hentry options
  exact ⟨r, _, inferInstance, auditScript_of_audit? hcatalogue haudit, hanswers⟩

/-- The name of a script only shows in the name of its report. -/
theorem FileTree.auditScript_withName {t : FileTree} {script : Script} {settings : Settings}
    {options : ScanOptions} {r : ScriptReport} (h : t.auditScript script settings options = .ok r)
    (name : String) :
    t.auditScript { script with name } settings options = .ok { r with script := name } := by
  unfold auditScript at h ⊢
  cases hcatalogue : t.catalogueAt settings.catalogue with
  | error e => simp [hcatalogue, bind, Except.bind] at h
  | ok catalogue =>
    have hname : ({ script with name } : Script).audit? catalogue settings options =
        (script.audit? catalogue settings options).map fun r => { r with script := name } := by
      unfold Script.audit?
      rw [Option.map_map]
      rfl
    simp only [hcatalogue, hname, bind, Except.bind] at h ⊢
    cases haudit : script.audit? catalogue settings options with
    | none => simp [haudit, Catalogue.refusePlatform, refuse] at h
    | some r' =>
      simp only [haudit] at h ⊢
      obtain rfl := Except.ok.inj h
      rfl

/-! ## Loading -/

/-- Loading the script at a path is no reason for the run to end. -/
structure FileTree.LoadsOrRefuses (t : FileTree) (settings : Settings) (p : Path) : Prop where
  /-- Neither the path nor a name in it is too long. -/
  located : t.find p ≠ .error .tooLong
  /-- If the script misses the bounds for its size, these can be named. -/
  bounds : ∀ node, t.node? p = .ok (some node) → node.isFile = true →
    (node.size : Int) < settings.minSize ∨ settings.maxSize < node.size →
    (integerText? settings.minSize).isSome = true ∧ (integerText? settings.maxSize).isSome = true

theorem FileTree.node?_eq_error_iff {t : FileTree} {p : Path} {e : FileError} :
    t.node? p = .error e ↔ t.find p = .error .tooLong ∧ e = .tooLong := by
  unfold node?
  split
  · next hfind => simp [hfind]
  · next hfind => simp [hfind, eq_comm]
  · next hne hfind =>
    refine ⟨fun h => absurd h (by simp), fun h => ?_⟩
    exact absurd (Except.error.inj (hfind.symm.trans h.1)) hne

theorem FileTree.loadScript_of_some {t : FileTree} {p : Path} {node : FileNode}
    (h : t.node? p = .ok (some node)) (settings : Settings) (name : String) :
    t.loadScript p settings name =
      if !node.isFile then refuse .notRegularFile p
      else if (node.size : Int) < settings.minSize ∨ settings.maxSize < node.size then
        refuseSize node.size settings p
      else
        match node.read with
        | .error e => refuse (.scriptUnreadable e.message) p
        | .ok bytes =>
          .ok { text := scriptText bytes, name := if name = "" then p.toString else name } := by
  unfold loadScript
  rw [h]
  rfl

/-- What is loaded is a file, and its text does not depend on the name. -/
theorem FileTree.exists_of_loadScript_eq_ok {t : FileTree} {p : Path} {settings : Settings}
    {name : String} {script : Script} (h : t.loadScript p settings name = .ok script) :
    ∃ node, t.node? p = .ok (some node) ∧ node.isFile = true ∧
      ∀ name', t.loadScript p settings name' =
        .ok { script with name := if name' = "" then p.toString else name' } := by
  cases hnode : t.node? p with
  | error e => simp [loadScript, hnode, ofFile, bind, Except.bind] at h
  | ok found =>
    cases found with
    | none => simp [loadScript, hnode, ofFile, bind, Except.bind, refuse] at h
    | some node =>
      simp only [loadScript_of_some hnode] at h ⊢
      refine ⟨node, rfl, ?_⟩
      split at h
      · simp [refuse] at h
      · next hfile =>
        split at h
        · unfold refuseSize at h
          split at h <;> simp [refuse] at h
        · next hsize =>
          split at h
          · simp [refuse] at h
          · obtain rfl := Except.ok.inj h
            refine ⟨by simpa using hfile, fun _ => ?_⟩
            rw [if_neg hfile, if_neg hsize]

/-- Loading ends the run only for the reasons of `LoadsOrRefuses`. -/
theorem FileTree.loadScript_ne_breakdown_iff {t : FileTree} {p : Path} {settings : Settings}
    {name : String} :
    (∀ fault, t.loadScript p settings name ≠ .error (.breakdown fault)) ↔
      t.LoadsOrRefuses settings p := by
  cases hnode : t.node? p with
  | error e =>
    have hload : t.loadScript p settings name = .error (.breakdown (.file e)) := by
      simp only [loadScript, hnode, ofFile, bind, Except.bind]
    exact ⟨fun h => absurd hload (h _),
      fun h => absurd (node?_eq_error_iff.1 hnode).1 h.located⟩
  | ok found =>
    have hlocated : t.find p ≠ .error .tooLong := by
      intro hfind
      rw [node?_eq_error_iff.2 ⟨hfind, rfl⟩] at hnode
      exact absurd hnode (by simp)
    cases found with
    | none =>
      refine ⟨fun _ => ⟨hlocated, fun node h => ?_⟩, fun _ fault => ?_⟩
      · rw [hnode] at h
        exact absurd h (by simp)
      · simp [loadScript, hnode, ofFile, bind, Except.bind, refuse]
    | some node =>
      rw [loadScript_of_some hnode]
      constructor
      · intro h
        refine ⟨hlocated, fun node' hnode' hfile hsize => ?_⟩
        obtain rfl := Option.some.inj (Except.ok.inj (hnode.symm.trans hnode'))
        by_contra hbounds
        refine h .numberTooLong ?_
        rw [if_neg (by simp [hfile]), if_pos hsize, refuseSize, if_neg hbounds]
      · intro h fault
        split
        · simp [refuse]
        · next hfile =>
          split
          · next hsize =>
            rw [refuseSize, if_pos (h.bounds node hnode (by simpa using hfile) hsize)]
            simp [refuse]
          · split <;> simp [refuse]

theorem FileTree.LoadsOrRefuses.of_ok {t : FileTree} {p : Path} {settings : Settings}
    {name : String} {script : Script} (h : t.loadScript p settings name = .ok script) :
    t.LoadsOrRefuses settings p :=
  loadScript_ne_breakdown_iff.1 fun fault hfault => by
    rw [h] at hfault
    exact absurd hfault (by simp)

theorem FileTree.LoadsOrRefuses.of_input {t : FileTree} {p : Path} {settings : Settings}
    {name : String} {e : InputError} (h : t.loadScript p settings name = .error (.input e)) :
    t.LoadsOrRefuses settings p :=
  loadScript_ne_breakdown_iff.1 fun fault hfault => by
    rw [h] at hfault
    exact absurd (Except.error.inj hfault) (by simp)

end CommandAudit

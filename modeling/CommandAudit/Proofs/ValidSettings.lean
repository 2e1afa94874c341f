import CommandAudit.Proofs.RunOutcome

/-!
# Valid settings

A record gives settings only if their bounds are possible and in order
(`Settings.isValid_of_ofFields`), and fields that are given for one run leave them so. The settings
of a run are loaded ones with the fields given for it (`Environment.exists_of_settings`), so they
are valid, wherever they come from (`Environment.isValid_of_settings`).
-/

namespace CommandAudit

/-! ## Checked values -/

namespace Checked

variable {α β : Type}

theorem map_eq_valid_iff {f : α → β} {a : Checked α} {b : β} :
    f <$> a = .valid b ↔ ∃ x, a = .valid x ∧ f x = b := by
  cases a <;> simp [Functor.map, map]

theorem seq_eq_valid_iff {f : Checked (α → β)} {a : Checked α} {b : β} :
    f <*> a = .valid b ↔ ∃ g x, f = .valid g ∧ a = .valid x ∧ g x = b := by
  cases f <;> cases a <;> simp [Seq.seq, seq]

theorem andThen_eq_valid_iff {a : Checked α} {check : α → Checked β} {b : β} :
    a.andThen check = .valid b ↔ ∃ x, a = .valid x ∧ check x = .valid b := by
  cases a <;> simp [andThen]

theorem under_eq_valid_iff {place : Place} {a : Checked α} {x : α} :
    a.under place = .valid x ↔ a = .valid x := by
  cases a <;> simp [under]

end Checked

/-- An integer that passes its check is not below the minimum. -/
theorem Check.le_of_integerFrom {least n : Int} {v : Value} (h : integerFrom least v = .valid n) :
    least ≤ n := by
  obtain ⟨x, -, hx⟩ := Checked.andThen_eq_valid_iff.1 h
  split at hx
  · simp [Checked.fail] at hx
  · next hleast =>
    obtain rfl := Checked.valid.inj hx
    exact Int.not_lt.1 hleast

/-- What the default and all checked values satisfy, a field satisfies. -/
theorem Check.fieldOr_induction {ν α : Type} {entries : List (Value × ν)} {name : String}
    {default a : α} {check : ν → Checked α} {p : α → Prop}
    (h : fieldOr entries name default check = .valid a) (hdefault : p default)
    (hcheck : ∀ v a, check v = .valid a → p a) : p a := by
  unfold fieldOr at h
  split at h
  · exact hcheck _ a (Checked.under_eq_valid_iff.1 h)
  · exact Checked.valid.inj h ▸ hdefault

/-! ## Valid settings -/

/-- The bounds of the settings are possible and in order. -/
structure Settings.IsValid (s : Settings) : Prop where
  /-- The least size is a size. -/
  least : 0 ≤ s.minSize
  /-- The greatest size admits a script. -/
  greatest : leastMaxSize ≤ s.maxSize
  /-- Neither is beyond the other. -/
  ordered : s.minSize ≤ s.maxSize

theorem Settings.isValid_default : ({} : Settings).IsValid :=
  ⟨by decide, by decide, by decide⟩

theorem Settings.le_of_checkBounds {s s' : Settings} (h : s.checkBounds = .valid s') :
    s' = s ∧ s.minSize ≤ s.maxSize := by
  unfold checkBounds at h
  split at h
  · simp [Checked.fail] at h
  · next hbounds => exact ⟨(Checked.valid.inj h).symm, Int.not_lt.1 hbounds⟩

/-- Untyped data that pass a check have passed it. -/
theorem FieldValue.exists_of_check {α : Type} {fault : Fault} {ofData : Value → Checked α}
    {v : FieldValue} {a : α} (h : v.check fault ofData = .valid a) :
    ∃ data, v = .data data ∧ ofData data = .valid a := by
  cases v with
  | data data => exact ⟨data, rfl, h⟩
  | escapeMode | path => simp [check, Checked.fail] at h

theorem FieldValue.le_of_check {fault : Fault} {least n : Int} {v : FieldValue}
    (h : v.check fault (Check.integerFrom least) = .valid n) : least ≤ n := by
  obtain ⟨data, -, hdata⟩ := exists_of_check h
  exact Check.le_of_integerFrom hdata

theorem Settings.isValid_of_ofFields {entries : List (Value × FieldValue)} {s : Settings}
    (h : ofFields entries = .valid s) : s.IsValid := by
  obtain ⟨fields, hfields, hbounds⟩ := Checked.andThen_eq_valid_iff.1 h
  obtain ⟨rfl, hordered⟩ := le_of_checkBounds hbounds
  simp only [Checked.seq_eq_valid_iff, Checked.map_eq_valid_iff] at hfields
  obtain ⟨_, _, ⟨_, _, ⟨_, _, ⟨_, _, ⟨_, maxSize, ⟨minSize, hmin, rfl⟩, hmax, rfl⟩, -, rfl⟩, -,
    rfl⟩, -, rfl⟩, -, rfl⟩ := hfields
  exact ⟨Check.fieldOr_induction hmin (by decide) fun _ _ => FieldValue.le_of_check,
    Check.fieldOr_induction hmax (by decide) fun _ _ => FieldValue.le_of_check, hordered⟩

theorem Settings.isValid_of_ofRecord {entries : List (Value × Value)} {s : Settings}
    (h : ofRecord entries = .valid s) : s.IsValid :=
  isValid_of_ofFields h

/-- Fields that are given for one run leave settings valid. -/
theorem Settings.IsValid.override {s s' : Settings} {o : Overrides} (h : s.IsValid)
    (hs' : s.override o = .valid s') : s'.IsValid := by
  unfold Settings.override at hs'
  split at hs'
  · exact Checked.valid.inj hs' ▸ h
  · exact isValid_of_ofFields hs'

/-! ## Loaded settings -/

theorem Settings.IsValid.anchorCatalogue {s : Settings} (h : s.IsValid) (p : Path) :
    (FileTree.anchorCatalogue p s).IsValid :=
  ⟨h.least, h.greatest, h.ordered⟩

theorem exists_of_bind_eq_ok {α β : Type} {x : Outcome α} {f : α → Outcome β} {b : β}
    (h : x >>= f = .ok b) : ∃ a, x = .ok a ∧ f a = .ok b := by
  cases x with
  | error e => simp [bind, Except.bind] at h
  | ok a => exact ⟨a, rfl, h⟩

namespace FileTree

variable {t : FileTree} {p : Path}

theorem isValid_of_loadConfig {s : Settings} (h : t.loadConfig p = .ok s) : s.IsValid := by
  unfold loadConfig at h
  obtain ⟨v, -, h⟩ := exists_of_bind_eq_ok h
  split at h
  · obtain ⟨entries, -, h⟩ := exists_of_bind_eq_ok h
    split at h
    · next s' hs' =>
      obtain rfl := Except.ok.inj h
      exact (Settings.isValid_of_ofRecord hs').anchorCatalogue p
    · simp [refuse] at h
  · simp [refuse] at h

/-- The path at which settings are looked for. -/
def settingsPath (t : FileTree) (named : Option Path) (fromEnvironment : Option String) :
    Outcome Path :=
  match named with
  | some p => t.expandHome p
  | none => t.defaultConfigPath fromEnvironment

theorem loadSettings_eq_bind (named : Option Path) (fromEnvironment : Option String) :
    t.loadSettings named fromEnvironment = (do
      let path ← t.settingsPath named fromEnvironment
      if (← ofFile (t.node? path)).isSome then .ok (← t.loadConfig path, .loaded path)
      else if named.isSome then refuse .configNotFound path
      else .ok ({}, .defaults path)) := by
  cases named <;> rfl

/-- All settings that are loaded are valid, and so are the defaults. -/
theorem isValid_of_loadSettings {named : Option Path} {fromEnvironment : Option String}
    {r : Settings × SettingsSource} (h : t.loadSettings named fromEnvironment = .ok r) :
    r.1.IsValid := by
  rw [loadSettings_eq_bind] at h
  obtain ⟨path, -, h⟩ := exists_of_bind_eq_ok h
  obtain ⟨node, -, h⟩ := exists_of_bind_eq_ok h
  split at h
  · obtain ⟨s, hs, h⟩ := exists_of_bind_eq_ok h
    obtain rfl := Except.ok.inj h
    exact isValid_of_loadConfig hs
  · split at h
    · simp [refuse] at h
    · obtain rfl := Except.ok.inj h
      exact Settings.isValid_default

end FileTree

/-! ## Settings of a run -/

/-- The path of the settings named on a command line. -/
def namedPath (config : Option String) : Option Path :=
  config.map fun s => Path.ofText s

/-- The settings of a run without its log. -/
theorem Environment.fst_run_settings (env : Environment) (config : Option String)
    (overrides : Overrides) (s : RunState) :
    ((env.settings config overrides).run s).1 = (do
      let (loaded, _) ← env.files.loadSettings (namedPath config) env.configVariable
      match loaded.override overrides with
      | .invalid ps => refuse (.optionInvalid ps)
      | .valid chosen =>
        let catalogue ← env.files.catalogueAt chosen.catalogue
        if catalogue.platformNames.contains chosen.platform then .ok chosen
        else refuse (.unknownPlatform chosen.platform
          (Text.join ", " catalogue.platformNames))) := by
  unfold settings
  dsimp only
  rw [Run.run_bind, Run.run_liftM, ← namedPath]
  cases env.files.loadSettings (namedPath config) env.configVariable with
  | error failure => rfl
  | ok found =>
    obtain ⟨loaded, source⟩ := found
    dsimp only
    rw [Run.run_bind, Run.run_record]
    conv => rhs; simp only [bind, Except.bind]
    cases loaded.override overrides with
    | invalid ps => rfl
    | valid chosen =>
      dsimp only
      rw [Run.run_bind, Run.run_liftM]
      cases env.files.catalogueAt chosen.catalogue with
      | error failure => rfl
      | ok catalogue =>
        dsimp only
        -- Whether the catalogue is logged does not matter.
        cases chosen.catalogue.isNone <;>
          cases catalogue.platformNames.contains chosen.platform <;> rfl

/-- Settings that a run returns are loaded settings with the fields given for it, and the catalogue
that they name loads and has their platform. -/
theorem Environment.exists_of_settings {env : Environment} {config : Option String}
    {overrides : Overrides} {settings : Settings} {s s' : RunState}
    (h : (env.settings config overrides).run s = (.ok settings, s')) :
    ∃ loaded source catalogue,
      env.files.loadSettings (namedPath config) env.configVariable = .ok (loaded, source) ∧
      loaded.override overrides = .valid settings ∧
      env.files.catalogueAt settings.catalogue = .ok catalogue ∧
      settings.platform ∈ catalogue.platformNames := by
  have houtcome := env.fst_run_settings config overrides s
  rw [h] at houtcome
  obtain ⟨⟨loaded, source⟩, hload, hsettings⟩ := exists_of_bind_eq_ok houtcome.symm
  dsimp only at hsettings
  split at hsettings
  · simp [refuse] at hsettings
  · next chosen hchosen =>
    obtain ⟨catalogue, hcatalogue, hsettings⟩ := exists_of_bind_eq_ok hsettings
    split at hsettings
    · next hknown =>
      obtain rfl := Except.ok.inj hsettings
      exact ⟨loaded, source, catalogue, hload, hchosen, hcatalogue, List.contains_iff_mem.1 hknown⟩
    · simp [refuse] at hsettings

/-- The settings of a run are valid, whatever is given for it. -/
theorem Environment.isValid_of_settings {env : Environment} {config : Option String}
    {overrides : Overrides} {settings : Settings} {s s' : RunState}
    (h : (env.settings config overrides).run s = (.ok settings, s')) : settings.IsValid := by
  obtain ⟨loaded, source, catalogue, hload, hoverride, -⟩ := exists_of_settings h
  exact (FileTree.isValid_of_loadSettings hload).override hoverride

end CommandAudit

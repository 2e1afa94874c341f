import CommandAudit.Proofs.ConfigReading
import CommandAudit.Proofs.ScriptLoading

/-!
# Fields given for one run

Settings that are taken apart into their fields and checked again are the same settings
(`Settings.ofFields_entries`), with the path of the catalogue as it was found. Hence fields given
for one run replace just these fields (`Settings.override_eq`), and a run goes on with the result if
its bounds are possible and the catalogue has its platform, and refuses the input if not
(`Environment.settings_replaced`).
-/

namespace CommandAudit

/-! ## Fields of a record -/

namespace Check

variable {ν α : Type}

theorem field?_nil (name : String) : field? ([] : List (Value × ν)) name = none := by
  rw [field?, List.find?_nil, Option.map_none]

theorem field?_append (entries entries' : List (Value × ν)) (name : String) :
    field? (entries ++ entries') name = (field? entries name).or (field? entries' name) := by
  simp only [field?, List.find?_append]
  cases entries.find? fun e => e.1.sameKey (.text name) <;> rfl

theorem field?_fieldEntry_cons (name name' : String) (v : FieldValue)
    (rest : List (Value × FieldValue)) :
    field? (fieldEntry name v :: rest) name' =
      if name = name' then some v else field? rest name' := by
  by_cases h : name = name' <;> simp [field?, fieldEntry, Value.sameKey, Value.key?, h]

theorem field?_toList_map {β : Type} (name name' : String) (f : β → FieldValue) (x : Option β) :
    field? (x.map fun b => fieldEntry name (f b)).toList name' =
      if name = name' then x.map f else none := by
  cases x <;> simp [field?_fieldEntry_cons, field?_nil]

theorem fieldOr_of_field? {entries : List (Value × ν)} {name : String} {default a : α}
    {check : ν → Checked α} {v : ν} (h : field? entries name = some v) (hv : check v = .valid a) :
    fieldOr entries name default check = .valid a := by
  simp only [fieldOr, h, hv, Checked.under]

/-- Items that pass the check make a list that does. -/
theorem list_map {check : Value → Checked α} {f : α → Value} (h : ∀ a, check (f a) = .valid a)
    (items : List α) : list check (.list (items.map f)) = .valid items := by
  have hall : ∀ n, Checked.all (((items.map f).zipIdx n).map fun entry =>
      (check entry.1).under (.index entry.2)) = .valid items := by
    induction items with
    | nil => exact fun _ => rfl
    | cons a rest ih =>
      intro n
      rw [List.map_cons, List.zipIdx_cons, List.map_cons, Checked.all, ih (n + 1)]
      simp only [h]
      rfl
  exact hall 0

end Check

/-! ## Settings from their own fields -/

namespace Settings

/-- The settings only depend on the values of the fields. -/
theorem ofFields_congr {entries entries' : List (Value × FieldValue)}
    (h : ∀ name, Check.field? entries name = Check.field? entries' name) :
    ofFields entries = ofFields entries' := by
  simp only [ofFields, Check.fieldOr, h]

/-- The fields of settings pass their checks unchanged. Only the bounds can be refused. -/
theorem ofFields_entries {s : Settings} (h : 0 ≤ s.minSize) :
    ofFields s.entries =
      if s.maxSize < leastMaxSize then .invalid [⟨[.name "max_size"], .belowMinimum⟩]
      else s.checkBounds := by
  have hmin : Check.fieldOr s.entries "min_size" 1
      (FieldValue.check .notInteger (Check.integerFrom 0)) = .valid s.minSize := by
    refine Check.fieldOr_of_field? (v := .data (.int s.minSize)) rfl ?_
    exact if_neg (Int.not_lt.2 h)
  have hplatform : Check.fieldOr s.entries "platform" (.string "macos")
      (FieldValue.check .notText Check.text) = .valid s.platform := rfl
  have hmode : Check.fieldOr s.entries "escape_mode" .legacy FieldValue.toEscapeMode =
      .valid s.escapeMode := rfl
  have hnames : Check.fieldOr s.entries "extra_names" []
      (FieldValue.check .notList (Check.list Check.text)) = .valid s.extraNames :=
    Check.fieldOr_of_field? (v := .data (.list (s.extraNames.map .text))) rfl
      (Check.list_map (f := .text) (fun _ => rfl) s.extraNames)
  have hpath : Check.fieldOr s.entries "reference_sets" none FieldValue.toPath =
      .valid s.catalogue := by
    refine Check.fieldOr_of_field? (v := s.catalogue.elim (.data .null) .path) rfl ?_
    cases s.catalogue <;> rfl
  unfold ofFields
  simp only [hmin, hplatform, hmode, hnames, hpath]
  by_cases hleast : s.maxSize < leastMaxSize
  · have hmax : Check.fieldOr s.entries "max_size" 50000
        (FieldValue.check .notInteger (Check.integerFrom leastMaxSize)) =
        .invalid [⟨[.name "max_size"], .belowMinimum⟩] := by
      change ((Check.integerFrom leastMaxSize (.int s.maxSize)).under (.name "max_size")) = _
      rw [Check.integerFrom, Check.integer, Checked.andThen, if_pos hleast]
      rfl
    rw [hmax, if_pos hleast]
    rfl
  · have hmax : Check.fieldOr s.entries "max_size" 50000
        (FieldValue.check .notInteger (Check.integerFrom leastMaxSize)) = .valid s.maxSize := by
      refine Check.fieldOr_of_field? (v := .data (.int s.maxSize)) rfl ?_
      exact if_neg hleast
    rw [hmax, if_neg hleast]
    rfl

/-! ## Replaced fields -/

/-- The settings with the given fields replaced, whether they are valid or not. -/
def replaced (s : Settings) (o : Overrides) : Settings :=
  { s with
    platform := o.platform.elim s.platform .string
    escapeMode := o.escapeMode.getD s.escapeMode
    maxSize := o.maxSize.getD s.maxSize }

@[simp]
theorem catalogue_replaced (s : Settings) (o : Overrides) :
    (s.replaced o).catalogue = s.catalogue :=
  rfl

/-- The given fields in front of the fields of the settings hold what the fields of the replaced
settings hold. -/
theorem field?_entries_append (s : Settings) (o : Overrides) (name : String) :
    Check.field? (o.entries ++ s.entries) name = Check.field? (s.replaced o).entries name := by
  simp only [Overrides.entries, entries, Check.field?_append, Check.field?_toList_map,
    Check.field?_fieldEntry_cons, Check.field?_nil]
  by_cases hplatform : "platform" = name
  · subst hplatform
    cases h : o.platform <;> simp [replaced, h]
  by_cases hmode : "escape_mode" = name
  · subst hmode
    cases h : o.escapeMode <;> simp [replaced, h]
  by_cases hsize : "max_size" = name
  · subst hsize
    cases h : o.maxSize <;> simp [replaced, h]
  simp only [if_neg hplatform, if_neg hmode, if_neg hsize, Option.none_or]
  rfl

theorem replaced_of_entries_eq_nil {s : Settings} {o : Overrides} (h : o.entries = []) :
    s.replaced o = s := by
  rcases o with ⟨platform, mode, size⟩
  cases platform <;> cases mode <;> cases size <;> simp [Overrides.entries] at h
  rfl

/-- The outcome of giving fields for one run. -/
theorem override_eq {s : Settings} (h : s.IsValid) (o : Overrides) :
    s.override o =
      if (s.replaced o).maxSize < leastMaxSize then
        .invalid [⟨[.name "max_size"], .belowMinimum⟩]
      else (s.replaced o).checkBounds := by
  unfold override
  split
  · next hnone =>
    rw [replaced_of_entries_eq_nil (List.isEmpty_iff.1 hnone), if_neg (Int.not_lt.2 h.greatest),
      checkBounds, if_neg (Int.not_lt.2 h.ordered)]
  · rw [ofFields_congr (field?_entries_append s o)]
    exact ofFields_entries h.least

theorem override_eq_valid_iff {s chosen : Settings} (h : s.IsValid) {o : Overrides} :
    s.override o = .valid chosen ↔
      chosen = s.replaced o ∧ leastMaxSize ≤ chosen.maxSize ∧ chosen.minSize ≤ chosen.maxSize := by
  rw [override_eq h]
  constructor
  · intro hchosen
    split at hchosen
    · exact absurd hchosen (by simp)
    · next hleast =>
      obtain ⟨rfl, hordered⟩ := le_of_checkBounds hchosen
      exact ⟨rfl, Int.not_lt.1 hleast, hordered⟩
  · rintro ⟨rfl, hleast, hordered⟩
    rw [if_neg (Int.not_lt.2 hleast), checkBounds, if_neg (Int.not_lt.2 hordered)]

/-- A run can go on with the settings: their bounds are possible and the catalogue has their
platform. -/
structure Fits (s : Settings) (c : Catalogue) : Prop where
  /-- The greatest size admits a script. -/
  greatest : leastMaxSize ≤ s.maxSize
  /-- The least size is not beyond it. -/
  ordered : s.minSize ≤ s.maxSize
  /-- The platform is known. -/
  known : s.platform ∈ c.platformNames

end Settings

/-! ## Settings of a run -/

theorem Catalogue.exists_requireSets {c : Catalogue} {platform : Text} {entry : CatalogueEntry}
    (h : c.platforms.lookup platform = some entry) (declared : List String) (extra : List Text) :
    ∃ sets, c.requireSets declared platform extra = .ok sets := by
  rw [requireSets, setsFor?, h]
  exact ⟨_, rfl⟩

namespace Environment

/-- Fields that are given for one run replace just these fields of the loaded settings, if the
result fits the catalogue, and the input is refused if not. So the settings of every run are valid,
and its catalogue has their platform: the sets for it are found and no audit is refused. -/
theorem settings_replaced (env : Environment) (config : Option String) (given : Overrides)
    (s : RunState) :
    (∀ loaded source catalogue,
      env.files.loadSettings (namedPath config) env.configVariable = .ok (loaded, source) →
      env.files.catalogueAt loaded.catalogue = .ok catalogue →
      (((env.settings config given).run s).1 = .ok (loaded.replaced given) ↔
        (loaded.replaced given).Fits catalogue) ∧
      (¬(loaded.replaced given).Fits catalogue →
        ∃ e, ((env.settings config given).run s).1 = .error (.input e))) ∧
    ∀ settings s', (env.settings config given).run s = (.ok settings, s') →
      settings.IsValid ∧
      (∃ catalogue, env.files.catalogueAt settings.catalogue = .ok catalogue ∧
        ∀ declared, ∃ sets,
          catalogue.requireSets declared settings.platform settings.extraNames = .ok sets) ∧
      ∀ script options, ∃ r, env.files.auditScript script settings options = .ok r := by
  refine ⟨fun loaded source catalogue hload hcatalogue => ?_, fun settings s' h => ?_⟩
  · have hvalid : loaded.IsValid := FileTree.isValid_of_loadSettings hload
    cases hoverride : loaded.override given with
    | valid chosen =>
      obtain ⟨rfl, hleast, hordered⟩ := (Settings.override_eq_valid_iff hvalid).1 hoverride
      have houtcome := fst_run_settings env config given s
      simp only [hload, hoverride, Settings.catalogue_replaced, hcatalogue, bind, Except.bind]
        at houtcome
      rw [houtcome]
      by_cases hknown : (loaded.replaced given).platform ∈ catalogue.platformNames
      · have hfits : (loaded.replaced given).Fits catalogue := ⟨hleast, hordered, hknown⟩
        rw [if_pos (List.contains_iff_mem.2 hknown)]
        exact ⟨iff_of_true rfl hfits, fun hnot => absurd hfits hnot⟩
      · rw [if_neg (mt List.contains_iff_mem.1 hknown)]
        exact ⟨iff_of_false (by simp [refuse]) fun hfits => hknown hfits.known, fun _ => ⟨_, rfl⟩⟩
    | invalid ps =>
      have hnot : ¬(loaded.replaced given).Fits catalogue := by
        intro hfits
        have hchosen := (Settings.override_eq_valid_iff hvalid).2
          ⟨rfl, hfits.greatest, hfits.ordered⟩
        rw [hoverride] at hchosen
        exact absurd hchosen (by simp)
      have houtcome := fst_run_settings env config given s
      simp only [hload, hoverride, bind, Except.bind] at houtcome
      rw [houtcome]
      exact ⟨iff_of_false (by simp [refuse]) hnot, fun _ => ⟨_, rfl⟩⟩
  · obtain ⟨-, haccepts⟩ := settings_returnsIff h
    refine ⟨isValid_of_settings h, ?_, fun script options => ?_⟩
    · obtain ⟨catalogue, entry, hcatalogue, hentry⟩ := haccepts
      exact ⟨catalogue, hcatalogue, fun declared => Catalogue.exists_requireSets hentry declared _⟩
    · obtain ⟨r, -, -, hr, -⟩ := haccepts.exists_audit script options
      exact ⟨r, hr⟩

/-- A file of settings without any field. -/
def emptyConfig : Environment where
  files.root := .directory [("config.yaml", .file [])]
  timestamp := ""
  bundledPlace := ""

theorem settings_replaced_of_empty_config :
    let strict : Settings := { platform := "linux", escapeMode := .strict, maxSize := 5 }
    ((emptyConfig.settings (some "config.yaml")
        { platform := some "linux", escapeMode := some .strict, maxSize := some 5 }).run
        { files := emptyConfig.files }).1 = .ok strict ∧
      (∃ e, ((emptyConfig.settings (some "config.yaml") { maxSize := some 0 }).run
        { files := emptyConfig.files }).1 = .error (.input e)) ∧
      ∃ r, emptyConfig.files.auditScript { text := "zap" } strict {} = .ok r := by
  intro strict
  have hload : emptyConfig.files.loadSettings (namedPath (some "config.yaml"))
      emptyConfig.configVariable = .ok ({}, .loaded { parts := ["config.yaml"] }) := by
    decide +kernel
  have hknown : (.string "linux") ∈ Catalogue.bundled.platformNames := by
    rw [Catalogue.platformNames, List.mem_mergeSort]
    decide +kernel
  obtain ⟨hgiven, hreached⟩ := settings_replaced emptyConfig (some "config.yaml")
    { platform := some "linux", escapeMode := some .strict, maxSize := some 5 }
    { files := emptyConfig.files }
  have hstrict := (hgiven _ _ _ hload rfl).1.2 ⟨by decide, by decide, hknown⟩
  obtain ⟨hrefused, -⟩ := settings_replaced emptyConfig (some "config.yaml")
    { maxSize := some 0 } { files := emptyConfig.files }
  refine ⟨hstrict, (hrefused _ _ _ hload rfl).2 fun hfits => ?_, ?_⟩
  · exact absurd hfits.greatest (by decide)
  · exact (hreached strict _ (Prod.ext hstrict rfl)).2.2 _ _

end Environment

end CommandAudit

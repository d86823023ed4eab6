import SolidityLint.Command.Plan
import SolidityLint.Proofs.Settings.Precedence

/-!
# How loading settings fails

Settings that are loaded can be used, and most faults are reported with a message, which ends a run
with an exit code.  A few faults escape (`fails_load_iff`): paths that are too long, documents that
are nested too deeply, a section or rule levels that are not tables where tables are needed, and a
value without elements where a list is expected.
-/

namespace SolidityLint

/-! ## Names of merged fields -/

namespace Table

variable {t u layer : Table} {layers : List Table} {P : Text → Prop} {key : Text} {v : Value}

theorem forall_names_mergeField (ht : ∀ f ∈ t, P f.1) (hkey : P key)
    (h : t.mergeField key v = .ok u) : ∀ f ∈ u, P f.1 := by
  have hput : ∀ w, ∀ f ∈ t.put key w, P f.1 := fun w f hf => by
    rcases mem_of_mem_put hf with rfl | hf
    · exact hkey
    · exact ht f hf
  rw [mergeField.eq_def] at h
  split at h
  · exact Except.ok.inj h ▸ ht
  · split at h
    · split at h
      · exact Except.ok.inj h ▸ hput _
      · exact Except.ok.inj h ▸ hput _
      · cases h
    · exact Except.ok.inj h ▸ hput _
  · exact Except.ok.inj h ▸ hput _

theorem forall_names_mergeLayer (ht : ∀ f ∈ t, P f.1) (hlayer : ∀ f ∈ layer, P f.1)
    (h : mergeLayer t layer = .ok u) : ∀ f ∈ u, P f.1 := by
  rw [mergeLayer] at h
  induction layer generalizing t with
  | nil => exact pure_eq_ok_iff.1 h ▸ ht
  | cons f layer ih =>
      obtain ⟨hf, hlayer⟩ := List.forall_mem_cons.1 hlayer
      rw [List.foldlM_cons, bind_eq_ok_iff] at h
      obtain ⟨next, hnext, h⟩ := h
      exact ih (forall_names_mergeField ht hf hnext) hlayer h

/-- Merging adds no names. -/
theorem forall_names_merge (hlayers : ∀ l ∈ layers, ∀ f ∈ l, P f.1) (h : merge layers = .ok u) :
    ∀ f ∈ u, P f.1 := by
  have hfold : ∀ t : Table, (∀ f ∈ t, P f.1) → layers.foldlM mergeLayer t = .ok u →
      ∀ f ∈ u, P f.1 := by
    clear h
    induction layers with
    | nil => exact fun t ht h => pure_eq_ok_iff.1 h ▸ ht
    | cons l layers ih =>
        intro t ht h
        obtain ⟨hl, hlayers⟩ := List.forall_mem_cons.1 hlayers
        rw [List.foldlM_cons, bind_eq_ok_iff] at h
        obtain ⟨next, hnext, h⟩ := h
        exact ih hlayers next (forall_names_mergeLayer ht hl hnext) h
  exact hfold [] (by simp) h

end Table

/-! ## Fields of settings -/

/-- Has a value elements?  A text has its characters. -/
def Value.hasElements : Value → Bool
  | .text _ | .list _ | .table _ => true
  | _ => false

/-- Is a list expected as the value of a field? -/
def Field.isList : Field → Bool
  | excluded | extensions => true
  | _ => false

/-- Is a fault not reported with a message? -/
def SettingsError.Escapes (e : SettingsError) : Prop :=
  ∀ reason, e ≠ .invalid reason

/-- Is a fault not reported with a message? -/
def LoadError.Escapes (e : LoadError) : Prop :=
  e.message? = none

namespace Settings

variable {given : Field → Option Value} {found : Option Value} {field : Field}

@[simp] theorem not_escapes_invalid (reason : InvalidField) :
    ¬(SettingsError.invalid reason).Escapes :=
  fun h => h reason rfl

@[simp] theorem escapes_noElements (field : Field) : (SettingsError.noElements field).Escapes :=
  fun _ => nofun

theorem not_fails_ruleFields : ¬Fails (ruleFields found) SettingsError.Escapes := by
  rw [ruleFields.eq_def]
  split <;> simp

theorem exists_ruleFields_iff : (∃ t, ruleFields found = .ok t) ↔ Table.AreLevels found := by
  rcases found with _ | v
  · simp [ruleFields, Table.AreLevels]
  · cases v <;> simp [ruleFields, Table.AreLevels]

theorem not_fails_refuseText : ¬Fails (refuseText field found) SettingsError.Escapes := by
  rw [refuseText.eq_def]
  split <;> simp

theorem exists_refuseText_iff :
    (∃ u, refuseText field found = .ok u) ↔ ∀ s, found ≠ some (.text s) := by
  rcases found with _ | v
  · simp [refuseText]
  · cases v <;> simp [refuseText]

theorem fails_elements_iff (htext : ∀ s, found ≠ some (.text s)) {defaults : List Value} :
    Fails (elements field defaults found) SettingsError.Escapes ↔
      ∃ v, found = some v ∧ v.hasElements = false := by
  rcases found with _ | v
  · simp [elements]
  · cases v with
    | text s => exact absurd rfl (htext s)
    | _ => simp [elements, Value.hasElements]

theorem exists_elements (htext : ∀ s, found ≠ some (.text s)) {defaults : List Value}
    (h : ¬∃ v, found = some v ∧ v.hasElements = false) :
    ∃ vs, elements field defaults found = .ok vs := by
  rcases found with _ | v
  · exact ⟨_, rfl⟩
  · cases v with
    | text s => exact absurd rfl (htext s)
    | list vs => exact ⟨_, rfl⟩
    | table fields => exact ⟨_, rfl⟩
    | _ => exact absurd ⟨_, rfl, rfl⟩ h

theorem not_fails_levels (t : Table) : ¬Fails (levels t) SettingsError.Escapes := by
  induction t with
  | nil => simp [levels]
  | cons f t ih =>
      rw [levels]
      split <;> simp [ih]

theorem not_fails_texts (read? : Value → Option Text) (reason : InvalidField) (vs : List Value) :
    ¬Fails (texts read? reason vs) SettingsError.Escapes := by
  induction vs with
  | nil => simp [texts]
  | cons v vs ih =>
      rw [texts]
      split <;> simp [ih]

theorem not_fails_bound (default least : Nat) (notInteger tooSmall : InvalidField) :
    ¬Fails (bound default least notInteger tooSmall found) SettingsError.Escapes := by
  rw [bound.eq_def]
  split
  · simp
  · split <;> simp
  · simp

theorem not_fails_formatterName (default : Text) :
    ¬Fails (formatterName default found) SettingsError.Escapes := by
  rw [formatterName.eq_def]
  split
  · simp
  · split <;> simp

theorem forall_isList_iff {P : Field → Prop} :
    (∀ field : Field, field.isList = true → P field) ↔ P .excluded ∧ P .extensions := by
  refine ⟨fun h => ⟨h _ rfl, h _ rfl⟩, fun ⟨hexcluded, hextensions⟩ field hfield => ?_⟩
  cases field with
  | excluded => exact hexcluded
  | extensions => exact hextensions
  | _ => cases hfield

theorem exists_isList_iff {P : Field → Prop} :
    (∃ field : Field, field.isList = true ∧ P field) ↔ P .excluded ∨ P .extensions := by
  rw [← not_iff_not, not_or]
  simpa using forall_isList_iff (P := fun field => ¬P field)

/-- The values that escape: one without elements where a list is expected, unless the rule levels or
a text are reported first. -/
def LacksElements (given : Field → Option Value) : Prop :=
  Table.AreLevels (given .rules) ∧
    (∀ field : Field, field.isList = true → ∀ s, given field ≠ some (.text s)) ∧
    ∃ field : Field, field.isList = true ∧ ∃ v, given field = some v ∧ v.hasElements = false

theorem lacksElements_congr {given' : Field → Option Value}
    (hrules : Table.AreLevels (given .rules) ↔ Table.AreLevels (given' .rules))
    (hlists : ∀ field : Field, field.isList = true → given field = given' field) :
    LacksElements given ↔ LacksElements given' := by
  rw [LacksElements, LacksElements, hrules]
  simp only [forall_isList_iff, exists_isList_iff, hlists .excluded rfl, hlists .extensions rfl]

/-- What is checked once both lists have elements is reported. -/
theorem exists_checks (given : Field → Option Value) :
    ∃ checks : Table → List Value → List Value → Except SettingsError Settings,
      (∀ rules excluded extensions,
        ¬Fails (checks rules excluded extensions) SettingsError.Escapes) ∧
      ofGiven given = (do
        let rules ← ruleFields (given .rules)
        refuseText .excluded (given .excluded)
        refuseText .extensions (given .extensions)
        let excluded ← elements .excluded [] (given .excluded)
        let extensions ← elements .extensions [.text ".sol".toList] (given .extensions)
        checks rules excluded extensions) := by
  refine ⟨_, fun rules excluded extensions => ?_, rfl⟩
  refine not_fails_bind (not_fails_levels _) fun rules => ?_
  refine not_fails_bind (not_fails_texts _ _ _) fun excluded => ?_
  split
  · exact fun h => not_escapes_invalid _ (fails_error.1 h)
  refine not_fails_bind (not_fails_texts _ _ _) fun extensions => ?_
  refine not_fails_bind (not_fails_bound _ _ _ _) fun lineLength => ?_
  refine not_fails_bind (not_fails_bound _ _ _ _) fun blankLines => ?_
  exact not_fails_bind (not_fails_formatterName _) fun formatter => fails_pure _

theorem fails_ofGiven_iff : Fails (ofGiven given) SettingsError.Escapes ↔ LacksElements given := by
  obtain ⟨checks, hchecks, hgiven⟩ := exists_checks given
  simp only [hgiven, fails_bind_iff, not_fails_ruleFields, not_fails_refuseText, hchecks, false_or,
    and_false, exists_false, or_false, exists_and_right, exists_ruleFields_iff,
    exists_refuseText_iff]
  rw [LacksElements, forall_isList_iff, exists_isList_iff, and_assoc]
  refine and_congr_right fun _ => and_congr_right fun hexcluded =>
    and_congr_right fun hextensions => ?_
  rw [fails_elements_iff hexcluded, fails_elements_iff hextensions]
  -- the second list is only looked at if the first one has elements
  refine ⟨fun h => h.imp_right And.right, fun h => ?_⟩
  by_cases hfirst : ∃ v, given .excluded = some v ∧ v.hasElements = false
  · exact .inl hfirst
  · exact .inr ⟨exists_elements hexcluded hfirst, h.resolve_left hfirst⟩

/-! ## Documents -/

section Documents

variable {t : Tree} {start : Option Path} {name : Text} {path : Path}

/-- A file that is nested too deeply to be read. -/
def IsTooDeep (t : Tree) (path : Path) : Prop :=
  ∃ bytes source, t.read path = .ok bytes ∧ Utf8.decode bytes = .ok source ∧
    Toml.Document.read source = .error .tooDeep

theorem fails_document?_iff {bytes : Bytes} : Fails (document? bytes) LoadError.Escapes ↔
    ∃ source, Utf8.decode bytes = .ok source ∧ Toml.Document.read source = .error .tooDeep := by
  rw [document?]
  cases Utf8.decode bytes with
  | error error => simp [LoadError.Escapes, LoadError.message?]
  | ok source =>
      cases hread : Toml.Document.read source with
      | ok t => simp [hread]
      | error fault => cases fault <;> simp [hread, LoadError.Escapes, LoadError.message?]

/-- The nearest file of a name escapes: its path, or one above it that is looked up, is too long, or
it is nested too deeply. -/
def NearestEscapes (t : Tree) (name : Text) (start : Option Path) : Prop :=
  (∃ error, t.nearestFrom (.ofText name) start = .error error ∧ error.fault ≠ .nullCharacter) ∨
    ∃ path, t.nearestFrom (.ofText name) start = .ok (some path) ∧ IsTooDeep t path

theorem fails_nearestDocument_iff :
    Fails (nearestDocument t name start) LoadError.Escapes ↔ NearestEscapes t name start := by
  rw [nearestDocument, NearestEscapes]
  cases t.nearestFrom (.ofText name) start with
  | error error => simp [LoadError.Escapes, LoadError.message?]
  | ok found =>
      cases found with
      | none => simp
      | some path =>
          cases hread : t.read path with
          | error error => simp [hread, IsTooDeep]
          | ok bytes => simp [hread, IsTooDeep, fails_document?_iff]

/-- A file that is named escapes: its path is too long, or it is nested too deeply. -/
def NamedEscapes (t : Tree) (path : Path) : Prop :=
  (∃ error, t.read path = .error error ∧ error.fault = .tooLong) ∨ IsTooDeep t path

theorem fails_namedDocument_iff :
    Fails (namedDocument t path) LoadError.Escapes ↔ NamedEscapes t path := by
  rw [namedDocument, NamedEscapes, IsTooDeep]
  cases hread : t.read path with
  | error error =>
      by_cases hlong : error.fault = .tooLong <;>
        simp [hlong, LoadError.Escapes, LoadError.message?]
  | ok bytes =>
      rw [fails_bind_iff, fails_document?_iff, or_iff_left]
      · simp
      · rintro ⟨_ | fields, -, h⟩ <;> simp [LoadError.Escapes, LoadError.message?] at h

/-- The section of a project file cannot be taken. -/
def HasNoSection (project : Table) : Prop :=
  (∃ v, project.get? "tool".toList = some v ∧ ∀ tool, v ≠ .table tool) ∨
    ∃ tool v, project.get? "tool".toList = some (.table tool) ∧
      Table.get? tool "sollint".toList = some v ∧ ∀ fields, v ≠ .table fields

theorem fails_projectSection_iff {project : Table} :
    Fails (projectSection project) LoadError.Escapes ↔ HasNoSection project := by
  rw [projectSection, HasNoSection]
  generalize "tool".toList = toolName, "sollint".toList = sectionName
  cases project.get? toolName with
  | none => simp
  | some v =>
      cases v with
      | table tool =>
          cases hsection : Table.get? tool sectionName with
          | none => simp [hsection]
          | some v => cases v <;> simp [hsection, LoadError.Escapes, LoadError.message?]
      | _ => simp [LoadError.Escapes, LoadError.message?]

theorem not_fails_ofEnvironment (e : Environment) : ¬Fails (ofEnvironment e) LoadError.Escapes := by
  obtain ⟨formatter, lineLength⟩ := e
  rw [ofEnvironment.eq_def]
  cases lineLength with
  | none => simp
  | some given => cases hn : given.integer? <;> simp [hn, LoadError.Escapes, LoadError.message?]

end Documents

/-! ## Loading -/

section Load

variable {t : Tree} {e : Environment} {start named : Option Path} {overrides : Table} {s : Settings}

/-- The file that settings are read from escapes. -/
def FileEscapes (t : Tree) (start : Option Path) : Option Path → Prop
  | some path => NamedEscapes t path
  | none => NearestEscapes t fileName start

/-- The ways in which settings are not loaded without a message that says so. -/
inductive Escapes (t : Tree) (e : Environment) (start named : Option Path) (overrides : Table) :
    Prop
  /-- The project file escapes. -/
  | project (h : NearestEscapes t projectFileName start)
  /-- The project file gives no table of settings. -/
  | noSection {project : Table} (hproject : nearestDocument t projectFileName start = .ok project)
      (h : HasNoSection project)
  /-- The settings file escapes. -/
  | file {project : Table}
      (hproject : projectTable t start = .ok project)
      (h : FileEscapes t start named)
  /-- A table of rule levels comes after a value that is none. -/
  | levels (sources : Sources t e start named)
      (h : Table.Clash (Table.levelsGiven (sources.tables overrides)))
  /-- A value has no elements where a list is expected, and nothing is reported first. -/
  | elements (sources : Sources t e start named)
      (hlevels : ∀ found ∈ Table.levelsGiven (sources.tables overrides), Table.AreLevels found)
      (h : LacksElements fun field =>
        Table.latest (sources.tables overrides) (·.given field.name))

theorem fails_layers_iff : Fails (layers t e start named overrides) LoadError.Escapes ↔
    NearestEscapes t projectFileName start ∨
      (∃ project, nearestDocument t projectFileName start = .ok project ∧ HasNoSection project) ∨
      ∃ project, projectTable t start = .ok project ∧ FileEscapes t start named := by
  have hfile : Fails (fileTable t start named) LoadError.Escapes ↔ FileEscapes t start named := by
    cases named with
    | none => exact fails_nearestDocument_iff
    | some path => exact fails_namedDocument_iff
  have hproject : Fails (projectTable t start) LoadError.Escapes ↔
      NearestEscapes t projectFileName start ∨
        ∃ project, nearestDocument t projectFileName start = .ok project ∧
          HasNoSection project := by
    simp only [projectTable, fails_bind_iff, fails_nearestDocument_iff, fails_projectSection_iff]
  simp only [layers_eq, fails_bind_iff, hproject, hfile, not_fails_ofEnvironment, fails_pure,
    and_false, exists_false, or_false, or_assoc]

/-- Only fields that settings have are merged. -/
theorem ofTable_merged (sources : Sources t e start named) {merged : Table}
    (h : Table.merge (sources.layers overrides) = .ok merged) :
    ofTable merged = ofGiven fun field => merged.get? field.name := by
  have hfields : ∀ l ∈ sources.layers overrides, ∀ f ∈ l, Field.isName f.1 = true := by
    have honly : ∀ t : Table, ∀ f ∈ t.onlyFields, Field.isName f.1 = true :=
      fun t f hf => (List.mem_filter.1 hf).2
    simp only [Sources.layers, List.forall_mem_cons]
    exact ⟨honly _, honly _, (isProper_of_ofEnvironment sources.environment_eq).2, honly _, by simp⟩
  have hnone : merged.find? (fun f => !Field.isName f.1) = none :=
    List.find?_eq_none.2 fun f hf => by
      simp [Table.forall_names_merge (P := fun key => Field.isName key = true) hfields h f hf]
  rw [ofTable, hnone]

theorem fails_load_of_sources (hoverrides : overrides.IsProper)
    (sources : Sources t e start named) :
    Fails (load t e start named overrides) LoadError.Escapes ↔
      Table.Clash (Table.levelsGiven (sources.tables overrides)) ∨
      (∀ found ∈ Table.levelsGiven (sources.tables overrides), Table.AreLevels found) ∧
        LacksElements fun field =>
          Table.latest (sources.tables overrides) (·.given field.name) := by
  have hproper := sources.isProper_of_mem_layers hoverrides
  have hdistinct := fun l hl => (hproper l hl).distinct
  have hgiven : Table.levelsGiven (sources.tables overrides) =
      Table.levelsGiven (sources.layers overrides) := by
    simp only [Table.levelsGiven, Sources.tables, Sources.layers, List.map_cons, Table.given,
      Table.get?_onlyFields]
  rw [load, layers_eq_ok_iff.2 ⟨sources, rfl⟩, Table.ok_bind, hgiven]
  cases hmerge : Table.merge (sources.layers overrides) with
  | error fault =>
      exact iff_of_true ⟨_, rfl, rfl⟩ (.inl ((Table.merge_eq_error_iff hdistinct).1 hmerge))
  | ok merged =>
      rw [or_iff_right fun hclash => by
        rw [(Table.merge_eq_error_iff (e := .rulesNotTable) hdistinct).2 hclash] at hmerge
        cases hmerge]
      refine Iff.trans (b := LacksElements fun field => merged.get? field.name) ?_ ?_
      · simp only [← fails_ofGiven_iff, ofTable_merged sources hmerge]
        cases ofGiven fun field => merged.get? field.name with
        | ok s => simp
        | error error =>
            cases error <;> simp [LoadError.Escapes, LoadError.message?, SettingsError.Escapes]
      by_cases hlevels : ∀ found ∈ Table.levelsGiven (sources.layers overrides),
          Table.AreLevels found
      · rw [and_iff_right hlevels]
        have hlayers := fun l hl => (hproper l hl).isLayer (hlevels _ (List.mem_map_of_mem hl))
        obtain rfl := Except.ok.inj (hmerge.symm.trans (Table.merge_eq hlayers))
        have hmerged := Table.isMergeOf_layOn hlayers
        refine lacksElements_congr (iff_of_true hmerged.rules fun v hv => ?_) fun field hfield => ?_
        · obtain ⟨l, hl, hv⟩ := Table.exists_of_latest hv
          exact hlevels _ (hgiven ▸ List.mem_map_of_mem hl) v hv
        · rw [hmerged.value _ (by cases field <;> simp_all [Field.isList] <;> decide)]
          exact Sources.latest_layers
            (fun l => by simp only [Table.given, Table.get?_onlyFields]) ..
      · exact iff_of_false
          (fun h => hlevels (Table.areLevels_of_merge hdistinct hmerge h.1)) fun h => hlevels h.1

theorem fails_load_iff (hoverrides : overrides.IsProper) :
    Fails (load t e start named overrides) LoadError.Escapes ↔
      Escapes t e start named overrides := by
  constructor
  · intro h
    have hsteps := h
    rw [load, fails_bind_iff, fails_layers_iff] at hsteps
    rcases hsteps with (h | ⟨project, hproject, h⟩ | ⟨project, hproject, h⟩) | ⟨ls, hls, -⟩
    · exact .project h
    · exact .noSection hproject h
    · exact .file hproject h
    · obtain ⟨sources, -⟩ := layers_eq_ok_iff.1 hls
      rcases (fails_load_of_sources hoverrides sources).1 h with h | ⟨hlevels, h⟩
      · exact .levels sources h
      · exact .elements sources hlevels h
  · have hlayers (h : Fails (layers t e start named overrides) LoadError.Escapes) :
        Fails (load t e start named overrides) LoadError.Escapes := by
      rw [load, fails_bind_iff]
      exact .inl h
    intro h
    cases h with
    | project h => exact hlayers (fails_layers_iff.2 (.inl h))
    | noSection hproject h => exact hlayers (fails_layers_iff.2 (.inr (.inl ⟨_, hproject, h⟩)))
    | file hproject h => exact hlayers (fails_layers_iff.2 (.inr (.inr ⟨_, hproject, h⟩)))
    | levels sources h => exact (fails_load_of_sources hoverrides sources).2 (.inl h)
    | elements sources hlevels h =>
        exact (fails_load_of_sources hoverrides sources).2 (.inr ⟨hlevels, h⟩)

theorem valid_of_load (h : load t e start named overrides = .ok s) : s.Valid := by
  obtain ⟨-, -, -, -, hvalid⟩ := load_eq_ok h
  exact hvalid

end Load

/-! ## Runs -/

/-- A fault that has a message ends a run with that message. -/
theorem exists_stopOfLoadError {fault : LoadError} (h : ¬fault.Escapes) :
    ∃ message, Plan.stopOfLoadError fault = .failure Stop.userError message := by
  obtain ⟨message, hmessage⟩ := Option.ne_none_iff_exists'.1 h
  rw [Plan.stopOfLoadError.eq_def]
  split
  · exact ⟨_, rfl⟩
  · rw [hmessage]
    exact ⟨_, rfl⟩

theorem isProper_overrides (e : Environment) (formatter : Option Text) :
    (Plan.overrides e formatter).IsProper := by
  rw [Plan.overrides]
  split
  · exact Table.isProper_nil
  · exact Table.isProper_nil.put _ (.plain rfl)

theorem reported_or_escapes {w : World} {formatter settingsFile : Option Text} {stop : Stop}
    (h : Plan.settingsOf w formatter settingsFile = .error stop) :
    (∃ message, stop = .failure Stop.userError message) ∨
      Escapes w.tree w.environment none (settingsFile.map Path.ofText)
        (Plan.overrides w.environment formatter) := by
  rw [Plan.settingsOf] at h
  split at h
  · cases h
  · rename_i fault hfault
    obtain rfl := Except.error.inj h
    by_cases hescapes : fault.Escapes
    · exact .inr ((fails_load_iff (isProper_overrides _ _)).1 ⟨fault, hfault, hescapes⟩)
    · exact .inl (exists_stopOfLoadError hescapes)

/-- **Settings are valid or refused with a message, but for the faults that escape.**  Settings
that are loaded can be used, and a fault without a message is one of those that escape; in a run all
others end it with the exit code for errors of its user. -/
theorem valid_or_reported (t : Tree) (e : Environment) (start named : Option Path)
    {overrides : Table} (hoverrides : overrides.IsProper) :
    (∀ s, load t e start named overrides = .ok s → s.Valid) ∧
    (Fails (load t e start named overrides) LoadError.Escapes ↔ Escapes t e start named overrides) ∧
    ∀ (w : World) (formatter settingsFile : Option Text) (stop : Stop),
      Plan.settingsOf w formatter settingsFile = .error stop →
      (∃ message, stop = .failure Stop.userError message) ∨
        Escapes w.tree w.environment none (settingsFile.map Path.ofText)
          (Plan.overrides w.environment formatter) :=
  ⟨fun _ => valid_of_load, fails_load_iff hoverrides, fun _ _ _ _ => reported_or_escapes⟩

/-- A current directory with a settings file that gives a number where patterns are expected. -/
def numberWorld : World where
  tree := ⟨[([fileName], Utf8.encode "excluded_files = 5\n".toList)], [], []⟩

/-- Without files the settings are the defaults; the fault of that file escapes, from a run as
well. -/
theorem valid_or_reported_of_numberWorld :
    ({} : Settings).Valid ∧
      (∃ fault, load numberWorld.tree {} none none [] = .error fault ∧ fault.message? = none) ∧
      Escapes numberWorld.tree {} none none [] ∧
      ((∃ message, Stop.crash (.settings (.settings (.noElements .excluded))) =
          .failure Stop.userError message) ∨ Escapes numberWorld.tree {} none none []) := by
  have hfails : Fails (load numberWorld.tree {} none none []) LoadError.Escapes :=
    ⟨.settings (.noElements .excluded), rfl, rfl⟩
  obtain ⟨hvalid, -⟩ := valid_or_reported ⟨[], [], []⟩ {} none none Table.isProper_nil
  obtain ⟨-, hiff, hrun⟩ := valid_or_reported numberWorld.tree {} none none Table.isProper_nil
  exact ⟨hvalid _ rfl, hfails, hiff.1 hfails, hrun numberWorld none none _ rfl⟩

/-- Not every run gets settings or is refused with a message. -/
theorem exists_crash_of_settings :
    ¬∀ w : World, (∃ s, Plan.settingsOf w none none = .ok s) ∨
      ∃ message, Plan.settingsOf w none none = .error (.failure Stop.userError message) := by
  intro h
  have hcrash : Plan.settingsOf numberWorld none none =
      .error (.crash (.settings (.settings (.noElements .excluded)))) := rfl
  rcases h numberWorld with ⟨s, hs⟩ | ⟨message, hmessage⟩
  · rw [hcrash] at hs
    cases hs
  · rw [hcrash] at hmessage
    cases hmessage

end Settings

end SolidityLint

import SolidityLint.Linter
import SolidityLint.Proofs.Settings.Levels
import SolidityLint.Proofs.Settings.Validate
import SolidityLint.Proofs.Toml.Distinct
import SolidityLint.Settings.Load

/-!
# Which source a setting comes from

Settings are merged from four sources.  If loading them succeeds, every source gives the rule
levels as a table, if it gives them at all (`Table.areLevels_of_merge`), so the merged table can be
read off the sources: each field, and the level of each rule, is the one that the last source gives
it, and the default where no source gives any.
-/

namespace SolidityLint

theorem Field.isName_name (field : Field) : isName field.name = true := by
  cases field <;> decide

theorem Field.name_injective : Function.Injective name := by
  intro a b
  cases a <;> cases b <;> first | exact fun _ => rfl | exact fun h => absurd h (by decide)

namespace Table

variable {t u layer : Table} {layers : List Table} {key : Text} {v : Value}

/-- A table that is merged from layers: it has the fields that some layer gives a value, each with
the value that the last layer gives it, and for each rule the level that the last layer gives it. -/
structure IsMergeOf (merged : Table) (layers : List Table) : Prop where
  present : ∀ key, (merged.get? key).isSome = true ↔ ∃ l ∈ layers, (l.given key).isSome = true
  value : ∀ key, key ≠ Field.rules.name → merged.get? key = latest layers (given · key)
  rules : ∀ v, merged.get? Field.rules.name = some v → ∃ levels, v = .table levels
  level : ∀ id, merged.levelGiven id = latest layers (levelGiven · id)

theorem isMergeOf_layOn (hlayers : ∀ l ∈ layers, l.IsLayer) :
    (layOn [] layers).IsMergeOf layers where
  present := isSome_get?_layOn hlayers
  value key hkey := by
    rw [get?_layOn hlayers [] hkey, get?_nil, Option.or_none]
  rules v hv := by
    have hmerged := isMerged_nil.layOn hlayers
    obtain ⟨levels, hlevels, -⟩ :=
      (hmerged.fits (Field.rules.name, v) ((get?_eq_some_iff hmerged.distinct).1 hv)).levels rfl
    exact ⟨levels, hlevels⟩
  level id := by
    rw [levelGiven_layOn hlayers, show levelGiven [] id = none from rfl, Option.or_none]

theorem get?_of_given (h : t.given key = some v) : t.get? key = some v := by
  rw [given] at h
  split at h
  · cases h
  · exact h

theorem IsProper.isLayer (ht : t.IsProper) (hrules : AreLevels (t.given Field.rules.name)) :
    t.IsLayer where
  distinct := ht.distinct
  rules v hv := by
    obtain ⟨levels, rfl⟩ := hrules v hv
    exact ⟨levels, rfl, (Value.isProper_table_iff.1 (ht.get? (get?_of_given hv))).distinct⟩

/-! ## Fields that settings have -/

theorem IsProper.onlyFields (ht : t.IsProper) : t.onlyFields.IsProper where
  distinct := ht.distinct.sublist (List.filter_sublist.map _)
  values f hf := ht.values f (List.mem_of_mem_filter hf)

theorem get?_onlyFields (t : Table) (field : Field) :
    t.onlyFields.get? field.name = t.get? field.name := by
  induction t with
  | nil => rfl
  | cons f t ih =>
      obtain ⟨k, v⟩ := f
      rw [get?_cons, Table.onlyFields, List.filter_cons]
      split
      · rw [get?_cons]
        exact congrArg _ ih
      · rename_i hk
        rw [if_neg fun heq : field.name = k => hk (heq ▸ field.isName_name)]
        exact ih

end Table

namespace Settings

variable {t : Tree} {e : Environment} {s : Settings} {start named : Option Path} {overrides : Table}

/-! ## The sources -/

theorem isProper_of_document? {bytes : Bytes} {found : Table}
    (h : document? bytes = .ok (some found)) : found.IsProper := by
  rw [document?] at h
  split at h
  · cases h
  · split at h
    · rename_i hread
      obtain rfl := Option.some_inj.1 (Except.ok.inj h)
      exact Toml.Document.isProper_read hread
    all_goals cases h

theorem isProper_of_nearestDocument {name : Text} {found : Table}
    (h : nearestDocument t name start = .ok found) : found.IsProper := by
  rw [nearestDocument] at h
  split at h
  · cases h
  · exact Except.ok.inj h ▸ Table.isProper_nil
  · split at h
    · exact Except.ok.inj h ▸ Table.isProper_nil
    · obtain ⟨described, hdescribed, rfl⟩ := map_eq_ok_iff.1 h
      cases described with
      | none => exact Table.isProper_nil
      | some fields => exact isProper_of_document? hdescribed

theorem isProper_of_projectSection {project found : Table} (hproject : project.IsProper)
    (h : projectSection project = .ok found) : found.IsProper := by
  rw [projectSection] at h
  split at h
  · exact Except.ok.inj h ▸ Table.isProper_nil
  · rename_i tool htool
    have htool := Value.isProper_table_iff.1 (hproject.get? htool)
    split at h
    · exact Except.ok.inj h ▸ Table.isProper_nil
    · rename_i fields hfields
      exact Except.ok.inj h ▸ Value.isProper_table_iff.1 (htool.get? hfields)
    · cases h
  · cases h

theorem isProper_of_namedDocument {path : Path} {found : Table}
    (h : namedDocument t path = .ok found) : found.IsProper := by
  rw [namedDocument] at h
  split at h
  · cases h
  · obtain ⟨described, hdescribed, h⟩ := bind_eq_ok_iff.1 h
    split at h
    · exact pure_eq_ok_iff.1 h ▸ isProper_of_document? hdescribed
    · cases h

/-- The environment gives fields that settings have, each of them once. -/
theorem isProper_of_ofEnvironment {found : Table} (h : ofEnvironment e = .ok found) :
    found.IsProper ∧ ∀ f ∈ found, Field.isName f.1 = true := by
  have hnil : Table.IsProper [] ∧ ∀ f ∈ ([] : Table), Field.isName f.1 = true :=
    ⟨Table.isProper_nil, by simp⟩
  have hput : ∀ (t : Table) (field : Field) (v : Value), v.IsProper →
      (t.IsProper ∧ ∀ f ∈ t, Field.isName f.1 = true) →
      (t.put field.name v).IsProper ∧ ∀ f ∈ t.put field.name v, Field.isName f.1 = true := by
    rintro t field v hv ⟨ht, hnames⟩
    refine ⟨ht.put _ hv, fun f hf => ?_⟩
    rcases Table.mem_of_mem_put hf with rfl | hf
    · exact field.isName_name
    · exact hnames f hf
  obtain ⟨formatter, lineLength⟩ := e
  cases lineLength with
  | none =>
      obtain rfl := pure_eq_ok_iff.1 h
      cases formatter with
      | none => exact hnil
      | some name => exact hput [] .formatter _ (.plain rfl) hnil
  | some given =>
      simp only [ofEnvironment] at h
      cases hn : given.integer? with
      | none =>
          rw [hn] at h
          cases h
      | some n =>
          rw [hn] at h
          obtain rfl := pure_eq_ok_iff.1 h
          cases formatter with
          | none => exact hput [] .lineLength _ (.plain rfl) hnil
          | some name =>
              exact hput _ .lineLength (.int n) (.plain rfl)
                (hput [] .formatter (.text name) (.plain rfl) hnil)

/-- The section of the nearest project file. -/
def projectTable (t : Tree) (start : Option Path) : Except LoadError Table := do
  projectSection (← nearestDocument t projectFileName start)

/-- What the settings file that is named describes, and otherwise the nearest one. -/
def fileTable (t : Tree) (start : Option Path) : Option Path → Except LoadError Table
  | some path => namedDocument t path
  | none => nearestDocument t fileName start

theorem layers_eq (t : Tree) (e : Environment) (start named : Option Path) (overrides : Table) :
    layers t e start named overrides = do
      let project ← projectTable t start
      let file ← fileTable t start named
      let environment ← ofEnvironment e
      return [project.onlyFields, file.onlyFields, environment, overrides.onlyFields] := by
  rw [layers, projectTable]
  cases nearestDocument t projectFileName start with
  | error error => rfl
  | ok found => cases projectSection found <;> cases named <;> rfl

/-- The layer of the overrides is the last one, and the others do not depend on it. -/
theorem exists_layers_eq (t : Tree) (e : Environment) (start named : Option Path) :
    ∃ others : Except LoadError (List Table), ∀ overrides : Table,
      layers t e start named overrides = others.map (· ++ [overrides.onlyFields]) := by
  refine ⟨do
    let project ← projectTable t start
    let file ← fileTable t start named
    let environment ← ofEnvironment e
    return [project.onlyFields, file.onlyFields, environment], fun overrides => ?_⟩
  rw [layers_eq]
  cases projectTable t start with
  | error error => rfl
  | ok project =>
      cases fileTable t start named with
      | error error => rfl
      | ok file => cases ofEnvironment e <;> rfl

/-- The tables that settings are loaded from besides the overrides of a command. -/
structure Sources (t : Tree) (e : Environment) (start named : Option Path) where
  project : Table
  file : Table
  environment : Table
  project_eq : projectTable t start = .ok project
  file_eq : fileTable t start named = .ok file
  environment_eq : ofEnvironment e = .ok environment

namespace Sources

/-- All tables that settings are loaded from, from the first to the last. -/
def tables (sources : Sources t e start named) (overrides : Table) : List Table :=
  [sources.project, sources.file, sources.environment, overrides]

/-- The layers that the tables are merged as. -/
def layers (sources : Sources t e start named) (overrides : Table) : List Table :=
  [sources.project.onlyFields, sources.file.onlyFields, sources.environment, overrides.onlyFields]

theorem isProper_of_mem_layers (sources : Sources t e start named)
    (hoverrides : overrides.IsProper) : ∀ l ∈ sources.layers overrides, l.IsProper := by
  obtain ⟨found, hfound, hproject⟩ := bind_eq_ok_iff.1 sources.project_eq
  have hfile : sources.file.IsProper := by
    cases named with
    | none => exact isProper_of_nearestDocument sources.file_eq
    | some path => exact isProper_of_namedDocument sources.file_eq
  simp only [layers, List.forall_mem_cons]
  exact ⟨(isProper_of_projectSection (isProper_of_nearestDocument hfound) hproject).onlyFields,
    hfile.onlyFields, (isProper_of_ofEnvironment sources.environment_eq).1,
    hoverrides.onlyFields,
    by simp⟩

/-- Fields that settings do not have do not matter. -/
theorem latest_layers {α : Type} {tells : Table → Option α} (h : ∀ l, tells l.onlyFields = tells l)
    (sources : Sources t e start named) (overrides : Table) :
    Table.latest (sources.layers overrides) tells =
      Table.latest (sources.tables overrides) tells := by
  simp only [Table.latest, layers, tables, List.filterMap_cons, h]

end Sources

theorem layers_eq_ok_iff {ls : List Table} : layers t e start named overrides = .ok ls ↔
    ∃ sources : Sources t e start named, sources.layers overrides = ls := by
  simp only [layers_eq, bind_eq_ok_iff, pure_eq_ok_iff]
  constructor
  · rintro ⟨project, hproject, file, hfile, environment, henvironment, rfl⟩
    exact ⟨⟨project, file, environment, hproject, hfile, henvironment⟩, rfl⟩
  · rintro ⟨sources, rfl⟩
    exact ⟨_, sources.project_eq, _, sources.file_eq, _, sources.environment_eq, rfl⟩

/-! ## The settings -/

/-- Settings in which every field, and the level of every rule, is the one that the last source
which gives it any gives it, and the default if none does. -/
structure ComesFrom (s : Settings) (sources : List Table) : Prop where
  field : ∀ field, field ≠ .rules → s.written field =
    ((Table.latest sources (·.given field.name)).map field.normal).getD
      (({} : Settings).written field)
  level : ∀ id, (s.level? id).map (fun l => Value.text l.name) =
    Table.latest sources (·.levelGiven id)
  default : ∀ r : Rule, Table.latest sources (·.levelGiven r.id) = none →
    r.levelIn s = .ofSeverity r.defaultSeverity

theorem get?_map_rules (rules : List (Text × Level)) (id : Text) :
    Table.get? (rules.map fun r => (r.1, .text r.2.name)) id =
      (rules.lookup id).map fun l => .text l.name := by
  induction rules with
  | nil => rfl
  | cons r rules ih =>
      obtain ⟨k, level⟩ := r
      have hlookup : ((k, level) :: rules).lookup id =
          if id = k then some level else rules.lookup id := by
        rw [List.lookup_cons]
        split
        · rename_i h
          rw [if_pos (eq_of_beq h)]
        · rename_i h
          rw [if_neg (beq_eq_false_iff_ne.1 h)]
      rw [List.map_cons, Table.get?_cons, ih, hlookup]
      split <;> rfl

theorem load_eq_ok (h : load t e start named overrides = .ok s) :
    ∃ (sources : Sources t e start named) (merged : Table),
      Table.merge (sources.layers overrides) = .ok merged ∧
      (∀ field, s.written field = ((merged.get? field.name).map field.normal).getD
        (({} : Settings).written field)) ∧ s.Valid := by
  rw [load, bind_eq_ok_iff] at h
  obtain ⟨ls, hls, h⟩ := h
  obtain ⟨sources, rfl⟩ := layers_eq_ok_iff.1 hls
  split at h
  · cases h
  · rename_i merged hmerged
    split at h
    · cases h
    · rename_i settings hsettings
      obtain rfl := pure_eq_ok_iff.1 h
      rw [ofTable] at hsettings
      split at hsettings
      · cases hsettings
      · exact ⟨sources, merged, hmerged, written_and_valid_of_ofGiven hsettings⟩

section Levels

variable {merged : Table}
  (hrules : s.written .rules = (merged.get? Field.rules.name).getD (.table []))

include hrules

theorem areLevels_of_written : Table.AreLevels (merged.get? Field.rules.name) := fun v hv => by
  rw [hv] at hrules
  exact ⟨_, hrules.symm⟩

/-- The levels of the settings are those of the merged table. -/
theorem level?_of_written (id : Text) :
    (s.level? id).map (fun l => Value.text l.name) = merged.levelGiven id := by
  rw [level?, ← get?_map_rules, Table.levelGiven]
  cases hfound : merged.get? Field.rules.name with
  | none =>
      rw [hfound] at hrules
      rw [Value.table.inj hrules]
      rfl
  | some v =>
      obtain ⟨levels, rfl⟩ := areLevels_of_written hrules v hfound
      rw [hfound] at hrules
      rw [Value.table.inj hrules]

end Levels

theorem comesFrom_of_load (hoverrides : overrides.IsProper)
    (h : load t e start named overrides = .ok s) :
    ∃ sources : Sources t e start named, s.ComesFrom (sources.tables overrides) := by
  obtain ⟨sources, merged, hmerged, hwritten, -⟩ := load_eq_ok h
  have hrules := hwritten .rules
  rw [Field.map_normal (by simp) (by simp)] at hrules
  have hproper := sources.isProper_of_mem_layers hoverrides
  have hlayers := fun l hl => (hproper l hl).isLayer <|
    Table.areLevels_of_merge (fun l hl => (hproper l hl).distinct) hmerged
      (areLevels_of_written hrules) _ (List.mem_map_of_mem hl)
  obtain rfl := Except.ok.inj (hmerged.symm.trans (Table.merge_eq hlayers))
  have hmerge := Table.isMergeOf_layOn hlayers
  have hlevel : ∀ id, (s.level? id).map (fun l => Value.text l.name) =
      Table.latest (sources.tables overrides) (·.levelGiven id) := fun id => by
    rw [level?_of_written hrules, hmerge.level]
    exact Sources.latest_layers (fun l => by simp only [Table.levelGiven, Table.get?_onlyFields]) ..
  refine ⟨sources, ⟨fun field hfield => ?_, hlevel, fun r hr => ?_⟩⟩
  · rw [hwritten, hmerge.value _ (by cases field <;> simp_all <;> decide)]
    congr 2
    exact Sources.latest_layers (fun l => by simp only [Table.given, Table.get?_onlyFields]) ..
  · have hnone := hlevel r.id
    rw [hr, Option.map_eq_none_iff] at hnone
    rw [Rule.levelIn, hnone]
    rfl

/-- **Later layers win.**  Layers can be merged, to a table with the value that the last layer gives
each field and the level that the last layer gives each rule; in which groups they are merged does
not matter.  So each field of settings that are loaded, and the level of each rule, comes from the
last source that gives it. -/
theorem precedence :
    (∀ layers : List Table, (∀ l ∈ layers, l.IsLayer) →
      ∃ merged, Table.merge layers = .ok merged ∧ merged.IsMergeOf layers) ∧
    (∀ parts : List Grouping, (∀ l ∈ Grouping.layersOf parts, l.IsLayer) →
      (Grouping.group parts).merged = Table.merge (Grouping.layersOf parts)) ∧
    ∀ (t : Tree) (e : Environment) (start named : Option Path) (overrides : Table) (s : Settings),
      overrides.IsProper → load t e start named overrides = .ok s →
      ∃ sources : Sources t e start named, s.ComesFrom (sources.tables overrides) :=
  ⟨fun _ hlayers => ⟨_, Table.merge_eq hlayers, Table.isMergeOf_layOn hlayers⟩,
    Grouping.merged_group, fun _ _ _ _ _ _ => comesFrom_of_load⟩

/-- A project file and a settings file that give the level of one rule each, and both that of a
third one. -/
def layeredTree : Tree where
  files := [
    (["pyproject.toml".toList], Utf8.encode
      "[tool.sollint]\nmax_line_length = 80\n[tool.sollint.rules]\neol-last = \"off\"\nno-tabs-indent = \"warn\"\n".toList),
    ([".sollintrc".toList], Utf8.encode
      "formatter = \"json\"\n[rules]\nno-tabs-indent = \"error\"\n".toList)]
  directories := []
  here := []

/-- Layers that give rule levels, two of them next to another field, and one of them a null. -/
def sampleLayers : List Table :=
  [[(Field.rules.name, .table [("eol-last".toList, .text "off".toList)])],
    [(Field.lineLength.name, .int 80), (Field.rules.name, .null)],
    [(Field.rules.name, .table [("eol-last".toList, .text "warn".toList)]),
      (Field.lineLength.name, .null)]]

/-- The settings of the two files, with a length from the environment and a presentation from a
command. -/
theorem precedence_of_layeredTree :
    let e : Environment := { lineLength := some "100".toList }
    let overrides : Table := [(Field.formatter.name, .text "tap".toList)]
    let s : Settings := { rules := [("eol-last".toList, .off), ("no-tabs-indent".toList, .error)],
                          limits := { lineLength := 100 }, formatter := "tap".toList }
    load layeredTree e none none overrides = .ok s ∧
      (∃ sources : Sources layeredTree e none none, s.ComesFrom (sources.tables overrides)) ∧
      (∃ merged, Table.merge sampleLayers = .ok merged ∧ merged.IsMergeOf sampleLayers) ∧
      (Grouping.group [.group ((sampleLayers.take 2).map .layer),
        .group ((sampleLayers.drop 2).map .layer)]).merged = Table.merge sampleLayers := by
  intro e overrides s
  obtain ⟨hmerge, hgroup, hload⟩ := precedence
  have hloaded : load layeredTree e none none overrides = .ok s := by
    have hsome : (load layeredTree e none none overrides).toOption = some s := by decide +kernel
    cases h : load layeredTree e none none overrides with
    | error fault => simp [h, Except.toOption] at hsome
    | ok loaded =>
        rw [h] at hsome
        rw [Option.some_inj.1 hsome]
  have hlayers : ∀ l ∈ sampleLayers, l.IsLayer := by
    simp only [sampleLayers, List.forall_mem_cons]
    refine ⟨⟨by decide, fun v hv => ⟨_, (Option.some_inj.1 hv).symm, by decide⟩⟩,
      ⟨by decide, fun v hv => nomatch (hv : none = some v)⟩,
      ⟨by decide, fun v hv => ⟨_, (Option.some_inj.1 hv).symm, by decide⟩⟩, by simp⟩
  have hproper : overrides.IsProper := Table.isProper_nil.put _ (.plain rfl)
  exact ⟨hloaded, hload _ _ _ _ _ _ hproper hloaded, hmerge _ hlayers, hgroup _ hlayers⟩

end Settings

end SolidityLint

import SolidityLint.Proofs.Files.Collected
import SolidityLint.Proofs.Settings.Table
import SolidityLint.Settings.Layer

/-!
# Merging layers

Merging sets the fields that are given, one after the other, in one table (`merge_eq`).  So a field
has the value that the last layer gives it, and a rule the level that the last layer gives it
(`get?_layOn`, `levelGiven_layOn`), and it does not matter in which groups layers are merged
(`merged_group`).
-/

namespace SolidityLint

namespace Table

variable {t u layer : Table} {layers : List Table} {key : Text} {v : Value}

/-! ## What layers say -/

/-- The value that a layer gives to a field; null counts as none. -/
def given (t : Table) (key : Text) : Option Value :=
  match t.get? key with
  | some .null => none
  | found => found

/-- What a layer says of the level of a rule. -/
def levelGiven (t : Table) (id : Text) : Option Value :=
  match t.get? Field.rules.name with
  | some (.table levels) => Table.get? levels id
  | _ => none

/-- What the last of the layers that tell something tells. -/
def latest {α : Type} (layers : List Table) (tells : Table → Option α) : Option α :=
  (layers.filterMap tells).getLast?

/-- A layer in which no name occurs twice, and whose rule levels, if it gives them a value, are a
table in which no name occurs twice. -/
structure IsLayer (t : Table) : Prop where
  distinct : t.Distinct
  rules : ∀ v, t.given Field.rules.name = some v → ∃ levels, v = .table levels ∧ Distinct levels

section Latest

variable {α : Type} {tells : Table → Option α} {a : α}

@[simp] theorem latest_nil (tells : Table → Option α) : latest [] tells = none :=
  rfl

theorem latest_cons (t : Table) (layers : List Table) (tells : Table → Option α) :
    latest (t :: layers) tells = (latest layers tells).or (tells t) := by
  rw [latest, latest, List.filterMap_cons]
  cases tells t with
  | none => simp
  | some a =>
      cases hrest : layers.filterMap tells with
      | nil => rfl
      | cons b bs =>
          rw [List.getLast?_cons_cons]
          simp [List.getLast?_cons]

theorem latest_eq_none_iff : latest layers tells = none ↔ ∀ t ∈ layers, tells t = none := by
  rw [latest, List.getLast?_eq_none_iff, List.filterMap_eq_nil_iff]

theorem exists_of_latest (h : latest layers tells = some a) : ∃ t ∈ layers, tells t = some a :=
  List.mem_filterMap.1 (List.mem_of_getLast? h)

/-- A table that is changed by layers one after the other, each time to what the layer tells, tells
what the last of them tells. -/
theorem tells_foldl {change : Table → Table → Table} (held : Table → Option α)
    (hchange : ∀ t, ∀ layer ∈ layers, held (change t layer) = (tells layer).or (held t))
    (t : Table) : held (layers.foldl change t) = (latest layers tells).or (held t) := by
  induction layers generalizing t with
  | nil => rfl
  | cons layer layers ih =>
      obtain ⟨hfirst, hrest⟩ := List.forall_mem_cons.1 (fun l hl t => hchange t l hl)
      rw [List.foldl_cons, ih (fun t l hl => hrest l hl t), hfirst, latest_cons, Option.or_assoc]

end Latest

/-! ## Merging as setting fields -/

/-- Is a value null? -/
def isNull : Value → Bool
  | .null => true
  | _ => false

theorem isNull_eq_false_iff : isNull v = false ↔ v ≠ .null := by
  cases v <;> simp [isNull]

/-- The fields that a layer gives a value. -/
def fieldsGiven (t : Table) : Table :=
  t.filter fun f => !isNull f.2

/-- What is made of the value of a field when a later layer gives it one: levels are merged, and
all else is replaced. -/
def laid (key : Text) (before : Option Value) (v : Value) : Value :=
  match before, v with
  | some (.table earlier), .table levels =>
      if key = Field.rules.name then .table (putAll earlier levels) else .table levels
  | _, v => v

/-- Is a field not null, and if it holds the rule levels, is it a table? -/
structure Fits (f : Text × Value) : Prop where
  ne_null : f.2 ≠ .null
  levels : f.1 = Field.rules.name → ∃ levels, f.2 = .table levels ∧ Distinct levels

/-- A table that layers can be merged onto. -/
structure IsMerged (t : Table) : Prop where
  distinct : t.Distinct
  fits : ∀ f ∈ t, Fits f

theorem isMerged_nil : IsMerged [] :=
  ⟨distinct_nil, by simp⟩

theorem IsMerged.given (ht : t.IsMerged) (key : Text) : t.given key = t.get? key := by
  rw [Table.given]
  split
  · rename_i h
    exact absurd rfl (ht.fits _ ((get?_eq_some_iff ht.distinct).1 h)).ne_null
  · rfl

theorem IsMerged.isLayer (ht : t.IsMerged) : t.IsLayer where
  distinct := ht.distinct
  rules v hv := by
    rw [ht.given, get?_eq_some_iff ht.distinct] at hv
    exact (ht.fits _ hv).levels rfl

theorem IsMerged.fieldsGiven (ht : t.IsMerged) : t.fieldsGiven = t :=
  List.filter_eq_self.2 fun f hf => by
    rw [isNull_eq_false_iff.2 (ht.fits f hf).ne_null]
    rfl

theorem Distinct.fieldsGiven (ht : t.Distinct) : t.fieldsGiven.Distinct :=
  ht.sublist (List.filter_sublist.map _)

theorem get?_fieldsGiven (ht : t.Distinct) (key : Text) :
    t.fieldsGiven.get? key = t.given key := by
  have hiff : ∀ v, t.fieldsGiven.get? key = some v ↔ t.given key = some v := fun v => by
    rw [get?_eq_some_iff ht.fieldsGiven, Table.fieldsGiven, List.mem_filter,
      ← get?_eq_some_iff ht, Table.given]
    split
    · rename_i h
      simp only [h, Option.some.injEq]
      exact iff_of_false (fun hv => by simp [← hv.1, isNull] at hv) (by simp)
    · rename_i h
      refine and_iff_left_of_imp fun hv => ?_
      rw [isNull_eq_false_iff.2 fun hnull => h (hnull ▸ hv)]
      rfl
  exact Option.ext hiff

theorem IsLayer.fits (ht : t.IsLayer) : ∀ f ∈ t.fieldsGiven, Fits f := fun f hf => by
  have hnull : f.2 ≠ .null := isNull_eq_false_iff.1 (by simpa using (List.mem_filter.1 hf).2)
  refine ⟨hnull, fun hkey => ht.rules f.2 ?_⟩
  rw [← get?_fieldsGiven ht.distinct, get?_eq_some_iff ht.distinct.fieldsGiven, ← hkey]
  exact hf

theorem laid_none (key : Text) (v : Value) : laid key none v = v :=
  rfl

theorem laid_of_ne (h : key ≠ Field.rules.name) (before : Option Value) (v : Value) :
    laid key before v = v := by
  rw [laid.eq_def]
  split
  · rw [if_neg h]
  · rfl

theorem laid_of_ne_table (h : ∀ levels, v ≠ .table levels) (key : Text) (before : Option Value) :
    laid key before v = v := by
  rw [laid.eq_def]
  split
  · exact absurd rfl (h _)
  · rfl

theorem associates_laid {f : Text × Value} (hf : Fits f) : Associates laid f := by
  obtain ⟨k, v⟩ := f
  intro before behind
  by_cases hkey : k = Field.rules.name
  · obtain ⟨levels, rfl, hdistinct⟩ := hf.levels hkey
    by_cases hbehind : ∃ last, behind = .table last
    · obtain ⟨last, rfl⟩ := hbehind
      rcases before with _ | first
      · rfl
      cases first with
      | table first => simp [laid, hkey, putAll_putAll hdistinct]
      | _ => rfl
    · have hplain : ∀ last, behind ≠ .table last := fun last h => hbehind ⟨last, h⟩
      simp only [laid_of_ne_table hplain]
  · simp only [laid_of_ne hkey]

theorem IsMerged.putWith (ht : t.IsMerged) {f : Text × Value} (hf : Fits f) :
    (putWith laid t f).IsMerged := by
  obtain ⟨k, v⟩ := f
  refine ⟨ht.distinct.put _ _, fun g hg => ?_⟩
  rcases mem_of_mem_put hg with rfl | hg
  · by_cases hkey : k = Field.rules.name
    · obtain ⟨levels, rfl, hdistinct⟩ := hf.levels hkey
      cases hbefore : t.get? k with
      | none => simpa only [hbefore, laid_none] using hf
      | some before =>
          obtain ⟨earlier, rfl, hearlier⟩ :=
            (ht.fits (k, before) ((get?_eq_some_iff ht.distinct).1 hbefore)).levels hkey
          rw [laid, if_pos hkey]
          exact ⟨by simp, fun _ => ⟨_, rfl, hearlier.putAll levels⟩⟩
    · simpa only [laid_of_ne hkey] using hf
  · exact ht.fits g hg

theorem IsMerged.foldl_putWith (ht : t.IsMerged) {fields : Table} (hfields : ∀ f ∈ fields, Fits f) :
    (fields.foldl (Table.putWith laid) t).IsMerged := by
  induction fields generalizing t with
  | nil => exact ht
  | cons f fields ih =>
      obtain ⟨hf, hfields⟩ := List.forall_mem_cons.1 hfields
      exact ih (ht.putWith hf) hfields

theorem mergeField_of_ne_table (hnull : v ≠ .null) (h : ∀ levels, v ≠ .table levels) (t : Table)
    (key : Text) : t.mergeField key v = .ok (t.put key v) := by
  rw [mergeField.eq_def]
  split
  · exact absurd rfl hnull
  · exact absurd rfl (h _)
  · rfl

theorem mergeField_eq (ht : t.IsMerged) {f : Text × Value} (hf : Fits f) :
    t.mergeField f.1 f.2 = .ok (putWith laid t f) := by
  obtain ⟨k, v⟩ := f
  by_cases htable : ∃ levels, v = .table levels
  · obtain ⟨levels, rfl⟩ := htable
    rw [mergeField]
    split
    · rename_i hkey
      cases hbefore : t.get? k with
      | none => simp [putWith, hbefore, laid]
      | some before =>
          obtain ⟨earlier, rfl, -⟩ :=
            (ht.fits (k, before) ((get?_eq_some_iff ht.distinct).1 hbefore)).levels hkey
          simp [putWith, hbefore, laid, if_pos hkey]
    · rename_i hkey
      rw [putWith, laid_of_ne hkey]
  · have hplain : ∀ levels, v ≠ .table levels := fun levels h => htable ⟨levels, h⟩
    rw [mergeField_of_ne_table hf.ne_null hplain, putWith, laid_of_ne_table hplain]

/-- Merging a layer onto a table sets the fields that the layer gives. -/
theorem mergeLayer_eq (ht : t.IsMerged) (hlayer : layer.IsLayer) :
    mergeLayer t layer = .ok (layer.fieldsGiven.foldl (putWith laid) t) := by
  have hfits := hlayer.fits
  rw [mergeLayer]
  clear hlayer
  induction layer generalizing t with
  | nil => rfl
  | cons f layer ih =>
      obtain ⟨k, v⟩ := f
      rw [List.foldlM_cons]
      cases hnull : isNull v with
      | true =>
          have hskip : fieldsGiven ((k, v) :: layer) = fieldsGiven layer := by
            simp [fieldsGiven, hnull]
          have hv : v = .null := by
            cases v <;> simp_all [isNull]
          rw [hskip] at hfits ⊢
          subst hv
          exact ih ht hfits
      | false =>
          have htake : fieldsGiven ((k, v) :: layer) = (k, v) :: fieldsGiven layer := by
            simp [fieldsGiven, hnull]
          rw [htake] at hfits ⊢
          obtain ⟨hf, hfits⟩ := List.forall_mem_cons.1 hfits
          have hstep := mergeField_eq ht hf
          rw [List.foldl_cons, hstep]
          exact ih (ht.putWith hf) hfits

/-- A table onto which layers are laid one after the other. -/
def layOn (t : Table) (layers : List Table) : Table :=
  layers.foldl (fun t layer => layer.fieldsGiven.foldl (putWith laid) t) t

theorem IsMerged.layOn (ht : t.IsMerged) (hlayers : ∀ l ∈ layers, l.IsLayer) :
    (t.layOn layers).IsMerged := by
  induction layers generalizing t with
  | nil => exact ht
  | cons layer layers ih =>
      obtain ⟨hlayer, hlayers⟩ := List.forall_mem_cons.1 hlayers
      exact ih (ht.foldl_putWith hlayer.fits) hlayers

theorem foldlM_mergeLayer_eq (ht : t.IsMerged) (hlayers : ∀ l ∈ layers, l.IsLayer) :
    layers.foldlM mergeLayer t = .ok (t.layOn layers) := by
  induction layers generalizing t with
  | nil => rfl
  | cons layer layers ih =>
      obtain ⟨hlayer, hlayers⟩ := List.forall_mem_cons.1 hlayers
      rw [List.foldlM_cons, mergeLayer_eq ht hlayer]
      exact ih (ht.foldl_putWith hlayer.fits) hlayers

/-- Layers can be merged, and merging them lays them on the empty table. -/
theorem merge_eq (hlayers : ∀ l ∈ layers, l.IsLayer) : merge layers = .ok (layOn [] layers) :=
  foldlM_mergeLayer_eq isMerged_nil hlayers

/-! ## Which layer a value comes from -/

theorem get?_foldl_fieldsGiven (hlayer : layer.IsLayer) (t : Table) (key : Text) :
    (layer.fieldsGiven.foldl (putWith laid) t).get? key =
      ((layer.given key).map (laid key (t.get? key))).or (t.get? key) := by
  rw [get?_foldl_putWith hlayer.distinct.fieldsGiven, get?_fieldsGiven hlayer.distinct]

theorem get?_layOn (hlayers : ∀ l ∈ layers, l.IsLayer) (t : Table) (h : key ≠ Field.rules.name) :
    (t.layOn layers).get? key = (latest layers (given · key)).or (t.get? key) := by
  refine tells_foldl (get? · key) (fun t layer hlayer => ?_) t
  rw [get?_foldl_fieldsGiven (hlayers layer hlayer)]
  cases layer.given key with
  | none => rfl
  | some v => simp [laid_of_ne h]

theorem levelGiven_eq (t : Table) (id : Text) : t.levelGiven id =
    match t.given Field.rules.name with
    | some (.table levels) => Table.get? levels id
    | _ => none := by
  rw [levelGiven, given]
  cases t.get? Field.rules.name with
  | none => rfl
  | some v => cases v <;> rfl

theorem levelGiven_foldl_fieldsGiven (hlayer : layer.IsLayer) (t : Table) (id : Text) :
    levelGiven (layer.fieldsGiven.foldl (putWith laid) t) id =
      (layer.levelGiven id).or (t.levelGiven id) := by
  rw [levelGiven, get?_foldl_fieldsGiven hlayer, levelGiven_eq layer]
  cases hgiven : layer.given Field.rules.name with
  | none => rfl
  | some v =>
      obtain ⟨levels, rfl, hdistinct⟩ := hlayer.rules v hgiven
      rw [levelGiven]
      cases t.get? Field.rules.name with
      | none => simp [laid]
      | some before =>
          cases before with
          | table earlier => simp [laid, get?_putAll hdistinct]
          | _ => simp [laid]

theorem levelGiven_layOn (hlayers : ∀ l ∈ layers, l.IsLayer) (t : Table) (id : Text) :
    (t.layOn layers).levelGiven id =
      (latest layers (levelGiven · id)).or (t.levelGiven id) :=
  tells_foldl (levelGiven · id)
    (fun t layer hlayer => levelGiven_foldl_fieldsGiven (hlayers layer hlayer) t id) t

/-- A field is there if some layer gives it a value. -/
theorem isSome_get?_layOn (hlayers : ∀ l ∈ layers, l.IsLayer) (key : Text) :
    ((layOn [] layers).get? key).isSome = true ↔ ∃ l ∈ layers, (l.given key).isSome = true := by
  have hpresent : ∀ t, ((layOn t layers).get? key).map (fun _ => ()) =
      (latest layers fun l => (l.given key).map fun _ => ()).or
        ((t.get? key).map fun _ => ()) := fun t => by
    refine tells_foldl (fun t => (t.get? key).map fun _ => ()) (fun t l hl => ?_) t
    rw [get?_foldl_fieldsGiven (hlayers l hl)]
    cases l.given key <;> rfl
  have hnone : (layOn [] layers).get? key = none ↔ ∀ l ∈ layers, l.given key = none := by
    rw [← Option.map_eq_none_iff (f := fun _ => ()), hpresent, get?_nil, Option.map_none,
      Option.or_none, latest_eq_none_iff]
    simp only [Option.map_eq_none_iff]
  rw [← not_iff_not, Bool.not_eq_true, Option.isSome_eq_false_iff, Option.isNone_iff_eq_none, hnone]
  simp

/-! ## Groups of layers -/

theorem layOn_eq_foldl (t : Table) (layers : List Table) :
    t.layOn layers = (layers.flatMap fieldsGiven).foldl (putWith laid) t := by
  rw [layOn, List.foldl_flatMap]

/-- Layers may be merged in a table of their own first. -/
theorem foldl_layOn (hlayers : ∀ l ∈ layers, l.IsLayer) (t : Table) :
    (layOn [] layers).foldl (putWith laid) t = t.layOn layers := by
  have hfits : ∀ f ∈ layers.flatMap fieldsGiven, Fits f := fun f hf => by
    obtain ⟨l, hl, hf⟩ := List.mem_flatMap.1 hf
    exact (hlayers l hl).fits f hf
  rw [layOn_eq_foldl, layOn_eq_foldl]
  refine foldl_foldl_putWith laid_none (fun before hbefore f hf => ?_) t
  have hmerged := isMerged_nil.foldl_putWith fun g hg => hfits g (hbefore.mem hg)
  exact associates_laid (hmerged.fits f hf)

end Table

/-- Layers in groups, each of which is merged before it is merged with others. -/
inductive Grouping where
  | layer (t : Table)
  | group (parts : List Grouping)

namespace Grouping

mutual

/-- The layers of a grouping, from the first to the last. -/
def layers : Grouping → List Table
  | layer t => [t]
  | group parts => layersOf parts

/-- The layers of some groupings. -/
def layersOf : List Grouping → List Table
  | [] => []
  | g :: gs => layers g ++ layersOf gs

end

mutual

/-- The table that a grouping is merged to. -/
def merged : Grouping → Except MergeError Table
  | layer t => .ok t
  | group parts => do Table.merge (← mergedOf parts)

/-- The tables that some groupings are merged to. -/
def mergedOf : List Grouping → Except MergeError (List Table)
  | [] => .ok []
  | g :: gs => do
      let t ← merged g
      return t :: (← mergedOf gs)

end

mutual

theorem exists_merged (g : Grouping) (hlayers : ∀ l ∈ g.layers, l.IsLayer) :
    ∃ m, g.merged = .ok m ∧ m.IsLayer ∧ ∀ t, Table.layOn t [m] = t.layOn g.layers := by
  match g with
  | layer t => exact ⟨t, by simp [merged], hlayers t (by simp [layers]), fun _ => by simp [layers]⟩
  | group parts =>
      rw [layers] at hlayers
      obtain ⟨ms, hms, hall, hlay⟩ := exists_mergedOf parts hlayers
      have hmerged : (Table.layOn [] (layersOf parts)).IsMerged :=
        Table.isMerged_nil.layOn hlayers
      refine ⟨Table.layOn [] (layersOf parts), ?_, hmerged.isLayer, fun t => ?_⟩
      · rw [merged, hms]
        exact (Table.merge_eq hall).trans (congrArg Except.ok (hlay []))
      · have hone : Table.layOn t [Table.layOn [] (layersOf parts)] =
            (Table.layOn [] (layersOf parts)).fieldsGiven.foldl (Table.putWith Table.laid) t := rfl
        rw [layers, hone, hmerged.fieldsGiven, Table.foldl_layOn hlayers]

theorem exists_mergedOf (gs : List Grouping) (hlayers : ∀ l ∈ layersOf gs, l.IsLayer) :
    ∃ ms, mergedOf gs = .ok ms ∧ (∀ m ∈ ms, m.IsLayer) ∧
      ∀ t, Table.layOn t ms = t.layOn (layersOf gs) := by
  match gs with
  | [] => exact ⟨[], by simp [mergedOf], by simp, fun _ => by simp [layersOf]⟩
  | g :: gs =>
      rw [layersOf] at hlayers
      obtain ⟨m, hm, hlayer, hfirst⟩ :=
        exists_merged g fun l hl => hlayers l (List.mem_append_left _ hl)
      obtain ⟨ms, hms, hall, hrest⟩ :=
        exists_mergedOf gs fun l hl => hlayers l (List.mem_append_right _ hl)
      refine ⟨m :: ms, by rw [mergedOf, hm, hms]; rfl, List.forall_mem_cons.2 ⟨hlayer, hall⟩,
        fun t => ?_⟩
      have hsplit : ∀ ls ks : List Table, t.layOn (ls ++ ks) = (t.layOn ls).layOn ks :=
        fun ls ks => List.foldl_append
      rw [layersOf, hsplit, ← hfirst, ← hrest]
      rfl

end

/-- **It does not matter in which groups layers are merged.** -/
theorem merged_group (parts : List Grouping) (hlayers : ∀ l ∈ layersOf parts, l.IsLayer) :
    (group parts).merged = Table.merge (layersOf parts) := by
  obtain ⟨ms, hms, hall, hlay⟩ := exists_mergedOf parts hlayers
  rw [merged, hms, Table.merge_eq hlayers, ← hlay]
  exact Table.merge_eq hall

end Grouping

end SolidityLint

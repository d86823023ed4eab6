import SolidityLint.Proofs.Files.Collected
import SolidityLint.Proofs.Settings.Table
import SolidityLint.Toml.Document

/-!
# Names in documents

In the table that a document describes, and in every table within it, no name occurs twice
(`isProper_read`).  A field is only added where there is none of its name; headers and keys with
several names change tables that are there or add empty ones.
-/

namespace SolidityLint

/-- A value in which no table holds a name twice. -/
inductive Value.IsProper : Value → Prop
  | plain {v : Value} (h : Toml.isContainer v = false) : IsProper v
  | list {vs : List Value} (h : ∀ v ∈ vs, IsProper v) : IsProper (.list vs)
  | table {fields : Table} (distinct : fields.Distinct) (values : ∀ f ∈ fields, IsProper f.2) :
      IsProper (.table fields)

/-- A table that holds no name twice, and whose values are proper. -/
structure Table.IsProper (t : Table) : Prop where
  distinct : t.Distinct
  values : ∀ f ∈ t, f.2.IsProper

theorem Value.isProper_table_iff {t : Table} : (Value.table t).IsProper ↔ t.IsProper := by
  constructor
  · rintro (h | _ | ⟨hdistinct, hvalues⟩)
    · simp [Toml.isContainer] at h
    · exact ⟨hdistinct, hvalues⟩
  · exact fun h => .table h.distinct h.values

theorem Value.isProper_list_iff {vs : List Value} :
    (Value.list vs).IsProper ↔ ∀ v ∈ vs, v.IsProper := by
  constructor
  · rintro (h | h | _)
    · simp [Toml.isContainer] at h
    · exact h
  · exact .list

namespace Table

variable {t u : Table} {k : Text} {v : Value}

theorem isProper_nil : IsProper [] :=
  ⟨distinct_nil, by simp⟩

theorem IsProper.put (ht : t.IsProper) (k : Text) (hv : v.IsProper) : (t.put k v).IsProper where
  distinct := ht.distinct.put k v
  values f hf := by
    rcases mem_of_mem_put hf with rfl | hf
    · exact hv
    · exact ht.values f hf

theorem IsProper.get? (ht : t.IsProper) (h : t.get? k = some v) : v.IsProper :=
  ht.values _ ((get?_eq_some_iff ht.distinct).1 h)

end Table

namespace Toml

variable {t u : Table} {d e : Document} {v : Value}

/-! ## Changes of tables -/

/-- A change that leaves proper tables proper. -/
def KeepsProper (change : Table → Option Table) : Prop :=
  ∀ t u : Table, t.IsProper → change t = some u → u.IsProper

theorem keepsProper_changeAt {change : Table → Option Table} (hchange : KeepsProper change)
    (throughLists : Bool) (k : Key) : KeepsProper (changeAt throughLists k change) := by
  induction k with
  | nil => exact hchange
  | cons name names ih =>
      intro t u ht h
      rw [changeAt] at h
      split at h
      · obtain ⟨sub, hsub, rfl⟩ := Option.map_eq_some_iff.1 h
        exact ht.put name (Value.isProper_table_iff.2 (ih _ _ Table.isProper_nil hsub))
      · rename_i before hbefore
        obtain ⟨sub, hsub, rfl⟩ := Option.map_eq_some_iff.1 h
        exact ht.put name (Value.isProper_table_iff.2
          (ih _ _ (Value.isProper_table_iff.1 (ht.get? hbefore)) hsub))
      · rename_i elements helements
        have hall := Value.isProper_list_iff.1 (ht.get? helements)
        split at h
        · rename_i before hlast
          obtain ⟨sub, hsub, rfl⟩ := Option.map_eq_some_iff.1 h
          have hbefore := hall _ (List.mem_of_getLast? hlast)
          refine ht.put name (.list fun v hv => ?_)
          rcases List.mem_append.1 hv with hv | hv
          · exact hall v (List.dropLast_subset _ hv)
          · rw [List.mem_singleton.1 hv]
            exact Value.isProper_table_iff.2
              (ih _ _ (Value.isProper_table_iff.1 hbefore) hsub)
        · simp at h
      · simp at h

theorem keepsProper_addField (hv : v.IsProper) (name : Text) :
    KeepsProper (addField name v) := by
  intro t u ht h
  rw [addField] at h
  split at h
  · exact Option.some_inj.1 h ▸ ht.put name hv
  · simp at h

theorem keepsProper_addElement (name : Text) : KeepsProper (addElement name) := by
  have hempty : (Value.table []).IsProper := Value.isProper_table_iff.2 Table.isProper_nil
  intro t u ht h
  rw [addElement] at h
  split at h
  · exact Option.some_inj.1 h ▸ ht.put name (.list (List.forall_mem_singleton.2 hempty))
  · rename_i elements helements
    refine Option.some_inj.1 h ▸ ht.put name (.list ?_)
    exact List.forall_mem_append.2
      ⟨Value.isProper_list_iff.1 (ht.get? helements), List.forall_mem_singleton.2 hempty⟩
  · simp at h

/-! ## Readers -/

/-- Is everything that a reader takes of a certain kind? -/
def Reader.Yields {α : Type} (r : Reader α) (P : α → Prop) : Prop :=
  ∀ s a rest, r s = .ok (a, rest) → P a

section Values

variable {inner : Reader Value}

theorem yields_fieldOf (hinner : inner.Yields Value.IsProper) :
    (fieldOf inner).Yields fun f => f.2.IsProper := by
  intro s f rest h
  rw [fieldOf, bind_eq_ok_iff] at h
  obtain ⟨⟨k, behind⟩, -, h⟩ := h
  split at h
  · rename_i heq
    obtain ⟨⟨v, last⟩, hv, h⟩ := bind_eq_ok_iff.1 h
    obtain ⟨rfl, -⟩ := Prod.mk.inj (pure_eq_ok_iff.1 h)
    exact hinner _ _ _ hv
  · cases h

theorem yields_elementsWithin (hinner : inner.Yields Value.IsProper) (fuel : Nat) :
    (elementsWithin inner fuel).Yields fun vs => ∀ v ∈ vs, v.IsProper := by
  induction fuel with
  | zero =>
      intro s vs rest h
      cases h
  | succ fuel ih =>
      intro s vs rest h
      rw [elementsWithin.eq_def] at h
      simp only at h
      split at h
      · obtain ⟨rfl, -⟩ := Prod.mk.inj (pure_eq_ok_iff.1 h)
        simp
      · obtain ⟨⟨v, behind⟩, hv, h⟩ := bind_eq_ok_iff.1 h
        obtain ⟨behind', -, h⟩ := bind_eq_ok_iff.1 h
        split at h
        · obtain ⟨rfl, -⟩ := Prod.mk.inj (pure_eq_ok_iff.1 h)
          exact List.forall_mem_singleton.2 (hinner _ _ _ hv)
        · obtain ⟨next, -, h⟩ := bind_eq_ok_iff.1 h
          obtain ⟨⟨ws, last⟩, hws, h⟩ := bind_eq_ok_iff.1 h
          obtain ⟨rfl, -⟩ := Prod.mk.inj (pure_eq_ok_iff.1 h)
          exact List.forall_mem_cons.2 ⟨hinner _ _ _ hv, ih _ _ _ hws⟩
        · cases h

theorem isProper_fieldsWithin (hinner : inner.Yields Value.IsProper) {fuel : Nat}
    {frozen : List Key} {s rest : Text} (ht : t.IsProper)
    (h : fieldsWithin inner fuel t frozen s = .ok (u, rest)) : u.IsProper := by
  induction fuel generalizing t frozen s with
  | zero => cases h
  | succ fuel ih =>
      rw [fieldsWithin.eq_def] at h
      simp only at h
      obtain ⟨⟨⟨k, v⟩, behind⟩, hfield, h⟩ := bind_eq_ok_iff.1 h
      have hv : v.IsProper := yields_fieldOf hinner _ _ _ hfield
      split at h
      · cases h
      · split at h
        · cases h
        · rename_i changed hchanged
          have hproper := keepsProper_changeAt (keepsProper_addField hv _) _ _ _ _ ht hchanged
          split at h
          · obtain ⟨rfl, -⟩ := Prod.mk.inj (pure_eq_ok_iff.1 h)
            exact hproper
          · exact ih hproper h
          · cases h

theorem yields_tableOf (hinner : inner.Yields Value.IsProper) :
    (tableOf inner).Yields Value.IsProper := by
  intro s v rest h
  rw [tableOf] at h
  split at h
  · obtain ⟨rfl, -⟩ := Prod.mk.inj (Except.ok.inj h)
    exact Value.isProper_table_iff.2 Table.isProper_nil
  · obtain ⟨⟨fields, behind⟩, hfields, heq⟩ := map_eq_ok_iff.1 h
    obtain ⟨rfl, -⟩ := Prod.mk.inj heq
    exact Value.isProper_table_iff.2 (isProper_fieldsWithin hinner Table.isProper_nil hfields)

theorem yields_listOf (hinner : inner.Yields Value.IsProper) :
    (listOf inner).Yields Value.IsProper := by
  intro s v rest h
  rw [listOf] at h
  obtain ⟨behind, -, h⟩ := bind_eq_ok_iff.1 h
  obtain ⟨⟨vs, last⟩, hvs, h⟩ := bind_eq_ok_iff.1 h
  obtain ⟨rfl, -⟩ := Prod.mk.inj (pure_eq_ok_iff.1 h)
  exact .list (yields_elementsWithin hinner _ _ _ _ hvs)

end Values

/-! ### Numbers -/

theorem isContainer_radixInteger? {s rest : Text} (h : radixInteger? s = some (v, rest)) :
    isContainer v = false := by
  rw [radixInteger?.eq_def] at h
  split at h
  · obtain ⟨⟨radix, isDigit⟩, -, h⟩ := Option.bind_eq_some_iff.1 h
    obtain ⟨⟨digits, behind⟩, -, h⟩ := Option.bind_eq_some_iff.1 h
    obtain ⟨rfl, -⟩ := Prod.mk.inj (Option.some_inj.1 h)
    rfl
  · cases h

theorem isContainer_decimal? {s rest : Text} (h : decimal? s = .ok (some (v, rest))) :
    isContainer v = false := by
  simp only [decimal?, binaryNumber] at h
  split at h
  · cases h
  split at h
  · obtain ⟨rfl, -⟩ := Prod.mk.inj (Option.some_inj.1 (Except.ok.inj h))
    rfl
  split at h
  · split at h
    · cases h
    · obtain ⟨rfl, -⟩ := Prod.mk.inj (Option.some_inj.1 (Except.ok.inj h))
      rfl
  · obtain ⟨rfl, -⟩ := Prod.mk.inj (Option.some_inj.1 (Except.ok.inj h))
    rfl

theorem isContainer_specialNumber? {s rest : Text} (h : specialNumber? s = some (v, rest)) :
    isContainer v = false := by
  simp only [specialNumber?] at h
  split at h
  · obtain ⟨rfl, -⟩ := Prod.mk.inj (Option.some_inj.1 h)
    rfl
  · obtain ⟨rfl, -⟩ := Prod.mk.inj (Option.some_inj.1 h)
    rfl
  · cases h

/-- A number is neither a list nor a table. -/
theorem isContainer_number? {s rest : Text} (h : number? s = .ok (some (v, rest))) :
    isContainer v = false := by
  rw [number?] at h
  split at h
  · rename_i taken htaken
    rw [Option.some_inj.1 (Except.ok.inj h)] at htaken
    exact isContainer_radixInteger? htaken
  · obtain ⟨taken, htaken, h⟩ := bind_eq_ok_iff.1 h
    split at h
    · rw [Option.some_inj.1 (pure_eq_ok_iff.1 h)] at htaken
      exact isContainer_decimal? htaken
    · exact isContainer_specialNumber? (pure_eq_ok_iff.1 h)

/-! ### Values -/

theorem yields_plainValue : plainValue.Yields Value.IsProper := by
  intro s v rest h
  rw [plainValue] at h
  obtain ⟨taken, -, h⟩ := bind_eq_ok_iff.1 h
  split at h
  · obtain ⟨rfl, -⟩ := Prod.mk.inj (pure_eq_ok_iff.1 h)
    exact .plain rfl
  · obtain ⟨number, hnumber, h⟩ := bind_eq_ok_iff.1 h
    split at h
    · rw [pure_eq_ok_iff.1 h] at hnumber
      exact .plain (isContainer_number? hnumber)
    · cases h

theorem yields_valueWithin (room : Nat) : (valueWithin room).Yields Value.IsProper := by
  induction room using Nat.strongRecOn with
  | ind room ih =>
      intro s v rest h
      rw [valueWithin.eq_def] at h
      split at h
      -- texts, of which there are four kinds
      iterate 4
        · obtain ⟨taken, -, heq⟩ := map_eq_ok_iff.1 h
          obtain ⟨rfl, -⟩ := Prod.mk.inj heq
          exact .plain rfl
      -- truth values
      iterate 2
        · obtain ⟨rfl, -⟩ := Prod.mk.inj (Except.ok.inj h)
          exact .plain rfl
      · split at h
        · exact yields_listOf (ih _ (by omega)) _ _ _ h
        · cases h
      · split at h
        · exact yields_tableOf (ih _ (by omega)) _ _ _ h
        · cases h
      · exact yields_plainValue _ _ _ h

/-! ## Documents -/

namespace Document

theorem accepted_eq_ok_iff {α : Type} {change : Option α} {a : α} :
    accepted change = .ok a ↔ change = some a := by
  cases change <;> simp [accepted, refuse]

/-- A step from one document to another that keeps its tables proper. -/
def KeepsRoot (step : Document → Except Fault Document) : Prop :=
  ∀ d e : Document, d.root.IsProper → step d = .ok e → e.root.IsProper

theorem keepsRoot_openTable (k : Key) : KeepsRoot (openTable · k) := by
  intro d e hd h
  simp only [openTable] at h
  split at h
  · cases h
  · obtain ⟨root, hroot, h⟩ := bind_eq_ok_iff.1 h
    rw [← pure_eq_ok_iff.1 h]
    refine keepsProper_changeAt ?_ _ _ _ _ hd (accepted_eq_ok_iff.1 hroot)
    exact fun t u ht hsame => Option.some_inj.1 hsame ▸ ht

theorem keepsRoot_addTable (k : Key) : KeepsRoot (addTable · k) := by
  intro d e hd h
  simp only [addTable] at h
  split at h
  · cases h
  · obtain ⟨root, hroot, h⟩ := bind_eq_ok_iff.1 h
    rw [← pure_eq_ok_iff.1 h]
    exact keepsProper_changeAt (keepsProper_addElement _) _ _ _ _ hd (accepted_eq_ok_iff.1 hroot)

theorem keepsRoot_addFieldAt (k : Key) (hv : v.IsProper) : KeepsRoot (addFieldAt · k v) := by
  intro d e hd h
  simp only [addFieldAt] at h
  split at h
  · cases h
  · obtain ⟨root, hroot, h⟩ := bind_eq_ok_iff.1 h
    rw [← pure_eq_ok_iff.1 h]
    exact keepsProper_changeAt (keepsProper_addField hv _) _ _ _ _ hd (accepted_eq_ok_iff.1 hroot)

theorem isProper_headerLine {closing s rest : Text}
    {change : Document → Key → Except Fault Document} (hchange : ∀ k, KeepsRoot (change · k))
    (hd : d.root.IsProper) (h : headerLine closing change d s = .ok (e, rest)) :
    e.root.IsProper := by
  rw [headerLine] at h
  obtain ⟨⟨k, behind⟩, -, h⟩ := bind_eq_ok_iff.1 h
  obtain ⟨changed, hchanged, h⟩ := bind_eq_ok_iff.1 h
  split at h
  · obtain ⟨rfl, -⟩ := Prod.mk.inj (pure_eq_ok_iff.1 h)
    exact hchange k d.closeSection _ hd hchanged
  · cases h

/-- What stands on a line keeps the tables of a document proper. -/
theorem isProper_statement {s rest : Text} (hd : d.root.IsProper)
    (h : d.statement s = .ok (e, rest)) : e.root.IsProper := by
  rw [statement.eq_def] at h
  split at h
  · exact isProper_headerLine keepsRoot_addTable hd h
  · exact isProper_headerLine keepsRoot_openTable hd h
  · split at h
    · obtain ⟨⟨⟨k, v⟩, behind⟩, hfield, h⟩ := bind_eq_ok_iff.1 h
      obtain ⟨changed, hchanged, h⟩ := bind_eq_ok_iff.1 h
      obtain ⟨rfl, -⟩ := Prod.mk.inj (pure_eq_ok_iff.1 h)
      have hv := yields_fieldOf (yields_valueWithin maxRoom) _ _ _ hfield
      exact keepsRoot_addFieldAt k hv _ _ hd hchanged
    · obtain ⟨rfl, -⟩ := Prod.mk.inj (Except.ok.inj h)
      exact hd
  · obtain ⟨rfl, -⟩ := Prod.mk.inj (Except.ok.inj h)
    exact hd

theorem isProper_linesWithin {fuel : Nat} {s : Text} (hd : d.root.IsProper)
    (h : linesWithin fuel d s = .ok e) : e.root.IsProper := by
  induction fuel generalizing d s with
  | zero => cases h
  | succ fuel ih =>
      rw [linesWithin] at h
      obtain ⟨⟨next, rest⟩, hstatement, h⟩ := bind_eq_ok_iff.1 h
      obtain ⟨behind, -, h⟩ := bind_eq_ok_iff.1 h
      have hnext := isProper_statement hd hstatement
      split at h
      · exact pure_eq_ok_iff.1 h ▸ hnext
      · exact ih hnext h
      · cases h

/-- **No table of a document holds a name twice.** -/
theorem isProper_read {s : Text} (h : read s = .ok t) : t.IsProper := by
  obtain ⟨d, hd, rfl⟩ := map_eq_ok_iff.1 h
  exact isProper_linesWithin Table.isProper_nil hd

end Document

end Toml

end SolidityLint

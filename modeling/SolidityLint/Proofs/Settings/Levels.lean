import SolidityLint.Proofs.Settings.Merge

/-!
# Rule levels that are merged

Of the values that layers give to the rule levels, what they are merged to depends on nothing else
(`map_merge`).  Merging fails exactly where a table of levels is merged onto a value that is no
table, and since no later table repairs such a value, that is where a layer with such a value comes
before one with a table (`merge_eq_error_iff`).
-/

namespace SolidityLint.Table

variable {t layer : Table} {layers : List Table} {key : Text} {v : Value}
  {before : Option Value} {e : MergeError}

/-- Are the rule levels a table, if there are any? -/
def AreLevels (found : Option Value) : Prop :=
  ∀ v, found = some v → ∃ levels, v = .table levels

theorem areLevels_none : AreLevels none := by
  simp [AreLevels]

theorem areLevels_table (levels : Table) : AreLevels (some (.table levels)) := by
  simp [AreLevels]

/-- The rule levels of a table, given what it and a layer that is merged onto it have. -/
def overlay (before : Option Value) : Option Value → Except MergeError (Option Value)
  | none => .ok before
  | some (.table levels) =>
      match before with
      | none => .ok (some (.table levels))
      | some (.table earlier) => .ok (some (.table (putAll earlier levels)))
      | some _ => .error .rulesNotTable
  | some v => .ok (some v)

theorem overlay_of_not_areLevels (h : ¬AreLevels (some v)) :
    overlay before (some v) = .ok (some v) := by
  cases v with
  | table levels => exact absurd (areLevels_table levels) h
  | _ => rfl

theorem overlay_table_of_areLevels (h : AreLevels before) (levels : Table) :
    ∃ merged, overlay before (some (.table levels)) = .ok (some (.table merged)) := by
  rcases before with _ | v
  · exact ⟨_, rfl⟩
  · obtain ⟨earlier, rfl⟩ := h v rfl
    exact ⟨_, rfl⟩

theorem overlay_table_of_not_areLevels (h : ¬AreLevels before) (levels : Table) :
    overlay before (some (.table levels)) = .error .rulesNotTable := by
  rcases before with _ | v
  · exact absurd areLevels_none h
  · cases v with
    | table earlier => exact absurd (areLevels_table earlier) h
    | _ => rfl

/-! ## Merging one layer -/

theorem map_mergeField_of_ne (hkey : key ≠ Field.rules.name) (t : Table) (v : Value) :
    (t.mergeField key v).map (get? · Field.rules.name) = .ok (t.get? Field.rules.name) := by
  have hput : ∀ w, (t.put key w).get? Field.rules.name = t.get? Field.rules.name := fun w => by
    rw [get?_put, if_neg (Ne.symm hkey)]
  rw [mergeField.eq_def]
  split
  · rfl
  · rw [if_neg hkey, Except.map, hput]
  · rw [Except.map, hput]

theorem map_mergeField_rules (t : Table) (v : Value) :
    (t.mergeField Field.rules.name v).map (get? · Field.rules.name) =
      overlay (t.get? Field.rules.name) (given [(Field.rules.name, v)] Field.rules.name) := by
  have hgiven : given [(Field.rules.name, v)] Field.rules.name =
      if isNull v then none else some v := by
    rw [given, get?_cons, if_pos rfl]
    cases v <;> rfl
  have hput : ∀ w, (t.put Field.rules.name w).get? Field.rules.name = some w := fun w => by
    rw [get?_put, if_pos rfl]
  rw [hgiven]
  cases v with
  | null => rfl
  | table levels =>
      rw [mergeField, if_pos rfl]
      cases t.get? Field.rules.name with
      | none => exact congrArg Except.ok (hput _)
      | some earlier =>
          cases earlier with
          | table earlier => exact congrArg Except.ok (hput _)
          | _ => rfl
  | _ => exact congrArg Except.ok (hput _)

theorem ok_bind {ε α β : Type} (a : α) (f : α → Except ε β) : Except.ok a >>= f = f a :=
  rfl

theorem map_bind {ε α β γ : Type} {x : Except ε α} {f : α → Except ε β} {g : β → γ} :
    (x >>= f).map g = x >>= fun a => (f a).map g := by
  cases x <;> rfl

/-- The rule levels of a table that a layer is merged onto. -/
theorem map_mergeLayer (hlayer : layer.Distinct) (t : Table) :
    (mergeLayer t layer).map (get? · Field.rules.name) =
      overlay (t.get? Field.rules.name) (layer.given Field.rules.name) := by
  rw [mergeLayer]
  induction layer generalizing t with
  | nil => rfl
  | cons f layer ih =>
      obtain ⟨k, v⟩ := f
      obtain ⟨hk, htail⟩ := List.nodup_cons.1 hlayer
      rw [List.foldlM_cons, map_bind]
      by_cases hkey : k = Field.rules.name
      · -- no later field of the layer holds rule levels
        subst hkey
        have hnone : given layer Field.rules.name = none := by
          rw [given, get?_eq_none_iff.2 hk]
        have hsingle : given ((Field.rules.name, v) :: layer) Field.rules.name =
            given [(Field.rules.name, v)] Field.rules.name := by
          simp only [given, get?_cons, if_true]
        rw [hsingle, ← map_mergeField_rules]
        cases t.mergeField Field.rules.name v with
        | error e => rfl
        | ok u => exact (ih htail u).trans (by rw [hnone]; rfl)
      · have hrest : given ((k, v) :: layer) Field.rules.name = given layer Field.rules.name := by
          simp only [given, get?_cons, if_neg (Ne.symm hkey)]
        obtain ⟨u, hu, hsame⟩ := map_eq_ok_iff.1 (map_mergeField_of_ne hkey t v)
        rw [hu, hrest, ← hsame]
        exact ih htail u

/-- The values that layers give to the rule levels. -/
def levelsGiven (layers : List Table) : List (Option Value) :=
  layers.map (·.given Field.rules.name)

theorem map_foldlM_mergeLayer (hlayers : ∀ l ∈ layers, l.Distinct) (t : Table) :
    (layers.foldlM mergeLayer t).map (get? · Field.rules.name) =
      (levelsGiven layers).foldlM overlay (t.get? Field.rules.name) := by
  induction layers generalizing t with
  | nil => rfl
  | cons l layers ih =>
      obtain ⟨hl, hlayers⟩ := List.forall_mem_cons.1 hlayers
      rw [List.foldlM_cons, levelsGiven, List.map_cons, List.foldlM_cons, map_bind,
        ← map_mergeLayer hl]
      cases mergeLayer t l with
      | error e => rfl
      | ok u => exact ih hlayers u

/-- What the rule levels are merged to depends on what the layers give them. -/
theorem map_merge (hlayers : ∀ l ∈ layers, l.Distinct) :
    (merge layers).map (get? · Field.rules.name) = (levelsGiven layers).foldlM overlay none :=
  map_foldlM_mergeLayer hlayers []

/-! ## Merging all layers -/

section Given

variable {before after found : Option Value} {given : List (Option Value)}

/-- Values of which one is no table, and a later one is. -/
def Clash (given : List (Option Value)) : Prop :=
  ∃ first later, [first, later].Sublist given ∧ ¬AreLevels first ∧
    ∃ levels, later = some (.table levels)

theorem clash_cons_iff : Clash (found :: given) ↔
    (¬AreLevels found ∧ ∃ levels, some (.table levels) ∈ given) ∨ Clash given := by
  constructor
  · rintro ⟨first, later, hsub, hfirst, levels, rfl⟩
    rcases List.sublist_cons_iff.1 hsub with hsub | ⟨rest, hrest, hsub⟩
    · exact .inr ⟨first, _, hsub, hfirst, levels, rfl⟩
    · obtain ⟨rfl, rfl⟩ := List.cons.inj hrest
      exact .inl ⟨hfirst, levels, List.singleton_sublist.1 hsub⟩
  · rintro (⟨hfound, levels, hlater⟩ | ⟨first, later, hsub, hfirst, hlater⟩)
    · exact ⟨found, _, List.cons_sublist_cons.2 (List.singleton_sublist.2 hlater), hfound,
        levels, rfl⟩
    · exact ⟨first, later, hsub.cons _, hfirst, hlater⟩

theorem foldlM_overlay_eq_error_iff : given.foldlM overlay before = .error e ↔
    (¬AreLevels before ∧ ∃ levels, some (.table levels) ∈ given) ∨ Clash given := by
  induction given generalizing before with
  | nil => simp [Clash, pure, Except.pure]
  | cons found given ih =>
      rw [List.foldlM_cons, clash_cons_iff]
      rcases found with _ | v
      · have hstep : overlay before none = .ok before := rfl
        rw [hstep, ok_bind, ih]
        simp [areLevels_none]
      by_cases hv : AreLevels (some v)
      · obtain ⟨levels, rfl⟩ := hv v rfl
        by_cases hbefore : AreLevels before
        · obtain ⟨merged, hstep⟩ := overlay_table_of_areLevels hbefore levels
          rw [hstep, ok_bind, ih]
          simp [areLevels_table, hbefore]
        · rw [overlay_table_of_not_areLevels hbefore]
          simp [hbefore, bind, Except.bind]
      · -- the value is no table, so a clash with the one before it is one with it as well
        have hne : ∀ levels, Value.table levels ≠ v := fun levels h =>
          hv (h ▸ areLevels_table levels)
        rw [overlay_of_not_areLevels hv, ok_bind, ih]
        simp only [List.mem_cons, Option.some.injEq, hne, false_or, hv, not_false_eq_true, true_and]
        exact ⟨.inr, fun h => h.elim (fun hclash => .inl hclash.2) id⟩

theorem areLevels_of_foldlM_overlay (hafter : AreLevels after)
    (h : given.foldlM overlay before = .ok after) :
    AreLevels before ∧ ∀ found ∈ given, AreLevels found := by
  induction given generalizing before with
  | nil => exact ⟨pure_eq_ok_iff.1 h ▸ hafter, by simp⟩
  | cons found given ih =>
      rw [List.foldlM_cons, bind_eq_ok_iff] at h
      obtain ⟨next, hnext, h⟩ := h
      obtain ⟨hnextLevels, hgiven⟩ := ih h
      rw [List.forall_mem_cons]
      rcases found with _ | v
      · exact ⟨Except.ok.inj hnext ▸ hnextLevels, areLevels_none, hgiven⟩
      · have hv : AreLevels (some v) := by
          by_contra hv
          rw [overlay_of_not_areLevels hv] at hnext
          exact hv (Except.ok.inj hnext ▸ hnextLevels)
        refine ⟨?_, hv, hgiven⟩
        by_contra hbefore
        obtain ⟨levels, rfl⟩ := hv v rfl
        rw [overlay_table_of_not_areLevels hbefore] at hnext
        cases hnext

end Given

/-- Layers cannot be merged exactly if a table of rule levels comes after a value that is none. -/
theorem merge_eq_error_iff (hlayers : ∀ l ∈ layers, l.Distinct) :
    merge layers = .error e ↔ Clash (levelsGiven layers) := by
  have hfold : (levelsGiven layers).foldlM overlay none = .error e ↔
      Clash (levelsGiven layers) := by
    rw [foldlM_overlay_eq_error_iff]
    exact or_iff_right fun h => h.1 areLevels_none
  rw [← hfold, ← map_merge hlayers]
  cases merge layers <;> simp [Except.map]

/-- Layers that are merged to a table of rule levels all give them as tables. -/
theorem areLevels_of_merge (hlayers : ∀ l ∈ layers, l.Distinct) (h : merge layers = .ok t)
    (ht : AreLevels (t.get? Field.rules.name)) : ∀ found ∈ levelsGiven layers, AreLevels found := by
  have hmap := map_merge hlayers
  rw [h] at hmap
  exact (areLevels_of_foldlM_overlay ht hmap.symm).2

end SolidityLint.Table

import SolidityLint.Proofs.Files.Collected
import SolidityLint.Settings.Validate

/-!
# Settings and the values they were read from

Settings can be written as values again, one for each field.  Settings that were read hold the
values they were given, and their defaults where they were given none, and a run can use them
(`written_and_valid_of_ofGiven`).
-/

namespace SolidityLint

/-- The value that counts for a field: where a list is expected, a table stands for the list of its
names. -/
def Field.normal : Field → Value → Value
  | excluded, .table fields | extensions, .table fields => .list (fields.map fun f => .text f.1)
  | _, v => v

theorem Field.map_normal {field : Field} (hexcluded : field ≠ excluded)
    (hextensions : field ≠ extensions) (found : Option Value) : found.map field.normal = found := by
  cases field with
  | excluded => exact absurd rfl hexcluded
  | extensions => exact absurd rfl hextensions
  | _ => cases found <;> rfl

namespace Settings

variable {s : Settings} {given : Field → Option Value} {v : Value}

/-- The value of a field of settings. -/
def written (s : Settings) : Field → Value
  | .rules => .table (s.rules.map fun r => (r.1, .text r.2.name))
  | .excluded => .list (s.excluded.map .text)
  | .extensions => .list (s.extensions.map .text)
  | .lineLength => .int s.limits.lineLength
  | .blankLines => .int s.limits.blankLines
  | .formatter => .text s.formatter

/-! ## Reading single fields -/

theorem ruleFields_eq_ok_iff {found : Option Value} {t : Table} :
    ruleFields found = .ok t ↔ found.getD (.table []) = .table t := by
  rcases found with _ | v
  · simp [ruleFields]
  · cases v <;> simp [ruleFields]

theorem elements_eq_ok_iff {field : Field} (hfield : field = .excluded ∨ field = .extensions)
    {defaults vs : List Value} {found : Option Value} :
    elements field defaults found = .ok vs ↔
      (found.map field.normal).getD (.list defaults) = .list vs := by
  rcases found with _ | v
  · simp [elements]
  · rcases hfield with rfl | rfl <;> cases v <;> simp [elements, Field.normal]

theorem levelOf?_eq_some_iff {level : Level} : levelOf? v = some level ↔ v = .text level.name := by
  constructor
  · intro h
    cases v with
    | text name =>
        rw [levelOf?, Level.ofName?] at h
        have hname : (level.name == name) = true :=
          List.find?_some (p := fun l : Level => l.name == name) h
        rw [eq_of_beq hname]
    | _ => simp [levelOf?] at h
  · rintro rfl
    exact Level.ofName?_name level

theorem levels_eq_ok_iff {t : Table} {rules : List (Text × Level)} :
    levels t = .ok rules ↔ t = rules.map fun r => (r.1, .text r.2.name) := by
  induction t generalizing rules with
  | nil =>
      rw [levels, Except.ok.injEq]
      constructor
      · rintro rfl
        rfl
      · intro h
        rw [List.map_eq_nil_iff.1 h.symm]
  | cons f t ih =>
      obtain ⟨id, v⟩ := f
      rw [levels]
      cases hlevel : levelOf? v with
      | none =>
          refine iff_of_false (by simp) fun h => ?_
          obtain ⟨r, rest, rfl, hr, -⟩ := List.map_eq_cons_iff.1 h.symm
          rw [← (Prod.mk.inj hr).2, levelOf?_eq_some_iff.2 rfl] at hlevel
          cases hlevel
      | some level =>
          simp only [map_eq_ok_iff, ih, levelOf?_eq_some_iff.1 hlevel]
          constructor
          · rintro ⟨rest, rfl, rfl⟩
            rfl
          · intro h
            obtain ⟨r, rest, rfl, hr, rfl⟩ := List.map_eq_cons_iff.1 h.symm
            obtain ⟨hid, hname⟩ := Prod.mk.inj hr
            have hsame : r.2 = level := Option.some_inj.1 <|
              (Level.ofName?_name r.2).symm.trans <|
                (congrArg Level.ofName? (Value.text.inj hname)).trans (Level.ofName?_name level)
            exact ⟨rest, rfl, by rw [← hid, ← hsame]⟩

/-- The elements of a list that are read are texts of the kind that is asked for. -/
theorem texts_eq_ok {read? : Value → Option Text} {P : Text → Prop}
    (hread : ∀ v s, read? v = some s → v = .text s ∧ P s) {reason : InvalidField} {vs : List Value}
    {ss : List Text} (h : texts read? reason vs = .ok ss) : vs = ss.map .text ∧ ∀ s ∈ ss, P s := by
  induction vs generalizing ss with
  | nil => simp [← Except.ok.inj h]
  | cons v vs ih =>
      rw [texts] at h
      split at h
      · cases h
      · rename_i s hs
        obtain ⟨rest, hrest, rfl⟩ := map_eq_ok_iff.1 h
        obtain ⟨rfl, hall⟩ := ih hrest
        obtain ⟨rfl, hP⟩ := hread v s hs
        exact ⟨rfl, List.forall_mem_cons.2 ⟨hP, hall⟩⟩

theorem nonEmptyText?_eq_some (v : Value) (s : Text) (h : nonEmptyText? v = some s) :
    v = .text s ∧ s ≠ [] := by
  rw [nonEmptyText?.eq_def] at h
  split at h
  · rw [← Option.some_inj.1 h]
    simp
  · cases h

theorem dottedText?_eq_some (v : Value) (s : Text) (h : dottedText? v = some s) :
    v = .text s ∧ ∃ rest, s = '.' :: rest := by
  rw [dottedText?.eq_def] at h
  split at h
  · rw [← Option.some_inj.1 h]
    simp
  · cases h

theorem bound_eq_ok {default least n : Nat} (hleast : least ≤ default)
    {notInteger tooSmall : InvalidField} {found : Option Value}
    (h : bound default least notInteger tooSmall found = .ok n) :
    found.getD (.int default) = .int n ∧ least ≤ n := by
  rw [bound.eq_def] at h
  split at h
  · rw [← Except.ok.inj h]
    exact ⟨rfl, hleast⟩
  · split at h
    · cases h
    · rw [← Except.ok.inj h, Option.getD_some, Value.int.injEq]
      omega
  · cases h

theorem formatterName_eq_ok {default name : Text} (hdefault : default ≠ []) {found : Option Value}
    (h : formatterName default found = .ok name) :
    found.getD (.text default) = .text name ∧ name ≠ [] := by
  rw [formatterName.eq_def] at h
  split at h
  · rw [← Except.ok.inj h]
    exact ⟨rfl, hdefault⟩
  · split at h
    · cases h
    · rename_i name hname
      obtain ⟨rfl, hne⟩ := nonEmptyText?_eq_some _ _ hname
      rw [← Except.ok.inj h]
      exact ⟨rfl, hne⟩

/-! ## Reading all fields -/

/-- What settings are read from, and that they can be used. -/
theorem written_and_valid_of_ofGiven (h : ofGiven given = .ok s) :
    (∀ field, s.written field =
      ((given field).map field.normal).getD (({} : Settings).written field)) ∧ s.Valid := by
  rw [ofGiven] at h
  obtain ⟨table, htable, h⟩ := bind_eq_ok_iff.1 h
  obtain ⟨-, -, h⟩ := bind_eq_ok_iff.1 h
  obtain ⟨-, -, h⟩ := bind_eq_ok_iff.1 h
  obtain ⟨patterns, hpatterns, h⟩ := bind_eq_ok_iff.1 h
  obtain ⟨suffixes, hsuffixes, h⟩ := bind_eq_ok_iff.1 h
  obtain ⟨rules, hrules, h⟩ := bind_eq_ok_iff.1 h
  obtain ⟨excluded, hexcluded, h⟩ := bind_eq_ok_iff.1 h
  split at h
  · obtain ⟨_, hthrown, -⟩ := bind_eq_ok_iff.1 h
    cases hthrown
  rename_i hsome
  simp only [bind_eq_ok_iff] at h
  obtain ⟨extensions, hextensions, lineLength, hlineLength, blankLines, hblankLines, formatter,
    hformatter, hs⟩ := h
  obtain ⟨rfl, hpatternsOk⟩ := texts_eq_ok nonEmptyText?_eq_some hexcluded
  obtain ⟨rfl, hsuffixesOk⟩ := texts_eq_ok dottedText?_eq_some hextensions
  obtain ⟨hlineLength, hpositive⟩ := bound_eq_ok (by decide) hlineLength
  obtain ⟨hblankLines, -⟩ := bound_eq_ok (Nat.zero_le _) hblankLines
  obtain ⟨hformatter, hnamed⟩ := formatterName_eq_ok (by decide) hformatter
  rw [ruleFields_eq_ok_iff, levels_eq_ok_iff.1 hrules] at htable
  rw [elements_eq_ok_iff (.inl rfl)] at hpatterns
  rw [elements_eq_ok_iff (.inr rfl)] at hsuffixes
  obtain rfl := pure_eq_ok_iff.1 hs
  constructor
  · intro field
    cases field with
    | rules =>
        rw [Field.map_normal (by simp) (by simp)]
        exact htable.symm
    | excluded => exact hpatterns.symm
    | extensions => exact hsuffixes.symm
    | lineLength =>
        rw [Field.map_normal (by simp) (by simp)]
        exact hlineLength.symm
    | blankLines =>
        rw [Field.map_normal (by simp) (by simp)]
        exact hblankLines.symm
    | formatter =>
        rw [Field.map_normal (by simp) (by simp)]
        exact hformatter.symm
  · exact
      { excluded_ne_nil := hpatternsOk
        extensions_ne_nil := fun hempty => hsome (by simpa using hempty)
        extensions_dot := hsuffixesOk
        one_le_lineLength := hpositive
        formatter_ne_nil := hnamed }

/-- The presentation is read last, and nothing else depends on it. -/
theorem ofGiven_eq_bind (given : Field → Option Value) :
    ofGiven given = (do
      let s ← ofGiven fun field => if field = .formatter then none else given field
      let formatter ← formatterName ({} : Settings).formatter (given .formatter)
      return { s with formatter }) := by
  rw [ofGiven, ofGiven]
  -- up to the suffixes both sides take the same steps
  iterate 7
    rw [bind_assoc]
    refine bind_congr fun _ => ?_
  split
  · rfl
  · simp only [bind_assoc, pure_bind]
    rfl

end Settings

end SolidityLint

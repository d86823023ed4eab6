import SolidityLint.Settings.Value
import Mathlib.Data.List.Induction
import Mathlib.Data.List.Nodup

/-!
# Tables as maps

A table in which no name occurs twice is a map that remembers in which order its fields came.

* `get?_put`: setting a field changes the value of that field.
* `foldl_putWith_putWith`: fields that are set one after the other, each in the light of the value
  it had, may first be gathered in a table of their own.
* `putAll_putAll`: so setting the fields of two tables is setting those of the two together.
-/

namespace SolidityLint.Table

variable {t u : Table} {j k key : Text} {v w : Value}

/-- Does no name occur twice? -/
def Distinct (t : Table) : Prop :=
  (t.map (·.1)).Nodup

instance (t : Table) : Decidable t.Distinct :=
  inferInstanceAs (Decidable (t.map (·.1)).Nodup)

theorem distinct_nil : Distinct [] :=
  List.nodup_nil

@[simp] theorem get?_nil (key : Text) : get? [] key = none :=
  rfl

theorem get?_cons (k : Text) (v : Value) (t : Table) (key : Text) :
    get? ((k, v) :: t) key = if key = k then some v else get? t key := by
  rw [get?, List.lookup_cons]
  split
  · rename_i h
    rw [if_pos (eq_of_beq h)]
  · rename_i h
    rw [if_neg (beq_eq_false_iff_ne.1 h)]
    rfl

theorem get?_eq_none_iff : t.get? key = none ↔ key ∉ t.map (·.1) := by
  induction t with
  | nil => simp
  | cons f t ih =>
      obtain ⟨k, v⟩ := f
      rw [get?_cons, List.map_cons, List.mem_cons, not_or, ← ih]
      split
      · rename_i h
        exact iff_of_false (by simp) fun hne => hne.1 h
      · rename_i h
        exact (and_iff_right h).symm

theorem get?_eq_some_iff (ht : t.Distinct) : t.get? key = some v ↔ (key, v) ∈ t := by
  induction t with
  | nil => simp
  | cons f t ih =>
      obtain ⟨k, w⟩ := f
      obtain ⟨hk, ht⟩ := List.nodup_cons.1 ht
      rw [get?_cons, List.mem_cons, Prod.mk.injEq]
      split
      · rename_i h
        subst h
        have hnot : (key, v) ∉ t := fun hmem => hk (List.mem_map_of_mem (f := (·.1)) hmem)
        simp [hnot, eq_comm]
      · rename_i h
        rw [ih ht]
        exact ⟨.inr, fun hor => hor.resolve_left fun heq => h heq.1⟩

/-! ## Setting a field -/

theorem get?_put (t : Table) (k : Text) (v : Value) (key : Text) :
    (t.put k v).get? key = if key = k then some v else t.get? key := by
  induction t with
  | nil => rw [put, get?_cons]
  | cons f t ih =>
      obtain ⟨j, w⟩ := f
      rw [put]
      split
      · rename_i h
        subst h
        simp only [get?_cons]
        split <;> rfl
      · rename_i h
        rw [get?_cons, ih, get?_cons]
        by_cases hkey : key = j
        · rw [if_pos hkey, if_pos hkey, if_neg (hkey ▸ h)]
        · rw [if_neg hkey, if_neg hkey]

theorem mem_of_mem_put {f : Text × Value} (h : f ∈ t.put k v) : f = (k, v) ∨ f ∈ t := by
  induction t with
  | nil => exact .inl (List.mem_singleton.1 h)
  | cons g t ih =>
      obtain ⟨j, w⟩ := g
      rw [put] at h
      split at h
      · rename_i hjk
        rcases List.mem_cons.1 h with rfl | h
        · exact .inl (by rw [hjk])
        · exact .inr (List.mem_cons_of_mem _ h)
      · rcases List.mem_cons.1 h with rfl | h
        · exact .inr (List.mem_cons_self ..)
        · exact (ih h).imp_right (List.mem_cons_of_mem _)

theorem mem_map_fst_put : key ∈ (t.put k v).map (·.1) ↔ key = k ∨ key ∈ t.map (·.1) := by
  rw [← not_iff_not, ← get?_eq_none_iff, get?_put, not_or, ← get?_eq_none_iff]
  split
  · rename_i h
    exact iff_of_false (by simp) fun hne => hne.1 h
  · rename_i h
    exact (and_iff_right h).symm

theorem Distinct.put (ht : t.Distinct) (k : Text) (v : Value) : (t.put k v).Distinct := by
  induction t with
  | nil => exact List.nodup_singleton k
  | cons f t ih =>
      obtain ⟨j, w⟩ := f
      obtain ⟨hj, ht'⟩ := List.nodup_cons.1 ht
      rw [Table.put]
      split
      · exact ht
      · rename_i h
        refine List.nodup_cons.2 ⟨fun hmem => ?_, ih ht'⟩
        exact (mem_map_fst_put.1 hmem).elim h hj

theorem put_put (t : Table) (k : Text) (v w : Value) : (t.put k v).put k w = t.put k w := by
  induction t with
  | nil => simp [put]
  | cons f t ih =>
      obtain ⟨j, x⟩ := f
      by_cases h : j = k
      · simp [put, h]
      · simp [put, h, ih]

/-- A field that is there keeps its place, so it does not matter when it is set. -/
theorem put_comm (hk : k ∈ t.map (·.1)) (hne : j ≠ k) (v w : Value) :
    (t.put j v).put k w = (t.put k w).put j v := by
  induction t with
  | nil => simp at hk
  | cons f t ih =>
      obtain ⟨i, x⟩ := f
      by_cases hik : i = k
      · have hij : i ≠ j := fun h => hne (h.symm.trans hik)
        simp [put, hik, hik ▸ hij]
      · have hk' : k ∈ t.map (·.1) := (List.mem_cons.1 hk).resolve_left (Ne.symm hik)
        by_cases hij : i = j
        · simp [put, hij, hij ▸ hik]
        · simp [put, hik, hij, ih hk']

/-! ## Setting fields in the light of the values they had -/

section PutWith

variable {combine : Text → Option Value → Value → Value}

/-- A table with a field set to what is made of the value that it had and of a new one. -/
def putWith (combine : Text → Option Value → Value → Value) (t : Table) (f : Text × Value) :
    Table :=
  t.put f.1 (combine f.1 (t.get? f.1) f.2)

theorem mem_map_fst_putWith {f : Text × Value} :
    key ∈ (putWith combine t f).map (·.1) ↔ key = f.1 ∨ key ∈ t.map (·.1) :=
  mem_map_fst_put

theorem Distinct.foldl_putWith (ht : t.Distinct) (fields : Table) :
    (fields.foldl (putWith combine) t).Distinct := by
  induction fields generalizing t with
  | nil => exact ht
  | cons f fields ih => exact ih (ht.put _ _)

/-- Fields that are set change the values that the table has for their names. -/
theorem get?_foldl_putWith {fields : Table} (hfields : fields.Distinct) (t : Table) (key : Text) :
    (fields.foldl (putWith combine) t).get? key =
      ((fields.get? key).map (combine key (t.get? key))).or (t.get? key) := by
  induction fields generalizing t with
  | nil => rfl
  | cons f fields ih =>
      obtain ⟨k, v⟩ := f
      obtain ⟨hk, hfields⟩ := List.nodup_cons.1 hfields
      rw [List.foldl_cons, ih hfields, putWith, get?_put, get?_cons]
      split
      · rename_i h
        subst h
        rw [get?_eq_none_iff.2 hk]
        rfl
      · rfl

theorem putWith_comm {f g : Text × Value} (hg : g.1 ∈ t.map (·.1)) (hne : f.1 ≠ g.1) :
    putWith combine (putWith combine t f) g = putWith combine (putWith combine t g) f := by
  simp only [putWith, get?_put, if_neg hne, if_neg hne.symm]
  exact put_comm hg hne _ _

/-- A field that no later one sets again may be set last. -/
theorem foldl_putWith_comm {g : Text × Value} {fields : Table} (hg : g.1 ∈ t.map (·.1))
    (hfree : g.1 ∉ fields.map (·.1)) :
    putWith combine (fields.foldl (putWith combine) t) g =
      fields.foldl (putWith combine) (putWith combine t g) := by
  induction fields generalizing t with
  | nil => rfl
  | cons f fields ih =>
      rw [List.map_cons, List.mem_cons, not_or] at hfree
      rw [List.foldl_cons, List.foldl_cons, ih (mem_map_fst_putWith.2 (.inr hg)) hfree.2,
        putWith_comm hg (Ne.symm hfree.1)]

/-- Does it not matter whether a value is combined with the one before it or with the one behind
it first? -/
def Associates (combine : Text → Option Value → Value → Value) (f : Text × Value) : Prop :=
  ∀ before behind, combine f.1 (some (combine f.1 before f.2)) behind =
    combine f.1 before (combine f.1 (some f.2) behind)

/-- **Fields may be gathered first.**  Setting the fields of a table and then another one is setting
the fields of the table in which that one is set. -/
theorem foldl_putWith_putWith (hnone : ∀ k v, combine k none v = v) {m : Table} (hm : m.Distinct)
    (hassoc : ∀ f ∈ m, Associates combine f) (t : Table) (g : Text × Value) :
    (putWith combine m g).foldl (putWith combine) t =
      putWith combine (m.foldl (putWith combine) t) g := by
  obtain ⟨k, v⟩ := g
  induction m generalizing t with
  | nil => simp [putWith, put, hnone]
  | cons f m ih =>
      obtain ⟨j, w⟩ := f
      obtain ⟨hj, hm⟩ := List.nodup_cons.1 hm
      obtain ⟨hfirst, hassoc⟩ := List.forall_mem_cons.1 hassoc
      by_cases h : j = k
      · -- the field is the first one of the table, and no later one sets it again
        subst h
        have hhead : putWith combine ((j, w) :: m) (j, v) = (j, combine j (some w) v) :: m := by
          simp [putWith, put, get?_cons]
        have honce : putWith combine (putWith combine t (j, w)) (j, v) =
            putWith combine t (j, combine j (some w) v) := by
          simp only [putWith, get?_put, if_true, put_put]
          rw [hfirst]
        have hlast : putWith combine (m.foldl (putWith combine) (putWith combine t (j, w))) (j, v) =
            m.foldl (putWith combine) (putWith combine (putWith combine t (j, w)) (j, v)) :=
          foldl_putWith_comm (mem_map_fst_putWith.2 (.inl rfl)) hj
        rw [hhead, List.foldl_cons, List.foldl_cons, hlast, honce]
      · have htail : putWith combine ((j, w) :: m) (k, v) = (j, w) :: putWith combine m (k, v) := by
          simp [putWith, put, get?_cons, h, Ne.symm h]
        rw [htail, List.foldl_cons, List.foldl_cons, ih hm hassoc]

/-- Fields that are set one after the other may be gathered in an empty table first. -/
theorem foldl_foldl_putWith (hnone : ∀ k v, combine k none v = v) {fields : Table}
    (hassoc : ∀ before, before <+: fields →
      ∀ f ∈ before.foldl (putWith combine) [], Associates combine f) (t : Table) :
    (fields.foldl (putWith combine) []).foldl (putWith combine) t =
      fields.foldl (putWith combine) t := by
  induction fields using List.reverseRecOn with
  | nil => rfl
  | append_singleton fields f ih =>
      have hbefore := hassoc fields (List.prefix_append _ _)
      have hdistinct : Distinct (fields.foldl (putWith combine) []) :=
        distinct_nil.foldl_putWith fields
      rw [List.foldl_append, List.foldl_append, List.foldl_cons, List.foldl_nil, List.foldl_cons,
        List.foldl_nil, foldl_putWith_putWith hnone hdistinct hbefore,
        ih fun before hstem => hassoc before (hstem.trans (List.prefix_append _ _))]

end PutWith

/-! ## Setting all fields of a table -/

theorem putAll_eq_foldl (t other : Table) :
    t.putAll other = other.foldl (putWith fun _ _ v => v) t :=
  rfl

theorem Distinct.putAll (ht : t.Distinct) (other : Table) : (t.putAll other).Distinct :=
  putAll_eq_foldl t other ▸ ht.foldl_putWith other

theorem get?_putAll {other : Table} (hother : other.Distinct) (t : Table) (key : Text) :
    (t.putAll other).get? key = (other.get? key).or (t.get? key) := by
  rw [putAll_eq_foldl, get?_foldl_putWith hother]
  cases other.get? key <;> rfl

/-- Setting the fields of two tables is setting those of the two together. -/
theorem putAll_putAll {m : Table} (hm : m.Distinct) (t other : Table) :
    (t.putAll m).putAll other = t.putAll (m.putAll other) := by
  induction other using List.reverseRecOn with
  | nil => rfl
  | append_singleton other f ih =>
      have hdistinct : (m.putAll other).Distinct := hm.putAll other
      simp only [putAll_eq_foldl] at ih hdistinct ⊢
      rw [List.foldl_append, List.foldl_append, ih, List.foldl_cons, List.foldl_nil,
        List.foldl_cons, List.foldl_nil,
        foldl_putWith_putWith (fun _ _ => rfl) hdistinct fun _ _ _ _ => rfl]

end SolidityLint.Table

import SolidityLint.Proofs.Files.Collected
import SolidityLint.Proofs.Files.Shape

/-!
# Writing at different places

A file may be written where there was none before, so writing does not always keep the shape of a
tree.  It does keep the ground that paths are looked up on (`Tree.SameGround`): the directories,
and what lies at their places.  On the same ground a path leads to the same location, and the same
files can be written (`SameGround.exists_write_iff`), so writes at different places do not get in
each other's way.

* `sameGround_of_write`: writing a file keeps the ground.
* `bytesAt?_of_write`: it changes the bytes of one place.
-/

namespace SolidityLint

namespace Tree

variable {t u v : Tree} {p q : Path} {d k l : Location} {bytes : Bytes}

/-! ## Directories on the way -/

theorem isBelow_iff : isBelow d l = true ↔ d <+: l ∧ d.length < l.length := by
  rw [isBelow, Bool.and_eq_true, List.isPrefixOf_iff_prefix, decide_eq_true_eq]

theorem hasDirectory_iff : t.hasDirectory d = true ↔
    d = [] ∨ d ∈ t.directories ∨ ∃ k ∈ t.listed, isBelow d k = true := by
  simp only [hasDirectory, Bool.or_eq_true, List.isEmpty_iff, List.contains_iff_mem,
    List.any_eq_true, or_assoc]

/-- Whatever a directory lies in is a directory. -/
theorem hasDirectory_of_isPrefix (h : t.hasDirectory l = true) (hstem : d <+: l) :
    t.hasDirectory d = true := by
  by_cases hlength : d.length < l.length
  · have hbelow : isBelow d l = true := isBelow_iff.2 ⟨hstem, hlength⟩
    rcases hasDirectory_iff.1 h with rfl | hlisted | ⟨k, hk, hkbelow⟩
    · exact absurd hlength (Nat.not_lt_zero _)
    · exact hasDirectory_iff.2 (.inr (.inr ⟨l, List.mem_append_right _ hlisted, hbelow⟩))
    · obtain ⟨hlk, hlt⟩ := isBelow_iff.1 hkbelow
      exact hasDirectory_iff.2 (.inr (.inr ⟨k, hk,
        isBelow_iff.2 ⟨hstem.trans hlk, Nat.lt_trans hlength hlt⟩⟩))
  · rwa [hstem.eq_of_length_le (Nat.not_lt.1 hlength)]

/-- Are the directories there that a location lies in? -/
def HasWay (t : Tree) (l : Location) : Prop :=
  ∀ d, isBelow d l = true → t.hasDirectory d = true

theorem hasWay_nil (t : Tree) : t.HasWay [] := fun d hd => by
  simp [isBelow] at hd

theorem hasWay_of_hasDirectory (h : t.hasDirectory l = true) : t.HasWay l := fun _ hd =>
  hasDirectory_of_isPrefix h (isBelow_iff.1 hd).1

theorem hasWay_of_hasFile (h : t.hasFile l = true) : t.HasWay l := fun _ hd => by
  rw [hasFile_eq, List.contains_iff_mem] at h
  exact hasDirectory_iff.2 (.inr (.inr ⟨l, List.mem_append_left _ h, hd⟩))

/-- One step leads up, or to an entry of the directory where it starts. -/
theorem hasWay_step (h : t.hasDirectory d = true) (part : Text) : t.HasWay (Path.step d part) := by
  refine fun k hk => hasDirectory_of_isPrefix h ?_
  obtain ⟨hstem, hlength⟩ := isBelow_iff.1 hk
  rw [Path.step] at hstem hlength
  split at hstem
  · exact hstem.trans (List.dropLast_prefix d)
  · rename_i hdown
    rw [if_neg hdown] at hlength
    exact (List.prefix_concat_iff.1 hstem).resolve_left fun heq => by simp [heq] at hlength

theorem hasWay_of_walk {m : Location} {parts : List Text} (hstart : t.HasWay m)
    (h : t.walk m parts = .ok l) : t.HasWay l := by
  induction parts generalizing m with
  | nil => exact Except.ok.inj h ▸ hstart
  | cons part parts ih =>
      obtain ⟨hdirectory, -, -, hrest⟩ := walk_cons_eq_ok_iff.1 h
      exact ih (hasWay_step hdirectory part) hrest

/-- Where a path leads to, the directories on the way are there. -/
theorem hasWay_of_locate (hhere : t.hasDirectory t.here = true) (h : t.locate p = .ok l) :
    t.HasWay l := by
  obtain ⟨-, -, hwalk⟩ := locate_eq_ok_iff.1 h
  refine hasWay_of_walk ?_ hwalk
  split
  · exact t.hasWay_nil
  · exact hasWay_of_hasDirectory hhere

/-! ## The names on the way -/

theorem isName_of_hasDirectory (ht : t.IsNamed) (h : t.hasDirectory d = true) :
    ∀ name ∈ d, Path.IsName name := by
  rcases hasDirectory_iff.1 h with rfl | hlisted | ⟨k, hk, hbelow⟩
  · simp
  · exact ht d (List.mem_append_right _ hlisted)
  · exact fun name hname => ht k hk name ((isBelow_iff.1 hbelow).1.mem hname)

theorem exists_of_walk_concat {m : Location} {parts : List Text} {part : Text}
    (h : t.walk m (parts ++ [part]) = .ok l) :
    ∃ d, t.hasDirectory d = true ∧ l = Path.step d part := by
  induction parts generalizing m with
  | nil =>
      obtain ⟨hdirectory, -, -, hend⟩ := walk_cons_eq_ok_iff.1 h
      exact ⟨m, hdirectory, (Except.ok.inj hend).symm⟩
  | cons first parts ih =>
      obtain ⟨-, -, -, hrest⟩ := walk_cons_eq_ok_iff.1 h
      exact ih hrest

/-- An entry is looked up in a directory. -/
theorem exists_of_locate_child {name : Text} (h : t.locate (p.child name) = .ok l) :
    ∃ d, t.hasDirectory d = true ∧ l = Path.step d name := by
  obtain ⟨-, -, hwalk⟩ := locate_eq_ok_iff.1 h
  exact exists_of_walk_concat hwalk

theorem SameShape.isNamed (h : t.SameShape u) (ht : t.IsNamed) : u.IsNamed := by
  intro l hl
  rw [h.listed] at hl
  exact ht l hl

/-! ## Putting a file somewhere -/

/-- The tree with a file that holds given bytes at a location. -/
def put (t : Tree) (l : Location) (bytes : Bytes) : Tree :=
  { t with files := putFile t.files l bytes }

theorem bytesAt?_put (t : Tree) (l k : Location) (bytes : Bytes) :
    (t.put l bytes).bytesAt? k = if k = l then some bytes else t.bytesAt? k :=
  lookup_putFile ..

theorem hasFile_put (t : Tree) (l k : Location) (bytes : Bytes) :
    (t.put l bytes).hasFile k = (decide (k = l) || t.hasFile k) := by
  rw [hasFile, bytesAt?_put, hasFile]
  by_cases h : k = l <;> simp [h]

theorem mem_listed_put : k ∈ (t.put l bytes).listed ↔ k = l ∨ k ∈ t.listed := by
  have hplaces : ∀ v : Tree, k ∈ v.files.map (·.1) ↔ v.hasFile k = true := fun v => by
    rw [hasFile_eq, List.contains_iff_mem]
  rw [listed, listed, List.mem_append, List.mem_append, hplaces, hplaces, hasFile_put,
    Bool.or_eq_true, decide_eq_true_eq, or_assoc]
  exact Iff.rfl

theorem isNamed_put (ht : t.IsNamed) (hl : ∀ name ∈ l, Path.IsName name) :
    (t.put l bytes).IsNamed := by
  intro k hk
  rcases mem_listed_put.1 hk with rfl | hk
  · exact hl
  · exact ht k hk

/-- Of two files that are put at one place, the later one stays. -/
theorem put_put (t : Tree) (l : Location) (old bytes : Bytes) :
    (t.put l old).put l bytes = t.put l bytes := by
  have hfiles (files : List (Location × Bytes)) :
      putFile (putFile files l old) l bytes = putFile files l bytes := by
    induction files with
    | nil => simp [putFile]
    | cons f rest ih => by_cases h : f.1 = l <;> simp [putFile, h, ih]
  simp only [put, hfiles]

/-- A file that is there can be put again without changing the shape of the tree. -/
theorem sameShape_put (h : t.hasFile l = true) : t.SameShape (t.put l bytes) := by
  rw [hasFile_eq, List.contains_iff_mem] at h
  exact ⟨map_fst_putFile h, rfl, rfl⟩

/-- A file that is put somewhere takes no directory away. -/
theorem hasDirectory_put_of_hasDirectory (h : t.hasDirectory d = true) :
    (t.put l bytes).hasDirectory d = true := by
  rcases hasDirectory_iff.1 h with hroot | hlisted | ⟨k, hk, hbelow⟩
  · exact hasDirectory_iff.2 (.inl hroot)
  · exact hasDirectory_iff.2 (.inr (.inl hlisted))
  · exact hasDirectory_iff.2 (.inr (.inr ⟨k, mem_listed_put.2 (.inr hk), hbelow⟩))

/-- A file below directories that are there makes no new directory. -/
theorem hasDirectory_put (hway : t.HasWay l) :
    (t.put l bytes).hasDirectory = t.hasDirectory := by
  funext d
  rw [Bool.eq_iff_iff]
  refine ⟨fun h => ?_, hasDirectory_put_of_hasDirectory⟩
  rcases hasDirectory_iff.1 h with hroot | hlisted | ⟨k, hk, hbelow⟩
  · exact hasDirectory_iff.2 (.inl hroot)
  · exact hasDirectory_iff.2 (.inr (.inl hlisted))
  · rcases mem_listed_put.1 hk with rfl | hk
    · exact hway d hbelow
    · exact hasDirectory_iff.2 (.inr (.inr ⟨k, hk, hbelow⟩))

theorem walk_put {m : Location} {parts : List Text}
    (hfree : t.hasDirectory l = true → t.hasFile l = true) (h : t.walk m parts = .ok k) :
    (t.put l bytes).walk m parts = .ok k := by
  induction parts generalizing m with
  | nil => exact h
  | cons part parts ih =>
      obtain ⟨hdirectory, hfile, hshort, hrest⟩ := walk_cons_eq_ok_iff.1 h
      have hother : (t.put l bytes).hasFile m = false := by
        -- at the place of a directory on the way, a file would be there already
        have hne : m ≠ l := fun heq => by simp [hfree (heq ▸ hdirectory), heq] at hfile
        rw [hasFile_put, decide_eq_false hne, hfile, Bool.or_false]
      exact walk_cons_eq_ok_iff.2
        ⟨hasDirectory_put_of_hasDirectory hdirectory, hother, hshort, ih hrest⟩

/-- A path that leads somewhere leads there also when a file is written. -/
theorem locate_put (hfree : t.hasDirectory l = true → t.hasFile l = true)
    (h : t.locate p = .ok k) : (t.put l bytes).locate p = .ok k := by
  obtain ⟨hnull, hshort, hwalk⟩ := locate_eq_ok_iff.1 h
  exact locate_eq_ok_iff.2 ⟨hnull, hshort, walk_put hfree hwalk⟩

theorem write_eq_ok_iff : t.write p bytes = .ok u ↔ ∃ l, t.locate p = .ok l ∧
    (t.hasDirectory l = true → t.hasFile l = true) ∧ t.put l bytes = u := by
  rw [write]
  cases t.locate p with
  | error fault => simp
  | ok l =>
      cases hdirectory : t.hasDirectory l <;> cases hfile : t.hasFile l <;>
        simp [hdirectory, hfile, put]

/-- Where a file can be written, the directories on the way are there. -/
theorem hasWay_of_write (hhere : t.hasDirectory t.here = true) (h : t.write p bytes = .ok u) :
    t.HasWay (p.resolve t.here) := by
  obtain ⟨l, hlocate, -⟩ := write_eq_ok_iff.1 h
  rw [← locate_eq_resolve hlocate]
  exact hasWay_of_locate hhere hlocate

/-! ## The ground of a tree -/

/-- Two trees with the same current directory and the same directories, and with the same files
at the places of directories. -/
structure SameGround (t u : Tree) : Prop where
  here : u.here = t.here
  hasDirectory : u.hasDirectory = t.hasDirectory
  hasFile : ∀ l, t.hasDirectory l = true → u.hasFile l = t.hasFile l

namespace SameGround

theorem refl (t : Tree) : t.SameGround t :=
  ⟨rfl, rfl, fun _ _ => rfl⟩

theorem hasDirectory_here (h : t.SameGround u) (hhere : t.hasDirectory t.here = true) :
    u.hasDirectory u.here = true := by
  rw [h.hasDirectory, h.here, hhere]

theorem hasWay (h : t.SameGround u) (hway : t.HasWay l) : u.HasWay l := fun d hd => by
  rw [h.hasDirectory, hway d hd]

theorem trans (h : t.SameGround u) (h' : u.SameGround v) : t.SameGround v :=
  ⟨h'.here.trans h.here, h'.hasDirectory.trans h.hasDirectory, fun l hl => by
    rw [h'.hasFile l (by rwa [h.hasDirectory]), h.hasFile l hl]⟩

theorem walk_eq_ok_iff (h : t.SameGround u) {m : Location} {parts : List Text} :
    u.walk m parts = .ok l ↔ t.walk m parts = .ok l := by
  induction parts generalizing m with
  | nil => rfl
  | cons part parts ih =>
      rw [walk_cons_eq_ok_iff, walk_cons_eq_ok_iff, ih, h.hasDirectory]
      -- only at the places of directories the files are known to be the same
      exact and_congr_right fun hdirectory => by rw [h.hasFile m hdirectory]

theorem locate_eq_ok_iff (h : t.SameGround u) : u.locate p = .ok l ↔ t.locate p = .ok l := by
  rw [Tree.locate_eq_ok_iff, Tree.locate_eq_ok_iff, h.here, h.walk_eq_ok_iff]

/-- On the same ground the same files can be written. -/
theorem exists_write_iff (h : t.SameGround u) (bytes bytes' : Bytes) :
    (∃ v, u.write p bytes = .ok v) ↔ ∃ v, t.write p bytes' = .ok v := by
  have hfree : ∀ l, (u.hasDirectory l = true → u.hasFile l = true) ↔
      (t.hasDirectory l = true → t.hasFile l = true) := fun l => by
    rw [h.hasDirectory]
    exact forall_congr' fun hl => by rw [h.hasFile l hl]
  constructor
  · rintro ⟨v, hv⟩
    obtain ⟨l, hlocate, hl, -⟩ := write_eq_ok_iff.1 hv
    exact ⟨_, write_eq_ok_iff.2 ⟨l, h.locate_eq_ok_iff.1 hlocate, (hfree l).1 hl, rfl⟩⟩
  · rintro ⟨v, hv⟩
    obtain ⟨l, hlocate, hl, -⟩ := write_eq_ok_iff.1 hv
    exact ⟨_, write_eq_ok_iff.2 ⟨l, h.locate_eq_ok_iff.2 hlocate, (hfree l).2 hl, rfl⟩⟩

end SameGround

/-- A file that is there can be written. -/
theorem exists_write (hlocate : t.locate p = .ok l) (hfile : t.hasFile l = true) (bytes : Bytes) :
    ∃ u, t.write p bytes = .ok u :=
  ⟨_, write_eq_ok_iff.2 ⟨l, hlocate, fun _ => hfile, rfl⟩⟩

theorem sameShape_of_write (hfile : t.hasFile (p.resolve t.here) = true)
    (h : t.write p bytes = .ok u) : t.SameShape u := by
  obtain ⟨l, hlocate, -, rfl⟩ := write_eq_ok_iff.1 h
  rw [← locate_eq_resolve hlocate] at hfile
  exact sameShape_put hfile

/-- A new entry of a directory that has a name keeps the names of a tree. -/
theorem isNamed_of_write_child {name : Text} (ht : t.IsNamed) (hname : Path.IsName name)
    (hdown : name ≠ Path.up) (h : t.write (p.child name) bytes = .ok u) : u.IsNamed := by
  obtain ⟨l, hlocate, -, rfl⟩ := write_eq_ok_iff.1 h
  obtain ⟨d, hdirectory, rfl⟩ := exists_of_locate_child hlocate
  refine isNamed_put ht ?_
  rw [Path.step, if_neg hdown, List.forall_mem_append, List.forall_mem_singleton]
  exact ⟨isName_of_hasDirectory ht hdirectory, hname⟩

/-- **Writing a file keeps the ground**, if the directories on the way to it are there. -/
theorem sameGround_of_write (hway : t.HasWay (p.resolve t.here)) (h : t.write p bytes = .ok u) :
    t.SameGround u := by
  obtain ⟨l, hlocate, hfree, rfl⟩ := write_eq_ok_iff.1 h
  rw [← locate_eq_resolve hlocate] at hway
  refine ⟨rfl, hasDirectory_put hway, fun k hk => ?_⟩
  rw [hasFile_put]
  by_cases hkl : k = l
  · rw [hkl, hfree (hkl ▸ hk), Bool.or_true]
  · rw [decide_eq_false hkl, Bool.false_or]

/-- What is read from other files stays the same when a file is written. -/
theorem read_of_write {other : Bytes} (hne : q.resolve t.here ≠ p.resolve t.here)
    (h : t.write p bytes = .ok u) (hread : t.read q = .ok other) : u.read q = .ok other := by
  obtain ⟨l, hlocate, hfree, rfl⟩ := write_eq_ok_iff.1 h
  obtain ⟨k, hk, hbytes⟩ := read_eq_ok_iff.1 hread
  rw [← locate_eq_resolve hlocate, ← locate_eq_resolve hk] at hne
  exact read_eq_ok_iff.2 ⟨k, locate_put hfree hk, by rw [bytesAt?_put, if_neg hne, hbytes]⟩

/-- Writing a file changes the bytes of the place that its path denotes. -/
theorem bytesAt?_of_write (h : t.write p bytes = .ok u) (k : Location) :
    u.bytesAt? k = if k = p.resolve t.here then some bytes else t.bytesAt? k := by
  obtain ⟨l, hlocate, -, rfl⟩ := write_eq_ok_iff.1 h
  rw [bytesAt?_put, ← locate_eq_resolve hlocate]

/-- A new entry of a directory is found there. -/
theorem isEntry_of_write_child {name : Text} (h : t.write (p.child name) bytes = .ok u) :
    t.SameGround u ∧ u.isEntry (p.child name) = true := by
  obtain ⟨l, hlocate, -, rfl⟩ := write_eq_ok_iff.1 h
  obtain ⟨d, hdirectory, hl⟩ := exists_of_locate_child hlocate
  have hway : t.HasWay ((p.child name).resolve t.here) := by
    rw [← locate_eq_resolve hlocate, hl]
    exact hasWay_step hdirectory name
  have hground := sameGround_of_write hway h
  refine ⟨hground, ?_⟩
  rw [isEntry, leadsTo, hground.locate_eq_ok_iff.2 hlocate]
  simp only [hasEntry, hasFile_put, decide_true, Bool.true_or]

end Tree

end SolidityLint

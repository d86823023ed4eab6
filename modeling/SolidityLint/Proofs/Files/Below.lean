import SolidityLint.Proofs.Files.Ground

/-!
# What lies below a directory

The entries below a directory are found in the list of all entries of a tree
(`Tree.mem_waysBelow_iff`, `Tree.mem_entryNames_iff`).  In a tree such as a file system holds
(`Tree.IsSound`) a path that goes on along the names to such an entry leads there, unless the path
or one of the names is too long (`Tree.locate_below`).
-/

namespace SolidityLint

namespace Tree

/-- A tree such as a file system without links holds: its entries have names, no name leads up or
holds a null character, and no directory is where a file is. -/
structure IsSound (t : Tree) : Prop where
  named : t.IsNamed
  down : ∀ l ∈ t.listed, Path.up ∉ l
  noNull : ∀ l ∈ t.listed, ∀ name ∈ l, '\x00' ∉ name
  apart : ∀ l ∈ t.files.map (·.1), t.hasDirectory l = false

instance (t : Tree) : Decidable t.IsSound :=
  decidable_of_iff ((∀ l ∈ t.listed, ∀ name ∈ l, Path.IsName name) ∧
    (∀ l ∈ t.listed, Path.up ∉ l) ∧ (∀ l ∈ t.listed, ∀ name ∈ l, '\x00' ∉ name) ∧
    ∀ l ∈ t.files.map Prod.fst, t.hasDirectory l = false)
    ⟨fun h => ⟨h.1, h.2.1, h.2.2.1, h.2.2.2⟩, fun h => ⟨h.named, h.down, h.noNull, h.apart⟩⟩

variable {t : Tree} {p : Path} {d l m : Location} {way parts rest : List Text} {name : Text}

/-! ## Entries -/

theorem hasFile_iff : t.hasFile l = true ↔ l ∈ t.files.map (·.1) := by
  rw [hasFile_eq, List.contains_iff_mem]

/-- Something is at the root, at the places that a tree lists and on the way to them. -/
theorem hasEntry_iff : t.hasEntry l = true ↔ l = [] ∨ ∃ k ∈ t.listed, l <+: k := by
  rw [hasEntry, Bool.or_eq_true, hasFile_iff, hasDirectory_iff]
  constructor
  · rintro (hfile | hroot | hlisted | ⟨k, hk, hbelow⟩)
    · exact .inr ⟨l, List.mem_append_left _ hfile, List.prefix_rfl⟩
    · exact .inl hroot
    · exact .inr ⟨l, List.mem_append_right _ hlisted, List.prefix_rfl⟩
    · exact .inr ⟨k, hk, (isBelow_iff.1 hbelow).1⟩
  · rintro (hroot | ⟨k, hk, hstem⟩)
    · exact .inr (.inl hroot)
    by_cases hlength : l.length < k.length
    · exact .inr (.inr (.inr ⟨k, hk, isBelow_iff.2 ⟨hstem, hlength⟩⟩))
    · obtain rfl := hstem.eq_of_length_le (Nat.not_lt.1 hlength)
      exact (List.mem_append.1 hk).imp_right fun hlisted => .inr (.inl hlisted)

theorem hasEntry_of_hasFile (h : t.hasFile l = true) : t.hasEntry l = true := by
  rw [hasEntry, h, Bool.true_or]

/-- Where something lies below, there is a directory. -/
theorem hasDirectory_of_hasEntry_append (hne : way ≠ []) (h : t.hasEntry (d ++ way) = true) :
    t.hasDirectory d = true := by
  rcases hasEntry_iff.1 h with hroot | ⟨k, hk, hstem⟩
  · exact absurd (List.append_eq_nil_iff.1 hroot).2 hne
  · have hlength : (d ++ way).length ≤ k.length := hstem.length_le
    rw [List.length_append] at hlength
    have hpositive := List.length_pos_iff.2 hne
    exact hasDirectory_iff.2 (.inr (.inr ⟨k, hk,
      isBelow_iff.2 ⟨(List.prefix_append d way).trans hstem, by omega⟩⟩))

theorem IsSound.not_hasDirectory (ht : t.IsSound) (h : t.hasFile l = true) :
    t.hasDirectory l = false :=
  ht.apart l (hasFile_iff.1 h)

theorem IsSound.not_hasFile (ht : t.IsSound) (h : t.hasDirectory l = true) :
    t.hasFile l = false :=
  Bool.eq_false_iff.2 fun hfile => Bool.eq_false_iff.1 (ht.not_hasDirectory hfile) h

/-- The names on the way to an entry. -/
theorem exists_listed_of_mem (h : t.hasEntry (d ++ way) = true) (hname : name ∈ way) :
    ∃ k ∈ t.listed, name ∈ k := by
  rcases hasEntry_iff.1 h with hroot | ⟨k, hk, hstem⟩
  · rw [(List.append_eq_nil_iff.1 hroot).2] at hname
    exact absurd hname List.not_mem_nil
  · exact ⟨k, hk, hstem.mem (List.mem_append_right d hname)⟩

/-- A new entry of a directory that has a name keeps a tree sound. -/
theorem IsSound.of_write_child {u : Tree} {bytes : Bytes} (ht : t.IsSound)
    (hname : Path.IsName name) (hdown : name ≠ Path.up) (hnull : '\x00' ∉ name)
    (hnew : t.isEntry (p.child name) = false) (h : t.write (p.child name) bytes = .ok u) :
    u.IsSound := by
  obtain ⟨l, hlocate, -, rfl⟩ := write_eq_ok_iff.1 h
  obtain ⟨d, hdirectory, rfl⟩ := exists_of_locate_child hlocate
  have hway := hasWay_step hdirectory name
  rw [isEntry, leadsTo, hlocate] at hnew
  rw [Path.step, if_neg hdown] at hnew hway ⊢
  have hnames : ∀ part ∈ d ++ [name], Path.IsName part ∧ part ≠ Path.up ∧ '\x00' ∉ part := by
    refine List.forall_mem_append.2
      ⟨fun part hpart => ?_, List.forall_mem_singleton.2 ⟨hname, hdown, hnull⟩⟩
    obtain ⟨k, hk, hpart⟩ :=
      exists_listed_of_mem (d := []) (Bool.or_eq_true_iff.2 (.inr hdirectory)) hpart
    exact ⟨ht.named k hk part hpart, fun heq => ht.down k hk (heq ▸ hpart),
      ht.noNull k hk part hpart⟩
  exact {
    named := isNamed_put ht.named fun part hpart => (hnames part hpart).1
    down := fun k hk => (mem_listed_put.1 hk).elim
      (fun heq hup => (hnames _ (heq ▸ hup)).2.1 rfl) (ht.down k)
    noNull := fun k hk => (mem_listed_put.1 hk).elim
      (fun heq part hpart => (hnames part (heq ▸ hpart)).2.2) (ht.noNull k)
    apart := fun k hk => by
      rw [hasDirectory_put hway]
      rw [← hasFile_iff, hasFile_put, Bool.or_eq_true, decide_eq_true_eq] at hk
      rcases hk with rfl | hk
      · exact (Bool.or_eq_false_iff.1 hnew).2
      · exact ht.not_hasDirectory hk }

/-! ## The entries of a directory -/

theorem mem_waysBelow_iff : way ∈ t.waysBelow d ↔ way ≠ [] ∧ t.hasEntry (d ++ way) = true := by
  rw [waysBelow, List.mem_eraseDups, List.mem_flatMap]
  constructor
  · rintro ⟨k, hk, hway⟩
    obtain ⟨n, hn, rfl⟩ := List.mem_map.1 hway
    split at hn
    · rename_i hbelow
      obtain ⟨below, rfl⟩ := (isBelow_iff.1 hbelow).1
      rw [List.drop_left, List.mem_range] at hn
      rw [if_pos hbelow, List.drop_left]
      refine ⟨fun hnil => ?_, hasEntry_iff.2 (.inr ⟨_, hk, ?_⟩)⟩
      · rw [List.take_eq_nil_iff] at hnil
        exact hnil.elim (by omega) fun hbelow => by simp [hbelow] at hn
      · exact (List.prefix_append_right_inj d).2 (List.take_prefix ..)
    · simp at hn
  · rintro ⟨hne, hentry⟩
    obtain ⟨k, hk, below, rfl⟩ :=
      (hasEntry_iff.1 hentry).resolve_left fun h => hne (List.append_eq_nil_iff.1 h).2
    have hpositive := List.length_pos_iff.2 hne
    have hbelow : isBelow d (d ++ way ++ below) = true := isBelow_iff.2
      ⟨⟨way ++ below, (List.append_assoc ..).symm⟩, by simp only [List.length_append]; omega⟩
    refine ⟨_, hk, List.mem_map.2 ⟨way.length - 1, ?_, ?_⟩⟩
    · rw [if_pos hbelow, List.append_assoc, List.drop_left, List.mem_range, List.length_append]
      omega
    · rw [if_pos hbelow, List.append_assoc, List.drop_left, Nat.sub_add_cancel hpositive,
        List.take_left]

theorem mem_entryNames_iff : name ∈ t.entryNames d ↔ t.hasEntry (d ++ [name]) = true := by
  rw [entryNames, List.mem_eraseDups, List.mem_filterMap]
  constructor
  · rintro ⟨k, hk, hname⟩
    split at hname
    · rename_i hbelow
      obtain ⟨below, rfl⟩ := (isBelow_iff.1 hbelow).1
      rw [List.getElem?_append_right (Nat.le_refl _), Nat.sub_self, ← List.head?_eq_getElem?]
        at hname
      obtain ⟨rest, rfl⟩ := List.head?_eq_some_iff.1 hname
      exact hasEntry_iff.2 (.inr ⟨_, hk, rest, by simp⟩)
    · simp at hname
  · intro hentry
    obtain ⟨k, hk, rest, rfl⟩ := (hasEntry_iff.1 hentry).resolve_left (by simp)
    have hbelow : isBelow d (d ++ [name] ++ rest) = true := isBelow_iff.2
      ⟨⟨name :: rest, by simp⟩, by simp⟩
    exact ⟨_, hk, by rw [if_pos hbelow]; simp⟩

/-! ## The way to an entry -/

theorem walk_append (l : Location) (parts rest : List Text) :
    t.walk l (parts ++ rest) = t.walk l parts >>= fun m => t.walk m rest := by
  induction parts generalizing l with
  | nil => rfl
  | cons part parts ih =>
      simp only [List.cons_append, walk]
      split
      · rfl
      split
      · rfl
      split
      · rfl
      · exact ih _

/-- From a directory a walk goes on to an entry, unless its name is too long. -/
theorem walk_cons_of_hasDirectory (ht : t.IsSound) (h : t.hasDirectory l = true)
    (hdown : name ≠ Path.up) : t.walk l (name :: rest) =
      if exceeds maxPartBytes name then .error .tooLong else t.walk (l ++ [name]) rest := by
  rw [walk, ht.not_hasFile h, h, Path.step, if_neg hdown]
  rfl

theorem walk_below (ht : t.IsSound) (h : t.hasEntry (d ++ way) = true) :
    t.walk d way = .ok (d ++ way) ∨ t.walk d way = .error .tooLong := by
  induction way generalizing d with
  | nil => exact .inl (by rw [walk, List.append_nil])
  | cons name rest ih =>
      have hdirectory := hasDirectory_of_hasEntry_append (List.cons_ne_nil name rest) h
      obtain ⟨k, hk, hname⟩ := exists_listed_of_mem h (List.mem_cons_self ..)
      have hdown : name ≠ Path.up := fun hup => ht.down k hk (hup ▸ hname)
      rw [walk_cons_of_hasDirectory ht hdirectory hdown]
      split
      · exact .inr rfl
      · rw [List.append_cons d name rest] at h ⊢
        exact ih h

/-- **The path that goes on to an entry below a directory leads there**, unless it or one of the
names is too long. -/
theorem locate_below (ht : t.IsSound) (hp : t.locate p = .ok d)
    (h : t.hasEntry (d ++ way) = true) :
    t.locate ⟨p.start, p.parts ++ way⟩ = .ok (d ++ way) ∨
      t.locate ⟨p.start, p.parts ++ way⟩ = .error .tooLong := by
  obtain ⟨hnull, -, hwalk⟩ := locate_eq_ok_iff.1 hp
  have hnoNull : Path.hasNull ⟨p.start, p.parts ++ way⟩ = false := by
    rw [Path.hasNull, List.any_append, Bool.or_eq_false_iff]
    refine ⟨hnull, List.any_eq_false.2 fun name hname => ?_⟩
    obtain ⟨k, hk, hname⟩ := exists_listed_of_mem h hname
    rw [List.contains_iff_mem]
    exact ht.noNull k hk name hname
  rw [locate, hnoNull, if_neg Bool.false_ne_true]
  cases exceeds maxPathBytes (Path.text ⟨p.start, p.parts ++ way⟩) with
  | true => exact .inr rfl
  | false =>
      rw [if_neg Bool.false_ne_true, walk_append]
      have hstart : Path.isAbsolute ⟨p.start, p.parts ++ way⟩ = p.isAbsolute := rfl
      rw [hstart, hwalk]
      exact walk_below ht h

end Tree

end SolidityLint

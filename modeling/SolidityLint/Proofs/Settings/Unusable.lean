import SolidityLint.Proofs.Files.Ground
import SolidityLint.Proofs.Settings.Precedence
import SolidityLint.Proofs.Text.Utf8

/-!
# Settings files that are no documents

What a settings file that is no document does depends on how it was found, and on what is wrong with
it.  A malformed text counts as an empty file where it was merely found, and is reported with its
path where it was named.  Other faults end the loading of settings in any case: bytes that are no
text, an integer with too many digits, and tables that are nested too deeply (`StopsReading`).

* `Tree.exists_emptied`: a file can be emptied without changing what is read elsewhere.
* `isMalformed_or_stopsReading`: what can be wrong with bytes that are no document.
* `load_of_not_isDocument`: what becomes of them, as a settings file or a project file that was
  found, and as a file that was named.
* `not_all_counted_as_empty`: bytes that are no text are neither counted as an empty file nor
  reported with their path.
-/

namespace SolidityLint

namespace Tree

variable {t u : Tree} {name : Text} {start : Option Path} {path : Path} {bytes : Bytes}

/-- A file can be emptied, and what other paths lead to stays the same. -/
theorem exists_emptied (h : t.read path = .ok bytes) : ∃ u, t.write path [] = .ok u ∧
    t.SameShape u ∧ u.read path = .ok [] ∧
      ∀ p : Path, p.resolve t.here ≠ path.resolve t.here → u.read p = t.read p := by
  obtain ⟨l, hlocate, hbytes⟩ := read_eq_ok_iff.1 h
  have hplace : l = path.resolve t.here := locate_eq_resolve hlocate
  have hfile : t.hasFile l = true := by rw [hasFile, hbytes, Option.isSome_some]
  obtain ⟨u, hu⟩ := exists_write hlocate hfile []
  have hshape : t.SameShape u := sameShape_of_write (hplace ▸ hfile) hu
  refine ⟨u, hu, hshape, read_eq_ok_iff.2 ⟨l, ?_, ?_⟩, fun p hp => read_congr hshape fun k hk => ?_⟩
  · rw [hshape.locate, hlocate]
  · rw [bytesAt?_of_write hu, if_pos hplace]
  · rw [bytesAt?_of_write hu, if_neg (locate_eq_resolve hk ▸ hp)]

/-! ## Where the nearest file of a name lies -/

theorem mem_of_firstFile {ps : List Path} (h : t.firstFile ps = .ok (some path)) : path ∈ ps := by
  induction ps with
  | nil => cases h
  | cons p ps ih =>
      rw [firstFile, bind_eq_ok_iff] at h
      obtain ⟨found, -, h⟩ := h
      cases found with
      | true =>
          obtain rfl := Option.some_inj.1 (pure_eq_ok_iff.1 h)
          exact List.mem_cons_self ..
      | false => exact List.mem_cons_of_mem _ (ih h)

/-- The nearest file of a name has that name. -/
theorem getLast?_resolve_of_nearestFrom (hname : Path.ofText name = ⟨.here, [name]⟩)
    (hdown : name ≠ Path.up) (h : t.nearestFrom (.ofText name) start = .ok (some path)) :
    (path.resolve t.here).getLast? = some name := by
  rw [nearestFrom, bind_eq_ok_iff] at h
  obtain ⟨d, -, h⟩ := h
  obtain ⟨above, -, rfl⟩ := List.mem_map.1 (mem_of_firstFile h)
  have hpath : Path.ofLocation above ++ Path.ofText name = ⟨.root, above ++ [name]⟩ := by
    rw [hname]
    rfl
  rw [hpath, Path.resolve, List.foldl_append, List.foldl_cons, List.foldl_nil, Path.step,
    if_neg hdown, List.getLast?_concat]

end Tree

namespace Settings

variable {t u : Tree} {e : Environment} {start named : Option Path} {overrides : Table}
  {path : Path} {bytes : Bytes} {name : Text} {error : LoadError}

/-! ## What bytes hold -/

/-- Do bytes hold a document? -/
def IsDocument (bytes : Bytes) : Prop :=
  ∃ source table, bytes = Utf8.encode source ∧ Toml.Document.read source = .ok table

/-- Do bytes hold a text that is no document by its form? -/
def IsMalformed (bytes : Bytes) : Prop :=
  ∃ source, bytes = Utf8.encode source ∧ Toml.Document.read source = .error .malformed

/-- The faults of bytes that end the loading of settings wherever the bytes stand. -/
inductive StopsReading (bytes : Bytes) : LoadError → Prop where
  /-- The bytes hold no text. -/
  | notUtf8 {error : Utf8.DecodeError} (h : Utf8.decode bytes = .error error) :
      StopsReading bytes (.notUtf8 error)
  /-- An integer has more digits than are read. -/
  | tooManyDigits {source : Text} {count : Nat} (hsource : bytes = Utf8.encode source)
      (h : Toml.Document.read source = .error (.tooManyDigits count)) :
      StopsReading bytes (.tooManyDigits count)
  /-- Lists and tables are nested too deeply. -/
  | tooDeep {source : Text} (hsource : bytes = Utf8.encode source)
      (h : Toml.Document.read source = .error .tooDeep) : StopsReading bytes .tooDeep

/-- What can be wrong with bytes that hold no document. -/
theorem isMalformed_or_stopsReading (h : ¬IsDocument bytes) :
    IsMalformed bytes ∨ ∃ error, StopsReading bytes error := by
  cases hdecode : Utf8.decode bytes with
  | error error => exact .inr ⟨_, .notUtf8 hdecode⟩
  | ok source =>
      have hsource : bytes = Utf8.encode source := Utf8.decode_eq_ok_iff.1 hdecode
      cases hread : Toml.Document.read source with
      | ok table => exact absurd ⟨source, table, hsource, hread⟩ h
      | error fault =>
          cases fault with
          | malformed => exact .inl ⟨source, hsource, hread⟩
          | tooManyDigits count => exact .inr ⟨_, .tooManyDigits hsource hread⟩
          | tooDeep => exact .inr ⟨_, .tooDeep hsource hread⟩

theorem IsMalformed.not_isDocument (h : IsMalformed bytes) : ¬IsDocument bytes := by
  rintro ⟨source, table, hsource, hread⟩
  obtain ⟨source', hsource', hread'⟩ := h
  have heq : source' = source :=
    Except.ok.inj ((Utf8.decode_eq_ok_iff.2 hsource').symm.trans (Utf8.decode_eq_ok_iff.2 hsource))
  rw [heq, hread] at hread'
  cases hread'

theorem IsMalformed.document?_eq (h : IsMalformed bytes) : document? bytes = .ok none := by
  obtain ⟨source, hsource, hread⟩ := h
  rw [document?, Utf8.decode_eq_ok_iff.2 hsource]
  simp only [hread]

theorem StopsReading.document?_eq (h : StopsReading bytes error) :
    document? bytes = .error error := by
  cases h with
  | notUtf8 h => rw [document?, h]
  | tooManyDigits hsource hread =>
      rw [document?, Utf8.decode_eq_ok_iff.2 hsource]
      simp only [hread]
  | tooDeep hsource hread =>
      rw [document?, Utf8.decode_eq_ok_iff.2 hsource]
      simp only [hread]

/-- An empty file is a document without fields. -/
theorem document?_nil : document? [] = .ok (some []) :=
  rfl

/-! ## What a file gives -/

theorem nearestDocument_eq (hnearest : t.nearestFrom (.ofText name) start = .ok (some path))
    (hread : t.read path = .ok bytes) :
    nearestDocument t name start = (document? bytes).map (·.getD []) := by
  rw [nearestDocument, hnearest]
  simp only [hread]

/-- Found, a malformed file counts as an empty one. -/
theorem IsMalformed.nearestDocument_eq (h : IsMalformed bytes) (hread : t.read path = .ok bytes)
    (hnearest : t.nearestFrom (.ofText name) start = .ok (some path)) :
    nearestDocument t name start = .ok [] := by
  rw [Settings.nearestDocument_eq hnearest hread, h.document?_eq]
  rfl

theorem StopsReading.nearestDocument_eq (h : StopsReading bytes error)
    (hread : t.read path = .ok bytes)
    (hnearest : t.nearestFrom (.ofText name) start = .ok (some path)) :
    nearestDocument t name start = .error error := by
  rw [Settings.nearestDocument_eq hnearest hread, h.document?_eq]
  rfl

/-- Named, a malformed file is reported with its path. -/
theorem IsMalformed.namedDocument_eq (h : IsMalformed bytes) (hread : t.read path = .ok bytes) :
    namedDocument t path = .error (.file ⟨path, .malformed⟩) := by
  rw [namedDocument, hread]
  simp only [h.document?_eq]
  rfl

theorem StopsReading.namedDocument_eq (h : StopsReading bytes error)
    (hread : t.read path = .ok bytes) : namedDocument t path = .error error := by
  rw [namedDocument, hread]
  simp only [h.document?_eq]
  rfl

theorem namedDocument_congr (h : u.read path = t.read path) :
    namedDocument u path = namedDocument t path := by
  rw [namedDocument, namedDocument, h]

/-- What the nearest file of a name describes depends on its bytes and on the shape of the tree. -/
theorem nearestDocument_congr (h : t.SameShape u) (hsame : ∀ p,
    t.nearestFrom (.ofText name) start = .ok (some p) → u.read p = t.read p) :
    nearestDocument u name start = nearestDocument t name start := by
  rw [nearestDocument, nearestDocument, h.nearestFrom]
  cases hnearest : t.nearestFrom (.ofText name) start with
  | error error => rfl
  | ok found =>
      cases found with
      | none => rfl
      | some p => simp only [hsame p hnearest]

theorem nearestDocument_emptied (hshape : t.SameShape u) (hempty : u.read path = .ok [])
    (hnearest : t.nearestFrom (.ofText name) start = .ok (some path)) :
    nearestDocument u name start = .ok [] := by
  rw [nearestDocument_eq (by rw [hshape.nearestFrom, hnearest]) hempty, document?_nil]
  rfl

theorem getLast?_resolve_fileName
    (h : t.nearestFrom (.ofText fileName) start = .ok (some path)) :
    (path.resolve t.here).getLast? = some fileName :=
  Tree.getLast?_resolve_of_nearestFrom (by decide) (by decide) h

theorem getLast?_resolve_projectFileName
    (h : t.nearestFrom (.ofText projectFileName) start = .ok (some path)) :
    (path.resolve t.here).getLast? = some projectFileName :=
  Tree.getLast?_resolve_of_nearestFrom (by decide) (by decide) h

/-- A settings file and a project file lie at different places. -/
theorem resolve_ne {p q : Path} (hp : t.nearestFrom (.ofText fileName) start = .ok (some p))
    (hq : t.nearestFrom (.ofText projectFileName) start = .ok (some q)) :
    p.resolve t.here ≠ q.resolve t.here := by
  intro heq
  have hlast := getLast?_resolve_fileName hp
  rw [heq, getLast?_resolve_projectFileName hq] at hlast
  exact absurd hlast (by decide)

/-! ## Loading -/

/-- Settings depend on a tree only by its project file and its settings file. -/
theorem load_congr (hproject : projectTable u start = projectTable t start)
    (hfile : fileTable u start named = fileTable t start named) :
    load u e start named overrides = load t e start named overrides := by
  rw [load, load, layers_eq, layers_eq, hproject, hfile]

/-- A settings file that fails is reported unless the project file failed before it. -/
theorem load_of_fileTable_eq_error (h : fileTable t start named = .error error) :
    load t e start named overrides = projectTable t start >>= fun _ => .error error := by
  rw [load, layers_eq, h]
  cases projectTable t start <;> rfl

theorem load_of_projectTable_eq_error (h : projectTable t start = .error error) :
    load t e start named overrides = .error error := by
  rw [load, layers_eq, h]
  rfl

/-- **What becomes of a file that is no document.**  A malformed one that was found loads the same
settings as if it were empty, and one that was named is reported with its path.  Any other fault
ends the loading with the fault itself, whether the file was found or named. -/
theorem load_of_not_isDocument (hread : t.read path = .ok bytes) (hbytes : ¬IsDocument bytes)
    (e : Environment) (start : Option Path) (overrides : Table) :
    (IsMalformed bytes ∨ ∃ error, StopsReading bytes error) ∧
    (t.nearestFrom (.ofText fileName) start = .ok (some path) →
      (IsMalformed bytes → ∃ u, t.write path [] = .ok u ∧
        load t e start none overrides = load u e start none overrides) ∧
      ∀ error, StopsReading bytes error →
        load t e start none overrides = projectTable t start >>= fun _ => .error error) ∧
    (t.nearestFrom (.ofText projectFileName) start = .ok (some path) → ∀ named : Option Path,
      (IsMalformed bytes → (∀ p, named = some p → p.resolve t.here ≠ path.resolve t.here) →
        ∃ u, t.write path [] = .ok u ∧
          load t e start named overrides = load u e start named overrides) ∧
      ∀ error, StopsReading bytes error → load t e start named overrides = .error error) ∧
    (IsMalformed bytes → load t e start (some path) overrides =
      projectTable t start >>= fun _ => .error (.file ⟨path, .malformed⟩)) ∧
    ∀ error, StopsReading bytes error →
      load t e start (some path) overrides = projectTable t start >>= fun _ => .error error := by
  obtain ⟨u, hu, hshape, hempty, helsewhere⟩ := Tree.exists_emptied hread
  refine ⟨isMalformed_or_stopsReading hbytes, fun hnearest => ⟨fun hmalformed => ?_,
    fun error hstops => ?_⟩, fun hnearest named => ⟨fun hmalformed hapart => ?_,
    fun error hstops => ?_⟩, fun hmalformed => ?_, fun error hstops => ?_⟩
  · refine ⟨u, hu, (load_congr ?_ ?_).symm⟩
    · rw [projectTable, projectTable,
        nearestDocument_congr hshape fun p hp => helsewhere p (resolve_ne hnearest hp).symm]
    · rw [fileTable, fileTable, nearestDocument_emptied hshape hempty hnearest,
        hmalformed.nearestDocument_eq hread hnearest]
  · exact load_of_fileTable_eq_error (hstops.nearestDocument_eq hread hnearest)
  · refine ⟨u, hu, (load_congr ?_ ?_).symm⟩
    · rw [projectTable, projectTable, nearestDocument_emptied hshape hempty hnearest,
        hmalformed.nearestDocument_eq hread hnearest]
    · cases named with
      | none => exact nearestDocument_congr hshape fun p hp => helsewhere p (resolve_ne hp hnearest)
      | some p => exact namedDocument_congr (helsewhere p (hapart p rfl))
  · refine load_of_projectTable_eq_error ?_
    rw [projectTable, hstops.nearestDocument_eq hread hnearest]
    rfl
  · exact load_of_fileTable_eq_error (hmalformed.namedDocument_eq hread)
  · exact load_of_fileTable_eq_error (hstops.namedDocument_eq hread)

/-- A tree with a settings file that holds given bytes, and nothing else. -/
def treeOf (bytes : Bytes) : Tree where
  files := [([fileName], bytes)]
  directories := []
  here := []

/-- The path at which the settings file of such a tree is found. -/
def foundPath : Path :=
  ⟨.root, [fileName]⟩

/-- The form of a text is wrong: found, the file counts as empty; named, it is reported. -/
theorem load_of_lone_equals_sign :
    let t := treeOf (Utf8.encode "=".toList)
    t.read foundPath = .ok (Utf8.encode "=".toList) ∧ ¬IsDocument (Utf8.encode "=".toList) ∧
      t.nearestFrom (.ofText fileName) none = .ok (some foundPath) ∧
      (∃ u, t.write foundPath [] = .ok u ∧ load t {} none none [] = load u {} none none []) ∧
      load t {} none (some foundPath) [] = .error (.file ⟨foundPath, .malformed⟩) := by
  intro t
  have hread : t.read foundPath = .ok (Utf8.encode "=".toList) := rfl
  have hmalformed : IsMalformed (Utf8.encode "=".toList) := ⟨"=".toList, rfl, rfl⟩
  have hnearest : t.nearestFrom (.ofText fileName) none = .ok (some foundPath) := rfl
  obtain ⟨-, hfound, -, hnamed, -⟩ :=
    load_of_not_isDocument hread hmalformed.not_isDocument {} none []
  exact ⟨hread, hmalformed.not_isDocument, hnearest, (hfound hnearest).1 hmalformed,
    hnamed hmalformed⟩

/-- Bytes that are no text are not counted as an empty file where they were found, and not reported
with their path where they were named. -/
theorem not_all_counted_as_empty :
    (¬ ∀ (t : Tree) (e : Environment) (start : Option Path) (overrides : Table) (path : Path)
        (bytes : Bytes), t.read path = .ok bytes → ¬IsDocument bytes →
      t.nearestFrom (.ofText fileName) start = .ok (some path) →
        ∃ u, t.write path [] = .ok u ∧
          load t e start none overrides = load u e start none overrides) ∧
    ¬ ∀ (t : Tree) (e : Environment) (start : Option Path) (overrides : Table) (path : Path)
        (bytes : Bytes), t.read path = .ok bytes → ¬IsDocument bytes →
      ∃ fault, load t e start (some path) overrides = .error (.file ⟨path, fault⟩) := by
  have hread : (treeOf [0xFF]).read foundPath = .ok [0xFF] := rfl
  have hbytes : ¬IsDocument [0xFF] := by
    rintro ⟨source, table, hsource, -⟩
    have hdecode := Utf8.decode_eq_ok_iff.2 hsource
    cases hdecode
  constructor
  · intro hall
    obtain ⟨u, hu, hload⟩ := hall (treeOf [0xFF]) {} none [] foundPath [0xFF] hread hbytes rfl
    obtain rfl : treeOf [] = u := Except.ok.inj hu
    have hfails : load (treeOf [0xFF]) {} none none [] =
        .error (.notUtf8 ⟨0, 0xFF, 1, .invalidStart⟩) := rfl
    have hloads : load (treeOf []) {} none none [] = .ok {} := rfl
    rw [hfails, hloads] at hload
    cases hload
  · intro hall
    obtain ⟨fault, hload⟩ := hall (treeOf [0xFF]) {} none [] foundPath [0xFF] hread hbytes
    have hfails : load (treeOf [0xFF]) {} none (some foundPath) [] =
        .error (.notUtf8 ⟨0, 0xFF, 1, .invalidStart⟩) := rfl
    rw [hfails] at hload
    cases hload

end Settings

end SolidityLint

import SolidityLint.Files.Nearest
import SolidityLint.Files.Target

/-!
# Trees of the same shape

What lies where in a tree does not depend on the bytes of its files, so it is the same in a tree
whose files and directories are at the same places (`Tree.SameShape`).  The same paths are looked
up there with the same success, the same files are the nearest ones, and the same files are
collected.  New bytes for a file that is there keep the shape (`map_fst_putFile`), and what is read
elsewhere stays the same (`read_congr`).
-/

namespace SolidityLint

namespace Tree

/-- Two trees with files and directories at the same places, and the same current directory. -/
structure SameShape (t u : Tree) : Prop where
  files : u.files.map (·.1) = t.files.map (·.1)
  directories : u.directories = t.directories
  here : u.here = t.here

namespace SameShape

variable {t u v : Tree}

theorem refl (t : Tree) : t.SameShape t :=
  ⟨rfl, rfl, rfl⟩

theorem trans (h : t.SameShape u) (h' : u.SameShape v) : t.SameShape v :=
  ⟨h'.files.trans h.files, h'.directories.trans h.directories, h'.here.trans h.here⟩

/-! ## What lies at a location -/

theorem listed (h : t.SameShape u) : u.listed = t.listed := by
  rw [Tree.listed, Tree.listed, h.files, h.directories]

end SameShape

theorem hasFile_eq (t : Tree) (l : Location) : t.hasFile l = (t.files.map (·.1)).contains l := by
  rw [hasFile, bytesAt?]
  induction t.files with
  | nil => rfl
  | cons f rest ih =>
      obtain ⟨k, bytes⟩ := f
      rw [List.lookup_cons, List.map_cons, List.contains_cons, ← ih]
      cases l == k <;> rfl

namespace SameShape

variable {t u : Tree}

theorem hasFile (h : t.SameShape u) : u.hasFile = t.hasFile := by
  funext l
  rw [hasFile_eq, hasFile_eq, h.files]

theorem hasDirectory (h : t.SameShape u) : u.hasDirectory = t.hasDirectory := by
  funext l
  rw [Tree.hasDirectory, Tree.hasDirectory, h.directories, h.listed]

theorem hasEntry (h : t.SameShape u) : u.hasEntry = t.hasEntry := by
  funext l
  rw [Tree.hasEntry, Tree.hasEntry, h.hasFile, h.hasDirectory]

theorem entryNames (h : t.SameShape u) : u.entryNames = t.entryNames := by
  funext d
  rw [Tree.entryNames, Tree.entryNames, h.listed]

theorem waysBelow (h : t.SameShape u) : u.waysBelow = t.waysBelow := by
  funext d
  rw [Tree.waysBelow, Tree.waysBelow, h.listed]

theorem visibleBelow (h : t.SameShape u) : u.visibleBelow = t.visibleBelow := by
  funext d
  rw [Tree.visibleBelow, Tree.visibleBelow, h.waysBelow]

/-! ## Looking up paths -/

theorem walk (h : t.SameShape u) (l : Location) (parts : List Text) :
    u.walk l parts = t.walk l parts := by
  induction parts generalizing l with
  | nil => rfl
  | cons part parts ih => rw [Tree.walk, Tree.walk, h.hasFile, h.hasDirectory, ih]

theorem locate (h : t.SameShape u) : u.locate = t.locate := by
  funext p
  rw [Tree.locate, Tree.locate, h.here, h.walk]

theorem leadsTo (h : t.SameShape u) : u.leadsTo = t.leadsTo := by
  funext p test
  rw [Tree.leadsTo, Tree.leadsTo, h.locate]

theorem isFile (h : t.SameShape u) : u.isFile = t.isFile := by
  funext p
  rw [Tree.isFile, Tree.isFile, h.leadsTo, h.hasFile]

theorem checkFile (h : t.SameShape u) : u.checkFile = t.checkFile := by
  funext p
  rw [Tree.checkFile, Tree.checkFile, h.locate, h.hasFile]

theorem isDirectory (h : t.SameShape u) : u.isDirectory = t.isDirectory := by
  funext p
  rw [Tree.isDirectory, Tree.isDirectory, h.leadsTo, h.hasDirectory]

theorem isEntry (h : t.SameShape u) : u.isEntry = t.isEntry := by
  funext p
  rw [Tree.isEntry, Tree.isEntry, h.leadsTo, h.hasEntry]

theorem resolve (h : t.SameShape u) : u.resolve = t.resolve := by
  funext p
  rw [Tree.resolve, Tree.resolve, h.here]

theorem nearestFrom (h : t.SameShape u) : u.nearestFrom = t.nearestFrom := by
  have hfirst : u.firstFile = t.firstFile := by
    funext ps
    induction ps with
    | nil => rfl
    | cons p ps ih => rw [firstFile, firstFile, h.checkFile, ih]
  funext name start
  rw [Tree.nearestFrom, Tree.nearestFrom, h.resolve, h.here]
  simp only [Tree.nearest, hfirst]

/-! ## Collecting files -/

theorem globPart (h : t.SameShape u) : u.globPart = t.globPart := by
  funext isLast part p
  simp only [Tree.globPart, h.locate, h.isDirectory, h.visibleBelow, h.entryNames, h.isEntry]

theorem glob (h : t.SameShape u) : u.glob = t.glob := by
  have hparts : u.globParts = t.globParts := by
    funext parts
    induction parts with
    | nil => rfl
    | cons part parts ih =>
        funext ps
        rw [globParts, globParts, h.globPart, ih]
  funext pattern
  simp only [Tree.glob, hparts]

theorem files_target (h : t.SameShape u) : Target.files u = Target.files t := by
  have hamong : Target.filesAmong u = Target.filesAmong t := by
    funext extensions ps
    induction ps with
    | nil => rfl
    | cons p ps ih => rw [Target.filesAmong, Target.filesAmong, h.checkFile, ih]
  funext extensions p
  simp only [Target.files, Target.filesOfDirectory, Target.filesOfGlob, h.checkFile,
    h.isDirectory, h.locate, h.waysBelow, h.glob, hamong]

theorem collect (h : t.SameShape u) : Target.collect u = Target.collect t := by
  have hall : Target.filesOfAll u = Target.filesOfAll t := by
    funext extensions ps
    induction ps with
    | nil => rfl
    | cons p ps ih => rw [Target.filesOfAll, Target.filesOfAll, h.files_target, ih]
  funext s ignored base targets
  simp only [Target.collect, h.here, hall]

end SameShape

/-! ## Reading and writing -/

variable {t u : Tree} {p q : Path} {bytes : Bytes} {l : Location}

theorem map_fst_putFile {files : List (Location × Bytes)} (h : l ∈ files.map (·.1)) :
    (putFile files l bytes).map (·.1) = files.map (·.1) := by
  induction files with
  | nil => simp at h
  | cons f rest ih =>
      obtain ⟨k, old⟩ := f
      rw [putFile]
      split
      · rfl
      · rename_i hne
        rw [List.map_cons, List.mem_cons] at h
        rw [List.map_cons, ih (h.resolve_left fun heq => hne heq.symm), List.map_cons]

/-- What is read depends on the place that a path leads to. -/
theorem read_congr (h : t.SameShape u) (hsame : ∀ l, t.locate p = .ok l →
    u.bytesAt? l = t.bytesAt? l) : u.read p = t.read p := by
  rw [read, read, h.locate, h.hasDirectory]
  cases hlocate : t.locate p with
  | error fault => rfl
  | ok l => simp only [hsame l hlocate]

theorem read_eq_ok_iff : t.read p = .ok bytes ↔ ∃ l, t.locate p = .ok l ∧
    t.bytesAt? l = some bytes := by
  rw [read]
  cases t.locate p with
  | error fault => simp
  | ok l =>
      cases h : t.bytesAt? l <;> simp [h]

end Tree

end SolidityLint

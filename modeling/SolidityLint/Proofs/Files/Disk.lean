import SolidityLint.Proofs.Files.Ground
import SolidityLint.Proofs.Steps

/-!
# Writing to a disk

A tree says where files can be written.  Whether they are written to their end is for the disk to
say (`Disk`), and a file is written in two steps.  It is opened first, which makes it or empties it,
and then it is filled.  A file that is not opened is as it was; one that is open when the disk stops
is left with the bytes that were taken so far (`Disk.write_eq_error_iff`).  On a disk that never
refuses a byte a file is written as the tree says (`Disk.write_sound`).
-/

namespace SolidityLint

/-- Why a file was not written. -/
inductive WriteError (ε : Type) where
  /-- Its path could not be used. -/
  | path (error : FileError)
  /-- The disk did not open it, or stopped. -/
  | disk (cause : ε)

/-- What becomes of a write beyond what the tree says. -/
structure Disk (ε : Type) where
  /-- Why a file is not opened for writing, if it is not. -/
  refusal? : Tree → Path → Option ε
  /-- How many of some bytes are taken for an open file before the disk stops, and why it stops;
  nothing if all of them are taken. -/
  stop? : Tree → Path → Bytes → Option (Nat × ε)

/-- What is wrong with a disk. -/
inductive DiskFault where
  /-- A file may not be written. -/
  | accessDenied
  /-- There is no room left. -/
  | noSpace
  deriving DecidableEq, Repr

namespace Disk

variable {ε : Type} {d : Disk ε} {t u opened : Tree} {p : Path} {bytes : Bytes} {e : WriteError ε}

/-! ## Some disks -/

/-- Opens every file and takes all bytes. -/
def sound : Disk ε where
  refusal? _ _ := none
  stop? _ _ _ := none

/-- Opens every file but the one at a place. -/
def protecting (l : Location) : Disk DiskFault where
  refusal? t p := if p.resolve t.here = l then some .accessDenied else none
  stop? _ _ _ := none

/-- Takes bytes as long as there are at most so many in all files together. -/
def ofCapacity (capacity : Nat) : Disk DiskFault where
  refusal? _ _ := none
  stop? t _ bytes :=
    let room := capacity - (t.files.flatMap fun f => f.2).length
    if bytes.length ≤ room then none else some (room, .noSpace)

/-! ## The two steps of a write -/

/-- Opens a file for writing, which makes it or empties it. -/
def openFile (d : Disk ε) (t : Tree) (p : Path) : Except (WriteError ε) Tree :=
  match d.refusal? t p, t.write p [] with
  | some cause, _ => .error (.disk cause)
  | none, .error error => .error (.path error)
  | none, .ok opened => .ok opened

/-- Fills an open file with bytes, as far as the disk takes them. -/
def fill (d : Disk ε) (t : Tree) (p : Path) (bytes : Bytes) :
    Tree × Except (WriteError ε) Unit :=
  let l := p.resolve t.here
  match d.stop? t p bytes with
  | none => (t.put l bytes, .ok ())
  | some (n, cause) => (t.put l (bytes.take n), .error (.disk cause))

/-- Writes bytes to a file: the tree after the write, whether it succeeded or not. -/
def write (d : Disk ε) (t : Tree) (p : Path) (bytes : Bytes) :
    Tree × Except (WriteError ε) Unit :=
  match d.openFile t p with
  | .error error => (t, .error error)
  | .ok opened => d.fill opened p bytes

/-! ## What a write leaves -/

theorem openFile_eq_ok_iff :
    d.openFile t p = .ok opened ↔ d.refusal? t p = none ∧ t.write p [] = .ok opened := by
  rw [openFile]
  cases d.refusal? t p <;> cases t.write p [] <;> simp

theorem fill_eq_ok_iff : d.fill t p bytes = (u, .ok ()) ↔
    d.stop? t p bytes = none ∧ t.put (p.resolve t.here) bytes = u := by
  cases h : d.stop? t p bytes <;> simp [fill, h]

theorem fill_eq_error_iff : d.fill t p bytes = (u, .error e) ↔
    ∃ n cause, d.stop? t p bytes = some (n, cause) ∧ e = .disk cause ∧
      t.put (p.resolve t.here) (bytes.take n) = u := by
  cases h : d.stop? t p bytes with
  | none => simp [fill, h]
  | some stop =>
      obtain ⟨n, cause⟩ := stop
      simp only [fill, h, Prod.mk.injEq, Except.error.injEq, Option.some.injEq]
      constructor
      · rintro ⟨rfl, rfl⟩
        exact ⟨n, cause, ⟨rfl, rfl⟩, rfl, rfl⟩
      · rintro ⟨_, _, ⟨rfl, rfl⟩, rfl, rfl⟩
        exact ⟨rfl, rfl⟩

/-- To fill a file that was opened comes to the same as to write it at once. -/
theorem put_eq_iff (hopened : d.openFile t p = .ok opened) :
    opened.put (p.resolve opened.here) bytes = u ↔ t.write p bytes = .ok u := by
  obtain ⟨-, hwrite⟩ := openFile_eq_ok_iff.1 hopened
  obtain ⟨l, hlocate, hfree, rfl⟩ := Tree.write_eq_ok_iff.1 hwrite
  have hplace : p.resolve (t.put l []).here = l := (Tree.locate_eq_resolve hlocate).symm
  rw [hplace, Tree.put_put, Tree.write_eq_ok_iff]
  constructor
  · exact fun hput => ⟨l, hlocate, hfree, hput⟩
  · rintro ⟨k, hk, -, hput⟩
    obtain rfl : l = k := Except.ok.inj (hlocate.symm.trans hk)
    exact hput

/-- **A write succeeds** if the file is opened and all bytes are taken; it is the write of the tree
then. -/
theorem write_eq_ok_iff : d.write t p bytes = (u, .ok ()) ↔
    ∃ opened, d.openFile t p = .ok opened ∧ d.stop? opened p bytes = none ∧
      t.write p bytes = .ok u := by
  cases hopen : d.openFile t p with
  | error error => simp [write, hopen]
  | ok opened => simp [write, hopen, fill_eq_ok_iff, put_eq_iff hopen]

/-- **A write fails** before the file is opened, and then nothing is changed, or after that, and
then the file holds the first bytes. -/
theorem write_eq_error_iff : d.write t p bytes = (u, .error e) ↔
    d.openFile t p = .error e ∧ t = u ∨
      ∃ opened n cause, d.openFile t p = .ok opened ∧ d.stop? opened p bytes = some (n, cause) ∧
        e = .disk cause ∧ t.write p (bytes.take n) = .ok u := by
  cases hopen : d.openFile t p with
  | error error => simp [write, hopen, and_comm]
  | ok opened => simp [write, hopen, fill_eq_error_iff, put_eq_iff hopen]

/-- A write that fails changes the bytes of no other place. -/
theorem bytesAt?_of_write_eq_error {l : Location} (h : d.write t p bytes = (u, .error e))
    (hne : l ≠ p.resolve t.here) : u.bytesAt? l = t.bytesAt? l := by
  rcases write_eq_error_iff.1 h with ⟨-, rfl⟩ | ⟨_, _, _, -, -, -, hwrite⟩
  · rfl
  · rw [Tree.bytesAt?_of_write hwrite, if_neg hne]

/-- A disk that opens every file and takes all bytes writes what the tree says. -/
theorem write_sound (t : Tree) (p : Path) (bytes : Bytes) :
    (sound : Disk ε).write t p bytes =
      match t.write p bytes with
      | .error error => (t, .error (.path error))
      | .ok u => (u, .ok ()) := by
  cases hlocate : t.locate p with
  | error fault => simp [write, openFile, sound, Tree.write, hlocate]
  | ok l =>
      by_cases htaken : (t.hasDirectory l && !t.hasFile l) = true
      · simp [write, openFile, sound, Tree.write, hlocate, htaken]
      · have hwrite (bytes : Bytes) : t.write p bytes = .ok (t.put l bytes) := by
          rw [Tree.write, hlocate]
          exact if_neg htaken
        have hopened : (sound : Disk ε).openFile t p = .ok (t.put l []) :=
          openFile_eq_ok_iff.2 ⟨rfl, hwrite []⟩
        rw [hwrite]
        exact write_eq_ok_iff.2 ⟨_, hopened, rfl, hwrite bytes⟩

end Disk

end SolidityLint

import SolidityLint.Files.Path
import SolidityLint.Proofs.Text.Split

/-!
# Paths as texts

A path that consists of names is read back from the text that it is written as (`ofText_text`).
Every path that is read consists of names (`isNamed_ofText`), and so does one that goes on from
there along names.
-/

namespace SolidityLint

namespace Path

/-- Is a text a name, such as an entry of a directory has? -/
def IsName (part : Text) : Prop :=
  isKept part = true ∧ '/' ∉ part

instance (part : Text) : Decidable (IsName part) :=
  inferInstanceAs (Decidable (_ ∧ _))

/-- A path that consists of names. -/
def IsNamed (p : Path) : Prop :=
  ∀ part ∈ p.parts, IsName part

variable {p : Path} {parts : List Text}

theorem parts_eq_concat (h : p.parts ≠ []) : p.parts = p.parts.dropLast ++ [p.name] := by
  rw [Path.name, List.getLastD_eq_getLast?, List.getLast?_eq_some_getLast h, Option.getD_some,
    List.dropLast_concat_getLast]

theorem isNamed_ofText (s : Text) : (ofText s).IsNamed := fun _ hpart =>
  ⟨(List.mem_filter.1 hpart).2, Text.notMem_of_mem_splitOn (List.mem_filter.1 hpart).1⟩

theorem IsNamed.append (h : p.IsNamed) (hparts : ∀ part ∈ parts, IsName part) :
    IsNamed ⟨p.start, p.parts ++ parts⟩ := fun part hpart =>
  (List.mem_append.1 hpart).elim (h part) (hparts part)

theorem IsNamed.child (h : p.IsNamed) {name : Text} (hname : IsName name) :
    (p.child name).IsNamed :=
  h.append fun _ hpart => (List.mem_singleton.1 hpart) ▸ hname

theorem IsName.head?_ne {part : Text} (h : IsName part) : part.head? ≠ some '/' := fun hhead =>
  h.2 (List.mem_of_mem_head? hhead)

theorem head?_join_ne (h : ∀ part ∈ parts, IsName part) :
    (Text.join ['/'] parts).head? ≠ some '/' := by
  cases parts with
  | nil => simp [Text.join]
  | cons part rest =>
      have hpart := h part (List.mem_cons_self ..)
      cases part with
      | nil => simp [IsName, isKept] at hpart
      | cons c cs =>
          have hc := hpart.head?_ne
          cases rest with
          | nil => exact hc
          | cons next rest => exact hc

theorem filter_splitOn_join (h : ∀ part ∈ parts, IsName part) :
    (Text.splitOn '/' (Text.join ['/'] parts)).filter isKept = parts := by
  by_cases hne : parts = []
  · rw [hne]
    rfl
  · rw [Text.splitOn_join hne fun part hpart => (h part hpart).2]
    exact List.filter_eq_self.2 fun part hpart => (h part hpart).1

theorem start_ofText_append {s : Text} (start : Start) (h : s.head? ≠ some '/') :
    Start.ofText (start.text ++ s) = start := by
  cases s with
  | nil => cases start <;> rfl
  | cons c cs =>
      have hc : c ≠ '/' := fun heq => h (by rw [heq]; rfl)
      cases start <;> simp [Start.text, Start.ofText, hc]

theorem filter_splitOn_append (start : Start) (s : Text) :
    (Text.splitOn '/' (start.text ++ s)).filter isKept = (Text.splitOn '/' s).filter isKept := by
  cases start <;> simp [Start.text, Text.splitOn, isKept]

/-- **A path that consists of names is read back.** -/
theorem ofText_text (h : p.IsNamed) : ofText p.text = p := by
  obtain ⟨start, parts⟩ := p
  have hread : ofText (start.text ++ Text.join ['/'] parts) = ⟨start, parts⟩ := by
    rw [ofText, start_ofText_append start (head?_join_ne h), filter_splitOn_append,
      filter_splitOn_join h]
  cases start with
  | here =>
      cases parts with
      | nil => rfl
      | cons part rest => exact hread
  | root => exact hread
  | doubleRoot => exact hread

end Path

end SolidityLint

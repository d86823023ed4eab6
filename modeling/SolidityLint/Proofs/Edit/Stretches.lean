import SolidityLint.Proofs.Edit.Sweep
import SolidityLint.Text.Utf8

/-!
# The stretches between edits

Edits in order cut a text into the stretches that they leave (`Edit.kept`) and those that they
replace (`Edit.removed`), which take turns.  The text after the edits has the same stretches with
the new texts between them.  Each character has bytes of its own, so the same holds of the bytes of
the two texts (`encode_eq_braid`, `encode_patched_eq_braid`): whatever is left keeps its bytes.
-/

namespace SolidityLint

/-- The pieces of two lists in turns, from the first piece of the first list on. -/
def braid {α : Type} : List (List α) → List (List α) → List α
  | k :: ks, p :: ps => k ++ p ++ braid ks ps
  | ks, _ => ks.flatten

theorem braid_nil {α : Type} (ks : List (List α)) : braid ks [] = ks.flatten := by
  cases ks <;> rfl

theorem flatMap_braid {α β : Type} (f : α → List β) (ks ps : List (List α)) :
    (braid ks ps).flatMap f = braid (ks.map (·.flatMap f)) (ps.map (·.flatMap f)) := by
  induction ks generalizing ps with
  | nil => simp [braid]
  | cons k ks ih =>
      cases ps with
      | nil =>
          have hrest := ih []
          simp only [braid_nil, List.map_nil] at hrest ⊢
          rw [List.flatten_cons, List.flatMap_append, hrest, List.map_cons, List.flatten_cons]
      | cons p ps => simp [braid, ih]

namespace Edit

/-- The stretches of a text after `cursor` that no edit replaces. -/
def kept (source : Text) (cursor : Int) : List Edit → List Text
  | [] => [source.sliceFrom cursor]
  | e :: es => source.slice cursor e.range.start :: kept source e.range.stop es

/-- The stretches of a text that edits replace. -/
def removed (source : Text) (es : List Edit) : List Text :=
  es.map fun e => source.slice e.range.start e.range.stop

variable {source : Text} {cursor : Int} {es : List Edit}

theorem patched_eq_braid (source : Text) (cursor : Int) (es : List Edit) :
    patched source cursor es = braid (kept source cursor es) (es.map (·.text)) := by
  induction es generalizing cursor with
  | nil => simp [patched, kept, braid]
  | cons e es ih => rw [patched, kept, List.map_cons, braid, ih]

theorem sliceFrom_eq_append {stop : Int} (hcursor : 0 ≤ cursor) (hle : cursor ≤ stop) :
    source.sliceFrom cursor = source.slice cursor stop ++ source.sliceFrom stop := by
  obtain ⟨i, rfl⟩ := Int.eq_ofNat_of_zero_le hcursor
  obtain ⟨j, rfl⟩ := Int.eq_ofNat_of_zero_le (Int.le_trans hcursor hle)
  have hsplit := List.take_append_drop (j - i) (source.drop i)
  rw [List.drop_drop, Nat.add_sub_of_le (by omega)] at hsplit
  rw [Text.sliceFrom_natCast, Text.sliceFrom_natCast, Text.slice_natCast, hsplit]

theorem sliceFrom_eq_braid (hcursor : 0 ≤ cursor) (h : InOrder source.length cursor es) :
    source.sliceFrom cursor = braid (kept source cursor es) (removed source es) := by
  induction es generalizing cursor with
  | nil => simp [kept, removed, braid]
  | cons e es ih =>
      obtain ⟨hstart, hstop, hrest⟩ := h
      rw [kept, removed, List.map_cons, braid, ← removed, ← ih (by omega) hrest,
        sliceFrom_eq_append hcursor hstart, sliceFrom_eq_append (by omega) hstop,
        List.append_assoc]

/-- The bytes of a text, cut where edits in order cut the text. -/
theorem encode_eq_braid (h : InOrder source.length 0 es) :
    Utf8.encode source = braid ((kept source 0 es).map Utf8.encode)
      ((removed source es).map Utf8.encode) := by
  have hwhole : source = braid (kept source 0 es) (removed source es) :=
    sliceFrom_eq_braid (Int.le_refl 0) h
  exact (congrArg Utf8.encode hwhole).trans (flatMap_braid ..)

/-- The bytes of the text after the edits: those of the stretches that are left, with the bytes of
the new texts between them. -/
theorem encode_patched_eq_braid (source : Text) (es : List Edit) :
    Utf8.encode (patched source 0 es) = braid ((kept source 0 es).map Utf8.encode)
      (es.map fun e => Utf8.encode e.text) := by
  rw [patched_eq_braid]
  refine (flatMap_braid ..).trans ?_
  rw [List.map_map]
  rfl

end Edit

end SolidityLint

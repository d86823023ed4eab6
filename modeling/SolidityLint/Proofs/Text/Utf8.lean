import SolidityLint.Text.Utf8

/-!
# Writing and reading UTF-8

What is written is read back (`Utf8.decode_encode`).  A character takes one to four bytes: the
first one tells how many there are, and each of the others carries six bits of the code point
(`Utf8.decodeFrom_encodeChar`).  No other bytes are read as that character
(`Utf8.exists_of_decodeFrom_cons`), so the bytes of a text are known from the text
(`Utf8.decode_eq_ok_iff`).
-/

namespace SolidityLint.Utf8

variable {position n k missing bits least greatest read : Nat} {first : UInt8} {bs : Bytes}

theorem toNat_toUInt8 (h : n < 256) : n.toUInt8.toNat = n := by
  rw [Nat.toUInt8, UInt8.toNat_ofNat']
  exact Nat.mod_eq_of_lt h

/-! ## One byte -/

theorem decodeFrom_lead (hbyte : 0x80 ≤ n ∧ n < 256)
    (hlead : lead? n = some ⟨missing, bits, least, greatest⟩) :
    decodeFrom position none (n.toUInt8 :: bs) = decodeFrom (position + 1)
      (some ⟨missing, bits, least, greatest, n.toUInt8, 1⟩) bs := by
  have hascii : ¬n < 0x80 := by omega
  simp only [decodeFrom, toNat_toUInt8 hbyte.2, if_neg hascii, hlead]

theorem toNat_continuation (k : Nat) : (0x80 + k % 64).toUInt8.toNat = 0x80 + k % 64 :=
  toNat_toUInt8 (by omega)

theorem decodeFrom_next (hbounds : least ≤ 0x80 + k % 64 ∧ 0x80 + k % 64 ≤ greatest)
    (hmissing : missing ≠ 1) :
    decodeFrom position (some ⟨missing, bits, least, greatest, first, read⟩)
        ((0x80 + k % 64).toUInt8 :: bs) =
      decodeFrom (position + 1)
        (some ⟨missing - 1, bits * 64 + k % 64, 0x80, 0xBF, first, read + 1⟩) bs := by
  simp only [decodeFrom, toNat_continuation, if_pos hbounds, if_neg hmissing,
    Nat.add_sub_cancel_left]

theorem decodeFrom_last (hbounds : least ≤ 0x80 + k % 64 ∧ 0x80 + k % 64 ≤ greatest) :
    decodeFrom position (some ⟨1, bits, least, greatest, first, read⟩)
        ((0x80 + k % 64).toUInt8 :: bs) =
      (decodeFrom (position + 1) none bs).map (Char.ofNat (bits * 64 + k % 64) :: ·) := by
  simp only [decodeFrom, toNat_continuation, if_pos hbounds, if_true, Nat.add_sub_cancel_left]

/-! ## One character -/

/-- The first of two bytes. -/
theorem lead?_two (hlow : 0x80 ≤ n) (hhigh : n < 0x800) :
    lead? (0xC0 + n / 64) = some ⟨1, n / 64, 0x80, 0xBF⟩ := by
  rw [lead?, if_pos (by omega), Nat.add_sub_cancel_left]

/-- The first of three bytes; it leaves out the over-long forms and the surrogates. -/
theorem lead?_three (hlow : 0x800 ≤ n) (hhigh : n < 0x10000) (hvalid : n < 0xD800 ∨ 0xDFFF < n) :
    ∃ least greatest, lead? (0xE0 + n / 4096) = some ⟨2, n / 4096, least, greatest⟩ ∧
      least ≤ 0x80 + n / 64 % 64 ∧ 0x80 + n / 64 % 64 ≤ greatest := by
  rw [lead?, if_neg (by omega)]
  by_cases hfirst : n / 4096 = 0
  · exact ⟨0xA0, 0xBF, by rw [hfirst]; rfl, by omega, by omega⟩
  by_cases hsurrogates : n / 4096 = 13
  · exact ⟨0x80, 0x9F, by rw [hsurrogates]; rfl, by omega, by omega⟩
  · refine ⟨0x80, 0xBF, ?_, by omega, by omega⟩
    rw [if_neg (by omega), if_neg (by omega), if_pos (by omega), Nat.add_sub_cancel_left]

/-- The first of four bytes; it leaves out the over-long forms and what is beyond the last code
point. -/
theorem lead?_four (hlow : 0x10000 ≤ n) (hhigh : n < 0x110000) :
    ∃ least greatest, lead? (0xF0 + n / 262144) = some ⟨3, n / 262144, least, greatest⟩ ∧
      least ≤ 0x80 + n / 4096 % 64 ∧ 0x80 + n / 4096 % 64 ≤ greatest := by
  rw [lead?, if_neg (by omega), if_neg (by omega), if_neg (by omega), if_neg (by omega)]
  by_cases hfirst : n / 262144 = 0
  · exact ⟨0x90, 0xBF, by rw [hfirst]; rfl, by omega, by omega⟩
  by_cases hlast : n / 262144 = 4
  · exact ⟨0x80, 0x8F, by rw [hlast]; rfl, by omega, by omega⟩
  · refine ⟨0x80, 0xBF, ?_, by omega, by omega⟩
    rw [if_neg (by omega), if_neg (by omega), if_pos (by omega), Nat.add_sub_cancel_left]

/-- A character that was written is read. -/
theorem decodeFrom_encodeChar (position : Nat) (c : Char) (bs : Bytes) :
    decodeFrom position none (encodeChar c ++ bs) =
      (decodeFrom (position + (encodeChar c).length) none bs).map (c :: ·) := by
  have hvalid : c.toNat < 0xD800 ∨ 0xDFFF < c.toNat ∧ c.toNat < 0x110000 := c.valid
  have hchar := c.ofNat_toNat
  simp only [encodeChar]
  generalize c.toNat = n at hvalid hchar
  split
  · -- one byte
    rename_i hone
    simp only [List.cons_append, List.nil_append, decodeFrom, toNat_toUInt8 (n := n) (by omega),
      if_pos hone, hchar, List.length_singleton]
  split
  · -- two bytes
    have hbits : n / 64 * 64 + n % 64 = n := by omega
    rw [List.cons_append, decodeFrom_lead (by omega) (lead?_two (by omega) (by assumption)),
      List.cons_append, List.nil_append, decodeFrom_last (by omega), hbits, hchar]
    rfl
  split
  · -- three bytes
    obtain ⟨least, greatest, hlead, hbounds⟩ := lead?_three (n := n) (by omega) (by assumption)
      (by omega)
    have hbits : (n / 4096 * 64 + n / 64 % 64) * 64 + n % 64 = n := by omega
    rw [List.cons_append, decodeFrom_lead (by omega) hlead, List.cons_append,
      decodeFrom_next hbounds (by decide), List.cons_append, List.nil_append,
      decodeFrom_last (by omega), hbits, hchar]
    rfl
  · -- four bytes
    obtain ⟨least, greatest, hlead, hbounds⟩ := lead?_four (n := n) (by omega) (by omega)
    have hbits : ((n / 262144 * 64 + n / 4096 % 64) * 64 + n / 64 % 64) * 64 + n % 64 = n := by
      omega
    rw [List.cons_append, decodeFrom_lead (by omega) hlead, List.cons_append,
      decodeFrom_next hbounds (by decide), List.cons_append,
      decodeFrom_next (by omega) (by decide), List.cons_append, List.nil_append,
      decodeFrom_last (by omega), hbits, hchar]
    rfl

/-! ## A text -/

theorem decodeFrom_encode (position : Nat) (s : Text) :
    decodeFrom position none (encode s) = .ok s := by
  induction s generalizing position with
  | nil => rfl
  | cons c cs ih =>
      rw [encode, List.flatMap_cons, decodeFrom_encodeChar, ← encode, ih]
      rfl

/-- **What is written is read back.** -/
theorem decode_encode (s : Text) : decode (encode s) = .ok s :=
  decodeFrom_encode 0 s

/-! ## Reading, taken back -/

/-- In the middle of a character nothing but a continuation byte is read. -/
theorem exists_of_decodeFrom_some {s : Text} (hleast : 0x80 ≤ least)
    (h : decodeFrom position (some ⟨missing, bits, least, greatest, first, read⟩) bs = .ok s) :
    ∃ k rest, bs = (0x80 + k).toUInt8 :: rest ∧ least ≤ 0x80 + k ∧ 0x80 + k ≤ greatest ∧
      if missing = 1 then
        ∃ cs, decodeFrom (position + 1) none rest = .ok cs ∧ s = Char.ofNat (bits * 64 + k) :: cs
      else decodeFrom (position + 1)
        (some ⟨missing - 1, bits * 64 + k, 0x80, 0xBF, first, read + 1⟩) rest = .ok s := by
  cases bs with
  | nil => simp [decodeFrom] at h
  | cons b rest =>
      simp only [decodeFrom] at h
      split at h
      · rename_i hbounds
        have hbyte : 0x80 + (b.toNat - 0x80) = b.toNat := by omega
        refine ⟨b.toNat - 0x80, rest, ?_, by omega, by omega, ?_⟩
        · rw [hbyte, Nat.toUInt8, UInt8.ofNat_toNat]
        · split at h
          · rename_i hlast
            rw [if_pos hlast]
            cases hrest : decodeFrom (position + 1) none rest with
            | error e => simp [hrest, Except.map] at h
            | ok cs => exact ⟨cs, rfl, by simpa [hrest, Except.map] using h.symm⟩
          · rename_i hmore
            rwa [if_neg hmore]
      · simp at h

/-- What the first byte of a character beyond ASCII says. -/
theorem lead?_eq_some (h : lead? n = some ⟨missing, bits, least, greatest⟩) :
    0x80 ≤ least ∧ greatest ≤ 0xBF ∧
      ((missing = 1 ∧ n = 0xC0 + bits ∧ 2 ≤ bits ∧ bits < 32) ∨
        (missing = 2 ∧ n = 0xE0 + bits ∧ bits < 16 ∧ (bits = 0 → 0xA0 ≤ least) ∧
          (bits = 13 → greatest ≤ 0x9F)) ∨
        (missing = 3 ∧ n = 0xF0 + bits ∧ bits ≤ 4 ∧ (bits = 0 → 0x90 ≤ least) ∧
          (bits = 4 → greatest ≤ 0x8F))) := by
  rw [lead?] at h
  repeat' split at h
  all_goals simp only [Option.some.injEq, Lead.mk.injEq, reduceCtorEq] at h
  all_goals omega

theorem toNat_ofNat (h : n < 0xD800 ∨ 0xDFFF < n ∧ n < 0x110000) : (Char.ofNat n).toNat = n := by
  have hvalid : n.isValidChar := h
  rw [Char.ofNat, dif_pos hvalid]
  rfl

theorem encodeChar_ofNat (h : n < 0xD800 ∨ 0xDFFF < n ∧ n < 0x110000) :
    encodeChar (Char.ofNat n) =
      if n < 0x80 then [n.toUInt8]
      else if n < 0x800 then [(0xC0 + n / 64).toUInt8, (0x80 + n % 64).toUInt8]
      else if n < 0x10000 then
        [(0xE0 + n / 4096).toUInt8, (0x80 + n / 64 % 64).toUInt8, (0x80 + n % 64).toUInt8]
      else
        [(0xF0 + n / 262144).toUInt8, (0x80 + n / 4096 % 64).toUInt8, (0x80 + n / 64 % 64).toUInt8,
          (0x80 + n % 64).toUInt8] := by
  rw [encodeChar, toNat_ofNat h]

/-- The character that was read first gives back its bytes. -/
theorem exists_of_decodeFrom_cons {b : UInt8} {s : Text}
    (h : decodeFrom position none (b :: bs) = .ok s) :
    ∃ c cs rest position', s = c :: cs ∧ b :: bs = encodeChar c ++ rest ∧
      decodeFrom position' none rest = .ok cs := by
  have hb : b = b.toNat.toUInt8 := by rw [Nat.toUInt8, UInt8.ofNat_toNat]
  simp only [decodeFrom] at h
  split at h
  · -- one byte
    rename_i hone
    cases hrest : decodeFrom (position + 1) none bs with
    | error e => simp [hrest, Except.map] at h
    | ok cs =>
        refine ⟨Char.ofNat b.toNat, cs, bs, position + 1, ?_, ?_, hrest⟩
        · simpa [hrest, Except.map] using h.symm
        · rw [encodeChar_ofNat (by omega), if_pos hone, ← hb, List.singleton_append]
  split at h
  · simp at h
  · rename_i l hlead
    obtain ⟨missing, bits, least, greatest⟩ := l
    obtain ⟨hleast, hgreatest, hkind⟩ := lead?_eq_some hlead
    have hopen : decodeFrom (position + 1) (some ⟨missing, bits, least, greatest, b, 1⟩) bs =
      .ok s := h
    obtain ⟨k, rest, rfl, hlow, hhigh, hnext⟩ := exists_of_decodeFrom_some hleast hopen
    rcases hkind with ⟨rfl, hn, hbits⟩ | ⟨rfl, hn, hbits⟩ | ⟨rfl, hn, hbits⟩
    · -- two bytes
      obtain ⟨cs, hrest, rfl⟩ := hnext
      refine ⟨_, cs, rest, _, rfl, ?_, hrest⟩
      have h1 : (bits * 64 + k) / 64 = bits := by omega
      have h2 : (bits * 64 + k) % 64 = k := by omega
      rw [encodeChar_ofNat (by omega), if_neg (by omega), if_pos (by omega), h1, h2, ← hn, ← hb]
      rfl
    · -- three bytes
      obtain ⟨k', rest', rfl, hlow', hhigh', cs, hrest, rfl⟩ :=
        exists_of_decodeFrom_some (Nat.le_refl _) hnext
      refine ⟨_, cs, rest', _, rfl, ?_, hrest⟩
      have h1 : ((bits * 64 + k) * 64 + k') / 4096 = bits := by omega
      have h2 : ((bits * 64 + k) * 64 + k') / 64 % 64 = k := by omega
      have h3 : ((bits * 64 + k) * 64 + k') % 64 = k' := by omega
      rw [encodeChar_ofNat (by omega), if_neg (by omega), if_neg (by omega), if_pos (by omega),
        h1, h2, h3, ← hn, ← hb]
      rfl
    · -- four bytes
      obtain ⟨k', rest', rfl, hlow', hhigh', hnext'⟩ :=
        exists_of_decodeFrom_some (Nat.le_refl _) hnext
      obtain ⟨k'', rest'', rfl, hlow'', hhigh'', cs, hrest, rfl⟩ :=
        exists_of_decodeFrom_some (Nat.le_refl _) hnext'
      refine ⟨_, cs, rest'', _, rfl, ?_, hrest⟩
      have h1 : (((bits * 64 + k) * 64 + k') * 64 + k'') / 262144 = bits := by omega
      have h2 : (((bits * 64 + k) * 64 + k') * 64 + k'') / 4096 % 64 = k := by omega
      have h3 : (((bits * 64 + k) * 64 + k') * 64 + k'') / 64 % 64 = k' := by omega
      have h4 : (((bits * 64 + k) * 64 + k') * 64 + k'') % 64 = k'' := by omega
      rw [encodeChar_ofNat (by omega), if_neg (by omega), if_neg (by omega), if_neg (by omega),
        h1, h2, h3, h4, ← hn, ← hb]
      rfl

theorem encode_of_decodeFrom {s : Text} (h : decodeFrom position none bs = .ok s) :
    encode s = bs := by
  induction s generalizing position bs with
  | nil =>
      cases bs with
      | nil => rfl
      | cons b bs =>
          obtain ⟨c, cs, rest, position', hs, -⟩ := exists_of_decodeFrom_cons h
          exact absurd hs (by simp)
  | cons c cs ih =>
      cases bs with
      | nil => simp [decodeFrom] at h
      | cons b bs =>
          obtain ⟨c', cs', rest, position', hs, hbytes, hrest⟩ := exists_of_decodeFrom_cons h
          obtain ⟨rfl, rfl⟩ := List.cons.inj hs
          rw [encode, List.flatMap_cons, ← encode, ih hrest, hbytes]

/-- **What is read is what was written.**  No two sequences of bytes hold the same text. -/
theorem decode_eq_ok_iff {bytes : Bytes} {s : Text} : decode bytes = .ok s ↔ bytes = encode s :=
  ⟨fun h => (encode_of_decodeFrom h).symm, fun h => h ▸ decode_encode s⟩

/-- Bytes cannot be read if no text is written as them. -/
theorem exists_decode_eq_error_iff {bytes : Bytes} :
    (∃ error, decode bytes = .error error) ↔ ∀ source, bytes ≠ encode source := by
  cases hdecode : decode bytes with
  | ok source => simpa using ⟨source, decode_eq_ok_iff.1 hdecode⟩
  | error error =>
      refine iff_of_true ⟨error, rfl⟩ fun source heq => ?_
      rw [decode_eq_ok_iff.2 heq] at hdecode
      cases hdecode

end SolidityLint.Utf8

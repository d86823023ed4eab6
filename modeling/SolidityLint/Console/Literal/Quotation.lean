import SolidityLint.Text.CharacterName

/-!
# Quoted texts in literals

A quoted text stands between one or three quotes of either kind; with one quote on each side it
holds no line feed.  Letters before it say whether it holds bytes and whether backslashes stand for
themselves; if they do not, a backslash and what follows it must be an escape.  What is left behind
a quoted text is shorter (`length_rest_of_quotation?`).
-/

namespace SolidityLint.Console.Literal

/-- How the characters of a quoted text are read. -/
structure Quoting where
  /-- Are they bytes? -/
  isBytes : Bool
  /-- Do backslashes stand for themselves? -/
  isRaw : Bool
  deriving DecidableEq, Repr

/-- The letters before a quoted text, in lower case, with what they say about it. -/
def quotings : List (Text × Quoting) :=
  [([], ⟨false, false⟩), (['u'], ⟨false, false⟩), (['r'], ⟨false, true⟩), (['b'], ⟨true, false⟩),
    (['b', 'r'], ⟨true, true⟩), (['r', 'b'], ⟨true, true⟩)]

/-! ## The end of a quoted text -/

/-- The quotes at the start of a text. -/
def quotes? : Text → Option Text
  | '\'' :: '\'' :: '\'' :: _ => some ['\'', '\'', '\'']
  | '"' :: '"' :: '"' :: _ => some ['"', '"', '"']
  | '\'' :: _ => some ['\'']
  | '"' :: _ => some ['"']
  | _ => none

/-- What stands before the closing quotes, and what follows them.  Quotes behind a backslash do not
close the text. -/
def upToQuotes? (closing : Text) : Text → Option (Text × Text)
  | [] => none
  | '\\' :: c :: s => (upToQuotes? closing s).map fun (body, rest) => ('\\' :: c :: body, rest)
  | c :: s =>
      if closing.isPrefixOf (c :: s) then some ([], (c :: s).drop closing.length)
      else if closing.length == 1 && c == '\n' then none
      else (upToQuotes? closing s).map fun (body, rest) => (c :: body, rest)

/-! ## Escapes -/

/-- Does a text start with a number of hexadecimal digits? -/
def startsWithHex (count : Nat) (s : Text) : Bool :=
  (s.take count).length == count && (s.take count).all Text.isHexDigit

/-- Does a text start with the name of a character in braces? -/
def startsWithName : Text → Bool
  | '\x7b' :: s => s.contains '\x7d' && Text.isCharacterName (s.takeWhile (· ≠ '\x7d'))
  | _ => false

/-- May a backslash and the character `c` stand before a text? -/
def isEscape (isBytes : Bool) (c : Char) (s : Text) : Bool :=
  if c = 'x' then startsWithHex 2 s
  else if isBytes then true
  else if c = 'u' then startsWithHex 4 s
  else if c = 'U' then startsWithHex 8 s && decide (Text.ofDigits 16 (s.take 8) ≤ 0x10FFFF)
  else if c = 'N' then startsWithName s
  else true

/-- Is every backslash of a text part of an escape? -/
def hasOnlyEscapes (isBytes : Bool) : Text → Bool
  | [] => true
  | '\\' :: c :: s => isEscape isBytes c s && hasOnlyEscapes isBytes s
  | _ :: s => hasOnlyEscapes isBytes s

/-- Can a text stand between quotes? -/
def Quoting.allows (q : Quoting) (body : Text) : Bool :=
  !(q.isBytes && body.any fun c => decide (128 ≤ c.toNat)) &&
    (q.isRaw || hasOnlyEscapes q.isBytes body)

/-! ## Quoted texts -/

/-- Takes a quoted text: whether it holds bytes, and what follows it. -/
def quotation? (s : Text) : Option (Bool × Text) := do
  let q ← quotings.lookup ((s.takeWhile Char.isAlpha).map Char.toLower)
  let afterLetters := s.dropWhile Char.isAlpha
  let closing ← quotes? afterLetters
  let (body, rest) ← upToQuotes? closing (afterLetters.drop closing.length)
  if q.allows body then some (q.isBytes, rest) else none

theorem length_rest_of_upToQuotes? {closing s body rest : Text}
    (h : upToQuotes? closing s = some (body, rest)) : rest.length ≤ s.length := by
  fun_induction upToQuotes? closing s generalizing body with
  | case1 => simp at h
  | case2 c s ih =>
    obtain ⟨⟨b, r⟩, hr, he⟩ := Option.map_eq_some_iff.1 h
    cases he
    have := ih hr
    simp only [List.length_cons]
    omega
  | case3 c s =>
    cases h
    simp only [List.length_drop]
    omega
  | case4 => simp at h
  | case5 c s _ _ _ ih =>
    obtain ⟨⟨b, r⟩, hr, he⟩ := Option.map_eq_some_iff.1 h
    cases he
    have := ih hr
    simp only [List.length_cons]
    omega

theorem quotes?_ne_nil {s closing : Text} (h : quotes? s = some closing) :
    0 < closing.length ∧ closing.length ≤ s.length := by
  unfold quotes? at h
  split at h <;> simp_all <;> subst h <;> simp

theorem length_rest_of_quotation? {s rest : Text} {isBytes : Bool}
    (h : quotation? s = some (isBytes, rest)) : rest.length < s.length := by
  simp only [quotation?, Option.bind_eq_bind, Option.bind_eq_some_iff] at h
  obtain ⟨q, -, closing, hc, ⟨body, r⟩, hr, h⟩ := h
  have h1 := quotes?_ne_nil hc
  have h2 := length_rest_of_upToQuotes? hr
  have h3 := (List.dropWhile_suffix Char.isAlpha (l := s)).length_le
  split at h
  · simp only [Option.some.injEq, Prod.mk.injEq] at h
    simp only [List.length_drop] at h2
    rw [← h.2]
    show r.length < s.length
    omega
  · simp at h

end SolidityLint.Console.Literal

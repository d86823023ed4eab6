import SolidityLint.Proofs.Present.Unescape
import SolidityLint.Proofs.Text.Number

/-!
# Reading JSON texts

A JSON text is read character by character, without regard to how it was spread over lines.  The
reader puts together words and quoted texts, and gives them with the marks between them to a machine
that knows which values are open (`Json.State.step?`).  What `Json.Item.render` writes is read back
as it was (`Json.Item.ofText?_render`).

* `read?_word_append`: a word is read up to its end.
* `read?_quoted_append`: a quoted text is one word.
* `read?_render_append`: a value is read up to its end, and those behind it are read on.
-/

namespace SolidityLint.Json

/-! ## The machine -/

/-- What a JSON text is made of. -/
inductive Token where
  | listStart
  | listStop
  | objectStart
  | objectStop
  | comma
  | colon
  /-- A value that has no parts. -/
  | plain (item : Item)

/-- A value of which only a part has been read. -/
inductive Frame where
  /-- A list with its first elements. -/
  | list (items : List Item)
  /-- An object with its first fields, and the name of the next one. -/
  | object (fields : List (Text × Item)) (name : Text)

/-- How far a reader has come, with the values that are open, the innermost one first. -/
inductive State where
  /-- A value is to come; if it would be the first of a list, the list may end instead. -/
  | value (isFirst : Bool) (frames : List Frame)
  /-- The name of a field is to come; if it would be the first, the object may end instead. -/
  | name (isFirst : Bool) (fields : List (Text × Item)) (frames : List Frame)
  /-- The colon behind a name is to come. -/
  | colon (fields : List (Text × Item)) (name : Text) (frames : List Frame)
  /-- A value has been read. -/
  | done (item : Item) (frames : List Frame)

/-- The state behind a token. -/
def State.step? : State → Token → Option State
  | value _ frames, .plain item => some (done item frames)
  | value _ frames, .listStart => some (value true (.list [] :: frames))
  | value true (.list items :: frames), .listStop => some (done (.list items) frames)
  | value _ frames, .objectStart => some (name true [] frames)
  | name _ fields frames, .plain (.text s) => some (colon fields s frames)
  | name true fields frames, .objectStop => some (done (.object fields) frames)
  | colon fields s frames, .colon => some (value false (.object fields s :: frames))
  | done item (.list items :: frames), .comma =>
      some (value false (.list (items ++ [item]) :: frames))
  | done item (.list items :: frames), .listStop => some (done (.list (items ++ [item])) frames)
  | done item (.object fields s :: frames), .comma =>
      some (name false (fields ++ [(s, item)]) frames)
  | done item (.object fields s :: frames), .objectStop =>
      some (done (.object (fields ++ [(s, item)])) frames)
  | _, _ => none

/-! ## The reader -/

/-- Does a character only keep words apart? -/
def isBlank (c : Char) : Bool :=
  c == ' ' || c == '\n' || c == '\r' || c == '\t'

/-- The token that is written by a single character. -/
def mark? : Char → Option Token
  | '[' => some .listStart
  | ']' => some .listStop
  | '\x7b' => some .objectStart
  | '\x7d' => some .objectStop
  | ',' => some .comma
  | ':' => some .colon
  | _ => none

/-- Is a character part of a word? -/
def isLetter (c : Char) : Bool :=
  c != '"' && !isBlank c && (mark? c).isNone

/-- The value that is written by a word. -/
def ofWord? (word : Text) : Option Item :=
  if word = "true".toList then some (.bool true)
  else if word = "false".toList then some (.bool false)
  else word.signed?.map .int

/-- The state behind a word, if there is one. -/
def State.takeWord? (state : State) (word : Text) : Option State :=
  if word.isEmpty then some state else (ofWord? word).bind fun item => state.step? (.plain item)

mutual

/-- The state behind a text that goes on with a word. -/
def read? (state : State) (word : Text) : Text → Option State
  | [] => state.takeWord? word
  | c :: s =>
      if isLetter c then read? state (word ++ [c]) s
      else (state.takeWord? word).bind fun state =>
        if c = '"' then readQuoted? state [c] false s
        else
          match mark? c with
          | some token => (state.step? token).bind fun state => read? state [] s
          | none => read? state [] s

/-- The state behind a text that goes on with a quoted text, of which a part has been read. -/
def readQuoted? (state : State) (front : Text) (isEscaped : Bool) : Text → Option State
  | [] => none
  | c :: s =>
      if isEscaped then readQuoted? state (front ++ [c]) false s
      else if c = '"' then
        (unquoted? (front ++ [c])).bind fun text =>
          (state.step? (.plain (.text text))).bind fun state => read? state [] s
      else readQuoted? state (front ++ [c]) (c = '\\') s

end

/-- The value that a text is written for. -/
def Item.ofText? (s : Text) : Option Item :=
  match read? (.value false []) [] s with
  | some (.done item []) => some item
  | _ => none

variable {state next : State} {word front s : Text} {c : Char} {token : Token} {item : Item}

/-! ## Words and marks -/

/-- Does a text start with something else than a letter, or not at all? -/
def IsApart (s : Text) : Prop :=
  ∀ c ∈ s.head?, isLetter c = false

theorem takeWord?_nil (state : State) : state.takeWord? [] = some state :=
  rfl

theorem read?_letters_append (h : word.all isLetter = true) (front : Text) :
    read? state front (word ++ s) = read? state (front ++ word) s := by
  induction word generalizing front with
  | nil => rw [List.nil_append, List.append_nil]
  | cons c word ih =>
      rw [List.all_cons, Bool.and_eq_true] at h
      rw [List.cons_append, read?, if_pos h.1, ih h.2, List.append_assoc, List.singleton_append]

theorem read?_of_isApart (h : IsApart s) :
    read? state word s = (state.takeWord? word).bind fun next => read? next [] s := by
  cases s with
  | nil =>
      simp only [read?, takeWord?_nil]
      exact (Option.bind_fun_some _).symm
  | cons c s =>
      have hc : ¬isLetter c = true := Bool.eq_false_iff.1 (h c rfl)
      simp only [read?, if_neg hc, takeWord?_nil, Option.bind_some]

/-- A word is read up to its end. -/
theorem read?_word_append (hne : word ≠ []) (hletters : word.all isLetter = true)
    (hword : ofWord? word = some item) (h : IsApart s) :
    read? state [] (word ++ s) = (state.step? (.plain item)).bind fun next => read? next [] s := by
  rw [read?_letters_append hletters, List.nil_append, read?_of_isApart h, State.takeWord?,
    if_neg (mt List.isEmpty_iff.1 hne), hword, Option.bind_some]

theorem read?_mark_cons (hmark : mark? c = some token) (hstep : state.step? token = some next) :
    read? state [] (c :: s) = read? next [] s := by
  have hletter : ¬isLetter c = true := by simp [isLetter, hmark]
  have hquote : c ≠ '"' := by
    rintro rfl
    cases hmark
  rw [read?, if_neg hletter, takeWord?_nil, Option.bind_some, if_neg hquote, hmark]
  simp only [hstep, Option.bind_some]

theorem read?_blank_cons (h : isBlank c = true) : read? state [] (c :: s) = read? state [] s := by
  simp only [isBlank, Bool.or_eq_true, beq_iff_eq] at h
  rcases h with ((rfl | rfl) | rfl) | rfl <;> rfl

theorem read?_blanks_append (h : ∀ c ∈ word, isBlank c = true) :
    read? state [] (word ++ s) = read? state [] s := by
  induction word with
  | nil => rfl
  | cons c word ih =>
      obtain ⟨hc, hword⟩ := List.forall_mem_cons.1 h
      rw [List.cons_append, read?_blank_cons hc, ih hword]

theorem read?_newLine_append (depth : Nat) :
    read? state [] (Item.newLine depth ++ s) = read? state [] s :=
  read?_blanks_append <| List.forall_mem_cons.2
    ⟨rfl, fun _ hc => by rw [List.eq_of_mem_replicate hc]; rfl⟩

/-! ## Quoted texts -/

theorem readQuoted?_append (h : ∀ c ∈ word, c ≠ '"' ∧ c ≠ '\\') (front : Text) :
    readQuoted? state front false (word ++ s) = readQuoted? state (front ++ word) false s := by
  induction word generalizing front with
  | nil => rw [List.nil_append, List.append_nil]
  | cons c word ih =>
      obtain ⟨⟨hquote, hslash⟩, hword⟩ := List.forall_mem_cons.1 h
      rw [List.cons_append, readQuoted?, if_neg Bool.false_ne_true, if_neg hquote,
        decide_eq_false hslash, ih hword, List.append_assoc, List.singleton_append]

theorem readQuoted?_slash_append (c : Char) (front : Text) :
    readQuoted? state front false (['\\', c] ++ s) =
      readQuoted? state (front ++ ['\\', c]) false s := by
  rw [List.cons_append, List.cons_append, List.nil_append, readQuoted?, if_neg Bool.false_ne_true,
    if_neg (by decide), readQuoted?, if_pos (by decide), List.append_assoc, List.singleton_append]

theorem readQuoted?_unitEscape_append (n : Nat) (front s : Text) :
    readQuoted? state front false (unitEscape n ++ s) =
      readQuoted? state (front ++ unitEscape n) false s := by
  have hdigits : ∀ c ∈ Text.ofNatHex 4 n, c ≠ '"' ∧ c ≠ '\\' := fun c hc => by
    have hhex := Text.isHexDigit_of_mem_ofNatHex hc
    constructor <;> rintro rfl <;> exact absurd hhex (by decide)
  have hescape : unitEscape n = ['\\', 'u'] ++ Text.ofNatHex 4 n := rfl
  rw [hescape, List.append_assoc, readQuoted?_slash_append, readQuoted?_append hdigits,
    List.append_assoc]

theorem readQuoted?_flatMap_append {α : Type} {f : α → Text}
    (h : ∀ x front s, readQuoted? state front false (f x ++ s) =
      readQuoted? state (front ++ f x) false s) (xs : List α) (front : Text) :
    readQuoted? state front false (xs.flatMap f ++ s) =
      readQuoted? state (front ++ xs.flatMap f) false s := by
  induction xs generalizing front with
  | nil => rw [List.flatMap_nil, List.nil_append, List.append_nil]
  | cons x xs ih => rw [List.flatMap_cons, List.append_assoc, h, ih, List.append_assoc]

/-- What is written for a character does not end a quoted text. -/
theorem readQuoted?_escapeChar_append (c : Char) (front s : Text) :
    readQuoted? state front false (escapeChar c ++ s) =
      readQuoted? state (front ++ escapeChar c) false s := by
  rcases escapeChar_cases c with ⟨e, heq, -⟩ | ⟨heq, hquote, hslash, -⟩ | heq <;> rw [heq]
  · exact readQuoted?_slash_append e front
  · exact readQuoted?_append (List.forall_mem_singleton.2 ⟨hquote, hslash⟩) front
  · exact readQuoted?_flatMap_append readQuoted?_unitEscape_append (unitsOf c) front

/-- A quoted text is one word. -/
theorem read?_quoted_append (text : Text) :
    read? state [] (quoted text ++ s) =
      (state.step? (.plain (.text text))).bind fun next => read? next [] s := by
  have hwhole : quoted text ++ s = '"' :: (text.flatMap escapeChar ++ '"' :: s) := by
    rw [quoted, List.cons_append, List.cons_append, List.append_assoc, List.singleton_append]
  have hread : unquoted? (['"'] ++ text.flatMap escapeChar ++ ['"']) = some text :=
    unquoted?_quoted text
  rw [hwhole, read?, if_neg (by decide), takeWord?_nil, Option.bind_some, if_pos rfl,
    readQuoted?_flatMap_append readQuoted?_escapeChar_append, readQuoted?,
    if_neg Bool.false_ne_true, if_pos rfl, hread, Option.bind_some]

/-! ## Numbers and truth values -/

theorem isLetter_of_isDigit (h : c.isDigit = true) : isLetter c = true := by
  have hne (d : Char) (hd : d.isDigit = false) : c ≠ d := by
    rintro rfl
    rw [h] at hd
    cases hd
  have hmark : mark? c = none := by
    rw [mark?] <;> exact hne _ rfl
  rw [isLetter, isBlank, hmark]
  simp [hne]

theorem all_isLetter_ofInt (n : Int) : (Text.ofInt n).all isLetter = true := by
  refine List.all_eq_true.2 fun c hc => ?_
  rcases Text.isDigit_or_eq_of_mem_ofInt hc with hdigit | rfl
  · exact isLetter_of_isDigit hdigit
  · rfl

theorem ofInt_ne_nil (n : Int) : Text.ofInt n ≠ [] := by
  cases n with
  | ofNat n => exact Nat.toDigits_ne_nil
  | negSucc n => exact List.cons_ne_nil _ _

theorem ofWord?_ofInt (n : Int) : ofWord? (Text.ofInt n) = some (.int n) := by
  have hne {word : Text} (he : 'e' ∈ word) : Text.ofInt n ≠ word := by
    rintro rfl
    exact absurd (Text.isDigit_or_eq_of_mem_ofInt he) (by decide)
  rw [ofWord?, if_neg (hne (by decide)), if_neg (hne (by decide)), Text.signed?_ofInt,
    Option.map_some]

/-! ## Values -/

theorem isApart_cons (h : isLetter c = false) : IsApart (c :: s) := by
  rintro _ ⟨⟩
  exact h

theorem isApart_renderItems (depth outer : Nat) (items : List Item) :
    IsApart (Item.renderItems depth items ++ (Item.newLine outer ++ s)) := by
  cases items <;> exact isApart_cons rfl

theorem isApart_renderFields (depth outer : Nat) (fields : List (Text × Item)) :
    IsApart (Item.renderFields depth fields ++ (Item.newLine outer ++ s)) := by
  match fields with
  | [] | (_, _) :: _ => exact isApart_cons rfl

/-- The name of a field is read, and its value is to come. -/
theorem read?_name_append (isFirst : Bool) (fields : List (Text × Item)) (frames : List Frame)
    (name : Text) : read? (.name isFirst fields frames) [] (quoted name ++ (": ".toList ++ s)) =
      read? (.value false (.object fields name :: frames)) [] s := by
  rw [read?_quoted_append]
  exact (read?_mark_cons rfl rfl).trans (read?_blank_cons rfl)

mutual

/-- A value is read up to its end. -/
theorem read?_render_append (item : Item) (depth : Nat) (isFirst : Bool) (frames : List Frame)
    (s : Text) (h : IsApart s) :
    read? (.value isFirst frames) [] (item.render depth ++ s) = read? (.done item frames) [] s := by
  match item with
  | .int n =>
      rw [Item.render]
      exact read?_word_append (ofInt_ne_nil n) (all_isLetter_ofInt n) (ofWord?_ofInt n) h
  | .bool true =>
      rw [Item.render]
      exact read?_word_append (List.cons_ne_nil _ _) rfl rfl h
  | .bool false =>
      rw [Item.render]
      exact read?_word_append (List.cons_ne_nil _ _) rfl rfl h
  | .text text => exact read?_quoted_append text
  | .list [] => rfl
  | .object [] => rfl
  | .list (item :: items) =>
      have htext : (Item.list (item :: items)).render depth ++ s =
          '[' :: (Item.newLine (depth + 1) ++ (item.render (depth + 1) ++
            (Item.renderItems (depth + 1) items ++ (Item.newLine depth ++ ']' :: s)))) := by
        simp [Item.render]
      rw [htext, read?_mark_cons rfl rfl, read?_newLine_append,
        read?_render_append item _ _ _ _ (isApart_renderItems _ _ _)]
      exact read?_renderItems_append items _ _ [] item frames s
  | .object ((name, item) :: fields) =>
      have htext : (Item.object ((name, item) :: fields)).render depth ++ s =
          '\x7b' :: (Item.newLine (depth + 1) ++ (quoted name ++ (": ".toList ++
            (item.render (depth + 1) ++ (Item.renderFields (depth + 1) fields ++
              (Item.newLine depth ++ '\x7d' :: s)))))) := by
        simp [Item.render]
      rw [htext, read?_mark_cons rfl rfl, read?_newLine_append, read?_name_append,
        read?_render_append item _ _ _ _ (isApart_renderFields _ _ _)]
      exact read?_renderFields_append fields _ _ [] name item frames s

/-- The remaining elements of a list are read, and the list is closed. -/
theorem read?_renderItems_append (items : List Item) (depth outer : Nat) (front : List Item)
    (item : Item) (frames : List Frame) (s : Text) :
    read? (.done item (.list front :: frames)) []
        (Item.renderItems depth items ++ (Item.newLine outer ++ ']' :: s)) =
      read? (.done (.list (front ++ item :: items)) frames) [] s := by
  match items with
  | [] =>
      rw [Item.renderItems, List.nil_append, read?_newLine_append]
      exact read?_mark_cons rfl rfl
  | next :: items =>
      have htext : Item.renderItems depth (next :: items) ++ (Item.newLine outer ++ ']' :: s) =
          ',' :: (Item.newLine depth ++ (next.render depth ++
            (Item.renderItems depth items ++ (Item.newLine outer ++ ']' :: s)))) := by
        simp [Item.renderItems]
      rw [htext, List.append_cons front item, read?_mark_cons rfl rfl, read?_newLine_append,
        read?_render_append next _ _ _ _ (isApart_renderItems _ _ _)]
      exact read?_renderItems_append items _ _ (front ++ [item]) next frames s

/-- The remaining fields of an object are read, and the object is closed. -/
theorem read?_renderFields_append (fields : List (Text × Item)) (depth outer : Nat)
    (front : List (Text × Item)) (name : Text) (item : Item) (frames : List Frame) (s : Text) :
    read? (.done item (.object front name :: frames)) []
        (Item.renderFields depth fields ++ (Item.newLine outer ++ '\x7d' :: s)) =
      read? (.done (.object (front ++ (name, item) :: fields)) frames) [] s := by
  match fields with
  | [] =>
      rw [Item.renderFields, List.nil_append, read?_newLine_append]
      exact read?_mark_cons rfl rfl
  | (other, next) :: fields =>
      have htext : Item.renderFields depth ((other, next) :: fields) ++
          (Item.newLine outer ++ '\x7d' :: s) =
          ',' :: (Item.newLine depth ++ (quoted other ++ (": ".toList ++ (next.render depth ++
            (Item.renderFields depth fields ++ (Item.newLine outer ++ '\x7d' :: s)))))) := by
        simp [Item.renderFields]
      rw [htext, List.append_cons front (name, item), read?_mark_cons rfl rfl,
        read?_newLine_append, read?_name_append,
        read?_render_append next _ _ _ _ (isApart_renderFields _ _ _)]
      exact read?_renderFields_append fields _ _ (front ++ [(name, item)]) other next frames s

end

/-- **A value is read back from the text that is written for it.** -/
theorem Item.ofText?_render (item : Item) (depth : Nat) :
    ofText? (item.render depth) = some item := by
  have hread := read?_render_append item depth false [] [] (by simp [IsApart])
  rw [List.append_nil] at hread
  rw [ofText?, hread]
  rfl

end SolidityLint.Json

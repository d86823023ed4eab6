import Mathlib.Algebra.BigOperators.Group.List.Basic
import Mathlib.Data.List.Permutation
import SolidityLint.Present.Format
import SolidityLint.Proofs.Present.JsonText
import SolidityLint.Proofs.Present.Story

/-!
# What the presentations tell

All presentations tell the same stories (`Format.tells_present`): the same problems in the same
order, each with its position, its severity, its message and its rule, report by report, and the
same numbers of them.  How each presentation tells a list of stories is said without the reports
(`Format.Tells`); for JSON this is what a program reads from the text.
-/

namespace SolidityLint

/-! ## Texts that are shown as they are -/

/-- Is every character of a text shown? -/
def Text.IsShown (s : Text) : Prop :=
  ∀ c ∈ s, Text.isSwallowed c = false

/-- Are the texts of a report shown as they are? -/
structure Report.IsShown (r : Report) : Prop where
  path : r.path.IsShown
  message : ∀ d ∈ r.diagnostics, d.message.IsShown
  rule : ∀ d ∈ r.diagnostics, d.rule.IsShown

namespace Text

instance (s : Text) : Decidable s.IsShown :=
  decidable_of_iff (s.all fun c => !isSwallowed c) (by simp [IsShown])

theorem IsShown.append {s t : Text} (hs : s.IsShown) (ht : t.IsShown) : (s ++ t).IsShown :=
  fun c hc => (List.mem_append.1 hc).elim (hs c) (ht c)

theorem IsShown.cons {c : Char} {s : Text} (hc : isSwallowed c = false) (hs : s.IsShown) :
    IsShown (c :: s) :=
  List.forall_mem_cons.2 ⟨hc, hs⟩

theorem isShown_ofNat (n : Nat) : (ofNat n).IsShown := by
  intro c hc
  have hdigit := isDigit_of_mem_ofNat hc
  refine Bool.eq_false_iff.2 fun hswallowed => ?_
  simp only [isSwallowed, Bool.or_eq_true, beq_iff_eq] at hswallowed
  obtain (((rfl | rfl) | rfl) | rfl) | rfl := hswallowed <;> simp at hdigit

theorem IsShown.padEnd {s : Text} (hs : s.IsShown) (width : Nat) : (s.padEnd width).IsShown :=
  hs.append fun c hc => by rw [List.eq_of_mem_replicate hc]; rfl

end Text

theorem Severity.isShown_name (s : Severity) : s.name.IsShown := by
  cases s <;> decide

/-! ## Reading JSON values -/

namespace Json.Item

/-- The value of a field. -/
def field? (name : Text) : Item → Option Item
  | object fields => fields.lookup name
  | _ => none

/-- A text. -/
def text? : Item → Option Text
  | text s => some s
  | _ => none

/-- A natural number. -/
def nat? : Item → Option Nat
  | int n => n.toNat?
  | _ => none

theorem nat?_nat (n : Nat) : (nat n).nat? = some n :=
  rfl

/-- A truth value. -/
def bool? : Item → Option Bool
  | bool b => some b
  | _ => none

/-- The elements of a list. -/
def list? : Item → Option (List Item)
  | list items => some items
  | _ => none

end Json.Item

/-- The severity of a given name. -/
def Severity.ofName? (s : Text) : Option Severity :=
  [error, warning].find? fun severity => severity.name = s

/-- The problem that an object describes. -/
def Problem.ofItem? (item : Json.Item) : Option Problem := do
  return {
    line := ← (← item.field? "line".toList).nat?
    column := ← (← item.field? "column".toList).nat?
    severity := ← Severity.ofName? (← (← item.field? "severity".toList).text?)
    message := ← (← item.field? "message".toList).text?
    rule := ← (← item.field? "ruleId".toList).text?
    isFixable := ← (← item.field? "fixable".toList).bool? }

/-- The story that an object tells. -/
def Story.ofItem? (item : Json.Item) : Option Story := do
  let messages ← (← item.field? "messages".toList).list?
  return {
    path := ← (← item.field? "filePath".toList).text?
    problems := ← messages.mapM Problem.ofItem? }

/-- The numbers that an object holds. -/
def Summary.ofItem? (item : Json.Item) : Option Summary := do
  return {
    errors := ← (← item.field? "errorCount".toList).nat?
    warnings := ← (← item.field? "warningCount".toList).nat?
    fixableErrors := ← (← item.field? "fixableErrorCount".toList).nat?
    fixableWarnings := ← (← item.field? "fixableWarningCount".toList).nat? }

theorem Severity.ofName?_name (s : Severity) : ofName? s.name = some s := by
  cases s <;> rfl

theorem Problem.ofItem?_ofRow (row : Row) : ofItem? (Json.ofRow row) = some row.problem := by
  have hfields : (Json.ofRow row).field? "line".toList = some (.nat row.line) ∧
      (Json.ofRow row).field? "column".toList = some (.nat row.column) ∧
      (Json.ofRow row).field? "severity".toList = some (.text row.diagnostic.severity.name) ∧
      (Json.ofRow row).field? "message".toList = some (.text row.diagnostic.message) ∧
      (Json.ofRow row).field? "ruleId".toList = some (.text row.diagnostic.rule) ∧
      (Json.ofRow row).field? "fixable".toList = some (.bool row.diagnostic.isFixable) :=
    ⟨rfl, rfl, rfl, rfl, rfl, rfl⟩
  simp only [ofItem?, hfields, Json.Item.nat?_nat, Json.Item.text?, Json.Item.bool?,
    Severity.ofName?_name, Option.bind_eq_bind, Option.bind_some]
  rfl

theorem Story.ofItem?_ofReport (r : Report) : ofItem? (Json.ofReport r) = some r.story := by
  have hproblems : (r.rows.map Json.ofRow).mapM Problem.ofItem? = some r.story.problems := by
    rw [← r.map_problem_rows, List.mapM_map]
    generalize r.rows = rows
    induction rows with
    | nil => rfl
    | cons row rows ih => simp [List.mapM_cons, Problem.ofItem?_ofRow, ih]
  have hfields : (Json.ofReport r).field? "messages".toList =
        some (.list (r.rows.map Json.ofRow)) ∧
      (Json.ofReport r).field? "filePath".toList = some (.text r.path) := ⟨rfl, rfl⟩
  simp only [ofItem?, hfields, hproblems, Json.Item.text?, Json.Item.list?, Option.bind_eq_bind,
    Option.bind_some]
  rfl

theorem Summary.ofItem?_ofReport (r : Report) :
    ofItem? (Json.ofReport r) = some r.story.summary := by
  have hfields : (Json.ofReport r).field? "errorCount".toList = some (.nat (ofReport r).errors) ∧
      (Json.ofReport r).field? "warningCount".toList = some (.nat (ofReport r).warnings) ∧
      (Json.ofReport r).field? "fixableErrorCount".toList =
        some (.nat (ofReport r).fixableErrors) ∧
      (Json.ofReport r).field? "fixableWarningCount".toList =
        some (.nat (ofReport r).fixableWarnings) := ⟨rfl, rfl, rfl, rfl⟩
  simp only [ofItem?, hfields, Json.Item.nat?_nat, Option.bind_eq_bind, Option.bind_some,
    r.summary_story]
  rfl

/-! ## How stories are told -/

/-- A number of things, which are called `one` if there is one of them. -/
def Text.amount (n : Nat) (one many : Text) : Text :=
  ofNat n ++ " ".toList ++ if n = 1 then one else many

namespace Problem

/-- The line and the column. -/
def positionText (p : Problem) : Text :=
  Text.ofNat p.line ++ ':' :: Text.ofNat p.column

/-- A problem in columns of given widths. -/
def alignedLine (positionWidth messageWidth : Nat) (p : Problem) : Text :=
  ["  ".toList ++ p.positionText.padEnd positionWidth ++ "  ".toList, p.severity.name.padEnd 7,
    "  ".toList ++ p.message.padEnd messageWidth ++ "  ".toList, p.rule, ['\n']].flatten

/-- A problem on a line with its path. -/
def unixLine (path : Text) (p : Problem) : Text :=
  path ++ ':' :: p.positionText ++ ": ".toList ++ p.message ++ " [".toList ++
    p.severity.capitalName ++ '/' :: p.rule ++ "]".toList

/-- A problem as an entry of a test. -/
def tapEntry (p : Problem) : List Text :=
  ["    - message: ".toList ++ Json.quoted p.message, "      severity: ".toList ++ p.severity.name,
    "      ruleId: ".toList ++ p.rule, "      line: ".toList ++ Text.ofNat p.line,
    "      column: ".toList ++ Text.ofNat p.column]

/-- A problem in the cells of a grid. -/
def cells (path : Text) (p : Problem) : List Text :=
  [path, Text.ofNat p.line, Text.ofNat p.column, p.severity.name, p.message, p.rule]

end Problem

namespace Story

/-- Does a text list the problems of a story, if it has any, in columns under the path? -/
def IsBlock (s : Story) (block : Text) : Prop :=
  if s.problems = [] then block = []
  else ∃ positionWidth messageWidth, block =
    '\n' :: s.path ++ '\n' :: s.problems.flatMap (Problem.alignedLine positionWidth messageWidth)

/-- A story as a test with a number. -/
def tapTest (s : Story) (number : Nat) : List Text :=
  let subject := Text.ofNat number ++ " - ".toList ++ s.path
  if s.problems = [] then ["ok ".toList ++ subject]
  else
    ["not ok ".toList ++ subject, "  ---".toList, "  messages:".toList] ++
      s.problems.flatMap Problem.tapEntry ++ ["  ...".toList]

/-- The number of problems in several reports. -/
def problemCount (ss : List Story) : Nat :=
  (ss.map fun s => s.problems.length).sum

/-- The number of problems in words. -/
def problemsInWords (ss : List Story) : Text :=
  Text.amount (problemCount ss) "problem".toList "problems".toList

/-- The numbers of errors and warnings in words. -/
def severitiesInWords (ss : List Story) : Text :=
  Text.amount (total ss).errors "error".toList "errors".toList ++ ", ".toList ++
    Text.amount (total ss).warnings "warning".toList "warnings".toList

/-- A line on the errors and warnings that can be repaired, if there are any. -/
def fixableLine (ss : List Story) : Text :=
  if (total ss).fixableErrors = 0 ∧ (total ss).fixableWarnings = 0 then []
  else "  ".toList ++ Text.amount (total ss).fixableErrors "error".toList "errors".toList ++
    " and ".toList ++ Text.amount (total ss).fixableWarnings "warning".toList "warnings".toList ++
    " potentially fixable with the \x60--fix\x60 option.\n".toList

/-- The lines behind the last problem; there are none if there is no problem. -/
def closing (ss : List Story) : Text :=
  if problemCount ss = 0 then []
  else "\n✖ ".toList ++ problemsInWords ss ++ " (".toList ++ severitiesInWords ss ++ ")\n".toList ++
    fixableLine ss

end Story

/-- Does a presentation of a format tell some stories, and the numbers of the problems in them? -/
def Format.Tells (ss : List Story) : Format → Presentation → Prop
  | json, .plain s => ∃ items, Json.Item.ofText? s = some (.list items) ∧
      items.map Story.ofItem? = ss.map some ∧
      items.map Summary.ofItem? = ss.map fun story => some story.summary
  | stylish, .styled ps => ∃ blocks, List.Forall₂ Story.IsBlock ss blocks ∧
      Piece.plain ps = blocks.flatten ++ Story.closing ss
  | table, .grid g =>
      g.rows = (ss.flatMap fun story => story.problems.map (Problem.cells story.path)) ∧
        g.caption = Story.severitiesInWords ss
  | tap, .plain s => s = Text.join ['\n']
      (["TAP version 13".toList, "1..".toList ++ Text.ofNat ss.length] ++
        (ss.zipIdx 1).flatMap fun (story, number) => story.tapTest number)
  | unix, .plain s => s = Text.join ['\n']
      ((ss.flatMap fun story => story.problems.map (Problem.unixLine story.path)) ++
        if Story.problemCount ss = 0 then [] else [[], Story.problemsInWords ss])
  | _, _ => False

/-! ## Numbers in words -/

theorem counted_eq_amount (n : Nat) (word : Text) :
    counted n word = Text.amount n word (word ++ ['s']) := by
  rw [counted, Text.amount]
  split <;> simp

namespace Story

variable (ss : List Story)

theorem problems_total : (total ss).problems = problemCount ss := by
  simp only [Summary.problems, total, problemCount, ← problems_summary]
  exact List.sum_map_add.symm

theorem problemsText_total : (total ss).problemsText = problemsInWords ss := by
  rw [Summary.problemsText, counted_eq_amount, problems_total]
  rfl

theorem severitiesText_total : (total ss).severitiesText = severitiesInWords ss := by
  rw [Summary.severitiesText, counted_eq_amount, counted_eq_amount]
  rfl

end Story

/-! ## Blocks of styled texts -/

theorem Piece.plain_eq {ps : List Piece} (h : ∀ p ∈ ps, p.text.IsShown) :
    plain ps = ps.flatMap Piece.text :=
  List.flatMap_congr fun p hp => Text.withoutSwallowed_eq_self (h p hp)

theorem isShown_counted {word : Text} (h : word.IsShown) (n : Nat) : (counted n word).IsShown := by
  have hend : Text.IsShown (if n = 1 then [] else ['s']) := by split <;> decide
  exact ((Text.isShown_ofNat n).append (h.cons rfl)).append hend

theorem Stylish.isShown_total (s : Summary) : ∀ p ∈ total s, p.text.IsShown := by
  have hproblem (n : Nat) : (counted n "problem".toList).IsShown := isShown_counted (by decide) n
  have herror (n : Nat) : (counted n "error".toList).IsShown := isShown_counted (by decide) n
  have hwarning (n : Nat) : (counted n "warning".toList).IsShown := isShown_counted (by decide) n
  have hseverities : s.severitiesText.IsShown :=
    ((herror _).append (by decide)).append (hwarning _)
  rw [total]
  split
  · exact List.forall_mem_nil _
  · refine List.forall_mem_append.2 ⟨?_, ?_⟩
    · simp only [List.forall_mem_cons]
      exact ⟨by decide, ((((Text.IsShown.append (by decide) (hproblem _)).append (by decide)).append
        hseverities).append (by decide)), List.forall_mem_nil _⟩
    · split
      · exact List.forall_mem_nil _
      · exact List.forall_mem_singleton.2
          ((((Text.IsShown.append (by decide) (herror _)).append (by decide)).append
            (hwarning _)).append (by decide))

/-- The numbers of problems are told in words. -/
theorem Stylish.plain_total (ss : List Story) :
    Piece.plain (total (Story.total ss)) = Story.closing ss := by
  have hlines (style : Style) (first second : Text) (isDone : Prop) [Decidable isDone] :
      ([newline, styledPiece style first] ++
        if isDone then [] else [styledPiece style second]).flatMap Piece.text =
          '\n' :: (first ++ if isDone then [] else second) := by
    split <;> simp [newline, plainPiece, styledPiece]
  rw [Piece.plain_eq (isShown_total _), total, Story.closing, Story.problems_total,
    Story.problemsText_total, Story.severitiesText_total, counted_eq_amount, counted_eq_amount]
  split
  · rfl
  · exact hlines ..

theorem Stylish.file_eq {r : Report} (h : r.rows ≠ []) :
    file r = [newline, styledPiece .underline r.path, newline] ++
      r.rows.flatMap (row (widest (r.rows.map Row.positionText))
        (widest (r.rows.map (·.diagnostic.message)))) := by
  rw [file]
  cases hrows : r.rows with
  | nil => exact absurd hrows h
  | cons row rows => rfl

theorem Stylish.flatMap_text_row (positionWidth messageWidth : Nat) (row : Row) :
    (Stylish.row positionWidth messageWidth row).flatMap Piece.text =
      row.problem.alignedLine positionWidth messageWidth :=
  rfl

namespace Report

variable {r : Report}

theorem mem_diagnostics_of_mem_rows {row : Row} (h : row ∈ r.rows) :
    row.diagnostic ∈ r.diagnostics := by
  rw [rows_eq, List.mem_map] at h
  obtain ⟨d, hd, rfl⟩ := h
  exact List.mem_mergeSort.1 hd

theorem IsShown.row (h : r.IsShown) {row : Row} (hrow : row ∈ r.rows)
    (positionWidth messageWidth : Nat) :
    ∀ p ∈ Stylish.row positionWidth messageWidth row, p.text.IsShown := by
  have hmem := mem_diagnostics_of_mem_rows hrow
  have hblanks : Text.IsShown "  ".toList := by decide
  have hposition : row.positionText.IsShown :=
    (Text.isShown_ofNat _).append ((Text.isShown_ofNat _).cons rfl)
  simp only [Stylish.row, List.forall_mem_cons]
  exact ⟨(hblanks.append (hposition.padEnd _)).append hblanks, (Severity.isShown_name _).padEnd _,
    (hblanks.append ((h.message _ hmem).padEnd _)).append hblanks, h.rule _ hmem, by decide,
    List.forall_mem_nil _⟩

theorem IsShown.isBlock (h : r.IsShown) : r.story.IsBlock (Piece.plain (Stylish.file r)) := by
  rw [Story.IsBlock, ← r.map_problem_rows]
  split
  · next hrows => rw [Stylish.file, List.map_eq_nil_iff.1 hrows]; rfl
  · next hrows =>
    replace hrows : r.rows ≠ [] := fun hnil => hrows (List.map_eq_nil_iff.2 hnil)
    refine ⟨Stylish.widest (r.rows.map Row.positionText),
      Stylish.widest (r.rows.map (·.diagnostic.message)), ?_⟩
    rw [Stylish.file_eq hrows, Piece.plain_eq, List.flatMap_append, List.flatMap_assoc,
      List.flatMap_map]
    · simp only [List.flatMap_cons, List.flatMap_nil, Stylish.flatMap_text_row, Stylish.newline,
        Stylish.plainPiece, Stylish.styledPiece, List.append_nil, List.append_assoc]
      rfl
    · refine List.forall_mem_append.2 ⟨?_, ?_⟩
      · simp only [List.forall_mem_cons]
        exact ⟨by decide, h.path, by decide, List.forall_mem_nil _⟩
      · exact List.forall_mem_flatMap.2 fun row hrow => h.row hrow _ _

end Report

/-! ## Each presentation -/

namespace Format

variable (rs : List Report)

theorem tells_json : json.Tells (rs.map Report.story) (json.present rs) := by
  refine ⟨rs.map Json.ofReport, Json.Item.ofText?_render .., ?_, ?_⟩ <;>
    rw [List.map_map, List.map_map]
  · exact List.map_congr_left fun r _ => Story.ofItem?_ofReport r
  · exact List.map_congr_left fun r _ => Summary.ofItem?_ofReport r

theorem tells_unix : unix.Tells (rs.map Report.story) (unix.present rs) := by
  have hfile : Unix.file = fun r => r.story.problems.map (Problem.unixLine r.path) :=
    funext fun r => by rw [← r.map_problem_rows, List.map_map]; rfl
  simp only [Tells, present, Unix.present, Unix.lines, ← Report.total_map_story,
    Story.problems_total, Story.problemsText_total, List.flatMap_map, hfile]
  rfl

theorem tells_tap : tap.Tells (rs.map Report.story) (tap.present rs) := by
  have htest (number : Nat) (r : Report) : Tap.test number r = r.story.tapTest number := by
    have hentry : Tap.entry = fun row => row.problem.tapEntry := rfl
    have hpath : r.story.path = r.path := rfl
    rw [Story.tapTest, ← r.map_problem_rows, Tap.test, hentry, hpath, List.flatMap_map]
    cases r.rows <;> rfl
  simp only [Tells, present, Tap.present, Tap.lines, htest, List.length_map, List.zipIdx_map,
    List.flatMap_map]
  rfl

variable {rs} (h : ∀ r ∈ rs, r.IsShown)

include h

theorem tells_table : table.Tells (rs.map Report.story) (table.present rs) := by
  have hcells : ∀ r ∈ rs, r.rows.map (Grid.cellsOfRow r.path) =
      r.story.problems.map (Problem.cells r.path) := fun r hr => by
    rw [← r.map_problem_rows, List.map_map]
    refine List.map_congr_left fun row hrow => ?_
    have hmessage := (h r hr).message row.diagnostic (r.mem_diagnostics_of_mem_rows hrow)
    simp only [Grid.cellsOfRow, Text.withoutSwallowed_eq_self (h r hr).path,
      Text.withoutSwallowed_eq_self hmessage]
    rfl
  have hrows : (Grid.ofReports rs).rows =
      (Grid.problems rs).map fun p => Grid.cellsOfRow p.1 p.2 := rfl
  have hcaption : (Grid.ofReports rs).caption = (Summary.ofReports rs).severitiesText := rfl
  refine ⟨hrows.trans ?_, hcaption.trans ?_⟩
  · simp only [Grid.problems, List.map_flatMap, List.map_map, List.flatMap_map]
    exact List.flatMap_congr hcells
  · rw [← Report.total_map_story, Story.severitiesText_total]

theorem tells_stylish : stylish.Tells (rs.map Report.story) (stylish.present rs) := by
  refine ⟨rs.map fun r => Piece.plain (Stylish.file r), ?_, ?_⟩
  · rw [List.forall₂_map_left_iff, List.forall₂_map_right_iff, List.forall₂_same]
    exact fun r hr => (h r hr).isBlock
  · rw [← Stylish.plain_total, Report.total_map_story, ← List.flatMap_def]
    exact List.flatMap_append.trans (congrArg (· ++ _) List.flatMap_assoc)

/-- **All presentations tell the same.**  Where the texts of all reports are shown as they are, each
presentation lists the same problems, in the order in which they start within the text of their
report.  As many problems are listed as are counted, and the problems of a linted text are listed
in the order in which the linter reports them. -/
theorem tells_present : (∀ f : Format, f.Tells (rs.map Report.story) (f.present rs)) ∧
    (∀ s ∈ rs.map Report.story, s.summary.errors + s.summary.warnings = s.problems.length) ∧
    ∀ (l : Linter) (path source : Text), (l.lint path source).story.problems =
      (l.lint path source).diagnostics.map fun d => ((l.lint path source).rowOf d).problem := by
  refine ⟨fun f => ?_, fun s _ => s.problems_summary, Linter.story_lint⟩
  cases f with
  | json => exact tells_json rs
  | stylish => exact tells_stylish h
  | table => exact tells_table h
  | tap => exact tells_tap rs
  | unix => exact tells_unix rs

end Format

namespace Report

/-- A report whose problems are not in the order of its text, and one without problems. -/
def disordered : List Report :=
  [⟨"a.sol".toList, "ab\nc".toList,
    [⟨"beyond".toList, .warning, "m".toList, ⟨9, 12⟩, none⟩,
      ⟨"end".toList, .error, "n".toList, ⟨4, 4⟩, some fun _ => .ok none⟩,
      ⟨"ahead".toList, .warning, "o".toList, ⟨-3, 0⟩, none⟩,
      ⟨"start".toList, .error, "p".toList, ⟨0, 1⟩, none⟩]⟩,
    ⟨"b.sol".toList, [], []⟩]

end Report

/-- Problems outside the text are told at its ends, in the order of the report. -/
theorem Format.tells_disordered :
    Report.disordered.map Report.story =
      [⟨"a.sol".toList,
        [⟨1, 1, .warning, "o".toList, "ahead".toList, false⟩,
          ⟨1, 1, .error, "p".toList, "start".toList, false⟩,
          ⟨2, 2, .warning, "m".toList, "beyond".toList, false⟩,
          ⟨2, 2, .error, "n".toList, "end".toList, true⟩]⟩,
        ⟨"b.sol".toList, []⟩] ∧
    (∀ f : Format, f.Tells (Report.disordered.map Report.story) (f.present Report.disordered)) ∧
    (∀ s ∈ Report.disordered.map Report.story,
      s.summary.errors + s.summary.warnings = s.problems.length) ∧
    ∀ (l : Linter) (path source : Text), (l.lint path source).story.problems =
      (l.lint path source).diagnostics.map fun d => ((l.lint path source).rowOf d).problem := by
  refine ⟨by cbv, tells_present ?_⟩
  simp only [Report.disordered, List.forall_mem_cons]
  refine ⟨⟨by decide, ?_, ?_⟩, ⟨by decide, by simp, by simp⟩, List.forall_mem_nil _⟩
  all_goals
    simp only [List.forall_mem_cons]
    decide

end SolidityLint

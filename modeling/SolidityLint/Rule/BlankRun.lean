import SolidityLint.Rule.Basic

/-!
# No long runs of blank lines

The blank lines of a text stand in maximal runs.  The rule reports a run with more lines than
the limit allows; its repair removes the lines of the run beyond the limit.
-/

namespace SolidityLint

namespace Line

/-- The maximal runs of consecutive blank lines, in order. -/
def blankRuns : List Line → List (List Line)
  | [] => []
  | l :: ls =>
      if l.isBlank then
        match ls, blankRuns ls with
        | next :: _, run :: runs =>
            if next.isBlank then (l :: run) :: runs else [l] :: run :: runs
        | _, runs => [l] :: runs
      else blankRuns ls

end Line

namespace Rule

/-- The range from the start of a first line to the end of a last one, line end included. -/
def linesRange (first : Line) (rest : List Line) : Range :=
  ⟨(first.start : Int), ((rest.getLast?.getD first).next : Int)⟩

/-- The finding in one run of blank lines: its lines beyond the limit, if there are any. -/
def blankRunIn (limit : Nat) (run : List Line) : Option Finding :=
  match run.drop limit with
  | [] => none
  | first :: rest =>
      some (.removing
        ("More than ".toList ++ Text.ofNat limit ++ " blank line(s) not allowed (".toList ++
          Text.ofNat run.length ++ " found)".toList)
        (linesRange first rest))

/-- The rule against long runs of blank lines. -/
def blankRun : Rule where
  id := "no-multiple-empty-lines".toList
  description := "Disallow more consecutive blank lines than configured".toList
  defaultSeverity := .warning
  isFixable := true
  check limits source :=
    .ok ((Line.blankRuns source.lines).filterMap (blankRunIn limits.blankLines))

end Rule

end SolidityLint

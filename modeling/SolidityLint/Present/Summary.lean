import SolidityLint.Report

/-!
# Summaries

A summary counts the problems of a list of reports by severity, and those of them that are fixable.
-/

namespace SolidityLint

/-- The numbers of problems in some reports. -/
structure Summary where
  /-- The number of errors. -/
  errors : Nat
  /-- The number of warnings. -/
  warnings : Nat
  /-- The number of fixable errors. -/
  fixableErrors : Nat
  /-- The number of fixable warnings. -/
  fixableWarnings : Nat
  deriving DecidableEq, Repr

namespace Summary

/-- The number of problems. -/
def problems (s : Summary) : Nat :=
  s.errors + s.warnings

/-- The summary of no report. -/
def zero : Summary :=
  ⟨0, 0, 0, 0⟩

/-- The sum of two summaries. -/
def add (a b : Summary) : Summary :=
  ⟨a.errors + b.errors, a.warnings + b.warnings, a.fixableErrors + b.fixableErrors,
    a.fixableWarnings + b.fixableWarnings⟩

/-- The summary of one report. -/
def ofReport (r : Report) : Summary where
  errors := r.errorCount
  warnings := r.warningCount
  fixableErrors := r.diagnostics.countP fun d => d.isFixable && d.isError
  fixableWarnings := r.diagnostics.countP fun d => d.isFixable && d.isWarning

/-- The summary of some reports. -/
def ofReports (rs : List Report) : Summary :=
  rs.foldr (fun r s => (ofReport r).add s) zero

/-- The problems of some reports are counted in the diagnostics of all of them. -/
theorem ofReports_eq (rs : List Report) :
    ofReports rs =
      let ds := rs.flatMap (·.diagnostics)
      ⟨ds.countP (·.isError), ds.countP (·.isWarning), ds.countP fun d => d.isFixable && d.isError,
        ds.countP fun d => d.isFixable && d.isWarning⟩ := by
  induction rs with
  | nil => rfl
  | cons r rs ih =>
      rw [ofReports, List.foldr_cons, ← ofReports, ih]
      simp only [List.flatMap_cons, List.countP_append]
      rfl

end Summary

/-- A number of things, with the word for them in the singular or the plural. -/
def counted (n : Nat) (word : Text) : Text :=
  Text.ofNat n ++ ' ' :: word ++ if n = 1 then [] else ['s']

namespace Summary

/-- The number of problems in words. -/
def problemsText (s : Summary) : Text :=
  counted s.problems "problem".toList

/-- The numbers of errors and warnings in words. -/
def severitiesText (s : Summary) : Text :=
  counted s.errors "error".toList ++ ", ".toList ++ counted s.warnings "warning".toList

end Summary

end SolidityLint

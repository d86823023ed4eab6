import SolidityLint.Present.Json

/-!
# Reports as tests

This presentation follows the Test Anything Protocol: each file is a test, which fails if the file
has problems; these follow in a block of their own.
-/

namespace SolidityLint.Tap

/-- The entry of one problem. -/
def entry (r : Row) : List Text :=
  ["    - message: ".toList ++ Json.quoted r.diagnostic.message,
    "      severity: ".toList ++ r.diagnostic.severity.name,
    "      ruleId: ".toList ++ r.diagnostic.rule,
    "      line: ".toList ++ Text.ofNat r.line,
    "      column: ".toList ++ Text.ofNat r.column]

/-- The test of one file, with its number. -/
def test (number : Nat) (r : Report) : List Text :=
  let subject := Text.ofNat number ++ " - ".toList ++ r.path
  match r.rows with
  | [] => ["ok ".toList ++ subject]
  | rows =>
      ["not ok ".toList ++ subject, "  ---".toList, "  messages:".toList] ++ rows.flatMap entry ++
        ["  ...".toList]

/-- The version, the plan and the tests of all files. -/
def lines (rs : List Report) : List Text :=
  ["TAP version 13".toList, "1..".toList ++ Text.ofNat rs.length] ++
    (rs.zipIdx 1).flatMap fun (r, number) => test number r

/-- The presentation of some reports. -/
def present (rs : List Report) : Text :=
  Text.join ['\n'] (lines rs)

end SolidityLint.Tap

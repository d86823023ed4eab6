import SolidityLint.Files.Path
import SolidityLint.Files.Wildcard

/-!
# Exclusion of files

A pattern excludes a file by its path seen from a base directory or by its bare name.  Slashes at
the end of a pattern do not count.  A pattern that is the path of a directory, with or without two
stars behind it, excludes everything below that directory.
-/

namespace SolidityLint

namespace Path

/-- A path as it is seen from the base directory: by the names that lead to it from there, or as
it is given if it does not lie there or one of the two holds a null character. -/
def seenFrom (here : Location) (base p : Path) : Text :=
  if base.hasNull || p.hasNull then p.text
  else if (base.resolve here).isPrefixOf (p.resolve here) then
    (⟨.here, (p.resolve here).drop (base.resolve here).length⟩ : Path).text
  else p.text

end Path

namespace Exclusion

/-- The two stars that a pattern for all that lies below a directory ends in. -/
def belowMark : Text := "/**".toList

/-- The directory that a pattern names: the pattern without the two stars at its end. -/
def directoryOf (pattern : Text) : Text :=
  if pattern.endsWith belowMark then pattern.take (pattern.length - belowMark.length) else pattern

/-- A pattern without the slashes at its end. -/
def withoutSlashes (pattern : Text) : Text :=
  pattern.trimEnd (· == '/')

/-- Does a pattern exclude the file that is seen as `seen` and has a given bare name? -/
def excludes (seen name pattern : Text) : Bool :=
  let p := withoutSlashes pattern
  Wildcard.textMatches p seen || Wildcard.textMatches p name ||
    seen.startsWith (directoryOf p ++ ['/'])

end Exclusion

namespace Path

/-- Do patterns exclude a path when the patterns are read from the base directory? -/
def isExcluded (here : Location) (base : Path) (patterns : List Text) (p : Path) : Bool :=
  patterns.any (Exclusion.excludes (seenFrom here base p) p.name)

end Path

end SolidityLint

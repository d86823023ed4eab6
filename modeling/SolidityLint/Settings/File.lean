import SolidityLint.Files.Tree

/-!
# Files that settings are read from

A settings file or an ignore file that was named explicitly has to be there and readable; what is
wrong with it is reported together with its path.
-/

namespace SolidityLint

/-- What is wrong with a file that settings are read from. -/
inductive SettingsFileFault where
  /-- The settings file is not there. -/
  | noSettingsFile
  /-- The settings file is not a document. -/
  | malformed
  /-- The ignore file is not there. -/
  | noIgnoreFile
  /-- The ignore file could not be read. -/
  | unreadableIgnoreFile (error : FileError)
  deriving DecidableEq, Repr

namespace SettingsFileFault

/-- What is wrong, without the path. -/
def message : SettingsFileFault → Text
  | noSettingsFile => "config file does not exist".toList
  | malformed => "invalid TOML: malformed document".toList
  | noIgnoreFile => "ignore file does not exist".toList
  | unreadableIgnoreFile error => "cannot read ignore file: ".toList ++ error.message

end SettingsFileFault

/-- A file that settings could not be read from. -/
structure SettingsFileError where
  /-- The path of the file. -/
  path : Path
  /-- What is wrong with it. -/
  fault : SettingsFileFault
  deriving DecidableEq, Repr

namespace SettingsFileError

/-- The message that reports a file that settings could not be read from. -/
def message (e : SettingsFileError) : Text :=
  e.path.text ++ ": ".toList ++ e.fault.message

end SettingsFileError

end SolidityLint

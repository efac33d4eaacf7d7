import Scaffolding.Path.Basic
import Scaffolding.Provider.Name

/-!
# What can go wrong while a provider is made

A failure says what was refused or missing, and where.  Each has a message of one line, a category
that tells whose fault it is, and suggestions of what to do about it.  A crash is no failure:
whoever meets one does not get to answer, and leaves a message behind.
-/

namespace Scaffolding

/-- Why a provider could not be made. -/
inductive Failure where
  /-- The text is not the name of a provider. -/
  | invalidName (name reason : String)
  /-- The template is not there. -/
  | templateUnavailable (template : String) (path : Path) (reason : String)
  /-- The template is there and cannot be read as text. -/
  | templateUnreadable (template : String) (path : Path) (reason : String)
  /-- A directory or a file could not be made. -/
  | filesystem (path : Path) (reason : String)
  /-- Whoever used the store before left it locked. -/
  | lockPoisoned
  deriving DecidableEq, Repr

namespace Failure

/-- Whose fault a failure is. -/
inductive Category where
  /-- The request was wrong. -/
  | validation
  /-- Something that should be there was not. -/
  | notFound
  /-- Anything else. -/
  | internal
  deriving DecidableEq, Repr

/-- The failure that stands for a fault in a name. -/
def ofNameFault (name : String) (fault : Provider.NameFault) : Failure :=
  .invalidName name fault.reason

/-- A failure in one line. -/
def message : Failure → String
  | .invalidName name reason => "Invalid provider name '" ++ name ++ "': " ++ reason
  | .templateUnavailable template path reason =>
    "Template '" ++ template ++ "' could not be read from " ++ path.display ++ ": " ++ reason
  | .templateUnreadable template path reason =>
    "Template '" ++ template ++ "' at " ++ path.display ++ " is unreadable: " ++ reason
  | .filesystem path reason => "Filesystem error at " ++ path.display ++ ": " ++ reason
  | .lockPoisoned => "Adapter state lock poisoned"

/-- The category of a failure. -/
def category : Failure → Category
  | .invalidName .. => .validation
  | .templateUnavailable .. => .notFound
  | .templateUnreadable .. | .filesystem .. | .lockPoisoned => .internal

/-- What to do about a failure, a line each. -/
def suggestions : Failure → List String
  | .invalidName name _ =>
    [ "'" ++ name ++ "' cannot be used as a provider name",
      "Use only letters (A-Z, a-z), digits (0-9), underscores (_) and dashes (-)",
      "Examples: Iris3, face_quality, finger-nfiq" ]
  | .templateUnavailable template path _ =>
    [ "Expected template '" ++ template ++ "' at " ++ path.display,
      "Check that BIQT_HOME points at the BIQT installation directory",
      "The installation should contain scripts/templates/" ]
  | .templateUnreadable _ path _ =>
    [ path.display ++ " should be a regular UTF-8 text file",
      "Reinstall the BIQT templates if the file is damaged" ]
  | .filesystem path _ =>
    [ "Failed to access: " ++ path.display,
      "Check that you have write permissions",
      "Files written before the failure were left in place" ]
  | .lockPoisoned => ["This is a bug, please report it"]

end Failure

/-- Why somebody broke off. -/
structure Crash where
  message : String
  deriving DecidableEq, Repr

end Scaffolding

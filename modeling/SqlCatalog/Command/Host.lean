import SqlCatalog.Embedded.Database
/-!
# What commands depend on

A command reads files and opens databases by path; a `Host` is what it finds
there. What a command did is an `Outcome`.
-/
namespace SqlCatalog.Command

/-- Why there is no text at a path. -/
inductive PathError
  | missing
  | isDirectory
  | notADirectory
  | notText
  /-- A component of more bytes than a directory can hold, or a path of too many. -/
  | tooLong
  /-- The path has a null character in it. -/
  | nullInPath
  /-- Any other reason, in words. -/
  | other (reason : String)
deriving DecidableEq

def PathError.message : PathError → String
  | missing => "No such file or directory (os error 2)"
  | isDirectory => "Is a directory (os error 21)"
  | notADirectory => "Not a directory (os error 20)"
  | notText => "stream did not contain valid UTF-8"
  | tooLong => "File name too long (os error 36)"
  | nullInPath => "file name contained an unexpected NUL byte"
  | other reason => reason

/-- The files and databases that a command can reach. -/
structure Host where
  /-- The text of the file at a path. -/
  readText : String → Except PathError String
  /-- The database at a path, a new one where there is no file yet; `none` where
  there cannot be one. -/
  openDatabase : String → Option Embedded.Database

/-- What a command did. -/
structure Outcome where
  stdout : String
  /-- Why it failed, outermost reason first. -/
  error : Option String
  /-- The database file that it leaves behind, by path. -/
  saved : Option (String × Embedded.Database)

namespace Outcome

def ok (stdout : String) : Outcome := ⟨stdout, none, none⟩

def fail (reason : String) : Outcome := ⟨"", some reason, none⟩

/-- Leave a database behind. -/
def saving (o : Outcome) (path : String) (d : Embedded.Database) : Outcome :=
  { o with saved := some (path, d) }

end Outcome

end SqlCatalog.Command

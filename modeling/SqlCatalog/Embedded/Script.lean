import SqlCatalog.Embedded.Statement
import SqlCatalog.Text.Utf8
/-!
# Scripts

A script is a text of statements with a `;` behind each. It is taken apart as
its tails: what is left of the script from each statement on.
-/
namespace SqlCatalog.Embedded.Script

/-- Where a character stands. -/
inductive Place
  | plain
  | quote
  | comment
deriving DecidableEq

/-- The place behind a character, given the one that follows it. -/
def Place.after (p : Place) (c : Char) (next : Option Char) : Place :=
  match p with
  | .plain => if c = '"' then .quote else if c = '-' ∧ next = some '-' then .comment else .plain
  | .quote => if c = '"' then .plain else .quote
  | .comment => if c = '\n' then .plain else .comment

/-- The first statement, and what follows its `;`, if there is one. -/
def cut (p : Place) : List Char → List Char × Option (List Char)
  | [] => ([], none)
  | c :: rest =>
    if c = ';' ∧ p = .plain then ([], some rest)
    else
      let (statement, more) := cut (p.after c rest.head?) rest
      (c :: statement, more)

/-- The first statement of a script. -/
def head (script : List Char) : List Char := (cut .plain script).1

/-- What is left of a script from each of its statements on; `fuel` bounds their
number. -/
def tailsWithin : Nat → List Char → List (List Char)
  | 0, _ => []
  | fuel + 1, script =>
    script :: match (cut .plain script).2 with
      | some rest => tailsWithin fuel rest
      | none => []

def tails (script : List Char) : List (List Char) := tailsWithin (script.length + 1) script

/-- Drop blanks and comments. -/
def skipLayout (inComment : Bool) : List Char → List Char
  | [] => []
  | c :: rest =>
    if inComment then skipLayout (c != '\n') rest
    else if c.isWhitespace then skipLayout false rest
    else if c = '-' ∧ rest.head? = some '-' then skipLayout true rest
    else c :: rest

/-- The text from the word behind the first `words` words on. -/
def behind : Nat → List Char → List Char
  | 0, cs => skipLayout false cs
  | words + 1, cs => behind words ((skipLayout false cs).dropWhile Token.isWordChar)

/-- How many bytes come before the word behind the first `words` words. -/
def offset (words : Nat) (cs : List Char) : Nat :=
  Text.utf8Size cs - Text.utf8Size (behind words cs)

end SqlCatalog.Embedded.Script

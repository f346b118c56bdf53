import SqlCatalog.Toml.Quoted
/-!
# Tokens of TOML

A document is split into tokens before anything is known of its structure. An
atom is what stands between blanks, quoted texts and punctuation; it may turn
out to be part of a key, of a number, of a date, or nothing of the kind. A quoted
text is kept with its quotes and escapes. Comments leave no token.
-/
namespace SqlCatalog.Toml

/-- A token. -/
inductive Token
  | dot
  | equals
  | comma
  | openBracket
  | closeBracket
  | openBrace
  | closeBrace
  | space
  | tab
  | newline
  /-- A quoted text as it is written; its closing quotes may be missing. -/
  | quoted (text : List Char)
  | atom (text : List Char)
deriving DecidableEq

namespace Token

/-- The token of a blank or a punctuation mark. -/
def ofMark? (c : Char) : Option Token :=
  match c with
  | '.' => some dot
  | '=' => some equals
  | ',' => some comma
  | '[' => some openBracket
  | ']' => some closeBracket
  | '\x7b' => some openBrace
  | '\x7d' => some closeBrace
  | ' ' => some space
  | '\t' => some tab
  | _ => none

/-- A character that goes on with an atom. A quote does. -/
def isAtomChar (c : Char) : Bool :=
  (ofMark? c).isNone && c != '#' && c != '\r' && c != '\n'

/-- A blank within a line. -/
def isBlank : Token → Bool
  | space | tab => true
  | _ => false

/-- A blank or the end of a line. -/
def isLayout : Token → Bool
  | space | tab | newline => true
  | _ => false

/-! ## Splitting a text -/

/-- Where the lexer stands: between tokens, or in something that was begun. What
was read of a token is kept backwards. -/
inductive Place
  | between
  | comment
  | atom (read : List Char)
  /-- In a quoted text of one line; `escaped` behind a backslash that holds for
  the next character. -/
  | line (mark : Char) (escaped : Bool) (read : List Char)
  /-- In a quoted text that three quotes close. -/
  | block (mark : Char) (escaped : Bool) (read : List Char)

/-- Falls where the lexer passes on without reading a character. -/
def Place.rank : Place → Nat
  | between => 0
  | _ => 1

/-- A backslash that takes the next character along, be it a quote or another
backslash. Only texts in double quotes have these. -/
def startsEscape (mark : Char) (escaped : Bool) (c : Char) : Bool :=
  mark == '"' && c == '\\' && !escaped

/-- The quotes that end a text closed by three of them: these, and up to two
more. -/
def closing (mark : Char) (cs : List Char) : List Char :=
  let run := (cs.takeWhile (· == mark)).take 5
  if run.length < 3 then [] else run

/-- Split a text into tokens, behind those in `done`, which are in reverse order.
A control character in a comment, or a carriage return without a line feed, ends
this in failure. -/
def scan (done : List Token) (place : Place) (cs : List Char) : Option (List Token) :=
  match place, cs with
  | .between, [] | .comment, [] => some done.reverse
  | .atom read, [] => some (Token.atom read.reverse :: done).reverse
  | .line _ _ read, [] | .block _ _ read, [] => some (quoted read.reverse :: done).reverse
  | .between, '\r' :: '\n' :: rest => scan (newline :: done) .between rest
  | .between, c :: rest =>
    match ofMark? c with
    | some token => scan (token :: done) .between rest
    | none =>
      if c = '\n' then scan (newline :: done) .between rest
      else if c = '\r' then none
      else if c = '#' then scan done .comment rest
      else if c = '"' ∨ c = '\'' then
        if rest.take 2 = [c, c] then scan done (.block c false [c, c, c]) (rest.drop 2)
        else scan done (.line c false [c]) rest
      else scan done (.atom [c]) rest
  | .comment, c :: rest =>
    if c = '\n' ∨ c = '\r' then scan done .between (c :: rest)
    else if Quoting.isTextChar c then scan done .comment rest
    else none
  | .atom read, c :: rest =>
    if isAtomChar c then scan done (.atom (c :: read)) rest
    else scan (Token.atom read.reverse :: done) .between (c :: rest)
  | .line mark escaped read, c :: rest =>
    if c = '\n' then scan (quoted read.reverse :: done) .between (c :: rest)
    else if c = mark ∧ !escaped then scan (quoted (c :: read).reverse :: done) .between rest
    else scan done (.line mark (startsEscape mark escaped c) (c :: read)) rest
  | .block mark escaped read, c :: rest =>
    match if escaped then [] else closing mark (c :: rest) with
    | quote :: quotes =>
      scan (quoted (read.reverse ++ quote :: quotes) :: done) .between (rest.drop quotes.length)
    | [] => scan done (.block mark (startsEscape mark escaped c) (c :: read)) rest
termination_by (cs.length, place.rank)
decreasing_by
  all_goals simp_wf
  all_goals simp only [Place.rank, Prod.lex_def, true_and]
  all_goals omega

/-- The tokens of a text. -/
def split (cs : List Char) : Option (List Token) := scan [] .between cs

end Token

end SqlCatalog.Toml

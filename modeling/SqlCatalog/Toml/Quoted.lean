/-!
# Quoted text in TOML

The four kinds of quoted text differ in their quote, in whether a backslash
escapes, and in whether they run over lines. `Quoting.body` reads the text
behind the opening quotes, up to and with the closing ones.
-/
namespace SqlCatalog.Toml

/-- One kind of quoted text. -/
structure Quoting where
  mark : Char
  /-- A backslash starts an escape. -/
  escapes : Bool
  /-- The text may run over lines and is closed by three quotes. -/
  multiline : Bool

/-- Where the reader of a quoted text stands. -/
inductive QuotedState
  | plain
  /-- After a backslash. -/
  | escape
  /-- Inside a hexadecimal code with `left` digits to come. -/
  | code (left : Nat) (value : Nat)
  /-- After a backslash that joins lines; `broken` once a line end was seen. -/
  | join (broken : Bool)

namespace QuotedState

/-- Falls where a state passes on without reading a character. -/
def rank : QuotedState → Nat
  | escape => 2
  | join _ => 1
  | _ => 0

end QuotedState

namespace Quoting

/-- Tab, and all that is not a control character. -/
def isTextChar (c : Char) : Bool := c == '\t' || (0x20 ≤ c.toNat && c != '\x7f')

/-- The value of a hexadecimal digit. -/
def hexValue? (c : Char) : Option Nat :=
  if c.isDigit then some (c.toNat - 48)
  else if 'a' ≤ c ∧ c ≤ 'f' then some (c.toNat - 87)
  else if 'A' ≤ c ∧ c ≤ 'F' then some (c.toNat - 55)
  else none

/-- The character of a code point. -/
def charOf? (n : Nat) : Option Char := if n.isValidChar then some (Char.ofNat n) else none

/-- Escapes of one letter. -/
def simpleEscape? (c : Char) : Option Char :=
  match c with
  | 'b' => some '\x08'
  | 't' => some '\t'
  | 'n' => some '\n'
  | 'f' => some '\x0c'
  | 'r' => some '\r'
  | 'e' => some '\x1b'
  | '"' => some '"'
  | '\\' => some '\\'
  | _ => none

/-- How many hexadecimal digits follow this letter. -/
def codeLength? (c : Char) : Option Nat :=
  match c with
  | 'x' => some 2
  | 'u' => some 4
  | 'U' => some 8
  | _ => none

/-- What stands behind three closing quotes; up to two further quotes before
them belong to the text. -/
def close? (mark : Char) (cs : List Char) : Option (List Char × List Char) :=
  let run := min 5 (cs.takeWhile (· == mark)).length
  if run < 3 then none else some (List.replicate (run - 3) mark, cs.drop run)

/-- Put a character in front of the text that was read. -/
def push (c : Char) : Option (List Char × List Char) → Option (List Char × List Char) :=
  Option.map (fun r => (c :: r.1, r.2))

/-- Read a quoted text to its end: the text, and what follows it. -/
def body (q : Quoting) (state : QuotedState) (cs : List Char) :
    Option (List Char × List Char) :=
  match state, cs with
  | _, [] => none
  | .plain, c :: rest =>
    if c = q.mark then
      if q.multiline then
        match close? q.mark (c :: rest) with
        | some closed => some closed
        | none => push c (body q .plain rest)
      else some ([], rest)
    else if c = '\\' ∧ q.escapes then body q .escape rest
    else if isTextChar c || (q.multiline && c == '\n') then push c (body q .plain rest)
    else if q.multiline && c == '\r' && rest.head? == some '\n' then push c (body q .plain rest)
    else none
  | .escape, c :: rest =>
    match simpleEscape? c, codeLength? c with
    | some x, _ => push x (body q .plain rest)
    | none, some n => body q (.code n 0) rest
    | none, none => if q.multiline then body q (.join false) (c :: rest) else none
  | .code left value, c :: rest =>
    match hexValue? c with
    | none => none
    | some h =>
      if left = 1 then
        match charOf? (value * 16 + h) with
        | some x => push x (body q .plain rest)
        | none => none
      else body q (.code (left - 1) (value * 16 + h)) rest
  | .join broken, c :: rest =>
    if c = ' ' ∨ c = '\t' then body q (.join broken) rest
    else if c = '\n' then body q (.join true) rest
    else if c = '\r' ∧ rest.head? = some '\n' then body q (.join broken) rest
    else if broken then body q .plain (c :: rest)
    else none
termination_by (cs.length, state.rank)
decreasing_by
  all_goals simp_wf
  all_goals simp [QuotedState.rank, Prod.lex_def]

/-- Without the line end that may follow the opening quotes. -/
def skipLineEnd : List Char → List Char
  | '\n' :: rest => rest
  | '\r' :: '\n' :: rest => rest
  | cs => cs

/-- A quoted text of one line. -/
def line? : List Char → Option (String × List Char)
  | '"' :: rest => (body ⟨'"', true, false⟩ .plain rest).map fun r => (String.ofList r.1, r.2)
  | '\'' :: rest => (body ⟨'\'', false, false⟩ .plain rest).map fun r => (String.ofList r.1, r.2)
  | _ => none

/-- A quoted text of any kind. -/
def text? : List Char → Option (String × List Char)
  | '"' :: '"' :: '"' :: rest =>
    (body ⟨'"', true, true⟩ .plain (skipLineEnd rest)).map fun r => (String.ofList r.1, r.2)
  | '\'' :: '\'' :: '\'' :: rest =>
    (body ⟨'\'', false, true⟩ .plain (skipLineEnd rest)).map fun r => (String.ofList r.1, r.2)
  | cs => line? cs

end Quoting

end SqlCatalog.Toml

/-!
# Dates and times

The date and time literals of TOML: a date, a time, or both with an optional
offset. Seconds may be left out. Fields are checked against the calendar; a
second of 60 is allowed. `Moment.write` gives the one form in which a moment is
handed on as text.
-/
namespace SqlCatalog.Toml

/-- The digits at the start of a text, at least one, and what follows them. -/
def digits? (cs : List Char) : Option (List Char × List Char) :=
  match cs.takeWhile Char.isDigit with
  | [] => none
  | ds => some (ds, cs.dropWhile Char.isDigit)

structure Date where
  year : Nat
  month : Nat
  day : Nat
deriving DecidableEq

structure Time where
  hour : Nat
  minute : Nat
  second : Nat
  /-- The digits after the point. -/
  fraction : List Char
deriving DecidableEq

/-- How far a local time is from UTC. -/
inductive Offset
  | utc
  | minutes (n : Int)
deriving DecidableEq

/-- A date, a time of day, or both; only both together have an offset. -/
structure Moment where
  date : Option Date
  time : Option Time
  offset : Option Offset
deriving DecidableEq

namespace Moment

/-- The number that two digits write. -/
def pair? (a b : Char) : Option Nat :=
  if a.isDigit && b.isDigit then some ((a.toNat - 48) * 10 + (b.toNat - 48)) else none

/-- A two-digit number of at most `limit`. -/
def field? (limit : Nat) (a b : Char) : Option Nat :=
  (pair? a b).filter (· ≤ limit)

def isLeapYear (year : Nat) : Bool :=
  year % 4 == 0 && (year % 100 != 0 || year % 400 == 0)

def daysInMonth (year month : Nat) : Nat :=
  match month with
  | 2 => if isLeapYear year then 29 else 28
  | 4 | 6 | 9 | 11 => 30
  | _ => 31

/-- A date `YYYY-MM-DD`, and what follows it. -/
def date? : List Char → Option (Date × List Char)
  | a :: b :: c :: d :: '-' :: e :: f :: '-' :: g :: h :: rest => do
    let century ← pair? a b
    let year ← pair? c d
    let month ← field? 12 e f
    let day ← pair? g h
    let year := century * 100 + year
    if 1 ≤ month ∧ 1 ≤ day ∧ day ≤ daysInMonth year month then some (⟨year, month, day⟩, rest)
    else none
  | _ => none

/-- A time `HH:MM`, `HH:MM:SS` or `HH:MM:SS.f`, and what follows it. -/
def time? : List Char → Option (Time × List Char)
  | a :: b :: ':' :: c :: d :: rest => do
    let hour ← field? 23 a b
    let minute ← field? 59 c d
    match rest with
    | ':' :: e :: f :: rest => do
      let second ← field? 60 e f
      match rest with
      | '.' :: rest => do
        let (fraction, rest) ← digits? rest
        some (⟨hour, minute, second, fraction⟩, rest)
      | rest => some (⟨hour, minute, second, []⟩, rest)
    | rest => some (⟨hour, minute, 0, []⟩, rest)
  | _ => none

/-- An offset `Z`, `+HH:MM`, `-HH:MM` or nothing, up to the end. -/
def offset? : List Char → Option (Option Offset)
  | [] => some none
  | ['Z'] | ['z'] => some (some .utc)
  | [sign, a, b, ':', c, d] => do
    let hours ← field? 23 a b
    let minutes ← field? 59 c d
    let total : Int := hours * 60 + minutes
    if sign = '+' then some (some (.minutes total))
    else if sign = '-' then some (some (.minutes (-total)))
    else none
  | _ => none

/-- A date or time literal. -/
def read? (cs : List Char) : Option Moment :=
  match date? cs with
  | some (date, []) => some ⟨some date, none, none⟩
  | some (date, delimiter :: rest) =>
    if delimiter = 'T' ∨ delimiter = 't' ∨ delimiter = ' ' then do
      let (time, rest) ← time? rest
      let offset ← offset? rest
      some ⟨some date, some time, offset⟩
    else none
  | none =>
    match time? cs with
    | some (time, []) => some ⟨none, some time, none⟩
    | _ => none

/-! ## Writing -/

/-- A number in at least `width` digits. -/
def padded (width n : Nat) : String := String.ofList ((Nat.toDigits 10 n).leftpad width '0')

end Moment

def Date.write (d : Date) : String :=
  Moment.padded 4 d.year ++ "-" ++ Moment.padded 2 d.month ++ "-" ++ Moment.padded 2 d.day

/-- Fractions go down to nanoseconds, without zeros at their end. -/
def Time.write (t : Time) : String :=
  let fraction := ((t.fraction.take 9).reverse.dropWhile (· == '0')).reverse
  Moment.padded 2 t.hour ++ ":" ++ Moment.padded 2 t.minute ++ ":" ++ Moment.padded 2 t.second ++
    (if fraction.isEmpty then "" else "." ++ String.ofList fraction)

def Offset.write : Offset → String
  | utc => "Z"
  | minutes n =>
    (if n < 0 then "-" else "+") ++ Moment.padded 2 (n.natAbs / 60) ++ ":" ++
      Moment.padded 2 (n.natAbs % 60)

/-- A moment as text, with all its fields down to the second. -/
def Moment.write (m : Moment) : String :=
  match m.date, m.time with
  | some d, some t => d.write ++ "T" ++ t.write ++ (m.offset.map Offset.write).getD ""
  | some d, none => d.write
  | none, some t => t.write
  | none, none => ""

end SqlCatalog.Toml

import Plantilla.Text.Numeral
/-!
# Moment — dates and times of a TOML file

A moment is a date, a time, or both, and only with both an offset.  It is checked against the calendar and written
back in one way: a `T` between date and time, the fraction without zeros at its end, and `Z` or hours and minutes
for the offset.

A moment stands bare in a file, where `moment?` reads it off the head of what is left, or makes up the whole of a
text, where `Moment.ofText?` reads it.  The second way is laxer: it knows an hour 24, and an offset is only bounded
by a day, however its minutes are written.
-/
namespace Plantilla
namespace Toml

structure Date where
  year : Nat
  month : Nat
  day : Nat
deriving DecidableEq, Repr

/-- A time of the day, down to nanoseconds. -/
structure Time where
  hour : Nat
  minute : Nat
  second : Nat
  nanosecond : Nat
deriving DecidableEq, Repr

/-- How far a time is ahead of the universal one. -/
inductive Offset where
  | universal
  | minutes (n : Int)
deriving DecidableEq, Repr

/-- A date, a time, or both, with an offset only beside both. -/
structure Moment where
  date : Option Date
  time : Option Time
  offset : Option Offset
deriving DecidableEq, Repr

/-! ## Writing -/

/-- A number with zeros in front up to a width. -/
def padded (width n : Nat) : String :=
  let ds := (Numeral.text n).toList
  String.ofList (List.replicate (width - ds.length) '0' ++ ds)

def Date.display (d : Date) : String := padded 4 d.year ++ "-" ++ padded 2 d.month ++ "-" ++ padded 2 d.day

def fractionText (nanosecond : Nat) : String :=
  if nanosecond = 0 then ""
  else "." ++ String.ofList ((padded 9 nanosecond).toList.reverse.dropWhile (· == '0')).reverse

def Time.display (t : Time) : String :=
  padded 2 t.hour ++ ":" ++ padded 2 t.minute ++ ":" ++ padded 2 t.second ++ fractionText t.nanosecond

def Offset.display : Offset → String
  | .universal => "Z"
  | .minutes n =>
    (if n < 0 then "-" else "+") ++ padded 2 (n.natAbs / 60) ++ ":" ++ padded 2 (n.natAbs % 60)

def Moment.display (m : Moment) : String :=
  ((m.date.map Date.display).getD "") ++ (if m.date.isSome && m.time.isSome then "T" else "")
    ++ ((m.time.map Time.display).getD "") ++ ((m.offset.map Offset.display).getD "")

/-! ## Reading -/

/-- Exactly two digits, as a number from `low` to `high`. -/
def twoDigits? (low high : Nat) : List Char → Option (Nat × List Char)
  | a :: b :: r =>
    let n := Numeral.ofDigits [a, b]
    if Numeral.isDigit a && Numeral.isDigit b && low ≤ n && n ≤ high then some (n, r) else none
  | _ => none

def fourDigits? : List Char → Option (Nat × List Char)
  | a :: b :: c :: d :: r =>
    if [a, b, c, d].all Numeral.isDigit then some (Numeral.ofDigits [a, b, c, d], r) else none
  | _ => none

/-- What follows a character at the head. -/
def after? (c : Char) : List Char → Option (List Char)
  | d :: r => if d = c then some r else none
  | [] => none

def isLeap (year : Nat) : Bool := year % 4 == 0 && (year % 100 != 0 || year % 400 == 0)

def daysIn (year month : Nat) : Nat :=
  if month = 2 then (if isLeap year then 29 else 28)
  else if month = 4 ∨ month = 6 ∨ month = 9 ∨ month = 11 then 30
  else 31

def date? (cs : List Char) : Option (Date × List Char) := do
  let (year, r) ← fourDigits? cs
  let r ← after? '-' r
  let (month, r) ← twoDigits? 1 12 r
  let r ← after? '-' r
  let (day, r) ← twoDigits? 1 31 r
  if day ≤ daysIn year month then some (⟨year, month, day⟩, r) else none

/-- The fraction of a second at the head, cut to nanoseconds; nothing stands for none. -/
def nanoseconds : List Char → Nat × List Char
  | '.' :: r =>
    match r.takeWhile Numeral.isDigit with
    | [] => (0, '.' :: r)
    | ds =>
      let kept := ds.take 9
      (Numeral.ofDigits (kept ++ List.replicate (9 - kept.length) '0'), r.dropWhile Numeral.isDigit)
  | r => (0, r)

/-- The time at the head, its hour at most this one. -/
def time? (lastHour : Nat) (cs : List Char) : Option (Time × List Char) := do
  let (hour, r) ← twoDigits? 0 lastHour cs
  let r ← after? ':' r
  let (minute, r) ← twoDigits? 0 59 r
  let r ← after? ':' r
  let (second, r) ← twoDigits? 0 60 r
  let (nanosecond, r) := nanoseconds r
  some (⟨hour, minute, second, nanosecond⟩, r)

/-- The offset in hours and minutes behind its sign. -/
def offsetMinutes? (cs : List Char) : Option (Nat × List Char) := do
  let (hour, r) ← twoDigits? 0 23 cs
  let r ← after? ':' r
  let (minute, r) ← twoDigits? 0 59 r
  some (60 * hour + minute, r)

/-- The offset at the head, if one stands there. -/
def offset : List Char → Option Offset × List Char
  | c :: r =>
    if c = 'Z' ∨ c = 'z' then (some .universal, r)
    else if c = '+' ∨ c = '-' then
      match offsetMinutes? r with
      | some (n, r) => (some (.minutes (if c = '-' then -(n : Int) else n)), r)
      | none => (none, c :: r)
    else (none, c :: r)
  | [] => (none, [])

/-- Whether a character may stand between a date and a time. -/
def partsDateAndTime (c : Char) : Bool := c == 'T' || c == 't' || c == ' '

/-- The time at the head behind a separator. -/
def timeAfterDate? : List Char → Option (Time × List Char)
  | c :: r => if partsDateAndTime c then time? 23 r else none
  | [] => none

def moment? (cs : List Char) : Option (Moment × List Char) :=
  match date? cs with
  | some (date, r) =>
    match timeAfterDate? r with
    | some (time, r) =>
      let (offset, r) := offset r
      some (⟨some date, some time, offset⟩, r)
    | none => some (⟨some date, none, none⟩, r)
  | none => (time? 23 cs).map fun p => (⟨none, some p.1, none⟩, p.2)

/-! ## Reading a whole text -/

def offsetLimit : Nat := 1440

/-- The offset that makes up a text, or that none does. -/
def wholeOffset? : List Char → Option (Option Offset)
  | [] => some none
  | ['Z'] => some (some .universal)
  | ['z'] => some (some .universal)
  | c :: r => do
    let (hour, r) ← twoDigits? 0 99 r
    let r ← after? ':' r
    let (minute, r) ← twoDigits? 0 99 r
    let n := 60 * hour + minute
    if r ≠ [] ∨ offsetLimit < n then none
    else if c = '+' then some (some (.minutes n))
    else if c = '-' then some (some (.minutes (-n)))
    else none

def wholeTime? (cs : List Char) : Option Moment :=
  match time? 24 cs with
  | some (time, []) => some ⟨none, some time, none⟩
  | _ => none

/-- The date that makes up a text, alone or with a time and perhaps an offset. -/
def wholeDate? (cs : List Char) : Option Moment := do
  let (date, r) ← date? cs
  match r with
  | [] => some ⟨some date, none, none⟩
  | c :: r =>
    if partsDateAndTime c then
      let (time, r) ← time? 24 r
      let offset ← wholeOffset? r
      some ⟨some date, some time, offset⟩
    else none

/-- The moment that makes up a text; it is a time if its third character is a colon. -/
def Moment.ofText? (s : String) : Option Moment :=
  let cs := s.toList
  if cs[2]? = some ':' then wholeTime? cs else wholeDate? cs

end Toml
end Plantilla

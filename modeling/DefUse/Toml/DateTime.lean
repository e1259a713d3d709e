import DefUse.Toml.Trivia

/-!
# Dates and times of TOML

A date, a time, or both with an offset from universal time. The fields have fixed widths, and a text
is taken for a date or a time as soon as its first mark is there.
-/

namespace DefUse.Toml

/-- The value of two digits. -/
def twoDigits : List Char → Option Nat
  | tens :: ones :: _ =>
    if tens.isDigit && ones.isDigit then
      some ((tens.toNat - '0'.toNat) * 10 + (ones.toNat - '0'.toNat))
    else none
  | _ => none

/-- The field of two digits after `start` characters. -/
def field (low high start : Nat) (input : List Char) : Except Stop Nat :=
  match twoDigits (input.drop start) with
  | none => .error (.after start)
  | some value =>
    if low ≤ value && value ≤ high then .ok value
    else .error ((Stop.after start).because .outOfRange)

/-- The mark that has to stand after `start` characters. -/
def fieldMark (mark : Char) (start : Nat) (input : List Char) : Except Stop Unit :=
  if input[start]? = some mark then .ok () else .error (.after start)

def isLeapYear (year : Nat) : Bool := year % 4 = 0 && (year % 100 ≠ 0 || year % 400 = 0)

def daysInMonth (year month : Nat) : Nat :=
  if month = 2 then (if isLeapYear year then 29 else 28)
  else if [4, 6, 9, 11].contains month then 30
  else 31

/-- The year of a text that starts like a date. -/
def dateYear (input : List Char) : Option Nat := do
  let century ← twoDigits input
  let year ← twoDigits (input.drop 2)
  if input[4]? = some '-' then some (century * 100 + year) else none

/-- The rest of a date after its year. -/
def dateFields (year : Nat) (input : List Char) : Except Stop Unit := do
  let month ← field 1 12 5 input
  fieldMark '-' 7 input
  let day ← field 1 31 8 input
  if daysInMonth year month < day then .error ((Stop.after 8).because .outOfRange) else .ok ()

def dateCount : Nat := 10

/-- The text starts like a time. -/
def startsTime (input : List Char) : Bool :=
  (twoDigits input).any (· ≤ 23) && input[2]? = some ':'

/-- The number of characters of a time. -/
def timeFields (input : List Char) : Except Stop Nat := do
  let _ ← field 0 59 3 input
  fieldMark ':' 5 input
  let _ ← field 0 60 6 input
  match input.drop 8 with
  | '.' :: rest =>
    let count := (rest.takeWhile Char.isDigit).length
    .ok (if count = 0 then 8 else 9 + count)
  | _ => .ok 8

/-- The number of characters of an offset, which is optional. -/
def timeOffset (input : List Char) : Except Stop Nat :=
  match input with
  | mark :: _ =>
    if mark = 'Z' || mark = 'z' then .ok 1
    else if mark = '+' || mark = '-' then do
      let _ ← field 0 23 1 input
      fieldMark ':' 3 input
      let _ ← field 0 59 4 input
      .ok 6
    else .ok 0
  | [] => .ok 0

/-- A time after a date, with the mark between them. Without one the date stands alone. -/
def timeOfDay (input : List Char) : Except Stop Nat :=
  match input with
  | mark :: rest =>
    if (mark = 'T' || mark = 't' || mark = ' ') && startsTime rest then do
      let count ← explain (·.shift 1) (timeFields rest)
      let offset ← explain (fun stop ↦ (stop.shift (count + 1)).inside .timeOffset)
        (timeOffset (rest.drop count))
      .ok (count + 1 + offset)
    else .ok 0
  | [] => .ok 0

/-- A date or a time, if the text starts like one. -/
def dateTime (input : List Char) : Option (Except Stop (Value × Nat)) :=
  match dateYear input with
  | some year =>
    some <| explain (·.inside .dateTime) do
      dateFields year input
      let count ← explain (·.shift dateCount) (timeOfDay (input.drop dateCount))
      .ok (.dateTime, dateCount + count)
  | none =>
    if startsTime input then
      some <| explain (·.inside .time) do
        .ok (.dateTime, ← timeFields input)
    else none

end DefUse.Toml

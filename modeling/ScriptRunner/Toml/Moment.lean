import ScriptRunner.Text.Basic

/-!
# TOML dates and times

A date, a time, or both with or without an offset. The day must exist in its month; the second may
be a leap second.
-/

namespace ScriptRunner.Toml

/-- The number in the next `places` digits, and what follows. -/
def digits? (places : Nat) (s : Text) : Option (Nat × Text) :=
  let digits := s.take places
  if digits.length = places ∧ digits.all Char.isDigit then
    some (digits.foldl (fun n c => 10 * n + (c.toNat - '0'.toNat)) 0, s.drop places)
  else none

/-- What follows a character. -/
def after? (c : Char) : Text → Option Text
  | [] => none
  | d :: rest => if d = c then some rest else none

/-- Whether a year has a leap day. -/
def isLeapYear (year : Nat) : Bool := year % 4 == 0 && (year % 100 != 0 || year % 400 == 0)

/-- The number of days in a month of a year. -/
def daysIn (year month : Nat) : Nat :=
  if month = 2 then if isLeapYear year then 29 else 28
  else if month = 4 ∨ month = 6 ∨ month = 9 ∨ month = 11 then 30
  else 31

/-- What follows a date. -/
def afterDate? (s : Text) : Option Text := do
  let (year, s) ← digits? 4 s
  let (month, s) ← digits? 2 (← after? '-' s)
  let (day, s) ← digits? 2 (← after? '-' s)
  if 1 ≤ month ∧ month ≤ 12 ∧ 1 ≤ day ∧ day ≤ daysIn year month then some s else none

/-- What follows an hour and a minute. -/
def afterMinute? (s : Text) : Option Text := do
  let (hour, s) ← digits? 2 s
  let (minute, s) ← digits? 2 (← after? ':' s)
  if hour ≤ 23 ∧ minute ≤ 59 then some s else none

/-- What follows the fraction of a second, if there is one. -/
def afterFraction? : Text → Option Text
  | '.' :: rest =>
    if (rest.head?.map Char.isDigit).getD false then some (rest.dropWhile Char.isDigit) else none
  | s => some s

/-- What follows a time. -/
def afterTime? (s : Text) : Option Text := do
  let (second, s) ← digits? 2 (← after? ':' (← afterMinute? s))
  if second ≤ 60 then afterFraction? s else none

/-- What follows an offset, if there is one. -/
def afterOffset? : Text → Option Text
  | [] => some []
  | c :: rest =>
    if c = 'Z' ∨ c = 'z' then some rest
    else if c = '+' ∨ c = '-' then afterMinute? rest
    else none

/-- Whether a text is a date. -/
def isDate (s : Text) : Bool := afterDate? s == some []

/-- Whether a text is a time with or without an offset. -/
def isTimeInDate (s : Text) : Bool := ((afterTime? s).bind afterOffset?) == some []

/-- Whether a text is a date and a time, with a letter between them. -/
def isDateTime (s : Text) : Bool :=
  match afterDate? s with
  | some (c :: rest) => (c == 'T' || c == 't') && isTimeInDate rest
  | _ => false

/-- Whether a text is a moment that is written as one word. -/
def isMoment (s : Text) : Bool := isDate s || isDateTime s || afterTime? s == some []

end ScriptRunner.Toml

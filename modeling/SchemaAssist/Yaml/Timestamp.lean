/-
  Dates and times.

  A date is written with hyphens.  A time of day may follow it, with a fraction of a second, of
  which six digits count, and with a time zone.  A text of another form is no date, and one of this
  form may still name a day that does not exist.
-/
import SchemaAssist.Fault

namespace SchemaAssist.Yaml

structure Date where
  year : Nat
  month : Nat
  day : Nat
  deriving DecidableEq, Repr

/-- A time of day, and the minutes by which its zone is ahead. -/
structure Clock where
  hour : Nat
  minute : Nat
  second : Nat
  microsecond : Nat
  offset : Option Int
  deriving DecidableEq, Repr

/-- A day, or a moment of it. -/
structure Timestamp where
  date : Date
  clock : Option Clock
  deriving DecidableEq, Repr

namespace Timestamp

/-! ### Reading -/

/-- A number of at least `least` and at most `most` digits. -/
def digits? (least most : Nat) (s : List Char) : Option (Nat × List Char) :=
  let ds := (s.take most).takeWhile Char.isDigit
  if ds.length < least then none
  else some (ds.foldl (fun n d => n * 10 + (d.toNat - '0'.toNat)) 0, s.drop ds.length)

def char? (c : Char) : List Char → Option (List Char)
  | d :: rest => if d = c then some rest else none
  | [] => none

def isSpacing (c : Char) : Bool := c == ' ' || c == '\t'

/-- The microseconds of a fraction; digits beyond the sixth do not count. -/
def microseconds (ds : List Char) : Nat :=
  (ds.take 6 ++ List.replicate (6 - ds.length) '0').foldl
    (fun n d => n * 10 + (d.toNat - '0'.toNat)) 0

/-- A time zone up to the end of the text. -/
def zone? (s : List Char) : Option (Option Int) := do
  match s.dropWhile isSpacing with
  | [] => if s.isEmpty then some none else none
  | ['Z'] => some (some 0)
  | c :: rest =>
    if c ≠ '+' ∧ c ≠ '-' then none
    else
      let (hours, rest) ← digits? 1 2 rest
      let (minutes, rest) ←
        match rest with
        | ':' :: more => digits? 2 2 more
        | _ => some (0, rest)
      let ahead : Int := hours * 60 + minutes
      if rest.isEmpty then some (some (if c = '-' then -ahead else ahead)) else none

/-- A time of day up to the end of the text. -/
def clock? (s : List Char) : Option Clock := do
  let (hour, s) ← digits? 1 2 s
  let (minute, s) ← digits? 2 2 (← char? ':' s)
  let (second, s) ← digits? 2 2 (← char? ':' s)
  let (fraction, s) := match s with
    | '.' :: more => (more.takeWhile Char.isDigit, more.dropWhile Char.isDigit)
    | _ => ([], s)
  let offset ← zone? s
  some ⟨hour, minute, second, microseconds fraction, offset⟩

/-- The parts of a date, if the text has the form of one.  A line break at the very end is ignored.
-/
def parts? (text : List Char) : Option Timestamp := do
  let text := if text.getLast? = some '\n' then text.dropLast else text
  let (year, s) ← digits? 4 4 text
  let (month, s) ← digits? 1 2 (← char? '-' s)
  let (day, s) ← digits? 1 2 (← char? '-' s)
  match s with
  | [] => some ⟨⟨year, month, day⟩, none⟩
  | 'T' :: s | 't' :: s => do some ⟨⟨year, month, day⟩, some (← clock? s)⟩
  | c :: s =>
    if isSpacing c then do some ⟨⟨year, month, day⟩, some (← clock? (s.dropWhile isSpacing))⟩
    else none

/-! ### Days that exist -/

def isLeap (year : Nat) : Bool := year % 4 == 0 && (year % 100 != 0 || year % 400 == 0)

def daysIn (year month : Nat) : Nat :=
  if month = 2 then (if isLeap year then 29 else 28)
  else if month = 4 ∨ month = 6 ∨ month = 9 ∨ month = 11 then 30
  else 31

def checkPart (part : String) (first last n : Nat) : Except Fault Unit :=
  if first ≤ n ∧ n ≤ last then .ok () else .error (.clockRange part first last)

/-- Whether a timestamp exists.  The zone is looked at first. -/
def check (t : Timestamp) : Except Fault Unit := do
  if let some offset := t.clock.bind (·.offset) then
    if 1440 ≤ offset.natAbs then throw (.zoneRange offset)
  if t.date.year = 0 then throw (.yearRange t.date.year)
  checkPart "month" 1 12 t.date.month
  if t.date.day = 0 ∨ daysIn t.date.year t.date.month < t.date.day then throw .dayRange
  if let some c := t.clock then
    checkPart "hour" 0 23 c.hour
    checkPart "minute" 0 59 c.minute
    checkPart "second" 0 59 c.second

def ofText (text : List Char) : Except Fault Timestamp :=
  match parts? text with
  | none => .error .dateText
  | some t => t.check.map fun _ => t

/-! ### Comparing -/

/-- The minutes since the first day, in the zone of the timestamp. -/
def minutes (t : Timestamp) : Int :=
  let y := t.date.year - 1
  let earlier :=
    ((List.range (t.date.month - 1)).map fun m => daysIn t.date.year (m + 1)).foldl (· + ·) 0
  let days := y * 365 + y / 4 - y / 100 + y / 400 + earlier + t.date.day
  match t.clock with
  | none => days * 1440
  | some c => days * 1440 + c.hour * 60 + c.minute

/-- Whether two timestamps are the same.  With time zones the moment counts, without them the
fields. -/
def same (s t : Timestamp) : Bool :=
  match s.clock, t.clock with
  | some ⟨_, _, second, microsecond, some a⟩, some ⟨_, _, second', microsecond', some b⟩ =>
    s.minutes - a == t.minutes - b && second == second' && microsecond == microsecond'
  | _, _ => s == t

/-! ### Writing -/

/-- A number with at least `width` digits. -/
def padded (width n : Nat) : String :=
  let ds := Nat.toDigits 10 n
  String.ofList (List.replicate (width - ds.length) '0' ++ ds)

/-- A time zone as hours and minutes. -/
def zoneText : Option Int → String
  | none => ""
  | some offset =>
    (if offset < 0 then "-" else "+") ++ padded 2 (offset.natAbs / 60) ++ ":" ++
      padded 2 (offset.natAbs % 60)

def clockText (c : Clock) : String :=
  let fraction := if c.microsecond = 0 then "" else "." ++ padded 6 c.microsecond
  ":".intercalate [padded 2 c.hour, padded 2 c.minute, padded 2 c.second] ++ fraction ++
    zoneText c.offset

def text (t : Timestamp) : String :=
  let date := "-".intercalate [padded 4 t.date.year, padded 2 t.date.month, padded 2 t.date.day]
  match t.clock with
  | none => date
  | some c => date ++ " " ++ clockText c

/-- A timestamp as it is shown inside of another value: a call that makes it.  Seconds that are zero
are left out where nothing follows them. -/
def shown (t : Timestamp) : String :=
  let numbers := [t.date.year, t.date.month, t.date.day]
  match t.clock with
  | none => "datetime.date(" ++ ", ".intercalate (numbers.map toString) ++ ")"
  | some c =>
    let seconds :=
      if c.microsecond ≠ 0 then [c.second, c.microsecond] else if c.second ≠
        0 then [c.second] else []
    let zone := match c.offset with
      | none => []
      | some offset =>
        if offset = 0 then ["tzinfo=datetime.timezone.utc"]
        else ["tzinfo=datetime.timezone(" ++ Fault.spanText offset ++ ")"]
    "datetime.datetime(" ++
      ", ".intercalate ((numbers ++ [c.hour, c.minute] ++ seconds).map toString ++ zone) ++ ")"

end Timestamp

end SchemaAssist.Yaml

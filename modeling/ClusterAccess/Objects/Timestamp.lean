import ClusterAccess.Text.Pieces

namespace ClusterAccess

structure Date where
  year : Int
  month : Nat
  day : Nat
deriving DecidableEq, Repr

namespace Date

def isLeap (year : Int) : Bool :=
  year % 4 = 0 && (year % 100 ≠ 0 || year % 400 = 0)

def daysIn (year : Int) (month : Nat) : Nat :=
  if month = 2 then if isLeap year then 29 else 28
  else if month = 4 || month = 6 || month = 9 || month = 11 then 30
  else 31

def isValid (d : Date) : Bool :=
  -262143 ≤ d.year && d.year ≤ 262142 && 1 ≤ d.month && d.month ≤ 12
    && 1 ≤ d.day && d.day ≤ daysIn d.year d.month

def next (d : Date) : Date :=
  if d.day < daysIn d.year d.month then { d with day := d.day + 1 }
  else if d.month < 12 then { d with month := d.month + 1, day := 1 }
  else ⟨d.year + 1, 1, 1⟩

def previous (d : Date) : Date :=
  if 1 < d.day then { d with day := d.day - 1 }
  else if 1 < d.month then { d with month := d.month - 1, day := daysIn d.year (d.month - 1) }
  else ⟨d.year - 1, 12, 31⟩

def isBefore (d e : Date) : Bool :=
  d.year < e.year
    || (d.year = e.year && (d.month < e.month || (d.month = e.month && d.day < e.day)))

end Date

/-- A minute of a day in universal time, and a second of it; a minute may have 61 of them. -/
structure Timestamp where
  date : Date
  minute : Nat
  second : Nat
deriving DecidableEq, Repr

namespace Timestamp

/-- A number of at most so many digits. -/
def number? (width : Nat) (cs : List Char) : Option (Nat × List Char) :=
  match (cs.take width).takeWhile Char.isDigit with
  | [] => none
  | ds => some (ds.foldl (fun n c => 10 * n + (c.toNat - 48)) 0, cs.drop ds.length)

/-- A year without a sign has four digits at most. -/
def year? : List Char → Option (Int × List Char)
  | '-' :: cs => (number? cs.length cs).map fun p => (-(p.1 : Int), p.2)
  | '+' :: cs => (number? cs.length cs).map fun p => ((p.1 : Int), p.2)
  | cs => (number? 4 cs).map fun p => ((p.1 : Int), p.2)

/-- A mark and the two digits behind it, blanks before each. -/
def part? (mark : Char) (cs : List Char) : Option (Nat × List Char) :=
  match Text.trimStart cs with
  | c :: rest => if c = mark then number? 2 (Text.trimStart rest) else none
  | [] => none

def date? (cs : List Char) : Option (Date × List Char) := do
  let (year, cs) ← year? (Text.trimStart cs)
  let (month, cs) ← part? '-' cs
  let (day, cs) ← part? '-' cs
  some (⟨year, month, day⟩, cs)

/-- Decimals of a second are passed over; a point needs one at least. -/
def decimals? : List Char → Option (List Char)
  | '.' :: cs => if cs.head?.any Char.isDigit then some (cs.dropWhile Char.isDigit) else none
  | cs => some cs

def twoDigits? : List Char → Option (Nat × List Char)
  | c :: d :: rest =>
    if c.isDigit && d.isDigit then some (10 * (c.toNat - 48) + (d.toNat - 48), rest) else none
  | _ => none

/-- Hours and minutes behind a sign, as minutes. -/
def hoursMinutes? (cs : List Char) : Option (Int × List Char) := do
  let (hours, cs) ← twoDigits? cs
  let (minutes, cs) ← twoDigits? (cs.dropWhile fun c => c = ':' || Text.isBlank c)
  if minutes < 60 && hours < 24 then some (60 * hours + minutes, cs) else none

/-- The minutes that a place is ahead of universal time. -/
def offset? (cs : List Char) : Option (Int × List Char) :=
  if (cs.take 3).map Char.toUpper = ['U', 'T', 'C'] then some (0, cs.drop 3)
  else
    match cs with
    | c :: rest =>
      if c = 'Z' || c = 'z' then some (0, rest)
      else if c = '+' then hoursMinutes? rest
      else if c = '-' || c.toNat = 0x2212 then (hoursMinutes? rest).map fun p => (-p.1, p.2)
      else none
    | [] => none

/-- The moment at which a place with an offset has a minute of a date. -/
def ofLocal (date : Date) (minute : Nat) (second : Nat) (offset : Int) : Timestamp :=
  let minute := (minute : Int) - offset
  if minute < 0 then ⟨date.previous, (minute + 1440).toNat, second⟩
  else if 1440 ≤ minute then ⟨date.next, (minute - 1440).toNat, second⟩
  else ⟨date, minute.toNat, second⟩

def isSeparator (c : Char) : Bool :=
  c = 'T' || c = 't' || c = ' '

/-- A moment with any offset; blanks may stand between its parts. -/
def parse? (text : String) : Option Timestamp := do
  let (date, cs) ← date? text.toList
  if !cs.head?.any isSeparator then none
  let (hour, cs) ← number? 2 (Text.trimStart (cs.drop 1))
  let (minute, cs) ← part? ':' cs
  let (second, cs) ← part? ':' cs
  let (offset, cs) ← offset? (Text.trimStart (← decimals? cs))
  let t := ofLocal date (60 * hour + minute) second offset
  if date.isValid && t.date.isValid && hour < 24 && minute < 60 && second ≤ 60
      && Text.trimStart cs = [] then
    some t
  else none

def nextMinute (t : Timestamp) : Timestamp :=
  if t.minute + 1 < 1440 then { t with minute := t.minute + 1 }
  else { t with date := t.date.next, minute := 0 }

def isBefore (t u : Timestamp) : Bool :=
  t.date.isBefore u.date
    || (t.date = u.date && (t.minute < u.minute || (t.minute = u.minute && t.second < u.second)))

/-- Decimal digits, with zeros in front up to a width. -/
def padded (width n : Nat) : String :=
  let ds := Nat.toDigits 10 n
  String.ofList (List.replicate (width - ds.length) '0' ++ ds)

/-- A year outside four digits has a sign. -/
def yearText (year : Int) : String :=
  let sign := if year < 0 then "-" else if 9999 < year then "+" else ""
  sign ++ padded 4 year.natAbs

/-- In universal time, to the second. -/
def print (t : Timestamp) : String :=
  yearText t.date.year ++ "-" ++ padded 2 t.date.month ++ "-" ++ padded 2 t.date.day ++ "T"
    ++ padded 2 (t.minute / 60) ++ ":" ++ padded 2 (t.minute % 60) ++ ":" ++ padded 2 t.second
    ++ "Z"

end Timestamp

end ClusterAccess

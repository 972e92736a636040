import VerdictClient.Text

namespace VerdictClient

structure Date where
  year : Nat
  month : Nat
  day : Nat
  deriving DecidableEq, Repr

structure TimeOfDay where
  hour : Nat
  minute : Nat
  second : Nat
  microsecond : Nat
  offset : Option Int
  deriving DecidableEq, Repr

structure Timestamp where
  date : Date
  time : Option TimeOfDay
  deriving DecidableEq, Repr

inductive TimestampError where
  | year (n : Nat)
  | month
  | day
  | hour
  | minute
  | second
  | offset (minutes : Int)
  deriving DecidableEq, Repr

def Date.isLeap (year : Nat) : Bool := year % 4 = 0 && (year % 100 != 0 || year % 400 = 0)

def Date.daysIn (year month : Nat) : Nat :=
  if month = 2 then if isLeap year then 29 else 28
  else if month = 4 ∨ month = 6 ∨ month = 9 ∨ month = 11 then 30 else 31

def Date.check (d : Date) : Except TimestampError Unit :=
  if d.year < 1 then .error (.year d.year)
  else if d.month < 1 ∨ 12 < d.month then .error .month
  else if d.day < 1 ∨ daysIn d.year d.month < d.day then .error .day
  else .ok ()

def Date.daysBefore (d : Date) : Nat :=
  let years := d.year - 1
  years * 365 + years / 4 - years / 100 + years / 400 +
    (List.range (d.month - 1)).foldl (fun days m ↦ days + daysIn d.year (m + 1)) 0 + (d.day - 1)

def TimeOfDay.check (t : TimeOfDay) : Except TimestampError Unit :=
  if 23 < t.hour then .error .hour
  else if 59 < t.minute then .error .minute
  else if 59 < t.second then .error .second
  else .ok ()

def checkOffset (offset : Option Int) : Except TimestampError Unit :=
  match offset with
  | some minutes => if minutes.natAbs < 1440 then .ok () else .error (.offset minutes)
  | none => .ok ()

/-- Of several faults, one of the offset is told first, and one of the date before one of the time. -/
def Timestamp.check (s : Timestamp) : Except TimestampError Unit := do
  checkOffset (s.time.bind (·.offset))
  s.date.check
  match s.time with
  | some t => t.check
  | none => .ok ()

def Timestamp.shown (s : Timestamp) : Int :=
  let seconds := match s.time with
    | some t => (t.hour * 60 + t.minute) * 60 + t.second
    | none => 0
  (s.date.daysBefore * 86400 + seconds) * 1000000 + ((s.time.map (·.microsecond)).getD 0 : Nat)

def Timestamp.offset? (s : Timestamp) : Option Int := s.time.bind (·.offset)

def Timestamp.instant (s : Timestamp) : Int := s.shown - s.offset?.getD 0 * 60000000

/-- Whether two timestamps are of one kind: dates, times of unknown places, or times of known ones.
Only these can be put in order. -/
def Timestamp.isComparable (s t : Timestamp) : Bool :=
  s.time.isSome = t.time.isSome && s.offset?.isSome = t.offset?.isSome

def Timestamp.isSame (s t : Timestamp) : Bool := s.isComparable t && s.instant = t.instant

def padded (width n : Nat) : Text :=
  let digits := Nat.toDigits 10 n
  Text.ofString (String.ofList (List.replicate (width - digits.length) '0' ++ digits))

def Date.iso (d : Date) : Text := padded 4 d.year ++ "-" ++ padded 2 d.month ++ "-" ++ padded 2 d.day

def offsetIso (minutes : Int) : Text :=
  let n := minutes.natAbs
  (if minutes < 0 then "-" else "+") ++ padded 2 (n / 60) ++ ":" ++ padded 2 (n % 60)

def TimeOfDay.iso (t : TimeOfDay) : Text :=
  padded 2 t.hour ++ ":" ++ padded 2 t.minute ++ ":" ++ padded 2 t.second ++
    (if t.microsecond = 0 then "" else "." ++ padded 6 t.microsecond : Text) ++
    (t.offset.map offsetIso).getD []

/-- Date and time as ISO 8601 writes them, with `separator` between. -/
def Timestamp.iso (separator : Text) (s : Timestamp) : Text :=
  match s.time with
  | none => s.date.iso
  | some t => s.date.iso ++ separator ++ t.iso

def Date.numbers (d : Date) : List Nat := [d.year, d.month, d.day]

/-- Hour and minute, and what follows them up to the last part that is not zero. -/
def TimeOfDay.numbers (t : TimeOfDay) : List Nat :=
  [t.hour, t.minute] ++
    if t.microsecond ≠ 0 then [t.second, t.microsecond]
    else if t.second ≠ 0 then [t.second] else []

def offsetParts (minutes : Int) : List Text :=
  let days := minutes.fdiv 1440
  let seconds := (minutes.fmod 1440) * 60
  (if days = 0 then [] else ["days=" ++ Text.ofInt days]) ++
    (if seconds = 0 then [] else ["seconds=" ++ Text.ofInt seconds])

def offsetText (minutes : Int) : Text :=
  "datetime.timedelta(" ++ Text.intercalate ", " (offsetParts minutes) ++ ")"

def zoneText (minutes : Int) : Text :=
  if minutes = 0 then "datetime.timezone.utc" else "datetime.timezone(" ++ offsetText minutes ++ ")"

def TimestampError.message : TimestampError → Text
  | year n => "year " ++ Text.ofNat n ++ " is out of range"
  | month => "month must be in 1..12"
  | day => "day is out of range for month"
  | hour => "hour must be in 0..23"
  | minute => "minute must be in 0..59"
  | second => "second must be in 0..59"
  | offset minutes =>
    "offset must be a timedelta strictly between -timedelta(hours=24) and timedelta(hours=24), not " ++
      offsetText minutes ++ "."

def Timestamp.display (s : Timestamp) : Text :=
  let numbers (ns : List Nat) := ns.map Text.ofNat
  match s.time with
  | none => "datetime.date(" ++ Text.intercalate ", " (numbers s.date.numbers) ++ ")"
  | some t =>
    let zone := match t.offset with
      | none => []
      | some minutes => ["tzinfo=" ++ zoneText minutes]
    "datetime.datetime(" ++ Text.intercalate ", " (numbers (s.date.numbers ++ t.numbers) ++ zone) ++ ")"

end VerdictClient

import StorageRouting.Text.Blank
import StorageRouting.Time.Calendar

/-
  Moments in time, exact to the nanosecond.

  Key definitions include:
    * `Moment`
    * `Moment.ofParts?`
    * `Moment.text`
    * `Moment.rfc3339`
    * `Moment.parse?`
    * `Moment.readFullSecond?`
-/

------------------------------------------------------------
-- The Type
------------------------------------------------------------

namespace StorageRouting

/- A moment, in nanoseconds from the start of 1970. -/
structure Moment where
  nanos : Int
deriving DecidableEq, Repr, Inhabited

namespace Moment

/- The number of nanoseconds in a second. -/
def second : Int :=
  1000000000

/- The first moment of the supported range. -/
def earliest : Int :=
  -377705023201 * second

/- The last moment of the supported range. -/
def latest : Int :=
  253402207200 * second + 999999999

/- A moment within the supported range. -/
def ofNanos? (nanos : Int) : Option Moment :=
  if earliest ≤ nanos ∧ nanos ≤ latest then some ⟨nanos⟩
  else none

/-
  The moment of seconds and nanoseconds, which may point in
  opposite directions.
-/
def ofParts?
    (seconds nanos : Int) : Option Moment :=
  if nanos.natAbs < 1000000000 then
    ofNanos? (seconds * second + nanos)
  else none

/- The moment so many seconds later, if it is supported. -/
def after?
    (m : Moment)
    (seconds : Nat) : Option Moment :=
  ofNanos? (m.nanos + seconds * second)

/- Whole milliseconds from one moment to a later one. -/
def millisecondsUntil (a b : Moment) : Nat :=
  ((b.nanos - a.nanos) / 1000000).toNat

/- Whole seconds from the start of 1970. -/
def seconds (m : Moment) : Int :=
  m.nanos / second

/- Nanoseconds beyond the whole seconds. -/
def subsecond (m : Moment) : Nat :=
  (m.nanos % second).toNat

/- The date of a moment. -/
def date (m : Moment) : Date :=
  Date.ofDays (m.seconds / 86400)

/- Seconds from the start of the day. -/
def secondOfDay (m : Moment) : Nat :=
  (m.seconds % 86400).toNat

end Moment

end StorageRouting

------------------------------------------------------------
-- Printing
------------------------------------------------------------

namespace StorageRouting

namespace Moment

/- A year in at least four characters, a minus included. -/
def shortYear (year : Int) : String :=
  if year < 0 then "-" ++ Text.padZeros 3 year.natAbs
  else Text.padZeros 4 year.natAbs

/- A year in four digits, or six after a minus. -/
def longYear (year : Int) : String :=
  if year < 0 then "-" ++ Text.padZeros 6 year.natAbs
  else Text.padZeros 4 year.natAbs

/- Month and day with their separators. -/
def monthDay (d : Date) : String :=
  "-" ++ Text.padZeros 2 d.month ++ "-" ++ Text.padZeros 2 d.day

/- Hour, minute and second of a moment. -/
def clock (m : Moment) : String :=
  let s := m.secondOfDay
  Text.padZeros 2 (s / 3600) ++ ":" ++
    Text.padZeros 2 (s / 60 % 60) ++ ":" ++
    Text.padZeros 2 (s % 60)

/- The fraction of a second without zeros at its end. -/
def fractionText (m : Moment) : String :=
  if m.subsecond = 0 then ""
  else
    let digits := (Text.padZeros 9 m.subsecond).toList
    let kept := (digits.reverse.dropWhile (· == '0')).reverse
    String.ofList ('.' :: kept)

/- Date and time of day to the second. -/
def text (m : Moment) : String :=
  shortYear m.date.year ++ monthDay m.date ++ " " ++ m.clock

/- The RFC 3339 form in universal time. -/
def rfc3339 (m : Moment) : String :=
  longYear m.date.year ++ monthDay m.date ++ "T" ++ m.clock
    ++ m.fractionText ++ "Z"

/- The RFC 3339 form with six digits of the fraction. -/
def rfc3339Micros (m : Moment) : String :=
  longYear m.date.year ++ monthDay m.date ++ "T" ++ m.clock
    ++ "." ++ Text.padZeros 6 (m.subsecond / 1000) ++ "Z"

end Moment

end StorageRouting

------------------------------------------------------------
-- Reading
------------------------------------------------------------

namespace StorageRouting

namespace Moment

/- A number of exactly so many digits at the start of a text. -/
def readDigits?
    (count : Nat)
    (cs : List Char) : Option (Nat × List Char) :=
  let digits := cs.take count
  if digits.length = count ∧ digits.all Char.isDigit then
    some
      (digits.foldl (fun n c => n * 10 + (c.toNat - 48)) 0,
        cs.drop count)
  else none

/- A year: four digits, or a sign and six digits. -/
def readYear?
    (cs : List Char) : Option (Int × List Char) :=
  match cs with
  | '-' :: rest => do
      let (n, rest) ← readDigits? 6 rest
      if n = 0 then none else some (-(n : Int), rest)
  | '+' :: rest => do
      let (n, rest) ← readDigits? 6 rest
      return (n, rest)
  | _ => do
      let (n, rest) ← readDigits? 4 cs
      return (n, rest)

/- A date, with or without separators. -/
def readDate?
    (cs : List Char) : Option (Date × List Char) := do
  let (year, cs) ← readYear? cs
  let (separated, cs) :=
    match cs with
    | '-' :: rest => (true, rest)
    | _ => (false, cs)
  let (month, cs) ← readDigits? 2 cs
  let cs ←
    match separated, cs with
    | true, '-' :: rest => some rest
    | true, _ => none
    | false, cs => some cs
  let (day, cs) ← readDigits? 2 cs
  let d : Date := ⟨year, month, day⟩
  if d.isValid ∧ year.natAbs ≤ 9999 then some (d, cs) else none

/- A fraction of a second, in nanoseconds. -/
def readFraction?
    (cs : List Char) : Option (Nat × List Char) :=
  match cs with
  | c :: rest =>
      if c = '.' ∨ c = ',' then
        let digits := rest.takeWhile Char.isDigit
        if digits.isEmpty ∨ 9 < digits.length then none
        else
          let n :=
            digits.foldl (fun n c => n * 10 + (c.toNat - 48)) 0
          some
            (n * Nat.pow 10 (9 - digits.length),
              rest.dropWhile Char.isDigit)
      else some (0, cs)
  | [] => some (0, [])

/-
  Minutes or seconds after a part of a time: behind a colon
  when the separated form is used, else two more digits.
-/
def readPart?
    (separated : Bool)
    (cs : List Char) : Option (Option Nat × List Char) :=
  match separated, cs with
  | true, ':' :: rest => do
      let (n, rest) ← readDigits? 2 rest
      return (some n, rest)
  | true, cs => some (none, cs)
  | false, c :: cs =>
      if c.isDigit then do
        let (n, rest) ← readDigits? 2 (c :: cs)
        return (some n, rest)
      else some (none, c :: cs)
  | false, [] => some (none, [])

/- A time of day in nanoseconds; a leap second is the 59th. -/
def readClock?
    (cs : List Char) : Option (Int × List Char) := do
  let (hour, cs) ← readDigits? 2 cs
  let separated := cs.head? == some ':'
  let (minute, cs) ← readPart? separated cs
  match minute with
  | none =>
      if hour < 24 then some (hour * 3600 * second, cs) else none
  | some minute =>
      let (sec, cs) ← readPart? separated cs
      let (fraction, cs) ←
        match sec with
        | none => some (0, cs)
        | some _ => readFraction? cs
      let sec := sec.getD 0
      if hour < 24 ∧ minute < 60 ∧ sec ≤ 60 then
        let total := hour * 3600 + minute * 60 + min sec 59
        some ((total : Int) * second + fraction, cs)
      else none

/- An offset from universal time in seconds. -/
def readOffset?
    (cs : List Char) : Option (Int × List Char) :=
  match cs with
  | 'Z' :: rest => some (0, rest)
  | 'z' :: rest => some (0, rest)
  | c :: rest => do
      let sign : Int ←
        if c = '+' then some 1
        else if c = '-' then some (-1)
        else none
      let (hour, rest) ← readDigits? 2 rest
      let separated := rest.head? == some ':'
      let (minute, rest) ← readPart? separated rest
      let (sec, rest) ←
        match minute with
        | none => some (none, rest)
        | some _ => readPart? separated rest
      let minute := minute.getD 0
      let sec := sec.getD 0
      if hour ≤ 25 ∧ minute < 60 ∧ sec < 60 then
        some (sign * (hour * 3600 + minute * 60 + sec), rest)
      else none
  | [] => none

/- Names of zones in brackets after a moment; they are skipped. -/
def skipZones : Nat → List Char → List Char
| 0, cs => cs
| fuel + 1, '[' :: cs =>
    let body := cs.takeWhile (· ≠ ']')
    match cs.dropWhile (· ≠ ']') with
    | _ :: rest => if body.isEmpty then '[' :: cs
        else skipZones fuel rest
    | [] => '[' :: cs
| _, cs => cs

/-
  Read a date, a time of day and an offset.
-/
def parse? (s : String) : Option Moment := do
  let (d, cs) ← readDate? s.toList
  let cs ←
    match cs with
    | c :: rest =>
        if c = 'T' ∨ c = 't' ∨ c = ' ' then some rest else none
    | [] => none
  let (time, cs) ← readClock? cs
  let (offset, cs) ← readOffset? cs
  if (skipZones cs.length cs).isEmpty then
    ofNanos? ((d.toDays * 86400 - offset) * second + time)
  else none

/- The offset of a moment that is written in full. -/
def readFullOffset? : List Char → Option Int
| ['Z'] => some 0
| ['z'] => some 0
| sign :: rest => do
    let (hour, rest) ← readDigits? 2 rest
    match sign, rest with
    | '+', ':' :: rest => minutes? 1 hour rest
    | '-', ':' :: rest => minutes? (-1) hour rest
    | _, _ => none
| [] => none
where
  minutes?
      (sign : Int)
      (hour : Nat)
      (cs : List Char) : Option Int := do
    let (minute, cs) ← readDigits? 2 cs
    if hour < 24 ∧ minute < 60 ∧ cs.isEmpty then
      some (sign * (hour * 3600 + minute * 60))
    else none

/- Skip a fraction of a second, which has a digit at least. -/
def skipFraction? : List Char → Option (List Char)
| '.' :: cs =>
    if (cs.takeWhile Char.isDigit).isEmpty then none
    else some (cs.dropWhile Char.isDigit)
| cs => some cs

/-
  The second of a moment in which every part is written: a date
  with dashes, a time with colons, and an offset.
-/
def readFullSecond? (s : String) : Option Int := do
  let (year, cs) ← readDigits? 4 s.toList
  let cs ← Text.dropStart? ['-'] cs
  let (month, cs) ← readDigits? 2 cs
  let cs ← Text.dropStart? ['-'] cs
  let (day, cs) ← readDigits? 2 cs
  let cs ←
    (Text.dropStart? ['T'] cs).or (Text.dropStart? ['t'] cs)
  let (hour, cs) ← readDigits? 2 cs
  let cs ← Text.dropStart? [':'] cs
  let (minute, cs) ← readDigits? 2 cs
  let cs ← Text.dropStart? [':'] cs
  let (sec, cs) ← readDigits? 2 cs
  let offset ← readFullOffset? (← skipFraction? cs)
  let d : Date := ⟨year, month, day⟩
  if d.isValid ∧ hour < 24 ∧ minute < 60 ∧ sec < 60 then
    some
      (d.toDays * 86400 + (hour * 3600 + minute * 60 + sec : Nat) -
        offset)
  else none

end Moment

end StorageRouting

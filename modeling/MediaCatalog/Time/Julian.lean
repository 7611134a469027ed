import MediaCatalog.Time.Reader
import MediaCatalog.Binary64.Basic
/-!
# Julian days

A Julian day number counts days, and parts of one, from a noon in the year -4713. Here it is kept
in milliseconds. A day is also read from a text that gives a date, a time of day or both, each part
of full width; a day that its month does not have runs on into the next month.
-/

namespace MediaCatalog.Time

/-- Milliseconds since noon of the first Julian day. -/
structure JulianTime where
  millis : Int
deriving DecidableEq

def millisPerDay : Int := 86400000

namespace JulianTime

/-- The last millisecond of the year 9999. -/
def latest : JulianTime := ⟨464269060799999⟩

/-- Days are counted from the first Julian day to the end of the year 9999. -/
def isCounted (t : JulianTime) : Bool :=
  0 ≤ t.millis && t.millis ≤ latest.millis

/-- The start of a date. Years begin in March, and a division of a negative century drops its
remainder. -/
def ofDate (d : Date) : JulianTime :=
  let y : Int := if d.month ≤ 2 then d.year - 1 else d.year
  let m : Int := if d.month ≤ 2 then d.month + 12 else d.month
  let century := y.tdiv 100
  let leapDays := 2 - century + century.tdiv 4
  let days := 36525 * (y + 4716) / 100 + 306001 * (m + 1) / 10000 + d.day + leapDays
  ⟨days * millisPerDay - 3049 * (millisPerDay / 2)⟩

/-- The date at a time. -/
def date (t : JulianTime) : Date :=
  let z := (t.millis + millisPerDay / 2) / millisPerDay
  let century := (4 * z + 128179) / 146097 - 52
  let b := z + 1 + century - (century + 100) / 4 + 25 + 1524
  let c := (20 * b - 2442) / 7305
  let d := 36525 * c / 100
  let e := 10000 * (b - d) / 306001
  let month := if e < 14 then e - 1 else e - 13
  let year := if 2 < month then c - 4716 else c - 4715
  ⟨year, month.toNat, (b - d - 306001 * e / 10000).toNat⟩

/-- The time of a day number, to the nearest millisecond. -/
def ofDayNumber? (x : Binary64) : Option JulianTime :=
  if x.negative && !x.isZero then none
  else if x.compareHalves 10746969 ≠ .lt then none
  else do
    let scaled ← Binary64.nearest? false (x.numerator * millisPerDay.toNat) x.denominator
    let raised ← Binary64.nearest? false (2 * scaled.numerator + scaled.denominator)
      (2 * scaled.denominator)
    return ⟨(raised.numerator / raised.denominator : Nat)⟩

end JulianTime

/-- The day of a Julian day number. -/
def dayOfNumber? (x : Binary64) : Option Date :=
  ((JulianTime.ofDayNumber? x).filter (·.isCounted)).map (·.date)

/-! ## Reading -/

/-- A time of day: milliseconds since midnight on a clock that stands `east` minutes east of UTC. -/
structure DayTime where
  millis : Nat
  east : Int
deriving DecidableEq

/-- Drops blanks. -/
def skipBlanks (cs : List Char) : List Char := cs.dropWhile Text.isAsciiBlank

/-- A number of two digits that is not too large. -/
def twoDigits (most : Nat) : Scanner Nat := fun cs =>
  (number 2 2 cs).filter fun (n, _) => n ≤ most

/-- Hours and minutes with a colon between them, in minutes. -/
def hourMinute (mostHours : Nat) : Scanner Nat := fun cs => do
  let (h, cs) ← twoDigits mostHours cs
  let (m, cs) ← twoDigits 59 (← mark ':' cs)
  return (h * 60 + m, cs)

/-- The rest of a text is an offset in minutes east, or nothing, with blanks on both sides. -/
def minutesEast? (cs : List Char) : Option Int := do
  let ended (east : Int) (cs : List Char) : Option Int :=
    if (skipBlanks cs).isEmpty then some east else none
  match skipBlanks cs with
  | 'Z' :: rest | 'z' :: rest => ended 0 rest
  | '+' :: rest => do
    let (m, rest) ← hourMinute 14 rest
    ended m rest
  | '-' :: rest => do
    let (m, rest) ← hourMinute 14 rest
    ended (-(m : Int)) rest
  | rest => ended 0 rest

/-- The milliseconds of a second with a fraction, by way of the nearest double at each step. -/
def roundedMillis (second : Nat) (fraction : List Char) : Nat :=
  let rounded (num den : Nat) : Nat × Nat :=
    match Binary64.nearest? false num den with
    | some x => (x.numerator, x.denominator)
    | none => (num, den)
  let (f, u) := rounded (digitsValue fraction) (Nat.pow 10 fraction.length)
  let (s, v) := rounded (second * u + f) u
  let (t, w) := rounded (s * 1000) v
  let (r, z) := rounded (2 * t + w) (2 * w)
  r / z

/-- Seconds and a fraction of them, in milliseconds, if there are any. -/
def secondMillis : Scanner Nat
  | ':' :: rest => do
    let (s, rest) ← twoDigits 59 rest
    match rest with
    | '.' :: d :: ds =>
      if d.isDigit then
        let fraction := (d :: ds).takeWhile Char.isDigit
        return (roundedMillis s fraction, (d :: ds).dropWhile Char.isDigit)
      else return (s * 1000, rest)
    | _ => return (s * 1000, rest)
  | cs => some (0, cs)

/-- The rest of a text is a time of day. -/
def dayTime? (cs : List Char) : Option DayTime := do
  let (m, cs) ← hourMinute 24 cs
  let (ms, cs) ← secondMillis cs
  return ⟨m * 60000 + ms, ← minutesEast? cs⟩

/-- A date, and the time of day that may follow it. -/
def dateTime? (cs : List Char) : Option (Date × Option DayTime) := do
  let before := cs.head? = some '-'
  let (year, cs) ← number 4 4 (if before then cs.drop 1 else cs)
  let (month, cs) ← twoDigits 12 (← mark '-' cs)
  let (day, cs) ← twoDigits 31 (← mark '-' cs)
  let d : Date := ⟨if before then -(year : Int) else year, month, day⟩
  if month = 0 || day = 0 then none
  else
    let rest := cs.dropWhile fun c => Text.isAsciiBlank c || c = 'T'
    match dayTime? rest with
    | some t => some (d, some t)
    | none => if rest.isEmpty then some (d, none) else none

/-- The time of a date and a time of day. -/
def JulianTime.of (d : Date) (t : DayTime) : JulianTime :=
  ⟨(ofDate d).millis + t.millis - t.east * 60000⟩

/-- A day on which a text without a date is taken to be. -/
def Date.assumed : Date := ⟨2000, 1, 1⟩

/-- The day that a text gives, in UTC. A date without an offset stays as it is written, unless its
month may not have the day. -/
def dayOfText? (cs : List Char) : Option Date :=
  match dateTime? cs with
  | some (d, t?) =>
    let t := t?.getD ⟨0, 0⟩
    let moment := JulianTime.of d t
    if d.year < -4713 || !moment.isCounted then none
    else if t.east ≠ 0 || 28 < d.day then some moment.date
    else some d
  | none =>
    (dayTime? cs).bind fun t =>
      let moment := JulianTime.of .assumed t
      if moment.isCounted then some moment.date else none

end MediaCatalog.Time

import MediaCatalog.Time.Calendar
/-!
# Instants and wall clocks

An instant counts seconds and nanoseconds from 1970. A leap second belongs to the second before it,
whose nanoseconds go on past a thousand million.
-/

namespace MediaCatalog.Time

structure Instant where
  seconds : Int
  nanos : Nat
deriving DecidableEq

/-- An instant with the offset from UTC, in seconds east, at which it is shown. -/
structure ZonedInstant where
  instant : Instant
  offset : Int
deriving DecidableEq

/-- What a calendar and a clock show. The second is 60 in a leap second. -/
structure WallClock where
  date : Date
  hour : Nat
  minute : Nat
  second : Nat
  nanos : Nat
deriving DecidableEq

/-- Nanoseconds in a second. -/
def nanosPerSecond : Nat := 1000000000

namespace Instant

/-- Unix milliseconds, which count on through a leap second. -/
def millis (t : Instant) : Int :=
  t.seconds * 1000 + (t.nanos / 1000000 : Nat)

/-- What a clock shows that stands `offset` seconds east of UTC. -/
def wallClock (t : Instant) (offset : Int) : WallClock :=
  let shown := t.seconds + offset
  let secondOfDay := (shown % 86400).toNat
  { date := Date.ofDays (shown / 86400)
    hour := secondOfDay / 3600
    minute := secondOfDay / 60 % 60
    second := secondOfDay % 60 + t.nanos / nanosPerSecond
    nanos := t.nanos % nanosPerSecond }

/-- The instant with its fraction cut to whole milliseconds. -/
def truncated (t : Instant) : Instant :=
  { t with nanos := t.nanos / 1000000 * 1000000 }

end Instant

namespace WallClock

/-- The date exists, and the time of day does, second 60 included. -/
def isValid (w : WallClock) : Bool :=
  w.date.isValid && w.hour < 24 && w.minute < 60 && w.second ≤ 60 && w.nanos < nanosPerSecond

/-- The instant at which a clock `offset` seconds east of UTC shows this. -/
def toInstant (w : WallClock) (offset : Int) : Instant :=
  let second := min w.second 59
  { seconds := w.date.toDays * 86400 + (w.hour * 3600 + w.minute * 60 + second : Nat) - offset
    nanos := w.nanos + (w.second - second) * nanosPerSecond }

end WallClock

/-! ## Text -/

/-- The decimal digits of a number, with leading zeros up to a width. -/
def padded (width n : Nat) : List Char :=
  let ds := Nat.toDigits 10 n
  List.replicate (width - ds.length) '0' ++ ds

/-- Four digits, with a sign outside of 0 to 9999. -/
def yearText (year : Int) : List Char :=
  if 0 ≤ year ∧ year ≤ 9999 then padded 4 year.toNat
  else (if year < 0 then '-' else '+') :: padded 4 year.natAbs

/-- Year, month and day. -/
def Date.text (d : Date) : List Char :=
  yearText d.year ++ '-' :: padded 2 d.month ++ '-' :: padded 2 d.day

/-- Hour, minute and second. -/
def WallClock.timeText (w : WallClock) : List Char :=
  padded 2 w.hour ++ ':' :: padded 2 w.minute ++ ':' :: padded 2 w.second

/-- No fraction, or the fewest of 3, 6 and 9 digits that hold it. -/
def fractionText (nanos : Nat) : List Char :=
  if nanos = 0 then []
  else if nanos % 1000000 = 0 then '.' :: padded 3 (nanos / 1000000)
  else if nanos % 1000 = 0 then '.' :: padded 6 (nanos / 1000)
  else '.' :: padded 9 nanos

/-- Hours and minutes with the sign of an offset, which is a plus for zero. -/
def signedText (offset : Int) (minutes : Nat) : List Char :=
  (if offset < 0 then '-' else '+') :: (padded 2 (minutes / 60) ++ ':' :: padded 2 (minutes % 60))

/-- An offset east by itself: hours and minutes, and seconds if there are any. -/
def offsetText (offset : Int) : List Char :=
  signedText offset (offset.natAbs / 60)
    ++ if offset.natAbs % 60 = 0 then [] else ':' :: padded 2 (offset.natAbs % 60)

/-- The offset of a time, to the nearest minute. -/
def nearOffsetText (offset : Int) : List Char := signedText offset ((offset.natAbs + 30) / 60)

namespace Instant

/-- The text that is stored: UTC with three digits of fraction. -/
def stored (t : Instant) : String :=
  let w := t.wallClock 0
  String.ofList
    (w.date.text ++ 'T' :: w.timeText ++ '.' :: padded 3 (w.nanos / 1000000) ++ ['Z'])

end Instant

namespace ZonedInstant

/-- The date, the time and its fraction. -/
def clockText (z : ZonedInstant) : List Char :=
  let w := z.instant.wallClock z.offset
  w.date.text ++ 'T' :: w.timeText ++ fractionText w.nanos

/-- The text that is shown, with its offset always in figures. -/
def text (z : ZonedInstant) : String :=
  String.ofList (z.clockText ++ nearOffsetText z.offset)

/-- The text in documents, where an offset of zero is a `Z`. -/
def documentText (z : ZonedInstant) : String :=
  String.ofList (z.clockText ++ if z.offset = 0 then ['Z'] else nearOffsetText z.offset)

end ZonedInstant

/-- An instant in documents is shown in UTC. -/
def Instant.documentText (t : Instant) : String :=
  (ZonedInstant.mk t 0).documentText

end MediaCatalog.Time

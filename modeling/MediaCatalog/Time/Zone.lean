import MediaCatalog.Time.Reader
/-!
# Zones

A recorded zone is a text that names an offset from UTC: `UTC`, `Z`, or an optional `UTC`, a sign
and the hours and minutes east.
-/

namespace MediaCatalog.Time

/-- Hours and minutes: apart by a colon, four digits together, or hours alone. -/
def splitHours (cs : List Char) : List Char × List Char :=
  if cs.contains ':' then (cs.takeWhile (· ≠ ':'), (cs.dropWhile (· ≠ ':')).drop 1)
  else if cs.length = 4 then (cs.take 2, cs.drop 2)
  else (cs, ['0'])

/-- The value of one or more digits. -/
def plainNumber? (cs : List Char) : Option Nat :=
  if cs.isEmpty || !cs.all Char.isDigit then none else some (digitsValue cs)

/-- The seconds of hours and minutes, at most 14 and below 60. -/
def offsetSeconds? (cs : List Char) : Option Nat := do
  let (hours, minutes) := splitHours cs
  let h ← plainNumber? hours
  let m ← plainNumber? minutes
  if 14 < h ∨ 60 ≤ m then none else some (h * 3600 + m * 60)

/-- Drops the letters `UTC` in front. -/
def withoutUtc : List Char → List Char
  | 'U' :: 'T' :: 'C' :: rest => rest
  | cs => cs

/-- The offset of a zone in seconds east of UTC. -/
def parseZone? (zone : String) : Option Int :=
  let cs := Text.trim zone.toList
  if cs.map Char.toLower = ['u', 't', 'c'] ∨ cs = ['Z'] then some 0
  else
    match withoutUtc cs with
    | '+' :: rest => (offsetSeconds? rest).map fun n => (n : Int)
    | '-' :: rest => (offsetSeconds? rest).map fun n => -(n : Int)
    | _ => none

/-- An instant in the zone it was recorded in, or in UTC when there is none that can be read. -/
def localize (t : Instant) (zone : Option String) : ZonedInstant :=
  ⟨t, (zone.bind parseZone?).getD 0⟩

end MediaCatalog.Time

import MediaCatalog.Time.Instant
import MediaCatalog.Text.Blank
/-!
# Reading timestamps

The strict form is that of RFC 3339: every part has its full width. The relaxed form lets numbers
be shorter, years be signed, and blanks stand between the parts.
-/

namespace MediaCatalog.Time

/-- Reads a value from the front of a text, or fails. -/
abbrev Scanner (α : Type) := List Char → Option (α × List Char)

def digitsValue (ds : List Char) : Nat :=
  ds.foldl (fun n d => n * 10 + (d.toNat - '0'.toNat)) 0

/-- A number of `least` to `most` digits, as many as there are. -/
def number (least most : Nat) : Scanner Nat := fun cs =>
  let ds := (cs.take most).takeWhile Char.isDigit
  if ds.length < least then none else some (digitsValue ds, cs.drop ds.length)

/-- Steps over a character. -/
def mark (c : Char) : List Char → Option (List Char)
  | d :: rest => if d = c then some rest else none
  | [] => none

/-- What stands between a date and a time. -/
def separator : List Char → Option (List Char)
  | c :: rest => if c = 'T' || c = 't' || c = ' ' then some rest else none
  | [] => none

/-- A fraction of a second in nanoseconds, if there is a point; digits past the ninth are dropped. -/
def fraction : Scanner Nat
  | '.' :: rest =>
    let ds := rest.takeWhile Char.isDigit
    if ds.isEmpty then none
    else
      let kept := ds.take 9
      some (digitsValue kept * Nat.pow 10 (9 - kept.length), rest.drop ds.length)
  | cs => some (0, cs)

/-- Two digits of minutes of an hour. -/
def offsetMinutes : Scanner Nat := fun cs => do
  let (m, rest) ← number 2 2 cs
  if m < 60 then some (m, rest) else none

/-- An offset in seconds east: a letter `Z`, or a sign, hours and minutes with `between` stepping
over what separates them. -/
def offset (between : List Char → Option (List Char)) : Scanner Int
  | [] => none
  | c :: rest =>
    if c = 'Z' || c = 'z' then some (0, rest)
    else if c = '+' || c = '-' || c = '\u2212' then do
      let (h, rest) ← number 2 2 rest
      let (m, rest) ← offsetMinutes (← between rest)
      let seconds : Int := (h * 3600 + m * 60 : Nat)
      if seconds < 86400 then some (if c = '+' then seconds else -seconds, rest) else none
    else none

/-- The years that a timestamp may lie in. -/
def leastYear : Int := -262143

/-- The last year that a timestamp may lie in. -/
def mostYear : Int := 262142

/-- The instant of a wall clock, if the clock can show that and the years are not exceeded. -/
def zoned? (w : WallClock) (offset : Int) : Option ZonedInstant :=
  let t := w.toInstant offset
  let year := (t.wallClock 0).date.year
  if w.isValid && leastYear ≤ w.date.year && w.date.year ≤ mostYear
      && leastYear ≤ year && year ≤ mostYear then
    some ⟨t, offset⟩
  else none

/-- Reads a text that is a timestamp of RFC 3339. -/
def parse? (text : String) : Option ZonedInstant := do
  let (year, cs) ← number 4 4 text.toList
  let (month, cs) ← number 2 2 (← mark '-' cs)
  let (day, cs) ← number 2 2 (← mark '-' cs)
  let (hour, cs) ← number 2 2 (← separator cs)
  let (minute, cs) ← number 2 2 (← mark ':' cs)
  let (second, cs) ← number 2 2 (← mark ':' cs)
  let (nanos, cs) ← fraction cs
  let (east, cs) ← offset (mark ':') cs
  if cs.isEmpty then zoned? ⟨⟨year, month, day⟩, hour, minute, second, nanos⟩ east else none

/-! ## The relaxed form -/

/-- A year of at most four digits, or of any number after a sign. -/
def signedYear (cs : List Char) : Option (Int × List Char) :=
  match cs with
  | '-' :: rest => (number 1 rest.length rest).map fun (n, rest) => (-(n : Int), rest)
  | '+' :: rest => (number 1 rest.length rest).map fun (n, rest) => ((n : Int), rest)
  | cs => (number 1 4 cs).map fun (n, rest) => ((n : Int), rest)

/-- One or two digits after blanks. -/
def shortNumber : Scanner Nat := fun cs => number 1 2 (Text.trimStart cs)

/-- Steps over blanks and a character. -/
def spacedMark (c : Char) (cs : List Char) : Option (List Char) :=
  mark c (Text.trimStart cs)

/-- Steps over any colons and blanks. -/
def looseColon (cs : List Char) : Option (List Char) :=
  some (cs.dropWhile fun c => c = ':' || Text.isBlank c)

/-- An offset, or the letters `UTC` in either case. -/
def looseOffset : Scanner Int
  | a :: b :: c :: rest =>
    if [a, b, c].map Char.toUpper = ['U', 'T', 'C'] then some (0, rest)
    else offset looseColon (a :: b :: c :: rest)
  | cs => offset looseColon cs

/-- Reads a text that is a timestamp in the relaxed form. -/
def parseRelaxed? (text : String) : Option ZonedInstant := do
  let (year, cs) ← signedYear (Text.trimStart text.toList)
  let (month, cs) ← shortNumber (← spacedMark '-' cs)
  let (day, cs) ← shortNumber (← spacedMark '-' cs)
  let (hour, cs) ← shortNumber (← separator cs)
  let (minute, cs) ← shortNumber (← spacedMark ':' cs)
  let (second, cs) ← shortNumber (← spacedMark ':' cs)
  let (nanos, cs) ← fraction cs
  let (east, cs) ← looseOffset (Text.trimStart cs)
  if (Text.trimStart cs).isEmpty then zoned? ⟨⟨year, month, day⟩, hour, minute, second, nanos⟩ east
  else none

end MediaCatalog.Time

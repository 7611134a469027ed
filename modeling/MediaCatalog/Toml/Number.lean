import MediaCatalog.Toml.Basic
import MediaCatalog.Time.Reader
import MediaCatalog.Json.Basic
/-!
# Numbers and dates in TOML

Digits may be grouped by single underscores between them. A date or a time is only told from what
is none.
-/

namespace MediaCatalog.Toml

/-- The digits of a number without the underscores that group them. -/
def grouped? (isDigit : Char → Bool) : List Char → Option (List Char)
  | [] => none
  | [d] => if isDigit d then some [d] else none
  | d :: '_' :: rest => if isDigit d then (grouped? isDigit rest).map (d :: ·) else none
  | d :: rest => if isDigit d then (grouped? isDigit rest).map (d :: ·) else none

/-- The digits of a whole number, which do not begin with a zero unless it is all. -/
def whole? (cs : List Char) : Option (List Char) :=
  if cs.head? = some '0' && cs.length ≠ 1 then none else grouped? Char.isDigit cs

def digitOf (c : Char) : Nat :=
  if c.isDigit then c.toNat - '0'.toNat else c.toLower.toNat - 'a'.toNat + 10

def isHexDigit (c : Char) : Bool :=
  c.isDigit || ('a' ≤ c && c ≤ 'f') || ('A' ≤ c && c ≤ 'F')

def valueOf (base : Nat) (ds : List Char) : Nat := ds.foldl (fun n d => n * base + digitOf d) 0

/-- The sign in front of a number: whether it is negative, and what comes after it. -/
def splitSign : List Char → Bool × List Char
  | '-' :: rest => (true, rest)
  | '+' :: rest => (false, rest)
  | cs => (false, cs)

/-- A number within 64 bits. -/
def bounded? (n : Int) : Option Int :=
  if Json.minInteger ≤ n ∧ n ≤ Json.maxInteger then some n else none

/-- The value of an integer: decimal with a sign, or without one in base 16, 8 or 2. -/
def integer? (cs : List Char) : Option Int :=
  match cs with
  | '0' :: 'x' :: rest => (grouped? isHexDigit rest).bind fun ds => bounded? (valueOf 16 ds)
  | '0' :: 'o' :: rest =>
    (grouped? (fun c => '0' ≤ c && c ≤ '7') rest).bind fun ds => bounded? (valueOf 8 ds)
  | '0' :: 'b' :: rest =>
    (grouped? (fun c => c = '0' || c = '1') rest).bind fun ds => bounded? (valueOf 2 ds)
  | cs =>
    let (negative, rest) := splitSign cs
    (whole? rest).bind fun ds =>
      bounded? (if negative then -(valueOf 10 ds : Int) else valueOf 10 ds)

/-- The digits of the fraction after a point and the exponent after a letter; one of both is there. -/
def tail? (cs : List Char) : Option (List Char × Int) := do
  let isMark := fun c => c = 'e' || c = 'E'
  let fraction := cs.takeWhile (!isMark ·)
  let power := cs.dropWhile (!isMark ·)
  let ds ←
    match fraction with
    | [] => some []
    | '.' :: rest => grouped? Char.isDigit rest
    | _ => none
  let e : Int ←
    match power with
    | [] => some 0
    | _ :: rest =>
      let (negative, rest) := splitSign rest
      (grouped? Char.isDigit rest).map fun es =>
        if negative then -(valueOf 10 es : Int) else valueOf 10 es
  if fraction.isEmpty && power.isEmpty then none else some (ds, e)

/-- The text is a float. One that is too large is none, unless it is negative. -/
def isFloat (cs : List Char) : Bool :=
  let (negative, rest) := splitSign cs
  if rest = "inf".toList ∨ rest = "nan".toList then true
  else
    let isPart := fun c => c.isDigit || c = '_'
    match whole? (rest.takeWhile isPart), tail? (rest.dropWhile isPart) with
    | some ds, some (fs, e) =>
      negative || (Binary64.nearestDecimal? (valueOf 10 (ds ++ fs)) (e - fs.length)).isSome
    | _, _ => false

/-! ## Dates and times -/

/-- Reads a date that the calendar has. -/
def readDate (cs : List Char) : Option (List Char) := do
  let (year, cs) ← Time.number 4 4 cs
  let (month, cs) ← Time.number 2 2 (← Time.mark '-' cs)
  let (day, cs) ← Time.number 2 2 (← Time.mark '-' cs)
  if (Time.Date.mk year month day).isValid then some cs else none

/-- Reads a time of day, in which a leap second may be. -/
def readTime (cs : List Char) : Option (List Char) := do
  let (hour, cs) ← Time.number 2 2 cs
  let (minute, cs) ← Time.number 2 2 (← Time.mark ':' cs)
  let (second, cs) ← Time.number 2 2 (← Time.mark ':' cs)
  let (_, cs) ← Time.fraction cs
  if hour < 24 ∧ minute < 60 ∧ second ≤ 60 then some cs else none

/-- Reads a time of day and an offset, if there is one. -/
def isZonedTime (cs : List Char) : Bool :=
  match readTime cs with
  | some [] => true
  | some rest => (Time.offset (Time.mark ':') rest).any (·.2.isEmpty)
  | none => false

/-- The text is a date, a time, or a date with a time. -/
def isDate (cs : List Char) : Bool :=
  readTime cs = some [] ||
    match readDate cs with
    | some [] => true
    | some (c :: rest) => (c = 'T' || c = 't') && isZonedTime rest
    | none => false

end MediaCatalog.Toml

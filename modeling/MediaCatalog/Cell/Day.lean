import MediaCatalog.Cell
import MediaCatalog.Time.Julian
/-!
# The day of a cell

A text gives a day as a date, a time or both; a number is the number of a Julian day, and so is a
text that is a number.
-/

namespace MediaCatalog

namespace Cell

/-- The double that a number is rounded to. -/
def toBinary64? : Cell → Option Binary64
  | integer n => Binary64.ofInt? n
  | real x => some x
  | _ => none

/-- The day that a cell gives. -/
def day? : Cell → Option Time.Date
  | text s =>
    let cs := untilNul s
    (Time.dayOfText? cs).or
      (((Numeral.ofText? cs).map ofNumeral).bind fun c => c.toBinary64?.bind Time.dayOfNumber?)
  | c => c.toBinary64?.bind Time.dayOfNumber?

end Cell

end MediaCatalog

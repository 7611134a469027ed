import MediaCatalog.Time.Reader
/-!
# Texts that are no timestamps

What is told of a text that is no timestamp of RFC 3339 is its first fault from the left. A text
shorter than a date and a time is told to be short, whatever stands in it.
-/

namespace MediaCatalog.Time

inductive Fault where
  | short
  | badCharacter
  | outOfRange
  /-- Something follows the timestamp. -/
  | long
deriving DecidableEq

namespace Fault

def message : Fault → String
  | short => "premature end of input"
  | badCharacter => "input contains invalid characters"
  | outOfRange => "input is out of range"
  | long => "trailing input"

/-- Steps over a part of a timestamp, or tells what is wrong with it. -/
abbrev Check := List Char → Except Fault (List Char)

/-- Some digits whose number lies between two others. -/
def digits (n least most : Nat) : Check := fun cs =>
  let ds := cs.take n
  if !ds.all Char.isDigit then .error .badCharacter
  else if digitsValue ds < least || most < digitsValue ds then .error .outOfRange
  else .ok (cs.drop n)

/-- One of some characters. -/
def oneOf (allowed : List Char) : Check
  | [] => .error .short
  | c :: rest => if allowed.contains c then .ok rest else .error .badCharacter

/-- A fraction of a second, if there is a point. -/
def fractionCheck : Check
  | '.' :: [] => .error .short
  | '.' :: c :: rest => if c.isDigit then .ok (rest.dropWhile Char.isDigit) else .error .badCharacter
  | cs => .ok cs

/-- Two digits, the first of which is at most 5 in minutes. -/
def pair (minutes : Bool) : Check := fun cs =>
  if (String.ofList (cs.take 2)).utf8ByteSize < 2 then .error .short
  else if (cs.take 2).length < 2 || !(cs.take 2).all Char.isDigit then .error .badCharacter
  else if minutes && 60 ≤ digitsValue (cs.take 2) then .error .outOfRange
  else .ok (cs.drop 2)

/-- An offset from UTC, which is less than a day. -/
def offsetCheck : Check := fun cs => do
  if cs.head? = some 'Z' || cs.head? = some 'z' then return cs.drop 1
  let hours ← oneOf ['+', '-', '\u2212'] cs
  let rest ← pair true (← oneOf [':'] (← pair false hours))
  if 24 ≤ digitsValue (hours.take 2) then throw .outOfRange
  return rest

/-- The bytes of a date and a time without an offset. -/
def leastBytes : Nat := 19

/-- Steps over a timestamp. -/
def check (text : String) : Except Fault (List Char) := do
  if text.utf8ByteSize < leastBytes then throw .short
  let cs ← digits 4 0 9999 text.toList
  let cs ← digits 2 1 12 (← oneOf ['-'] cs)
  let cs ← digits 2 1 31 (← oneOf ['-'] cs)
  let cs ← digits 2 0 23 (← oneOf ['T', 't', ' '] cs)
  let cs ← digits 2 0 59 (← oneOf [':'] cs)
  let cs ← digits 2 0 60 (← oneOf [':'] cs)
  offsetCheck (← fractionCheck cs)

end Fault

/-- What is wrong with a text that is no timestamp. With every part in place its date does not
exist. -/
def fault (text : String) : Fault :=
  match Fault.check text with
  | .error f => f
  | .ok [] => .outOfRange
  | .ok _ => .long

end MediaCatalog.Time

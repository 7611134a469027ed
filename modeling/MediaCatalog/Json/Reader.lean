import MediaCatalog.Json.Fault
/-!
# Reading JSON

A reader takes characters and gives a value with the characters after it, or stops at the first
fault. The readers of a value recurse on the nesting that is still allowed.
-/

namespace MediaCatalog.Json

/-- The white space of JSON. -/
def isBlank (c : Char) : Bool :=
  c = ' ' || c = '\n' || c = '\t' || c = '\r'

def skipBlank (cs : List Char) : List Char :=
  cs.dropWhile isBlank

/-! ## Strings -/

def hexValue? (c : Char) : Option Nat :=
  if '0' ≤ c ∧ c ≤ '9' then some (c.toNat - '0'.toNat)
  else if 'a' ≤ c ∧ c ≤ 'f' then some (c.toNat - 'a'.toNat + 10)
  else if 'A' ≤ c ∧ c ≤ 'F' then some (c.toNat - 'A'.toNat + 10)
  else none

/-- The number written by four hexadecimal digits. -/
def hexQuad? (a b c d : Char) : Option Nat := do
  return (← hexValue? a) * 4096 + (← hexValue? b) * 256 + (← hexValue? c) * 16 + (← hexValue? d)

/-- The character that a one-letter escape stands for. -/
def escaped? : Char → Option Char
  | '"' => some '"'
  | '\\' => some '\\'
  | '/' => some '/'
  | 'b' => some '\x08'
  | 'f' => some '\x0c'
  | 'n' => some '\n'
  | 'r' => some '\r'
  | 't' => some '\t'
  | _ => none

def isHighSurrogate (n : Nat) : Bool := 0xD800 ≤ n && n ≤ 0xDBFF

def isLowSurrogate (n : Nat) : Bool := 0xDC00 ≤ n && n ≤ 0xDFFF

/-- Four hexadecimal digits are wanted, and are not there. -/
def stopAtQuad {α : Type} (cs : List Char) : Except Stop α :=
  if bytesOf cs < 4 then stop .unfinishedString [] else .error ⟨.badEscape, bytesOf cs - 4⟩

/-- The escape of a low surrogate is wanted, and is not there. -/
def stopAtPair {α : Type} : List Char → Except Stop α
  | [] => stop .unfinishedString []
  | '\\' :: [] => stop .unfinishedString []
  | '\\' :: 'u' :: cs => stopAtQuad cs
  | '\\' :: cs => stopIn .brokenPair cs
  | cs => stopIn .brokenPair cs

private def keep (c : Char) (r : Except Stop (List Char × List Char)) :
    Except Stop (List Char × List Char) :=
  r.map fun (s, rest) => (c :: s, rest)

/-- Reads the characters of a string up to its closing quote. -/
def readChars : List Char → Except Stop (List Char × List Char)
  | [] => stop .unfinishedString []
  | '"' :: rest => .ok ([], rest)
  | '\\' :: 'u' :: a :: b :: c :: d :: rest =>
    match hexQuad? a b c d with
    | none => stopAtQuad (a :: b :: c :: d :: rest)
    | some n =>
      if isLowSurrogate n then stop .loneSurrogate rest
      else if isHighSurrogate n then
        match rest with
        | '\\' :: 'u' :: a' :: b' :: c' :: d' :: rest' =>
          match hexQuad? a' b' c' d' with
          | none => stopAtQuad (a' :: b' :: c' :: d' :: rest')
          | some m =>
            if isLowSurrogate m then
              keep (Char.ofNat (0x10000 + (n - 0xD800) * 1024 + (m - 0xDC00))) (readChars rest')
            else stop .loneSurrogate rest'
        | other => stopAtPair other
      else keep (Char.ofNat n) (readChars rest)
  | '\\' :: 'u' :: short => stopAtQuad short
  | '\\' :: [] => stop .unfinishedString []
  | '\\' :: e :: rest =>
    match escaped? e with
    | none => stopIn .badEscape (e :: rest)
    | some c => keep c (readChars rest)
  | c :: rest =>
    if c < ' ' then stopIn .controlCharacter (c :: rest) else keep c (readChars rest)

/-- Reads a string after its opening quote. -/
def readString : Reader String := fun cs =>
  (readChars cs).map fun (s, rest) => (String.ofList s, rest)

/-! ## Numbers -/

def digitValue (c : Char) : Nat := c.toNat - '0'.toNat

/-- Takes digits into a significand for as long as it fits 64 bits, and gives the digits left. -/
def absorb : Nat → List Char → Nat × List Char
  | n, [] => (n, [])
  | n, d :: ds =>
    if n * 10 + digitValue d ≤ maxWhole then absorb (n * 10 + digitValue d) ds else (n, d :: ds)

/-- The parts of a number: its sign, its digits before and after the point, and its exponent. -/
structure Numeral where
  negative : Bool
  whole : List Char
  fraction : Option (List Char)
  exponent : Option Int

/-- The value of a numeral; `none` when it is out of the range of doubles. -/
def Numeral.value? (n : Numeral) : Option Number :=
  let (w, wLeft) := absorb 0 n.whole
  if wLeft.isEmpty ∧ n.fraction.isNone ∧ n.exponent.isNone ∧ (n.negative → 0 < w ∧ minInteger ≤ -(w : Int)) then
    some (.int (if n.negative then -w else w))
  else
    let ds := n.fraction.getD []
    let (s, dLeft) := absorb w ds
    let e : Int := (wLeft.length : Int) - (ds.length - dLeft.length : Nat) + n.exponent.getD 0
    (Binary64.ofDecimal? n.negative s e).map .double

/-- A digit is wanted, and is not there. -/
def stopAtDigit {α : Type} : List Char → Except Stop α
  | [] => stop .unfinishedValue []
  | cs => stopIn .badNumber cs

def readWhole : Reader (List Char)
  | '0' :: rest =>
    match rest with
    | c :: _ => if c.isDigit then stopIn .badNumber rest else .ok (['0'], rest)
    | [] => .ok (['0'], [])
  | cs =>
    let ds := cs.takeWhile Char.isDigit
    if ds.isEmpty then stopAtDigit cs else .ok (ds, cs.dropWhile Char.isDigit)

def readFraction : Reader (Option (List Char))
  | '.' :: rest =>
    let ds := rest.takeWhile Char.isDigit
    if ds.isEmpty then stopAtDigit rest else .ok (some ds, rest.dropWhile Char.isDigit)
  | cs => .ok (none, cs)

/-- Reads the digits of an exponent after its sign. -/
def readPower (negative : Bool) : Reader (Option Int) := fun cs =>
  let ds := cs.takeWhile Char.isDigit
  if ds.isEmpty then stopAtDigit cs else
    let n : Int := (ds.foldl (fun n d => n * 10 + digitValue d) 0 : Nat)
    .ok (some (if negative then -n else n), cs.dropWhile Char.isDigit)

def readExponent : Reader (Option Int)
  | c :: rest =>
    if c = 'e' || c = 'E' then
      match rest with
      | '+' :: more => readPower false more
      | '-' :: more => readPower true more
      | more => readPower false more
    else .ok (none, c :: rest)
  | [] => .ok (none, [])

/-- The largest exponent that is read to its end. -/
def maxPower : Nat := 2147483647

/-- How many digits of an exponent are not read, since those before them make it too large. -/
def unreadDigits : Option Int → Nat
  | none => 0
  | some n => (Nat.toDigits 10 (n.toNat / (maxPower + 1))).length - 1

def readNumber : Reader Number := fun cs => do
  let (negative, cs) := match cs with
    | '-' :: rest => (true, rest)
    | cs => (false, cs)
  let (whole, cs) ← readWhole cs
  let (fraction, cs) ← readFraction cs
  let (exponent, cs) ← readExponent cs
  match (Numeral.mk negative whole fraction exponent).value? with
  | some n => return (n, cs)
  | none => throw ⟨.hugeNumber, bytesOf cs + unreadDigits exponent⟩

/-! ## Values -/

/-- Reads the letters of a constant. -/
def readWord : List Char → List Char → Except Stop (List Char)
  | [], cs => .ok cs
  | _ :: _, [] => stop .unfinishedValue []
  | w :: ws, c :: cs => if c = w then readWord ws cs else stopIn .noWord (c :: cs)

/-- Reads null, a truth value, a number or a string, and gives up with `other` before an array or
an object. -/
def readScalarOr (other : List Char → Except Stop (Json × List Char)) : Reader Json := fun cs =>
  match skipBlank cs with
  | [] => stop .unfinishedValue []
  | c :: rest =>
    match c with
    | 'n' => (readWord "ull".toList rest).map (Json.null, ·)
    | 't' => (readWord "rue".toList rest).map (Json.bool true, ·)
    | 'f' => (readWord "alse".toList rest).map (Json.bool false, ·)
    | '"' => (readString rest).map fun (s, rest) => (.string s, rest)
    | '[' => other (c :: rest)
    | '\x7b' => other (c :: rest)
    | _ =>
      if c = '-' || c.isDigit then (readNumber (c :: rest)).map fun (n, rest) => (.number n, rest)
      else stopIn .noValue (c :: rest)

/-- A list of items within brackets: what closes it, and what is wrong when it does not go on. -/
structure Bracket where
  close : Char
  unfinished : Flaw
  noEnd : Flaw

def arrayBracket : Bracket := ⟨']', .unfinishedArray, .noItemEnd⟩

def objectBracket : Bracket := ⟨'\x7d', .unfinishedObject, .noMemberEnd⟩

/-- Steps to the next item of a list: over a comma to the item, or over the closing bracket, and
then there is none. -/
def nextItem (b : Bracket) : Reader Bool := fun cs =>
  match skipBlank cs with
  | [] => stop b.unfinished []
  | c :: rest =>
    if c = b.close then .ok (false, rest)
    else if c = ',' then
      match skipBlank rest with
      | [] => stop .unfinishedValue []
      | d :: more => if d = b.close then stopIn .trailingComma (d :: more) else .ok (true, d :: more)
    else stopIn b.noEnd (c :: rest)

/-- Reads the items after the first, each after a comma. Every item takes a character, so the text
itself is enough fuel. -/
def readRest {α : Type} (item : Reader α) (b : Bracket) : List Char → Reader (List α)
  | [], cs => stop b.unfinished cs
  | _ :: fuel, cs => do
    let (more, cs) ← nextItem b cs
    if more then
      let (x, cs) ← item cs
      let (xs, cs) ← readRest item b fuel cs
      return (x :: xs, cs)
    else return ([], cs)

/-- Reads a list of items after its opening bracket. -/
def readItems {α : Type} (item : Reader α) (b : Bracket) : Reader (List α) := fun cs =>
  match skipBlank cs with
  | [] => stop b.unfinished []
  | c :: rest =>
    if c = b.close then .ok ([], rest)
    else do
      let (x, cs) ← item (c :: rest)
      let (xs, cs) ← readRest item b cs cs
      return (x :: xs, cs)

/-- Reads the key of a member. -/
def readKey : Reader String := fun cs =>
  match skipBlank cs with
  | [] => stop .unfinishedValue []
  | c :: rest => if c = '"' then readString rest else stopIn .keyNotString (c :: rest)

/-- Steps over the colon after a key. -/
def readColon (cs : List Char) : Except Stop (List Char) :=
  match skipBlank cs with
  | [] => stop .unfinishedObject []
  | c :: rest => if c = ':' then .ok rest else stopIn .noColon (c :: rest)

/-- Reads a member of an object. -/
def readMember (value : Reader Json) : Reader (String × Json) := fun cs => do
  let (key, cs) ← readKey cs
  let (v, cs) ← value (← readColon cs)
  return ((key, v), cs)

/-- Reads a value within which `nesting` more arrays and objects may be open at once. -/
def readValue : Nat → Reader Json
  | 0 => readScalarOr (stopIn .deepNesting)
  | nesting + 1 => fun cs =>
    match skipBlank cs with
    | '[' :: rest =>
      (readItems (readValue nesting) arrayBracket rest).map fun (items, rest) =>
        (.array items, rest)
    | '\x7b' :: rest =>
      (readItems (readMember (readValue nesting)) objectBracket rest).map fun (members, rest) =>
        (.object members, rest)
    | cs => readScalarOr (stopIn .deepNesting) cs

/-- Nothing but blanks is left. -/
def endOfText (cs : List Char) : Except Stop Unit :=
  match skipBlank cs with
  | [] => .ok ()
  | cs => stopIn .trailingText cs

/-- Reads a value with nothing after it. -/
def alone {α : Type} (read : Reader α) : Reader α := fun cs => do
  let (x, rest) ← read cs
  endOfText rest
  return (x, [])

/-- Reads a text that is one document. -/
def parse (text : String) : Except Fault Json := Reader.parse (alone (readValue maxNesting)) text

/-! ## Skipping -/

/-- Steps over a string, whose escapes need not name characters. -/
def skipChars : List Char → Except Stop (List Char)
  | [] => stop .unfinishedString []
  | '"' :: rest => .ok rest
  | '\\' :: 'u' :: a :: b :: c :: d :: rest =>
    if (hexQuad? a b c d).isSome then skipChars rest else stopAtQuad (a :: b :: c :: d :: rest)
  | '\\' :: 'u' :: short => stopAtQuad short
  | '\\' :: [] => stop .unfinishedString []
  | '\\' :: e :: rest =>
    if (escaped? e).isSome then skipChars rest else stopIn .badEscape (e :: rest)
  | c :: rest => if c < ' ' then stop .controlCharacter (c :: rest) else skipChars rest

/-- Steps over a number, which may be out of range. -/
def skipNumber (cs : List Char) : Except Stop (List Char) := do
  let cs := match cs with
    | '-' :: rest => rest
    | cs => cs
  let (_, cs) ← readWhole cs
  let (_, cs) ← readFraction cs
  let (_, cs) ← readExponent cs
  return cs

/-- Steps over a value of any nesting, of which nothing is kept. Every nested value takes a
character, so the text itself is enough fuel. -/
def skipValue : List Char → List Char → Except Stop (List Char)
  | [], cs => stop .unfinishedValue cs
  | _ :: fuel, cs =>
    match skipBlank cs with
    | [] => stop .unfinishedValue []
    | c :: rest =>
      match c with
      | 'n' => readWord "ull".toList rest
      | 't' => readWord "rue".toList rest
      | 'f' => readWord "alse".toList rest
      | '"' => skipChars rest
      | '[' =>
        (readItems (fun cs => (skipValue fuel cs).map ((), ·)) arrayBracket rest).map (·.2)
      | '\x7b' =>
        (readItems (fun cs => do
          let (_, cs) ← readKey cs
          return ((), ← skipValue fuel (← readColon cs))) objectBracket rest).map (·.2)
      | _ =>
        if c = '-' || c.isDigit then skipNumber (c :: rest) else stopIn .noValue (c :: rest)

end MediaCatalog.Json

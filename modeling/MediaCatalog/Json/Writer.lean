import MediaCatalog.Json.Basic
/-!
# Writing JSON

The compact form has no blanks. The indented form puts every item and member on its own line.
-/

namespace MediaCatalog.Json

def hexDigit (n : Nat) : Char :=
  if n < 10 then Char.ofNat ('0'.toNat + n) else Char.ofNat ('a'.toNat + (n - 10))

/-- Quotes, backslashes and control characters are escaped, all else stands for itself. -/
def escape (c : Char) : List Char :=
  match c with
  | '"' => ['\\', '"']
  | '\\' => ['\\', '\\']
  | '\x08' => ['\\', 'b']
  | '\x0c' => ['\\', 'f']
  | '\n' => ['\\', 'n']
  | '\r' => ['\\', 'r']
  | '\t' => ['\\', 't']
  | c =>
    if c < ' ' then ['\\', 'u', '0', '0', hexDigit (c.toNat / 16), hexDigit (c.toNat % 16)] else [c]

def writeString (s : String) : List Char :=
  '"' :: (s.toList.flatMap escape ++ ['"'])

def Number.text : Number → String
  | .int n => toString n
  | .double x => x.jsonText

def scalarText : Json → List Char
  | .bool b => if b then "true".toList else "false".toList
  | .number n => n.text.toList
  | .string s => writeString s
  | _ => "null".toList

mutual

/-- The compact form. -/
def write : Json → List Char
  | .array [] => ['[', ']']
  | .array (j :: js) => '[' :: (j.write ++ writeItems js)
  | .object [] => ['\x7b', '\x7d']
  | .object ((k, v) :: ms) => '\x7b' :: (writeString k ++ ':' :: (v.write ++ writeMembers ms))
  | j => j.scalarText

/-- The items after the first, and the closing bracket. -/
def writeItems : List Json → List Char
  | [] => [']']
  | j :: js => ',' :: (j.write ++ writeItems js)

/-- The members after the first, and the closing brace. -/
def writeMembers : List (String × Json) → List Char
  | [] => ['\x7d']
  | (k, v) :: ms => ',' :: (writeString k ++ ':' :: (v.write ++ writeMembers ms))

end

/-- The document as compact text. -/
def compact (j : Json) : String := String.ofList j.write

/-- A new line indented to a depth, two blanks a level. -/
def newLine (depth : Nat) : List Char :=
  '\n' :: List.replicate (2 * depth) ' '

mutual

/-- The indented form of a value that stands `depth` levels deep. -/
def layOut (depth : Nat) : Json → List Char
  | .array [] => ['[', ']']
  | .array (j :: js) =>
    '[' :: (newLine (depth + 1) ++ (j.layOut (depth + 1) ++ layOutItems depth js))
  | .object [] => ['\x7b', '\x7d']
  | .object ((k, v) :: ms) =>
    '\x7b' :: (newLine (depth + 1) ++ (writeString k ++ ':' :: ' ' ::
      (v.layOut (depth + 1) ++ layOutMembers depth ms)))
  | j => j.scalarText

def layOutItems (depth : Nat) : List Json → List Char
  | [] => newLine depth ++ [']']
  | j :: js => ',' :: (newLine (depth + 1) ++ (j.layOut (depth + 1) ++ layOutItems depth js))

def layOutMembers (depth : Nat) : List (String × Json) → List Char
  | [] => newLine depth ++ ['\x7d']
  | (k, v) :: ms =>
    ',' :: (newLine (depth + 1) ++ (writeString k ++ ':' :: ' ' ::
      (v.layOut (depth + 1) ++ layOutMembers depth ms)))

end

/-- The document as indented text. -/
def indented (j : Json) : String := String.ofList (j.layOut 0)

end MediaCatalog.Json

import MediaCatalog.Query.Fault
import MediaCatalog.Json.Reader
/-!
# Reading queries from text

The kind of the outermost node and the catalog of a search are checked as they are met, before the
text after them is read. All else is checked when the whole document has been read, and what follows
the document after that.
-/

namespace MediaCatalog

namespace Json

/-- Reads a string where `expected` is called for. -/
def readText (expected : String) : Reader String := fun cs => do
  let other (cs : List Char) : Except Stop (Json × List Char) :=
    stop (.mismatch (.kind (if cs.head? = some '[' then .array else .object) expected)) cs
  match ← readScalarOr other cs with
  | (.string s, rest) => return (s, rest)
  | (j, rest) => stop (.mismatch (.kind j.found expected)) rest

/-- Reads the kind of a node. -/
def readKind : Reader Json := fun cs => do
  let (s, rest) ← readText NodeKind.expected cs
  match nameFault? NodeKind.names s with
  | none => return (.string s, rest)
  | some m => stop (.mismatch m) rest

/-- Reads the members after the first, with the text as fuel, `member` being given those that came
before, last first. -/
def readRestAfter (member : List (String × Json) → Reader (String × Json)) :
    List Char → List (String × Json) → Reader (List (String × Json))
  | [], _, cs => stop .unfinishedObject cs
  | _ :: fuel, before, cs => do
    let (more, cs) ← nextItem objectBracket cs
    if more then
      let (m, cs) ← member before cs
      readRestAfter member fuel (m :: before) cs
    else return (before.reverse, cs)

/-- Reads the members of an object after its opening brace, `member` being given those that came
before. -/
def readMembersAfter (member : List (String × Json) → Reader (String × Json)) :
    Reader (List (String × Json)) := fun cs =>
  match skipBlank cs with
  | [] => stop .unfinishedObject []
  | c :: rest =>
    if c = objectBracket.close then .ok ([], rest)
    else do
      let (m, cs) ← member [] (c :: rest)
      readRestAfter member cs [m] cs

/-- What is left after blanks and the end of an object. -/
def afterObject (cs : List Char) : List Char :=
  match skipBlank cs with
  | c :: rest => if c = objectBracket.close then rest else c :: rest
  | [] => []

/-- Reads a member, whose value is read by `value` when it has the key given, which may come once. -/
def readMarked (key : String) (value : Reader Json) (before : List (String × Json)) :
    Reader (String × Json) := fun cs => do
  let (k, cs) ← readKey cs
  if k = key then
    match named key before with
    | .absent =>
      let (v, cs) ← value (← readColon cs)
      return ((k, v), cs)
    | _ => stop (.mismatch (.repeated key)) (afterObject cs)
  else
    let (v, cs) ← readValue (maxNesting - 1) (← readColon cs)
    return ((k, v), cs)

/-- Reads an object with a member of a key, after its opening brace. -/
def readMarkedObject (key : String) (value : Reader Json) : Reader Json := fun cs => do
  let (ms, rest) ← readMembersAfter (readMarked key value) cs
  match named key ms with
  | .absent => stop (.mismatch (.missing key)) rest
  | _ => return (.object ms, rest)

/-- Reads the array form of a node after its opening bracket. -/
def readNodeArray : Reader Json := fun cs =>
  match skipBlank cs with
  | [] => stop .unfinishedArray []
  | c :: rest =>
    if c = arrayBracket.close then stop (.mismatch (.missing "type")) rest
    else do
      let (kind, cs) ← readKind (c :: rest)
      let (xs, cs) ← readRest (readValue (maxNesting - 1)) arrayBracket cs cs
      return (.array (kind :: xs), cs)

/-- Reads a scalar, which is not `expected`. -/
def readOther (expected : String) : Reader Json := fun cs => do
  let (j, rest) ← readScalarOr (stop (.mismatch .other)) cs
  stop (.mismatch (.kind j.found expected)) rest

/-- The value that a document describes, with nothing after it in its text. -/
def described {α : Type} (ofJson? : Json → Option α) (mismatch : Json → Mismatch) (text : String)
    (r : Except Stop (Json × List Char)) : Except Fault α := do
  let (j, rest) ← r.mapError (·.toFault text)
  match ofJson? j with
  | some x =>
    (endOfText rest).mapError (·.toFault text)
    return x
  | none => throw (.ofMismatch (mismatch j))

end Json

/-- Reads a text that is a query. -/
def Query.parse (text : String) : Except Json.Fault Query :=
  Json.described Query.ofJson? Query.mismatch text <|
    match Json.skipBlank text.toList with
    | '[' :: rest => Json.readNodeArray rest
    | '\x7b' :: rest => Json.readMarkedObject "type" Json.readKind rest
    | cs => Json.readOther "internally tagged enum Query" cs

/-- Reads a text that is a search. -/
def Search.parse (text : String) : Except Json.Fault Search :=
  Json.described Search.ofJson? (fun _ => .other) text <|
    match Json.skipBlank text.toList with
    | '\x7b' :: rest =>
      Json.readMarkedObject "catalog"
        (fun cs => (Json.readText "a string" cs).map fun (s, cs) => (.string s, cs)) rest
    | cs => Json.readOther "an object" cs

end MediaCatalog

import MediaCatalog.Json.Fault
import MediaCatalog.Json.Writer
import MediaCatalog.Text.Quoted
/-!
# What is said of faults

A fault that has a place is told with its line and column.
-/

namespace MediaCatalog.Json

def Found.text : Found → String
  | null => "null"
  | bool b => "boolean `" ++ toString b ++ "`"
  | number (.int n) => "integer `" ++ toString n ++ "`"
  | number (.double x) => "floating point `" ++ x.jsonText ++ "`"
  | string s => "string " ++ Text.quoted s
  | array => "sequence"
  | object => "map"

def ticked (s : String) : String := "`" ++ s ++ "`"

/-- The names that are allowed. -/
def oneOf : List String → String
  | [a] => ticked a
  | [a, b] => ticked a ++ " or " ++ ticked b
  | names => "one of " ++ ", ".intercalate (names.map ticked)

def Mismatch.text : Mismatch → String
  | kind found expected => "invalid type: " ++ found.text ++ ", expected " ++ expected
  | value found expected => "invalid value: " ++ found.text ++ ", expected " ++ expected
  | length n expected => "invalid length " ++ toString n ++ ", expected " ++ expected
  | missing key => "missing field " ++ ticked key
  | repeated key => "duplicate field " ++ ticked key
  | unknownName name known => "unknown variant " ++ ticked name ++ ", expected " ++ oneOf known
  | other => "invalid type"

def Flaw.text : Flaw → String
  | unfinishedValue => "EOF while parsing a value"
  | unfinishedString => "EOF while parsing a string"
  | unfinishedArray => "EOF while parsing a list"
  | unfinishedObject => "EOF while parsing an object"
  | noValue => "expected value"
  | noWord => "expected ident"
  | noColon => "expected `:`"
  | noItemEnd => "expected `,` or `]`"
  | noMemberEnd => "expected `,` or `\x7d`"
  | keyNotString => "key must be a string"
  | trailingComma => "trailing comma"
  | trailingText => "trailing characters"
  | controlCharacter => "control character (\\u0000-\\u001F) found while parsing a string"
  | badEscape => "invalid escape"
  | brokenPair => "unexpected end of hex escape"
  | loneSurrogate => "lone leading surrogate in hex escape"
  | badNumber => "invalid number"
  | hugeNumber => "number out of range"
  | deepNesting => "recursion limit exceeded"
  | mismatch m => m.text

def Place.text (p : Place) : String :=
  " at line " ++ toString p.line ++ " column " ++ toString p.column

/-- What is said of a fault. -/
def Fault.message (f : Fault) : String := f.flaw.text ++ ((f.place.map Place.text).getD "")

end MediaCatalog.Json

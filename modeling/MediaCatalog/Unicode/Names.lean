import MediaCatalog.Unicode.Age
import MediaCatalog.Unicode.Category
import MediaCatalog.Unicode.Property
import MediaCatalog.Unicode.Script
import MediaCatalog.Unicode.ScriptExtension
import MediaCatalog.Unicode.Segment
/-!
# Sets of code points by name

A name is looked up without regard to case, blanks, hyphens, underscores and an `is` in front. A
name alone is that of a property, a category or a script, in this order. Properties that the
standard derives from others are derived here too.
-/

namespace MediaCatalog.Unicode

/-- The form in which names are compared. The abbreviation `isc` keeps its `is`, so that it is no
name of the category `c`. -/
def canonicalName (s : String) : String :=
  let (stripped, cs) := match s.toList with
    | 'i' :: 's' :: rest | 'I' :: 's' :: rest | 'i' :: 'S' :: rest | 'I' :: 'S' :: rest => (true, rest)
    | cs => (false, cs)
  let cs := (cs.filter fun c => c ≠ ' ' && c ≠ '_' && c ≠ '-' && c.toNat < 128).map Char.toLower
  if stripped && cs == ['c'] then "isc" else String.ofList cs

/-! ## Categories and scripts -/

/-- The members of a category with a table, or of a union of them. -/
def tabled? (name : String) : Option RangeSet :=
  match categoryGroups.find? (·.1.contains name) with
  | some (_, parts) => some (.unions (parts.filterMap (find? categories)))
  | none => find? categories name

/-- The members of some categories. -/
def inCategories (names : List String) : RangeSet := .unions (names.filterMap tabled?)

/-- Surrogates, which are no characters. -/
def surrogates : RangeSet := .range 0xD800 0xDFFF

/-- The characters without a category. -/
def unassigned : RangeSet := (RangeSet.unions (surrogates :: categories.map Table.toSet)).compl

/-- Letters, marks, numbers, punctuation, symbols and separators. -/
def graphicOrSeparator : RangeSet :=
  .unions <| (categories.filter fun t => !(["cc", "cf", "co"].any t.names.contains)).map Table.toSet

/-- The characters of a general category. -/
def category? (name : String) : Option RangeSet :=
  match name with
  | "any" => some .all
  | "ascii" => some .ascii
  | "assigned" => some unassigned.compl
  | "cn" | "unassigned" => some unassigned
  | "c" | "other" => some graphicOrSeparator.compl
  | name => tabled? name

def script? (name : String) : Option RangeSet := find? scripts name

/-- The code points that a script uses. -/
def scriptExtension? (name : String) : Option RangeSet :=
  (script? name).map fun s =>
    (s.union ((find? scriptExtras name).getD .empty)).diff ((find? scriptLosses name).getD .empty)

/-! ## Properties -/

/-- The members of a property that the table lists. -/
def listed (name : String) : RangeSet := (find? properties name).getD .empty

def whiteSpace : RangeSet := listed "space"

def alphabetic : RangeSet := (inCategories ["l", "nl"]).union (listed "oalpha")

def lowercase : RangeSet := (inCategories ["ll"]).union (listed "olower")

def uppercase : RangeSet := (inCategories ["lu"]).union (listed "oupper")

def cased : RangeSet := .unions [lowercase, uppercase, inCategories ["lt"]]

/-- The value of a property that texts are divided by. -/
def listedBreak (breaks : List Table) (name : String) : RangeSet := (find? breaks name).getD .empty

def caseIgnorable : RangeSet :=
  .unions (inCategories ["mn", "me", "cf", "lm", "sk"]
    :: ["midletter", "midnumlet", "singlequote"].map (listedBreak wordBreaks))

def graphemeExtend : RangeSet := (inCategories ["mn", "me"]).union (listed "ogrext")

/-- Characters of patterns, which no identifier may have. -/
def patternCharacters : RangeSet := (listed "patsyn").union (listed "patws")

def identifierStart : RangeSet :=
  ((inCategories ["l", "nl"]).union (listed "oids")).diff patternCharacters

def identifierContinue : RangeSet :=
  (RangeSet.unions [identifierStart, inCategories ["mn", "mc", "nd", "pc"],
    listed "oidc"]).diff patternCharacters

/-- What a normal form takes apart so that it begins with a character that may only continue an
identifier, or with none of them. -/
def compatibilityForms : RangeSet :=
  setOf "37A 309B-309C FC5E-FC63 FDFA-FDFB FE70 FE72 FE74 FE76 FE78 FE7A FE7C FE7E"

def defaultIgnorable : RangeSet :=
  (RangeSet.unions [listed "odi", inCategories ["cf"], listed "vs"]).diff <|
    .unions [whiteSpace, .range 0xFFF9 0xFFFB, .range 0x13430 0x1343F, listed "pcm"]

/-- The code points of words: alphabetic ones, marks, digits, connectors and join controls. -/
def word : RangeSet :=
  .unions [alphabetic, inCategories ["mn", "mc", "me", "nd", "pc"], listed "joinc"]

/-- The code points with a property that is there or not. -/
def property? : String → Option RangeSet
  | "alphabetic" | "alpha" => some alphabetic
  | "lowercase" | "lower" => some lowercase
  | "uppercase" | "upper" => some uppercase
  | "cased" => some cased
  | "caseignorable" | "ci" => some caseIgnorable
  | "changeswhencasemapped" | "cwcm" => some (.unions [listed "cwl", listed "cwt", listed "cwu"])
  | "math" => some ((inCategories ["sm"]).union (listed "omath"))
  | "idstart" | "ids" => some identifierStart
  | "idcontinue" | "idc" => some identifierContinue
  | "xidstart" | "xids" =>
    some (identifierStart.diff (compatibilityForms.union (setOf "E33 EB3 FF9E-FF9F")))
  | "xidcontinue" | "xidc" => some (identifierContinue.diff compatibilityForms)
  | "defaultignorablecodepoint" | "di" => some defaultIgnorable
  | "graphemeextend" | "grext" => some graphemeExtend
  | "graphemebase" | "grbase" =>
    some (RangeSet.unions [inCategories ["cc", "cf", "co", "zl", "zp"], unassigned, surrogates,
      graphemeExtend]).compl
  | name => find? properties name

/-! ## Properties with values -/

/-- The code points that a version has: those that it brought or an older one did. -/
def age? (name : String) : Option RangeSet :=
  if ages.any (·.names.contains name) then
    let newer := ages.dropWhile fun t => !t.names.contains name
    some (.unions ((ages.take (ages.length + 1 - newer.length)).map Table.toSet))
  else none

/-- The first syllable of every block of 28, which ends in a vowel. -/
def openSyllables : RangeSet :=
  ⟨(List.range 399).map fun i => (0xAC00 + 28 * i, 0xAC00 + 28 * i)⟩

def syllables : RangeSet := .range 0xAC00 0xD7A3

def graphemeBreak? : String → Option RangeSet
  | "ex" | "extend" => some (graphemeExtend.union (listed "emod"))
  | "lv" => some openSyllables
  | "lvt" => some (syllables.diff openSyllables)
  | name => find? graphemeBreaks name

/-- Marks, which never begin anything. -/
def extending : RangeSet := graphemeExtend.union (inCategories ["mc"])

def wordBreak? : String → Option RangeSet
  | "extend" => some (extending.union (listed "emod"))
  | "ex" | "extendnumlet" => some ((inCategories ["pc"]).union (.single 0x202F))
  | name => find? wordBreaks name

/-- Small letters that begin no sentence. -/
def sentenceLower : RangeSet :=
  lowercase.diff (graphemeExtend.union ⟨[(0x10D0, 0x10FA), (0x10FD, 0x10FF)]⟩)

/-- Capital letters that begin a sentence. -/
def sentenceUpper : RangeSet :=
  (uppercase.union (inCategories ["lt"])).diff (.range 0x1C90 0x1CBF)

def sentenceExtend : RangeSet := extending.union (.single 0x200D)

def sentenceBreak? : String → Option RangeSet
  | "ex" | "extend" => some sentenceExtend
  | "lo" | "lower" => some sentenceLower
  | "up" | "upper" => some sentenceUpper
  | "le" | "oletter" =>
    some ((alphabetic.union (.single 0x5F3)).diff <|
      .unions [sentenceLower, sentenceUpper, sentenceExtend])
  | "st" | "sterm" => some ((listed "sterm").diff (listedBreak sentenceBreaks "aterm"))
  | name => find? sentenceBreaks name

/-! ## Names -/

/-- The code points that a name alone stands for. -/
def named? (name : String) : Option RangeSet :=
  let n := canonicalName name
  (property? n).or ((category? n).or (script? n))

/-- The code points with a value of a property. -/
def valued? (property value : String) : Option RangeSet :=
  let v := canonicalName value
  match canonicalName property with
  | "gc" | "generalcategory" => category? v
  | "sc" | "script" => script? v
  | "scx" | "scriptextensions" => scriptExtension? v
  | "age" => age? v
  | "gcb" | "graphemeclusterbreak" => graphemeBreak? v
  | "wb" | "wordbreak" => wordBreak? v
  | "sb" | "sentencebreak" => sentenceBreak? v
  | _ => none

end MediaCatalog.Unicode

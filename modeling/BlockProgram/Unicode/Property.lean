import BlockProgram.Unicode.RangeSet
import BlockProgram.Unicode.Tables.Category
import BlockProgram.Unicode.Tables.Script
import BlockProgram.Unicode.Tables.ScriptExtension
import BlockProgram.Unicode.Tables.Binary
import BlockProgram.Unicode.Tables.Age
import BlockProgram.Unicode.Tables.Break
import BlockProgram.Unicode.Tables.PropertyName

/-! # Unicode properties by name

Patterns name sets of code points as `\p{Greek}`, `\pL`, `\p{gc=Lu}` or
`\p{Script_Extensions:Latin}`. Names match loosely: case, spaces, underscores and hyphens
do not count, nor does a leading `is` (`normalize`). A lone name is looked up as a binary
property, then as a general category, then as a script; the names `cf`, `sc` and `lc` skip
the first step, because they abbreviate both a property and a general category. A name
with a value selects the general category, script, script extension, age, or break class
with that value. Any other name, or a value the property lacks, names no set.
-/

namespace BlockProgram.Unicode

/-- A set of code points with its normalized names. -/
structure NamedSet where
  /-- The names, normalized. -/
  names : List String
  /-- The code points. -/
  set : RangeSet
  deriving Inhabited

/-- Loose name matching: a leading `is` in any case is dropped, spaces, underscores and
hyphens are dropped, capitals become small, and anything outside ASCII is dropped. What
is left of `isc` after dropping its `is` would read as the category `c`, so it stays
`isc`. -/
def normalize (s : String) : String :=
  let cs := s.toList
  let (startsWithIs, rest) :=
    match cs with
    | a :: b :: rest => if (a == 'i' || a == 'I') && (b == 's' || b == 'S') then (true, rest) else (false, cs)
    | _ => (false, cs)
  let kept := rest.filterMap fun c =>
    if c == ' ' || c == '_' || c == '-' || c.toNat > 0x7F then none else some c.toLower
  if startsWithIs && kept == ['c'] then "isc" else String.ofList kept

/-- The entries of a table: names, a colon, and code points, entries separated by
semicolons. -/
def parseTable (text : String) : List NamedSet :=
  (text.splitOn ";").filterMap fun entry =>
    match entry.splitOn ":" with
    | [names, codes] => some ⟨(names.splitOn ",").map normalize, RangeSet.decode codes⟩
    | _ => none

/-- The entry of a table with a given normalized name. -/
def NamedSet.find? (table : List NamedSet) (name : String) : Option NamedSet :=
  table.find? (·.names.contains name)

/-- The two-letter general categories. -/
def categories : List NamedSet := parseTable Tables.categoryTable

/-- The scripts. -/
def scripts : List NamedSet := parseTable Tables.scriptTable

/-- The code points used with each script. -/
def scriptExtensions : List NamedSet := parseTable Tables.scriptExtensionTable

/-- The binary properties. -/
def binaryProperties : List NamedSet := parseTable Tables.binaryTable

/-- The code points each Unicode version assigned, oldest first. -/
def ages : List NamedSet := parseTable Tables.ageTable

/-- The grapheme cluster break classes. -/
def graphemeBreaks : List NamedSet := parseTable Tables.graphemeBreakTable

/-- The sentence break classes. -/
def sentenceBreaks : List NamedSet := parseTable Tables.sentenceBreakTable

/-- The word break classes. -/
def wordBreaks : List NamedSet := parseTable Tables.wordBreakTable

/-- Every property's names, normalized, the long name second. -/
def propertyNames : List (List String) :=
  (Tables.propertyNameTable.splitOn ";").map fun names => (names.splitOn ",").map normalize

/-- The long name of a property, normalized, from any of its names. -/
def canonicalProperty (name : String) : Option String :=
  (propertyNames.find? (·.contains name)).bind fun names => names[1]? <|> names[0]?

/-- The general categories that group others, with their names and members. -/
def categoryGroups : List (List String × List String) :=
  [(["C", "Other"], ["Cc", "Cf", "Co", "Cn"]),
   (["L", "Letter"], ["Lu", "Ll", "Lt", "Lm", "Lo"]),
   (["LC", "Cased_Letter"], ["Lu", "Ll", "Lt"]),
   (["M", "Mark", "Combining_Mark"], ["Mn", "Mc", "Me"]),
   (["N", "Number"], ["Nd", "Nl", "No"]),
   (["P", "Punctuation", "punct"], ["Pc", "Pd", "Ps", "Pe", "Pi", "Pf", "Po"]),
   (["S", "Symbol"], ["Sm", "Sc", "Sk", "So"]),
   (["Z", "Separator"], ["Zs", "Zl", "Zp"])]

/-- The code points of a general category, a group of them, or one of the names `Any`,
`Assigned` and `ASCII`, by normalized name; the result is a union of sets. -/
def category? (name : String) : Option (List RangeSet) :=
  if name = "any" then some [RangeSet.span 0 maxCodePoint]
  else if name = "ascii" then some [RangeSet.span 0 0x7F]
  else if name = "assigned" then
    (NamedSet.find? categories "cn").map fun e => [e.set.complement]
  else
    match NamedSet.find? categories name with
    | some e => some [e.set]
    | none =>
      (categoryGroups.find? fun (names, _) => (names.map normalize).contains name).map
        fun (_, members) =>
          members.filterMap fun m => (NamedSet.find? categories (normalize m)).map (·.set)

/-- The code points of a script, by normalized name. -/
def script? (name : String) : Option (List RangeSet) :=
  (NamedSet.find? scripts name).map fun e => [e.set]

/-- The code points assigned up to and including a Unicode version. -/
def assignedBy? (version : String) : Option (List RangeSet) :=
  match ages.findIdx? (·.names.contains version) with
  | some i => some ((ages.take (i + 1)).map (·.set))
  | none => none

/-- The code points a class name without a value stands for, by its text. -/
def named? (name : String) : Option (List RangeSet) :=
  let norm := normalize name
  let asProperty :=
    if norm = "cf" ∨ norm = "sc" ∨ norm = "lc" then none else canonicalProperty norm
  match asProperty with
  | some canon => (NamedSet.find? binaryProperties canon).map fun e => [e.set]
  | none => category? norm <|> script? norm

/-- The code points a class name with a value stands for, by their texts. -/
def withValue? (name value : String) : Option (List RangeSet) := do
  let canon ← canonicalProperty (normalize name)
  let v := normalize value
  let single (table : List NamedSet) := (NamedSet.find? table v).map fun e => [e.set]
  if canon = "generalcategory" then category? v
  else if canon = "script" then script? v
  else if canon = "scriptextensions" then single scriptExtensions
  else if canon = "age" then assignedBy? v
  else if canon = "graphemeclusterbreak" then single graphemeBreaks
  else if canon = "sentencebreak" then single sentenceBreaks
  else if canon = "wordbreak" then single wordBreaks
  else none

/-- A binary property by long name, normalized; empty when the tables lack it. -/
def binary (name : String) : RangeSet :=
  ((NamedSet.find? binaryProperties name).map (·.set)).getD RangeSet.empty

/-- The word characters: letters, marks, decimal digits, connector punctuation and the
joiners. -/
def wordCharacters : List RangeSet :=
  [binary "alphabetic", binary "joincontrol"] ++
    ["mn", "mc", "me", "nd", "pc"].filterMap fun c => (NamedSet.find? categories c).map (·.set)

/-- The decimal digits. -/
def decimalDigits : List RangeSet := (category? "nd").getD []

/-- The white space characters. -/
def whiteSpace : List RangeSet := [binary "whitespace"]

/-- The alphabetic characters. -/
def alphabetic : RangeSet := binary "alphabetic"

/-- Whether a code point is in a union of sets. -/
def inAny (sets : List RangeSet) (c : Nat) : Bool := sets.any (·.contains c)

/-- Whether a character is white space. -/
def isWhiteSpace (c : Char) : Bool := inAny whiteSpace c.toNat

/-- Whether a character is alphabetic. -/
def isAlphabetic (c : Char) : Bool := alphabetic.contains c.toNat

/-- Whether a code point is a word character. -/
def isWordCharacter (c : Nat) : Bool := inAny wordCharacters c

/-- Whether a code point is numeric: in a number category. -/
def isNumeric (c : Nat) : Bool := inAny ((category? "n").getD []) c

end BlockProgram.Unicode

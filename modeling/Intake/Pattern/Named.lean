/-
The sets of characters that patterns know by name: categories, scripts,
properties, and the classes for words, digits and blanks.

Names are compared as the tables hold them. What follows from other
properties is put together here as Unicode defines it.
-/
import Intake.Pattern.CharSet
import Intake.Pattern.Category
import Intake.Pattern.Script
import Intake.Pattern.ScriptExtension
import Intake.Pattern.Property
import Intake.Pattern.Age
import Intake.Pattern.Break

namespace Intake.Pattern.CharSet

-- ====================================================== tables

/-- The value of hexadecimal digits. -/
def hexValue (digits : String) : Nat :=
  digits.toList.foldl (fun n c =>
    n * 16
      + (if c ≤ '9' then c.toNat - '0'.toNat else c.toNat - 'A'.toNat + 10)) 0

/-- The first and the last code point of a range in a table. -/
def tableRange (range : String) : Nat × Nat :=
  match range.splitOn "-" with
  | [first, last] => (hexValue first, hexValue last)
  | _ => (hexValue range, hexValue range)

/-- The ranges of a word in a table. One with a step holds single code
points at that distance. -/
def tableRanges (word : String) : Text.Ranges :=
  match word.splitOn "/" with
  | [range, step] =>
    let (first, last) := tableRange range
    (List.range ((last - first) / hexValue step + 1)).map fun i =>
      (first + i * hexValue step, first + i * hexValue step)
  | _ => [tableRange word]

/-- The words of a table entry, between spaces and line ends. -/
def tableWords (entry : String) : List String :=
  ((entry.splitOn "\n").flatMap fun line => line.splitOn " ").filter
    fun word => !word.isEmpty

/-- The set of a table entry. -/
def ofEntry (entry : String) : CharSet :=
  ofRanges ((tableWords entry).flatMap tableRanges)

/-- The entry of a table under one of its names. -/
def lookup? {α : Type} (table : List (List String × α)) (name : String) :
    Option α :=
  (table.find? fun entry => entry.1.contains name).map (·.2)

-- ====================================================== categories

/-- The union of categories that the table lists. -/
def categories (names : List String) : CharSet :=
  unions (names.filterMap fun name => (lookup? categoryTable name).map ofEntry)

/-- All categories but those of other code points: control and format
characters, private ones, and those without a meaning. -/
def visibleCategories : CharSet :=
  categories ((categoryGroups.filter fun group =>
    group.1 != ["lc", "casedletter"]).flatMap (·.2))

/-- The codes that have no character yet. -/
def unassigned : CharSet :=
  (visibleCategories.union (categories ["cc", "cf", "co"])).complement

/-- The characters of a category, or of a group of categories, under one of its
names. -/
def category? (name : String) : Option CharSet :=
  match name with
  | "any" => some all
  | "ascii" => some ascii
  | "assigned" => some unassigned.complement
  | "cn" | "unassigned" => some unassigned
  | "c" | "other" => some visibleCategories.complement
  | _ => ((lookup? categoryGroups name).map categories).or
      ((lookup? categoryTable name).map ofEntry)

-- ====================================================== scripts

/-- The characters of a script under one of its names. -/
def script? (name : String) : Option CharSet :=
  (lookup? scriptTable name).map ofEntry

/-- The characters that scripts use and that belong to another one. -/
def sharedCharacters : CharSet :=
  unions (scriptExtensionTable.map fun entry => ofEntry entry.2)

/-- The characters that a script uses. -/
def scriptExtension? (name : String) : Option CharSet :=
  (scriptTable.find? fun entry => entry.1.contains name).map
    fun (names, entry) =>
    let own := ofEntry entry
    if names.contains "common" || names.contains "inherited" then
      own.difference sharedCharacters
    else own.union (unions (names.filterMap fun name =>
      (lookup? scriptExtensionTable name).map ofEntry))

-- ====================================================== properties

/-- The set of a property that has a list of its own. -/
def listed (name : String) : CharSet :=
  ((lookup? propertyTable name).map ofEntry).getD nothing

/-- Letters in lower case and what else is taken for them. -/
def lowercase : CharSet := (categories ["ll"]).union (listed "olower")

/-- Letters in upper case and what else is taken for them. -/
def uppercase : CharSet := (categories ["lu"]).union (listed "oupper")

/-- Characters that have a case, title case included. -/
def cased : CharSet := unions [lowercase, uppercase, categories ["lt"]]

/-- Letters, and the signs that count as letters. -/
def alphabetic : CharSet :=
  unions [cased, categories ["lm", "lo", "nl"], listed "oalpha"]

/-- Characters that attach to the one in front of them. -/
def graphemeExtend : CharSet :=
  (categories ["mn", "me"]).union (listed "ogrext")

/-- Characters and white space that have a meaning of their own in the
languages of patterns. -/
def patternCharacters : CharSet := (listed "patsyn").union (listed "patws")

/-- Characters that a name may begin with. -/
def identifierStart : CharSet :=
  ((categories ["lu", "ll", "lt", "lm", "lo", "nl"]).union
    (listed "oids")).difference
    patternCharacters

/-- Characters that a name may go on with. -/
def identifierContinue : CharSet :=
  (unions [identifierStart, categories ["mn", "mc", "nd", "pc"],
    listed "oidc"]).difference
    patternCharacters

/-- The characters with a property under one of its names. Some are put
together from categories and lists, the others are listed. -/
def property? (name : String) : Option CharSet :=
  match name with
  | "lowercase" | "lower" => some lowercase
  | "uppercase" | "upper" => some uppercase
  | "cased" => some cased
  | "alphabetic" | "alpha" => some alphabetic
  | "math" => some ((categories ["sm"]).union (listed "omath"))
  | "caseignorable" | "ci" =>
    some ((categories ["mn", "me", "cf", "lm", "sk"]).union
      (unions (["mb", "ml", "sq"].filterMap fun name =>
        (lookup? wordBreakTable name).map ofEntry)))
  | "changeswhencasemapped" | "cwcm" =>
      some (unions [listed "cwl", listed "cwt", listed "cwu"])
  | "graphemeextend" | "grext" => some graphemeExtend
  | "graphemebase" | "grbase" =>
    some (visibleCategories.difference
      ((categories ["zl", "zp"]).union graphemeExtend))
  | "idstart" | "ids" => some identifierStart
  | "idcontinue" | "idc" => some identifierContinue
  | "xidstart" | "xids" =>
      some (identifierStart.difference (ofEntry decomposedStart))
  | "xidcontinue" | "xidc" =>
      some (identifierContinue.difference (ofEntry decomposedContinue))
  | _ => (lookup? propertyTable name).map ofEntry

/-- The characters assigned up to a version. -/
def age? (version : String) : Option CharSet :=
  match ageTable.span fun entry => !entry.1.contains version with
  | (_, []) => none
  | (earlier, entry :: _) =>
      some (unions ((earlier ++ [entry]).map fun entry => ofEntry entry.2))

-- ====================================================== breaks

/-- The characters of a class of grapheme breaks under one of its names.
Syllables with three parts are the rest of their block. -/
def graphemeBreak? (name : String) : Option CharSet :=
  match name with
  | "ex" | "extend" => some (graphemeExtend.union (listed "emod"))
  | "lvt" =>
    (lookup? graphemeBreakTable "lv").map fun entry =>
      (⟨[(0xAC00, 0xD7A3)]⟩ : CharSet).difference (ofEntry entry)
  | _ => (lookup? graphemeBreakTable name).map ofEntry

/-- The value of a word break property that the table lists. -/
def wordBreakEntry (name : String) : CharSet :=
  ((lookup? wordBreakTable name).map ofEntry).getD nothing

/-- The letters of the Hebrew script. -/
def hebrewLetters : CharSet :=
  ((script? "hebr").getD nothing).inter (categories ["lo"])

/-- Characters that word breaks take together with the one in front of them. -/
def wordExtend : CharSet :=
  unions [graphemeExtend, categories ["mc"], listed "emod"]

/-- Letters that hold a word together. -/
def wordLetters : CharSet :=
  (alphabetic.difference
    (unions [listed "ideo", wordBreakEntry "ka", wordExtend, hebrewLetters,
    (script? "hira").getD nothing, ofEntry unspacedLetters])).union
      (ofEntry wordSigns)

/-- The characters of a class of word breaks under one of its names. -/
def wordBreak? (name : String) : Option CharSet :=
  match name with
  | "extend" => some wordExtend
  | "le" | "aletter" => some wordLetters
  | "hl" | "hebrewletter" => some hebrewLetters
  | _ => (lookup? wordBreakTable name).map ofEntry

/-- Characters that sentence breaks take together with the one in front of
them. -/
def sentenceExtend : CharSet :=
  unions [graphemeExtend, categories ["mc"], listed "joinc"]

/-- Georgian letters, which have capitals that no sentence begins with. -/
def sentenceLower : CharSet :=
  lowercase.difference
    (graphemeExtend.union ⟨[(0x10D0, 0x10FA), (0x10FD, 0x10FF)]⟩)

/-- Upper and title case, without the Georgian capitals, which begin no
sentence. -/
def sentenceUpper : CharSet :=
  (uppercase.union (categories ["lt"])).difference
    ⟨[(0x1C90, 0x1CBA), (0x1CBD, 0x1CBF)]⟩

/-- The characters of a class of sentence breaks under one of its names. -/
def sentenceBreak? (name : String) : Option CharSet :=
  match name with
  | "ex" | "extend" => some sentenceExtend
  | "lo" | "lower" => some sentenceLower
  | "up" | "upper" => some sentenceUpper
  | "le" | "oletter" =>
    some ((alphabetic.union (single '\u05F3')).difference
      (unions [sentenceLower, sentenceUpper, sentenceExtend]))
  | "nu" | "numeric" => some ((wordBreakEntry "nu").union (single '\u066C'))
  | "st" | "sterm" =>
    let aTerms := ((lookup? sentenceBreakTable "at").map ofEntry).getD nothing
    some ((listed "sterm").difference aTerms)
  | _ => (lookup? sentenceBreakTable name).map ofEntry

-- ====================================================== names

/-- A name as the tables hold it: ASCII letters in lower case, without
spaces, hyphens and underscores, and without `is` in front unless that
leaves the letter c alone. -/
def plainName (name : List Char) : String :=
  let keep (cs : List Char) : List Char :=
    (cs.filter fun c => c.toNat < 0x80 && c != ' ' && c != '_' && c != '-').map
      Char.toLower
  match name with
  | i :: s :: rest =>
    if (i = 'i' ∨ i = 'I') ∧ (s = 's' ∨ s = 'S') then
      let kept := keep rest
      if kept = ['c'] then "isc" else String.ofList kept
    else String.ofList (keep name)
  | _ => String.ofList (keep name)

/-- The set with a name of its own. -/
def named? (name : List Char) : Option CharSet :=
  let name := plainName name
  (property? name).or ((category? name).or (script? name))

/-- The set of a property's value. -/
def valued? (property value : List Char) : Option CharSet :=
  let value := plainName value
  match plainName property with
  | "generalcategory" | "gc" => category? value
  | "script" | "sc" => script? value
  | "scriptextensions" | "scx" => scriptExtension? value
  | "age" => age? value
  | "graphemeclusterbreak" | "gcb" => graphemeBreak? value
  | "wordbreak" | "wb" => wordBreak? value
  | "sentencebreak" | "sb" => sentenceBreak? value
  | _ => none

-- ====================================================== classes of escapes

/-- The digits below 128. -/
def asciiDigits : CharSet := ⟨[(0x30, 0x39)]⟩

/-- The white space below 128. -/
def asciiBlanks : CharSet := ⟨[(0x09, 0x0D), (0x20, 0x20)]⟩

/-- Letters, digits and the underscore below 128. -/
def asciiWord : CharSet :=
  ⟨[(0x30, 0x39), (0x41, 0x5A), (0x5F, 0x5F), (0x61, 0x7A)]⟩

/-- Decimal digits of all scripts, or below 128 only. -/
def digits (unicode : Bool) : CharSet :=
  if unicode then categories ["nd"] else asciiDigits

/-- White space of all scripts, or below 128 only. -/
def blanks (unicode : Bool) : CharSet :=
  if unicode then listed "whitespace" else asciiBlanks

/-- Characters of words: alphabetic ones, marks, decimal digits, connecting
punctuation and joiners. -/
def wordCharacters : CharSet :=
  unions [alphabetic, categories ["mn", "mc", "me", "nd", "pc"],
    listed "joinc"]

/-- The characters of words of all scripts, or below 128 only. -/
def word (unicode : Bool) : CharSet :=
  if unicode then wordCharacters else asciiWord

/-- The bracketed ASCII classes. -/
def posix? (name : String) : Option CharSet :=
  match name with
  | "alnum" => some ⟨[(0x30, 0x39), (0x41, 0x5A), (0x61, 0x7A)]⟩
  | "alpha" => some ⟨[(0x41, 0x5A), (0x61, 0x7A)]⟩
  | "ascii" => some ascii
  | "blank" => some ⟨[(0x09, 0x09), (0x20, 0x20)]⟩
  | "cntrl" => some ⟨[(0x00, 0x1F), (0x7F, 0x7F)]⟩
  | "digit" => some asciiDigits
  | "graph" => some ⟨[(0x21, 0x7E)]⟩
  | "lower" => some ⟨[(0x61, 0x7A)]⟩
  | "print" => some ⟨[(0x20, 0x7E)]⟩
  | "punct" => some ⟨[(0x21, 0x2F), (0x3A, 0x40), (0x5B, 0x60), (0x7B, 0x7E)]⟩
  | "space" => some asciiBlanks
  | "upper" => some ⟨[(0x41, 0x5A)]⟩
  | "word" => some asciiWord
  | "xdigit" => some ⟨[(0x30, 0x39), (0x41, 0x46), (0x61, 0x66)]⟩
  | _ => none

end Intake.Pattern.CharSet

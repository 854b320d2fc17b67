import KconfigReference.Text.CharacterName.Alphabets
import KconfigReference.Text.CharacterName.Ancient
import KconfigReference.Text.CharacterName.EastAsian
import KconfigReference.Text.CharacterName.Logograms
import KconfigReference.Text.CharacterName.Notation
import KconfigReference.Text.CharacterName.Operators
import KconfigReference.Text.CharacterName.Other
import KconfigReference.Text.CharacterName.Pictographs
import KconfigReference.Text.CharacterName.Shapes
import KconfigReference.Text.CharacterName.Syllabaries
import KconfigReference.Text.Digit
import KconfigReference.Text.Normal.Form
import KconfigReference.Text.Quoted

/-!
The characters that have a name in Unicode 14. Most names are in tables; those of ideographs tell
the code of the character, and those of Korean syllables spell its letters. Case does not matter,
except in the names of common ideographs and of syllables.
-/

namespace KconfigReference.Text

def nameRuns : List (List NameRun) :=
  [alphabetsNames, syllabariesNames, operatorsNames, shapesNames, eastAsianNames, ancientNames,
    logogramsNames, notationNames, pictographsNames]

/-- What the names of some characters begin with that end in their codes, in four or five
hexadecimal digits, and the spans of these characters. -/
def codedNames : List (String × List String) :=
  [("CJK COMPATIBILITY IDEOGRAPH-", ["f900-fa6d fa70-fad9 2f800-2fa1d"]),
    ("NUSHU CHARACTER-", ["1b170-1b2fb"]), ("KHITAN SMALL SCRIPT CHARACTER-", ["18b00-18cd5"])]

/-- The spans of the common ideographs. -/
def ideographs : List String :=
  ["3400-4dbf 4e00-9fff 20000-2a6df 2a700-2b738 2b740-2b81d 2b820-2cea1 2ceb0-2ebe0 30000-3134a"]

/-- What follows some characters at the beginning of a text. -/
def after? (start t : Text) : Option Text :=
  if start.isPrefixOf t then some (t.drop start.length) else none

/-- The number within some spans that four or five hexadecimal digits denote, which are capital. -/
def codeWithin? (spansOfCodes : List String) (digits : Text) : Option Nat := do
  guard (digits.length = 4 ∨ digits.length = 5)
  guard (digits.all fun c => !('a' ≤ c && c ≤ 'f'))
  let code ← hexNumber? digits
  guard ((spans spansOfCodes).any (isWithin code))
  some code

/-- The letters that begin syllables, the vowels, and the letters that end them, as names of
syllables spell them. -/
def leadingNames : List String :=
  ["G", "GG", "N", "D", "DD", "R", "M", "B", "BB", "S", "SS", "", "J", "JJ", "C", "K", "T", "P",
    "H"]

def vowelNames : List String :=
  ["A", "AE", "YA", "YAE", "EO", "E", "YEO", "YE", "O", "WA", "WAE", "OE", "YO", "U", "WEO", "WE",
    "WI", "YU", "EU", "YI", "I"]

def trailingNames : List String :=
  ["", "G", "GG", "GS", "N", "NJ", "NH", "D", "L", "LG", "LM", "LB", "LS", "LT", "LP", "LH", "M",
    "B", "BS", "S", "SS", "NG", "J", "C", "K", "T", "P", "H"]

/-- The number of the longest of some names that a text begins with, and what follows it. -/
def longestName? (names : List String) (t : Text) : Option (Nat × Text) :=
  names.zipIdx.foldl
    (fun best (name, index) =>
      match after? name.toList t with
      | none => best
      | some rest =>
          match best with
          | some (_, shorter) => if rest.length < shorter.length then some (index, rest) else best
          | none => some (index, rest))
    none

/-- The syllable that is spelled so. -/
def syllableNamed? (spelling : Text) : Option Nat := do
  let (leading, rest) ← longestName? leadingNames spelling
  let (vowel, rest) ← longestName? vowelNames rest
  let (trailing, rest) ← longestName? trailingNames rest
  guard (rest = [])
  some (0xAC00 + leading * syllablesOfLeading + vowel * syllablesOfVowel + trailing)

/-- The code of a variation selector by its abbreviation, which ends in its number. -/
def selectorNamed? (name : Text) : Option Nat :=
  (List.range 256).find? (fun index => name = "VS".toList ++ ofNat (index + 1)) |>.map fun index =>
    if index < 16 then 0xFE00 + index else 0xE0100 + (index - 16)

/-- The code of a name in the tables, which is in capital letters. -/
def codeInTables? (name : Text) : Option Nat :=
  let words := pieces (· = ' ') name
  (nameRuns.findSome? fun runs => runs.findSome? (NameRun.code? words)) <|>
    (otherNames.find? fun (_, names) => names.any (·.toList = name)).map Prod.fst <|>
    selectorNamed? name <|>
    codedNames.findSome? fun (start, spansOfCodes) => do
      let code ← codeWithin? spansOfCodes (← after? start.toList name)
      if name = start.toList ++ (hex 4 code).map Char.toUpper then some code else none

/-- The character that has a name. -/
def characterNamed? (name : Text) : Option Char :=
  let code? :=
    match after? "HANGUL SYLLABLE " name, after? "CJK UNIFIED IDEOGRAPH-" name with
    | some spelling, _ => syllableNamed? spelling
    | none, some digits => codeWithin? ideographs digits
    | none, none => codeInTables? (name.map Char.toUpper)
  code?.map Char.ofNat

end KconfigReference.Text

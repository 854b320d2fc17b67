import KconfigReference.Text.Digit
import KconfigReference.Text.Normal.Composition
import KconfigReference.Text.Normal.Decomposition

/-!
The normal form of a text under compatibility. Every character is decomposed, marks that combine are
put in the order of their classes, and what composes is composed again; so texts that differ only in
the form of their characters have one normal form.
-/

namespace KconfigReference.Text

/-- The code points that an entry of a table has for a number. -/
def imageIn? (n : Nat) (entry : Text) : Option (List Nat) := do
  let (left, right) ← splitAtFirst ['>'] entry
  let (first, last) ← span? left
  let image ← (pieces (· = '.') right).mapM hexNumber?
  guard (isWithin n (first, last))
  match image with
  | [single] => some [single + (n - first)]
  | several => some several

/-- The number of the syllables that are composed of letters of the Korean alphabet, and of those
that begin with one consonant or with one consonant and one vowel. -/
def syllableCount : Nat := 11172

def syllablesOfLeading : Nat := 588

def syllablesOfVowel : Nat := 28

/-- The letters of a syllable, by its number among all syllables. -/
def syllableLetters (index : Nat) : List Nat :=
  let trailing := index % syllablesOfVowel
  [0x1100 + index / syllablesOfLeading, 0x1161 + index % syllablesOfLeading / syllablesOfVowel] ++
    (if trailing = 0 then [] else [0x11A7 + trailing])

def decompose (c : Char) : Text :=
  let n := c.toNat
  if 0xAC00 ≤ n ∧ n < 0xAC00 + syllableCount then
    (syllableLetters (n - 0xAC00)).map Char.ofNat
  else
    match decompositionBlocks.lookup (n / 256) with
    | none => [c]
    | some row =>
        match (tableEntries row).findSome? (imageIn? (n % 256)) with
        | some image => image.map Char.ofNat
        | none => [c]

/-- The classes but zero, each with its characters. -/
def combiningSpans : List (Nat × List (Nat × Nat)) :=
  combiningRows.map fun (number, row) => (number, spans row)

/-- The class of a character that combines with the one before it; zero for all others. -/
def combiningClass (c : Char) : Nat :=
  if c.toNat < 0x300 then 0
  else
    let found := combiningSpans.find? fun (_, spans) => spans.any (isWithin c.toNat)
    (found.map Prod.fst).getD 0

/-- A character with its class. -/
abbrev Classed := Char × Nat

/-- Puts a character after a text in which marks are in order; the last character of the text is
the first of the list. A mark goes before marks of greater classes. -/
def putMark (mark : Classed) : List Classed → List Classed
  | [] => [mark]
  | last :: before =>
      if mark.2 ≠ 0 ∧ mark.2 < last.2 then last :: putMark mark before else mark :: last :: before

/-- The marks after each character in the order of their classes. -/
def ordered (t : List Classed) : List Classed := (t.foldl (fun done c => putMark c done) []).reverse

/-- What two characters compose to. -/
def composed? (first second : Char) : Option Char :=
  let a := first.toNat
  let b := second.toNat
  if 0x1100 ≤ a ∧ a < 0x1113 ∧ 0x1161 ≤ b ∧ b < 0x1176 then
    some (Char.ofNat (0xAC00 + (a - 0x1100) * syllablesOfLeading + (b - 0x1161) * syllablesOfVowel))
  else if 0xAC00 ≤ a ∧ a < 0xAC00 + syllableCount ∧ (a - 0xAC00) % syllablesOfVowel = 0 ∧
      0x11A7 < b ∧ b < 0x11C3 then
    some (Char.ofNat (a + (b - 0x11A7)))
  else
    match compositionRows.lookup b with
    | none => none
    | some row =>
        match (tableEntries row).findSome? (imageIn? a) with
        | some [n] => some (Char.ofNat n)
        | _ => none

/-- A text while it is composed. -/
structure Composing where
  /-- What is settled, the last character first. -/
  settled : Text
  /-- The character that marks may still compose with. -/
  starter : Option Char
  /-- The marks after it that do not, the last one first. -/
  marks : List Classed

namespace Composing

def text (s : Composing) : Text :=
  s.marks.map Prod.fst ++ s.starter.toList ++ s.settled

/-- One character further. It composes with the starter unless a mark between them has its class or
a greater one. -/
def step (s : Composing) (c : Classed) : Composing :=
  let isBlocked := match s.marks with
    | [] => false
    | last :: _ => c.2 ≤ last.2
  match if isBlocked then none else s.starter.bind (composed? · c.1) with
  | some whole => { s with starter := some whole }
  | none =>
      if c.2 = 0 then ⟨s.text, some c.1, []⟩ else { s with marks := c :: s.marks }

end Composing

def compose (t : List Classed) : Text := (t.foldl Composing.step ⟨[], none, []⟩).text.reverse

/-- The normal form of a text. -/
def normalForm (t : Text) : Text :=
  if t.all (·.toNat < 0x80) then t
  else compose (ordered ((t.flatMap decompose).map fun c => (c, combiningClass c)))

end KconfigReference.Text

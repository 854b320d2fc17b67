import KconfigReference.Text.Basic
import KconfigReference.Text.Quoted

/-!
Texts of code points that may be halves of surrogate pairs. No file holds such a half, but a
template can name one by its number. A half has a written form and stands in settings as it is;
where a text has to become bytes it is refused, and where it is only shown two halves that make a
pair are the character of the pair.

The markup characters `&`, `<` and `>` of a text are written as the entities `&amp;`, `&lt;` and
`&gt;`, so that the text holds no tag.
-/

namespace KconfigReference

namespace Text

/-- The written form of one character. -/
def entity (c : Char) : Text :=
  if c = '&' then "&amp;" else if c = '<' then "&lt;" else if c = '>' then "&gt;" else [c]

/-- The text with its markup characters written as entities. -/
def escapeMarkup (t : Text) : Text := t.flatMap entity

@[simp] theorem escapeMarkup_nil : escapeMarkup [] = [] := rfl

@[simp] theorem escapeMarkup_append (a b : Text) :
    escapeMarkup (a ++ b) = escapeMarkup a ++ escapeMarkup b := by
  simp [escapeMarkup]

end Text

/-- A character, or half of a surrogate pair. -/
inductive CodePoint where
  | char (c : Char)
  /-- The half that stands so far above U+D800. -/
  | half (offset : Fin 0x800)
deriving Repr, DecidableEq

namespace CodePoint

/-- The code point of a number that is one. -/
def ofNat (n : Nat) : CodePoint :=
  if h : 0xD800 ≤ n ∧ n < 0xE000 then .half ⟨n - 0xD800, by omega⟩ else .char (Char.ofNat n)

def toNat : CodePoint → Nat
  | char c => c.toNat
  | half offset => 0xD800 + offset

def char? : CodePoint → Option Char
  | char c => some c
  | half _ => none

/-- Whether a half is the first one of a pair. -/
def isLeading (offset : Fin 0x800) : Bool := offset.val < 0x400

/-- The character of a pair. -/
def pair (leading trailing : Fin 0x800) : Char :=
  Char.ofNat (0x10000 + leading.val % 0x400 * 0x400 + trailing.val % 0x400)

/-- The byte that is no text for which a half stands in the names of files. -/
def strayByte? (offset : Fin 0x800) : Option UInt8 :=
  if 0x480 ≤ offset.val ∧ offset.val < 0x500 then some (UInt8.ofNat (offset.val - 0x400)) else none

/-- A code point between quotation marks. -/
def quoted (mark : Char) : CodePoint → Text
  | char c => Text.quotedChar mark c
  | half offset => "\\u" ++ Text.hex 4 (0xD800 + offset.val)

/-- A code point with the characters of markup written as entities. -/
def escapeMarkup : CodePoint → List CodePoint
  | char c => (Text.entity c).map char
  | half offset => [half offset]

end CodePoint

/-- A text that may hold halves of surrogate pairs. -/
abbrev CodeText := List CodePoint

instance : Coe Text CodeText := ⟨List.map CodePoint.char⟩

namespace CodeText

/-- The text of code points that are all characters. -/
def plain? (t : CodeText) : Option Text := t.mapM CodePoint.char?

/-- The text with the character of every pair in place of its halves. -/
def paired : CodeText → CodeText
  | [] => []
  | .char c :: rest => .char c :: paired rest
  | .half leading :: .half trailing :: rest =>
      if CodePoint.isLeading leading && !CodePoint.isLeading trailing then
        .char (CodePoint.pair leading trailing) :: paired rest
      else .half leading :: paired (.half trailing :: rest)
  | .half leading :: rest => .half leading :: paired rest

/-- The text as it is shown: a half without its other half is replaced. -/
def joined (t : CodeText) : Text := t.paired.map fun point => point.char?.getD '\uFFFD'

/-- The text between quotation marks, every half as an escape. -/
def quoted (t : CodeText) : Text :=
  let mark := Text.quoteMark (t.filterMap CodePoint.char?)
  [mark] ++ t.flatMap (CodePoint.quoted mark) ++ [mark]

/-- The text with its markup characters written as entities. -/
def escapeMarkup (t : CodeText) : CodeText := t.flatMap CodePoint.escapeMarkup

/-- The bytes of a text in the name of a file. Only the halves that stand for stray bytes have
any. -/
def nameBytes? (t : CodeText) : Option Bytes :=
  let bytes? : CodePoint → Option Bytes
    | .char c => some (String.utf8EncodeChar c)
    | .half offset => (CodePoint.strayByte? offset).map ([·])
  (t.mapM bytes?).map List.flatten

/-- The text as a part of the name of a file. -/
def inName (t : CodeText) : Text := (t.nameBytes?.map Utf8.decodeLenient).getD t.joined

end CodeText

end KconfigReference

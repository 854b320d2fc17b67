import KconfigReference.Template.Assignment.Basic
import KconfigReference.Template.Assignment.Number
import KconfigReference.Template.Assignment.Quote
import KconfigReference.Text.Symbol

/-!
Tokens of templates of assignments. A statement ends with its line unless a bracket is open or a
backslash ends the line. Brackets have to match. A text that breaks off gives the tokens before the
break, because a fault among them may come first. What is read are bytes, each as the character of
its number.
-/

namespace KconfigReference.Assignment

/-- How a text breaks off: it ends too soon, perhaps with a bracket open, or it goes on with what is
no token, or with bytes that are no text. -/
inductive Break where
  | early (fault : Fault) (opened : Option (Placed Char))
  | faulty (fault : Fault)
  | undecodable (message : Text) (line : Nat)

namespace Break

/-- What is reported where a reader gets to the break. -/
def reached : Break → Fault
  | early fault _ => fault
  | faulty fault => fault
  | undecodable message line => .malformed ("(unicode error) " ++ message) line

end Break

inductive Token where
  /-- A word as it is written. -/
  | name (text : Text)
  /-- A number, or why it is none. -/
  | number (value : Except Text Setting)
  /-- A text or bytes between quotation marks, or why they are none. -/
  | quote (value : Except QuoteFault Setting)
  | symbol (mark : Text)
  | lineEnd
  /-- White space before a statement. -/
  | indent
  | fileEnd
  /-- The place where a text breaks off, and how. -/
  | broken (how : Break)

abbrev Tokens := List (Placed Token)

def isNameStart (c : Char) : Bool := c.isAlpha || c = '_' || 0x80 ≤ c.toNat

def isNamePart (c : Char) : Bool := isNameStart c || Text.isAsciiDigit c

/-- Whether a character that looks like a part of a name is one. -/
def mayName (c : Char) : Bool := c.toNat < 0x80 || (Text.isPrintable c && !Text.isSymbol c)

def invalidCharacter (c : Char) : Text :=
  let code := (Text.hex 4 c.toNat).map Char.toUpper
  if Text.isPrintable c then "invalid character '" ++ [c] ++ "' (U+" ++ code ++ ")"
  else "invalid non-printable character U+" ++ code

/-- The marks of more than one character. -/
def longMarks : List String :=
  ["**=", "//=", ">>=", "<<=", "...", "!=", "->", ":=", "==", "<=", ">=", "<<", ">>", "**", "//",
    "+=", "-=", "*=", "/=", "%=", "&=", "|=", "^=", "@="]

/-- The mark at the beginning of a text: the longest one. -/
def markAt (c : Char) (rest : Text) : Text :=
  ((longMarks.map String.toList).find? (·.isPrefixOf (c :: rest))).getD [c]

/-- The greatest number of brackets inside each other. -/
def bracketLimit : Nat := 200

/-- The brackets that are open after one more, innermost first. -/
def opening (bracket : Placed Char) (opened : List (Placed Char)) :
    Except Fault (List (Placed Char)) :=
  if bracketLimit ≤ opened.length then
    .error (.malformed "too many nested parentheses" bracket.line)
  else .ok (bracket :: opened)

/-- The brackets that are open after one is closed. -/
def closing (bracket : Placed Char) : List (Placed Char) → Except Fault (List (Placed Char))
  | [] => .error (.malformed ("unmatched '" ++ [bracket.item] ++ "'") bracket.line)
  | ⟨inner, start⟩ :: outer =>
      if closerOf inner = bracket.item then .ok outer
      else
        let place : Text := if start = bracket.line then [] else " on line " ++ Text.ofNat start
        .error (.malformed ("closing parenthesis '" ++ [bracket.item] ++
          "' does not match opening parenthesis '" ++ [inner] ++ "'" ++ place) bracket.line)

/-- A text while it is cut into tokens. -/
structure Cutting where
  rest : Text
  line : Nat
  /-- The brackets that are open, innermost first. -/
  opened : List (Placed Char)
  /-- Whether a line begins here that is not the rest of a statement. -/
  isFresh : Bool
  /-- The tokens so far, the last one first. -/
  found : Tokens

namespace Cutting

def add (cutting : Cutting) (token : Token) (rest : Text) : Cutting :=
  { cutting with rest := rest, found := ⟨token, cutting.line⟩ :: cutting.found }

/-- The tokens of a text that ends here. -/
def finish (cutting : Cutting) : Tokens :=
  let last : Token :=
    match cutting.opened with
    | [] => .fileEnd
    | bracket :: _ => .broken (.early (neverClosed bracket) (some bracket))
  (cutting.add last []).found.reverse

/-- The tokens of a text that breaks off here. -/
def breakOff (cutting : Cutting) (how : Break) : Tokens :=
  (cutting.add (.broken how) []).found.reverse

/-- The tokens of a text that ends too soon. -/
def breakEarly (cutting : Cutting) (message : Text) : Tokens :=
  cutting.breakOff (.early (.malformed message cutting.line) cutting.opened.head?)

/-- The white space before a line, which a backslash may continue on the next one: whether it is
wider than nothing, the lines that end in it, and the rest of the text. -/
def margin (isWide : Bool) (lines : Nat) : Text → Bool × Nat × Text
  | ' ' :: rest => margin true lines rest
  | '\t' :: rest => margin true lines rest
  | '\x0c' :: rest => margin false lines rest
  | '\\' :: '\n' :: c :: rest => margin isWide (lines + 1) (c :: rest)
  | rest => (isWide, lines, rest)

/-- Takes the white space before a line, and the line itself if there is nothing in it. -/
def beginLine (cutting : Cutting) : Cutting :=
  let (isWide, lines, rest) := margin false 0 cutting.rest
  let cutting := { cutting with rest := rest, line := cutting.line + lines }
  match rest with
  | [] => cutting
  | '\n' :: more => { cutting with rest := more, line := cutting.line + 1 }
  | '#' :: more => { cutting with rest := more.dropWhile (· ≠ '\n') }
  | rest =>
      let begun := { cutting with isFresh := false }
      if isWide then begun.add .indent rest else begun

/-- Takes a text or bytes with marks around them. -/
def takeQuote (cutting : Cutting) (style : QuoteStyle) (marks after : Text) :
    Except Break Cutting :=
  match untilMarks marks after with
  | .closed body rest =>
      let next := cutting.add (.quote (settingOfBody style body)) rest
      .ok { next with line := cutting.line + body.count '\n' }
  | .broken lines =>
      let kind : Text :=
        if marks.length = 3 then "unterminated triple-quoted string literal"
        else "unterminated string literal"
      let place := " (detected at line " ++ Text.ofNat (cutting.line + lines) ++ ")"
      .error (.faulty (.malformed (kind ++ place) cutting.line))

/-- The character that keeps a word from being a name, if there is one. -/
def notInName? (word : Text) : Option Char :=
  match word with
  | [] => none
  | first :: rest =>
      if !mayName first || Text.isContinuing first then some first else rest.find? (!mayName ·)

/-- Takes a word: a name, or the letters before quotation marks. -/
def takeWord (cutting : Cutting) : Except Break Cutting :=
  let word := cutting.rest.takeWhile isNamePart
  let rest := cutting.rest.drop word.length
  match QuoteStyle.ofLetters? word, openingMarks? rest with
  | some style, some marks => cutting.takeQuote style marks (rest.drop marks.length)
  | _, _ =>
      match Coding.decodeUtf8 (bytesOf word) with
      | .error message => .error (.undecodable message cutting.line)
      | .ok name =>
          match notInName? name with
          | some c => .error (.faulty (.malformed (invalidCharacter c) cutting.line))
          | none => .ok (cutting.add (.name name) rest)

/-- Takes one token, or what stands between tokens. -/
def step (cutting : Cutting) (c : Char) (more : Text) : Except Break Cutting := do
  let here : Placed Char := ⟨c, cutting.line⟩
  let malformed (message : Text) : Break := .faulty (.malformed message cutting.line)
  if c = '\n' then
    if cutting.opened.isEmpty then
      let ended := cutting.add .lineEnd more
      pure { ended with line := cutting.line + 1, isFresh := true }
    else pure { cutting with rest := more, line := cutting.line + 1 }
  else if c = ' ' || c = '\t' || c = '\x0c' then pure { cutting with rest := more }
  else if c = '#' then pure { cutting with rest := more.dropWhile (· ≠ '\n') }
  else if c = '(' || c = '[' || c = '\x7b' then
    let opened ← (opening here cutting.opened).mapError .faulty
    pure { cutting.add (.symbol [c]) more with opened := opened }
  else if c = ')' || c = ']' || c = '\x7d' then
    let opened ← (closing here cutting.opened).mapError .faulty
    pure { cutting.add (.symbol [c]) more with opened := opened }
  else if isNameStart c || c = '"' || c = '\'' then cutting.takeWord
  else if beginsNumber (c :: more) then
    match number (c :: more) with
    | .ok (value, rest) => pure (cutting.add (.number value) rest)
    | .error message => throw (malformed message)
  else if !Text.isPrintable c then throw (malformed (invalidCharacter c))
  else
    let mark := markAt c more
    pure (cutting.add (.symbol mark) ((c :: more).drop mark.length))

/-- Cuts the rest of a text. The first argument bounds the steps. -/
def all : Nat → Cutting → Tokens
  | 0, cutting => cutting.finish
  | bound + 1, cutting =>
      match cutting.rest with
      | [] => cutting.finish
      | c :: more =>
          if cutting.isFresh && cutting.opened.isEmpty then all bound cutting.beginLine
          else if c = '\\' then
            match more with
            | '\n' :: rest =>
                if rest ≠ [] then all bound { cutting with rest := rest, line := cutting.line + 1 }
                else if !cutting.opened.isEmpty then cutting.finish
                else cutting.breakEarly "unexpected EOF while parsing"
            | _ => cutting.breakEarly "unexpected character after line continuation character"
          else
            match cutting.step c more with
            | .ok next => all bound next
            | .error how => cutting.breakOff how

end Cutting

/-- Cuts the bytes of a text into tokens. -/
def tokens (source : Bytes) : Tokens :=
  let octets : Text := source.map fun byte => Char.ofNat byte.toNat
  Cutting.all (2 * octets.length + 2) ⟨octets, 1, [], true, []⟩

end KconfigReference.Assignment

import KconfigReference.Setting.Basic
import KconfigReference.Template.Yaml.Input
import KconfigReference.Text.Digit

/-!
Days and times as they are written: `2013-04-05`, `2013-04-05 10:20:30.5 +02:00` and the like.
-/

namespace KconfigReference.Yaml

/-- The zone of a written time. -/
inductive Zone where
  | universal
  | offset (behind : Bool) (hour minute : Nat)
deriving Repr, DecidableEq

/-- The time of day as it is written. -/
structure Clock where
  hour : Nat
  minute : Nat
  second : Nat
  /-- The digits after the point of the seconds. -/
  fraction : Text
  zone : Option Zone
deriving Repr, DecidableEq

/-- A day as it is written, and a time if one follows. -/
structure Stamp where
  year : Nat
  month : Text
  day : Text
  clock : Option Clock
deriving Repr, DecidableEq

namespace Stamp

/-- The digits that a text begins with, if their number is in a range, and the rest. -/
def digits? (least most : Nat) (t : Text) : Option (Text × Text) :=
  let run := t.takeWhile Text.isAsciiDigit
  if least ≤ run.length && run.length ≤ most then some (run, t.drop run.length) else none

/-- The number of such digits, and the rest. -/
def number? (least most : Nat) (t : Text) : Option (Nat × Text) :=
  (digits? least most t).map fun (run, rest) => (Text.decimalValue run, rest)

/-- The text after a character that it has to begin with. -/
def after? (c : Char) (t : Text) : Option Text := if t.head? = some c then some (t.drop 1) else none

/-- Reads what may follow the seconds; white space may only come before a zone. -/
def zone? (t : Text) : Option (Option Zone) :=
  match t, t.dropWhile isSpace with
  | [], _ => some none
  | _, ['Z'] => some (some .universal)
  | _, sign :: rest => do
      if sign ≠ '+' && sign ≠ '-' then none
      let (hour, rest) ← number? 1 2 rest
      match rest with
      | [] => some (some (.offset (sign = '-') hour 0))
      | _ =>
          let (minute, rest) ← number? 2 2 (← after? ':' rest)
          if rest = [] then some (some (.offset (sign = '-') hour minute)) else none
  | _, [] => none

def clock? (t : Text) : Option Clock := do
  let (hour, rest) ← number? 1 2 t
  let (minute, rest) ← number? 2 2 (← after? ':' rest)
  let (second, rest) ← number? 2 2 (← after? ':' rest)
  let (fraction, rest) := match rest with
    | '.' :: more =>
        let run := more.takeWhile Text.isAsciiDigit
        (run, more.drop run.length)
    | _ => ([], rest)
  let zone ← zone? rest
  pure ⟨hour, minute, second, fraction, zone⟩

/-- Reads a day and perhaps a time, parted by white space or a letter T. -/
def read? (t : Text) : Option Stamp := do
  let (year, rest) ← number? 4 4 t
  let (month, rest) ← digits? 1 2 (← after? '-' rest)
  let (day, rest) ← digits? 1 2 (← after? '-' rest)
  match rest with
  | [] => pure ⟨year, month, day, none⟩
  | c :: more =>
      let time ←
        if c = 'T' || c = 't' then some more
        else if isSpace c then some (more.dropWhile isSpace)
        else none
      pure ⟨year, month, day, some (← clock? time)⟩

/-- Whether a text is a stamp without being marked as one: a day alone has two digits for the month
and two for the day. -/
def isEvident (t : Text) : Bool :=
  match read? t with
  | some ⟨_, month, day, none⟩ => month.length = 2 && day.length = 2
  | some ⟨_, _, _, some _⟩ => true
  | none => false

/-- Millionths of a second. -/
def microseconds (fraction : Text) : Nat :=
  let first := fraction.take 6
  Text.decimalValue first * tenTo (6 - first.length)

/-- The seconds by which a zone is ahead; an offset has to be less than a day. -/
def zoneSeconds? : Zone → Option Int
  | .universal => some 0
  | .offset behind hour minute =>
      let seconds : Int := (hour * 60 + minute) * 60
      if 86400 ≤ seconds then none else some (if behind then -seconds else seconds)

/-- The day or time that a stamp denotes, if there is one. -/
def setting? (s : Stamp) : Option Setting :=
  let date : Date := ⟨s.year, Text.decimalValue s.month, Text.decimalValue s.day⟩
  if !date.isValid then none
  else
    match s.clock with
    | none => some (.date date)
    | some c =>
        if 24 ≤ c.hour || 60 ≤ c.minute || 60 ≤ c.second then none
        else do
          let offset ← match c.zone with
            | none => some none
            | some zone => (zoneSeconds? zone).map some
          pure (.dateTime ⟨date, c.hour, c.minute, c.second, microseconds c.fraction, offset⟩)

end Stamp

end KconfigReference.Yaml

import KconfigReference.Calendar.Date

/-!
Date patterns: texts in which a percent sign and a letter stand for a part of a date. The names of
days and months are the English ones, the time of day is midnight, and there is no time zone.
-/

namespace KconfigReference.Date

def dayNames : List Text :=
  ["Sunday", "Monday", "Tuesday", "Wednesday", "Thursday", "Friday", "Saturday"].map String.toList

def monthNames : List Text :=
  ["January", "February", "March", "April", "May", "June", "July", "August", "September",
    "October", "November", "December"].map String.toList

def dayName (d : Date) : Text := dayNames.getD d.weekday []

def monthName (d : Date) : Text := monthNames.getD (d.month - 1) []

private def two (n : Nat) : Text := Text.padded '0' 2 n

/-- What a percent sign and a letter stand for; none for a letter without a meaning. Years are not
filled up with zeros. -/
def directive? (d : Date) (letter : Char) : Option Text :=
  match letter with
  | 'a' => some (d.dayName.take 3)
  | 'A' => some d.dayName
  | 'b' => some (d.monthName.take 3)
  | 'h' => some (d.monthName.take 3)
  | 'B' => some d.monthName
  | 'c' => some (d.dayName.take 3 ++ " " ++ d.monthName.take 3 ++ " " ++ Text.padded ' ' 2 d.day ++
      " 00:00:00 " ++ Text.ofNat d.year)
  | 'C' => some (Text.ofNat (d.year / 100))
  | 'd' => some (two d.day)
  | 'D' => some (two d.month ++ "/" ++ two d.day ++ "/" ++ two (d.year % 100))
  | 'e' => some (Text.padded ' ' 2 d.day)
  | 'f' => some "000000"
  | 'F' => some (Text.ofNat d.year ++ "-" ++ two d.month ++ "-" ++ two d.day)
  | 'g' => some (two (d.isoWeek.1 % 100))
  | 'G' => some (Text.ofNat d.isoWeek.1)
  | 'H' => some "00"
  | 'I' => some "12"
  | 'j' => some (Text.padded '0' 3 d.dayOfYear)
  | 'k' => some " 0"
  | 'l' => some "12"
  | 'm' => some (two d.month)
  | 'M' => some "00"
  | 'n' => some "\n"
  | 'p' => some "AM"
  | 'P' => some "am"
  | 'r' => some "12:00:00 AM"
  | 'R' => some "00:00"
  | 'S' => some "00"
  | 't' => some "\t"
  | 'T' => some "00:00:00"
  | 'u' => some (Text.ofNat d.isoWeekday)
  | 'U' => some (two d.weekFromSunday)
  | 'V' => some (two d.isoWeek.2)
  | 'w' => some (Text.ofNat d.weekday)
  | 'W' => some (two d.weekFromMonday)
  | 'x' => some (two d.month ++ "/" ++ two d.day ++ "/" ++ two (d.year % 100))
  | 'X' => some "00:00:00"
  | 'y' => some (two (d.year % 100))
  | 'Y' => some (Text.ofNat d.year)
  | 'z' => some []
  | 'Z' => some []
  | '%' => some "%"
  | _ => none

/-- Replaces the directives of a pattern; whatever is not a directive stays as it is. -/
private def fill (d : Date) : Text → Text
  | [] => []
  | ['%'] => ['%']
  | '%' :: letter :: rest => (d.directive? letter).getD ['%', letter] ++ fill d rest
  | c :: rest => c :: fill d rest

/-- The date written after a pattern. A NUL character ends the pattern. -/
def format (d : Date) (pattern : Text) : Text := fill d (pattern.takeWhile (· ≠ '\x00'))

end KconfigReference.Date

import KconfigReference.Failure
import KconfigReference.Number.Shortest
import KconfigReference.Setting.Basic
import KconfigReference.Text.Digit

/-!
The text of a setting: what stands in a page where a setting of any type is put into it. A text
stands for itself; inside a list or a mapping it stands between quotation marks.
-/

namespace KconfigReference

namespace DateTime

private def two (n : Nat) : Text := Text.padded '0' 2 n

/-- Hours and minutes of an offset, and its seconds if it has any. -/
private def offsetText (offset : Int) : Text :=
  let total := offset.natAbs
  let seconds : Text := if total % 60 = 0 then [] else ':' :: two (total % 60)
  [if offset < 0 then '-' else '+'] ++ two (total / 3600) ++ ":" ++ two (total / 60 % 60) ++
    seconds

/-- The date and the time of day with `separator` between them. -/
def iso (separator : Char) (t : DateTime) : Text :=
  let fraction : Text := if t.microsecond = 0 then [] else '.' :: Text.padded '0' 6 t.microsecond
  t.date.iso ++ [separator] ++ two t.hour ++ ":" ++ two t.minute ++ ":" ++ two t.second ++
    fraction ++ t.offset.elim [] offsetText

end DateTime

namespace Setting

private def numbers (ns : List Nat) : Text := Text.join ", " (ns.map Text.ofNat)

private def writtenOffset (offset : Int) : Text :=
  if offset = 0 then ", tzinfo=datetime.timezone.utc"
  else
    let span : Text :=
      if offset < 0 then "days=-1, seconds=" ++ Text.ofInt (offset + 86400)
      else "seconds=" ++ Text.ofInt offset
    ", tzinfo=datetime.timezone(datetime.timedelta(" ++ span ++ "))"

private def writtenDateTime (t : DateTime) : Text :=
  let tail :=
    if t.microsecond ≠ 0 then [t.second, t.microsecond]
    else if t.second ≠ 0 then [t.second] else []
  "datetime.datetime(" ++
    numbers ([t.date.year, t.date.month, t.date.day, t.hour, t.minute] ++ tail) ++
    t.offset.elim [] writtenOffset ++ ")"

/-- The digits of an integer; one with more digits than are read is not written either. -/
def integerText (n : Int) : Except Misuse Text :=
  if tenTo Text.digitLimit ≤ n.natAbs then .error .badValue else .ok (Text.ofInt n)

/-- Items between brackets. -/
private def enclosed (opening closing : String) (items : List Text) : Text :=
  opening.toList ++ Text.join ", " items ++ closing.toList

mutual

/-- The form of a setting inside a list or a mapping. -/
def written : Setting → Except Misuse Text
  | .null => .ok "None"
  | .bool b => .ok (if b then "True" else "False")
  | .int n => integerText n
  | .float x => .ok x.text
  | .text t => .ok t.quoted
  | .bytes b => .ok (Text.quotedBytes b)
  | .date d => .ok ("datetime.date(" ++ numbers [d.year, d.month, d.day] ++ ")")
  | .dateTime t => .ok (writtenDateTime t)
  | .enclosing isMapping => .ok (if isMapping then "\x7b...\x7d" else "[...]")
  | .list items => do pure (enclosed "[" "]" (← writtenItems items))
  | .tuple items => do
      match ← writtenItems items with
      | [single] => pure (enclosed "(" ",)" [single])
      | several => pure (enclosed "(" ")" several)
  | .set items => do
      match ← writtenItems items with
      | [] => pure "set()"
      | several => pure (enclosed "\x7b" "\x7d" several)
  | .dict entries => do pure (enclosed "\x7b" "\x7d" (← writtenEntries entries))

def writtenItems : List Setting → Except Misuse (List Text)
  | [] => .ok []
  | item :: rest => do pure ((← item.written) :: (← writtenItems rest))

def writtenEntries : List (Setting × Setting) → Except Misuse (List Text)
  | [] => .ok []
  | (key, value) :: rest => do
      let first := (← key.written) ++ ": " ++ (← value.written)
      pure (first :: (← writtenEntries rest))

end

/-- The form of a setting that stands by itself. -/
def shown : Setting → Except Misuse CodeText
  | .text t => .ok t
  | .date d => .ok d.iso
  | .dateTime t => .ok (t.iso ' ')
  | s => s.written.map fun t => t

end Setting

end KconfigReference

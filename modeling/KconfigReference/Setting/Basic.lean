import KconfigReference.Calendar.Date
import KconfigReference.Number.Binary64
import KconfigReference.Text.CodePoint

/-!
Setting values. Templates give settings in several formats and of any type, so a setting is one
dynamic value. A mapping keeps the order in which its keys first came; keys that denote the same
number are the same key, whatever their type. The settings of a run are such a mapping that has a
value for each built-in name, and may have more.
-/

namespace KconfigReference

/-- A time on a day, with the offset of its zone in seconds if it has one. -/
structure DateTime where
  date : Date
  hour : Nat
  minute : Nat
  second : Nat
  microsecond : Nat
  offset : Option Int
deriving Repr, DecidableEq

namespace DateTime

/-- Microseconds since the beginning of the calendar, at the zone of the time. -/
def instant (t : DateTime) : Int :=
  (((t.date.ordinal * 24 + t.hour) * 60 + t.minute) * 60 + t.second - t.offset.getD 0 : Int) *
    1000000 + t.microsecond

end DateTime

inductive Setting where
  | null
  | bool (b : Bool)
  | int (n : Int)
  | float (x : Binary64)
  | text (t : CodeText)
  | list (items : List Setting)
  | dict (entries : List (Setting × Setting))
  | bytes (b : Bytes)
  | date (d : Date)
  | dateTime (t : DateTime)
  | tuple (items : List Setting)
  | set (items : List Setting)
  /-- A list or a mapping that is a part of itself, at the place where it comes again. -/
  | enclosing (isMapping : Bool)
deriving Repr

namespace Setting

/-- What a setting counts for in a yes-or-no place: nothing, zero and everything empty is no. -/
def isTrue : Setting → Bool
  | .null => false
  | .bool b => b
  | .int n => n ≠ 0
  | .float x => !x.isZero
  | .text t => t ≠ []
  | .list items => !items.isEmpty
  | .dict entries => !entries.isEmpty
  | .bytes b => !b.isEmpty
  | .tuple items => !items.isEmpty
  | .set items => !items.isEmpty
  | .date _ => true
  | .dateTime _ => true
  | .enclosing _ => true

/-- The integer that a setting equals, if it equals one. -/
def integer? : Setting → Option Int
  | .bool b => some (if b then 1 else 0)
  | .int n => some n
  | .float x => x.toInt?
  | _ => none

/-- Whether two settings are the same key of a mapping. Lists and mappings are no keys, and what is
no number is not even the same key as itself. -/
def sameKey (a b : Setting) : Bool :=
  match a.integer?, b.integer? with
  | some m, some n => m = n
  | none, none =>
      match a, b with
      | .null, .null => true
      | .float x, .float y => x = y && x ≠ .nan
      | .text s, .text t => s = t
      | .bytes s, .bytes t => s = t
      | .date d, .date e => d = e
      | .dateTime t, .dateTime u => t.offset.isSome = u.offset.isSome && t.instant = u.instant
      | _, _ => false
  | _, _ => false

/-- The value at a key. -/
def find? (key : Setting) : List (Setting × Setting) → Option Setting
  | [] => none
  | (k, value) :: rest => if sameKey k key then some value else find? key rest

/-- Gives a key a value: in the key's place if it has one, else at the end. -/
def insert (key value : Setting) : List (Setting × Setting) → List (Setting × Setting)
  | [] => [(key, value)]
  | (k, old) :: rest =>
      if sameKey k key then (k, value) :: rest else (k, old) :: insert key value rest

/-- All entries of the second mapping put into the first, in order. -/
def merge (entries more : List (Setting × Setting)) : List (Setting × Setting) :=
  more.foldl (fun all (key, value) => insert key value all) entries

end Setting

structure Settings where
  entries : List (Setting × Setting)

namespace Settings

private def named (name : String) (value : Setting) : Setting × Setting :=
  (.text name.toList, value)

private def textual (name value : String) : Setting × Setting := named name (.text value.toList)

def builtIn : Settings :=
  ⟨[textual "title" "NuttX Configuration Options",
    textual "banner" "NuttX Configuration Variables",
    textual "background" "backgd.gif",
    named "include_date" (.bool true),
    textual "date_format" "%B %d, %Y",
    textual "kconfig_name" "Kconfig",
    textual "apps_token" "$APPSDIR",
    textual "apps_dir" "../apps",
    named "line_size" (.int 1024),
    named "max_levels" (.int 100),
    named "max_dependencies" (.int 100),
    named "show_internal" (.bool false)]⟩

/-- The value of a name; a name without a value has the value null. -/
def get (s : Settings) (name : Text) : Setting := (Setting.find? (.text name) s.entries).getD .null

/-- The settings with all entries of a mapping put into them. -/
def update (s : Settings) (more : List (Setting × Setting)) : Settings :=
  ⟨Setting.merge s.entries more⟩

/-- The settings with the entries of a mapping put into them whose value is not null. -/
def override (s : Settings) (more : List (Setting × Setting)) : Settings :=
  s.update (more.filter fun (_, value) => match value with | .null => false | _ => true)

end Settings

end KconfigReference

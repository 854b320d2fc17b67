import KconfigReference.Text.Basic

/-!
Runs of names. Neighbours among the characters often have names that begin with the same words, so a
run has of each name only what differs from the name before it. A small letter, of which names have
none, begins every entry and tells how many words of the name before come first: `a` none, `b` one,
and so on.
-/

namespace KconfigReference.Text

/-- The names of characters whose codes follow each other: the code of the first one, and the
entries of their names. -/
abbrev NameRun := Nat × List String

namespace NameRun

/-- The entries of a text: how many words of the name before come first, and the other words. -/
def entriesIn (t : Text) : List (Nat × List Text) :=
  let step (c : Char) (read : Text × List (Nat × List Text)) : Text × List (Nat × List Text) :=
    if 'a' ≤ c ∧ c ≤ 'z' then ([], (c.toNat - 'a'.toNat, pieces (· = ' ') read.1) :: read.2)
    else (c :: read.1, read.2)
  (t.foldr step ([], [])).2

/-- The place of a name, in words, among those of some entries after a name. -/
def placeAfter? (name : List Text) : List Text → List (Nat × List Text) → Option Nat
  | _, [] => none
  | before, (kept, words) :: rest =>
      let here := before.take kept ++ words
      if here = name then some 0 else (placeAfter? name here rest).map (· + 1)

/-- The code of a name, in words, in a run. -/
def code? (name : List Text) (run : NameRun) : Option Nat :=
  (placeAfter? name [] (run.2.flatMap fun part => entriesIn part.toList)).map (run.1 + ·)

example : code? ["DIGIT", "TWO"] (0x30, ["aDIGIT ZERObONE", "bTWObTHREE"]) = some 0x32 := by decide

end NameRun

end KconfigReference.Text

import KconfigReference.Kconfig.Entry
import Mathlib.Algebra.Group.Nat.Even
import Mathlib.Data.List.Induction

/-!
What stands between quotation marks. Whether a mark is escaped is told by the backslashes before it,
which is what the flag of the search comes to. Main statement: a prompt is found exactly where there
is a mark that is not escaped, it is the one text that reaches from there to the next such mark or to
the end, and any text can be written between two marks and read back.
-/

namespace KconfigReference.Prompt

/-- How many backslashes a text ends in. -/
def slashes (t : Text) : Nat := (t.reverse.takeWhile (· = '\\')).length

/-- Whether a text holds a mark that is not escaped: one with an even number of backslashes directly
before it. -/
def Marked (mark : Char) (t : Text) : Prop :=
  ∃ before after, t = before ++ mark :: after ∧ Even (slashes before)

/-- The text `found` stands between quotation marks, with `before` before the first of them: no mark
that is not escaped comes earlier or inside, and the text ends with `found` or goes on with a mark
that closes it. Inside, escapes count from the start of `found`. -/
structure Quotation (text before found : Text) : Prop where
  opens : ¬Marked '"' before ∧ Even (slashes before)
  inside : ¬Marked '"' found
  closes : text = before ++ '"' :: found ∨
    ∃ after, text = before ++ '"' :: (found ++ '"' :: after) ∧ Even (slashes found)

/-- Whether the character after a text is escaped, if its first character is or is not. -/
def endsEscaped (escaped : Bool) (t : Text) : Bool := t.foldl (fun flag c => !flag && c = '\\') escaped

theorem endsEscaped_cons (escaped : Bool) (c : Char) (rest : Text) :
    endsEscaped escaped (c :: rest) = endsEscaped (!escaped && c = '\\') rest := rfl

theorem slashes_append_singleton (t : Text) (c : Char) :
    slashes (t ++ [c]) = if c = '\\' then slashes t + 1 else 0 := by
  by_cases hc : c = '\\' <;> simp [slashes, hc]

/-- A text escapes the character after it if it ends in an odd number of backslashes, by induction
on its last character. -/
theorem endsEscaped_eq_false_iff (t : Text) : endsEscaped false t = false ↔ Even (slashes t) := by
  induction t using List.reverseRecOn with
  | nil => simp [endsEscaped, slashes]
  | append_singleton init c ih =>
      have hlast : endsEscaped false (init ++ [c]) = (!endsEscaped false init && c = '\\') := by
        simp [endsEscaped]
      rw [hlast, slashes_append_singleton]
      by_cases hc : c = '\\'
      · simp [hc, Nat.even_add_one, ← ih]
      · simp [hc]

/-- Whether every mark in a text is escaped, if its first character is or is not. -/
def Unmarked (mark : Char) (escaped : Bool) (t : Text) : Prop :=
  ∀ before after, t = before ++ mark :: after → endsEscaped escaped before = true

theorem unmarked_nil (mark : Char) (escaped : Bool) : Unmarked mark escaped [] := by
  intro before after h
  simp at h

theorem unmarked_cons {mark c : Char} {escaped : Bool} {rest : Text} :
    Unmarked mark escaped (c :: rest) ↔
      (c = mark → escaped = true) ∧ Unmarked mark (!escaped && c = '\\') rest := by
  constructor
  · intro h
    refine ⟨fun hc => h [] rest (by rw [hc]; rfl), fun before after hrest => ?_⟩
    rw [← endsEscaped_cons]
    exact h (c :: before) after (by rw [hrest]; rfl)
  · rintro ⟨hfirst, hrest⟩ (_ | ⟨d, before⟩) after h
    · exact hfirst (List.cons.inj h).1
    · obtain ⟨rfl, hmore⟩ := List.cons.inj h
      rw [endsEscaped_cons]
      exact hrest before after hmore

theorem unmarked_false_iff (mark : Char) (t : Text) : Unmarked mark false t ↔ ¬Marked mark t := by
  simp only [Unmarked, Marked, ← endsEscaped_eq_false_iff]
  constructor
  · rintro h ⟨before, after, ht, hopen⟩
    simp [h before after ht] at hopen
  · intro h before after ht
    by_contra hopen
    exact h ⟨before, after, ht, by simpa using hopen⟩

section Search

variable {mark : Char} {escaped : Bool} {c : Char} {t rest before after : Text}

theorem splitAtMark_found (h : mark ≠ '\\') (rest : Text) :
    splitAtMark [mark] false (mark :: rest) = some ([], rest) := by
  simp [splitAtMark, h]

theorem splitAtMark_onward (h : c = mark → escaped = true) (rest : Text) :
    splitAtMark [mark] escaped (c :: rest) =
      (splitAtMark [mark] (!escaped && c = '\\') rest).map
        fun (before, after) => (c :: before, after) := by
  cases escaped with
  | true => simp [splitAtMark]
  | false =>
      have hc : c ≠ mark := fun hc => by simpa using h hc
      by_cases hslash : c = '\\' <;> simp [splitAtMark, hslash, hc]

/-- The search finds the first mark that is not escaped. -/
theorem splitAtMark_eq_some_iff (hmark : mark ≠ '\\') :
    splitAtMark [mark] escaped t = some (before, after) ↔
      t = before ++ mark :: after ∧ Unmarked mark escaped before ∧
        endsEscaped escaped before = false := by
  induction t generalizing escaped before with
  | nil => simp [splitAtMark]
  | cons c rest ih =>
      by_cases hc : c = mark → escaped = true
      · rw [splitAtMark_onward hc]
        cases before with
        | nil =>
            simp only [Option.map_eq_some_iff, Prod.mk.injEq, reduceCtorEq, false_and, and_false,
              exists_false, false_iff, List.nil_append, List.cons.injEq]
            rintro ⟨⟨hcmark, -⟩, -, hopen⟩
            simp [endsEscaped, hc hcmark] at hopen
        | cons d before =>
            have hmap : (splitAtMark [mark] (!escaped && c = '\\') rest).map
                (fun (before, after) => (c :: before, after)) = some (d :: before, after) ↔
                  c = d ∧ splitAtMark [mark] (!escaped && c = '\\') rest = some (before, after) := by
              cases splitAtMark [mark] (!escaped && c = '\\') rest with
              | none => simp
              | some sides => cases sides; simp [and_assoc]
            rw [hmap, ih, unmarked_cons, endsEscaped_cons, List.cons_append, List.cons.injEq]
            constructor
            · rintro ⟨rfl, hrest, hall, hopen⟩
              exact ⟨⟨rfl, hrest⟩, ⟨hc, hall⟩, hopen⟩
            · rintro ⟨⟨rfl, hrest⟩, ⟨-, hall⟩, hopen⟩
              exact ⟨rfl, hrest, hall, hopen⟩
      · obtain ⟨rfl, hescaped⟩ : c = mark ∧ escaped = false := by simpa using hc
        rw [hescaped, splitAtMark_found hmark]
        cases before with
        | nil => simp [unmarked_nil, endsEscaped, eq_comm]
        | cons d before =>
            simp only [Option.some.injEq, Prod.mk.injEq, reduceCtorEq, false_and, false_iff]
            rintro ⟨hwhole, hall, -⟩
            have hfirst := (unmarked_cons.1 hall).1 (List.cons.inj hwhole).1.symm
            exact absurd hfirst (by decide)

/-- The search finds nothing where every mark is escaped. -/
theorem splitAtMark_eq_none_iff (hmark : mark ≠ '\\') :
    splitAtMark [mark] escaped t = none ↔ Unmarked mark escaped t := by
  induction t generalizing escaped with
  | nil => simp [splitAtMark, unmarked_nil]
  | cons c rest ih =>
      rw [unmarked_cons]
      by_cases hc : c = mark → escaped = true
      · rw [splitAtMark_onward hc, Option.map_eq_none_iff, ih]
        exact (and_iff_right hc).symm
      · obtain ⟨rfl, hescaped⟩ : c = mark ∧ escaped = false := by simpa using hc
        rw [hescaped, splitAtMark_found hmark]
        simp

end Search

section Extract

variable {text before found : Text}

theorem splitAtMark_quote_iff {opened : Text} :
    splitAtMark ['"'] false text = some (before, opened) ↔
      text = before ++ '"' :: opened ∧ ¬Marked '"' before ∧ Even (slashes before) := by
  rw [splitAtMark_eq_some_iff (by decide), unmarked_false_iff, endsEscaped_eq_false_iff]

theorem extract_eq_none_iff (text : Text) : extract text = none ↔ ¬Marked '"' text := by
  rw [extract, Option.map_eq_none_iff, splitAtMark_eq_none_iff (by decide), unmarked_false_iff]

theorem exists_quotation_of_extract (h : extract text = some found) :
    ∃ before, Quotation text before found := by
  rw [extract, Option.map_eq_some_iff] at h
  obtain ⟨⟨before, opened⟩, hopened, hfound⟩ := h
  obtain ⟨htext, hopens⟩ := splitAtMark_quote_iff.1 hopened
  cases hclosed : splitAtMark ['"'] false opened with
  | none =>
      simp only [hclosed] at hfound
      subst hfound
      have hinside := (unmarked_false_iff _ _).1 ((splitAtMark_eq_none_iff (by decide)).1 hclosed)
      exact ⟨before, hopens, hinside, .inl htext⟩
  | some sides =>
      obtain ⟨inside, after⟩ := sides
      simp only [hclosed] at hfound
      subst hfound
      obtain ⟨hopened, hinside, heven⟩ := splitAtMark_quote_iff.1 hclosed
      exact ⟨before, hopens, hinside, .inr ⟨after, by rw [htext, hopened], heven⟩⟩

namespace Quotation

/-- The search stops at the first mark of a quotation, and from there at the second one. -/
theorem split (h : Quotation text before found) : ∃ opened,
    splitAtMark ['"'] false text = some (before, opened) ∧
      (opened = found ∧ splitAtMark ['"'] false opened = none ∨
        ∃ after, splitAtMark ['"'] false opened = some (found, after)) := by
  rcases h.closes with htext | ⟨after, htext, heven⟩
  · refine ⟨found, splitAtMark_quote_iff.2 ⟨htext, h.opens⟩, .inl ⟨rfl, ?_⟩⟩
    exact (splitAtMark_eq_none_iff (by decide)).2 ((unmarked_false_iff _ _).2 h.inside)
  · refine ⟨_, splitAtMark_quote_iff.2 ⟨htext, h.opens⟩, .inr ⟨after, ?_⟩⟩
    exact splitAtMark_quote_iff.2 ⟨rfl, h.inside, heven⟩

theorem extract_eq (h : Quotation text before found) : extract text = some found := by
  obtain ⟨opened, hsplit, ⟨rfl, hnone⟩ | ⟨after, hclosed⟩⟩ := h.split
  · simp [extract, hsplit, hnone]
  · simp [extract, hsplit, hclosed]

theorem before_eq (h : Quotation text before found) {before' found' : Text}
    (h' : Quotation text before' found') : before' = before := by
  obtain ⟨opened, hsplit, -⟩ := h.split
  obtain ⟨opened', hsplit', -⟩ := h'.split
  rw [hsplit, Option.some.injEq, Prod.mk.injEq] at hsplit'
  exact hsplit'.1.symm

end Quotation

end Extract

/-- A text as it is written between quotation marks: with a backslash before every quotation mark
and every backslash. -/
def escape (t : Text) : Text := t.flatMap fun c => if c = '"' || c = '\\' then ['\\', c] else [c]

/-- The text that is meant by one with escapes. -/
def unescape : Text → Text
  | '\\' :: c :: rest => c :: unescape rest
  | c :: rest => c :: unescape rest
  | [] => []

theorem escape_cons (c : Char) (rest : Text) :
    escape (c :: rest) = (if c = '"' || c = '\\' then ['\\', c] else [c]) ++ escape rest := rfl

theorem unescape_escape (t : Text) : unescape (escape t) = t := by
  induction t with
  | nil => rfl
  | cons c rest ih =>
      rw [escape_cons]
      split
      · rw [List.cons_append, List.singleton_append, unescape, ih]
      · next hc =>
        have hslash : c ≠ '\\' := fun hslash => by simp [hslash] at hc
        rw [List.singleton_append, unescape, ih]
        simp [hslash]

/-- No mark that is written is found, and what comes after it is not escaped. -/
theorem unmarked_escape (t : Text) :
    Unmarked '"' false (escape t) ∧ endsEscaped false (escape t) = false := by
  induction t with
  | nil => exact ⟨unmarked_nil _ _, rfl⟩
  | cons c rest ih =>
      rw [escape_cons]
      split
      · simpa [unmarked_cons, endsEscaped_cons] using ih
      · next hc =>
        simp only [Bool.or_eq_true, decide_eq_true_eq, not_or] at hc
        simpa [unmarked_cons, endsEscaped_cons, hc] using ih

theorem slashes_of_not_mem {t : Text} (h : '\\' ∉ t) : slashes t = 0 := by
  rcases List.eq_nil_or_concat t with rfl | ⟨init, c, rfl⟩
  · rfl
  · have hc : c ≠ '\\' := fun hc => h (by simp [hc])
    rw [List.concat_eq_append, slashes_append_singleton, if_neg hc]

theorem quotation_escape {before : Text} (hquote : '"' ∉ before) (hslash : '\\' ∉ before)
    (t after : Text) : Quotation (before ++ '"' :: (escape t ++ '"' :: after)) before (escape t) where
  opens := by
    refine ⟨?_, by simp [slashes_of_not_mem hslash]⟩
    rintro ⟨init, rest, rfl, -⟩
    simp at hquote
  inside := (unmarked_false_iff _ _).1 (unmarked_escape t).1
  closes := .inr ⟨after, rfl, (endsEscaped_eq_false_iff _).1 (unmarked_escape t).2⟩

/-- What is found in a text: nothing exactly where no mark is left unescaped, otherwise what stands
between quotation marks, which is one text in one place. What is written between two marks is found
as it is written, and tells what was meant. -/
theorem extract_quotation :
    (∀ text, extract text = none ↔ ¬Marked '"' text) ∧
    (∀ text, Marked '"' text → ∃ before found, Quotation text before found ∧
      extract text = some found ∧ ∀ before' found', Quotation text before' found' →
        before' = before ∧ found' = found) ∧
    (∀ before after t : Text, '"' ∉ before → '\\' ∉ before →
      extract (before ++ '"' :: (escape t ++ '"' :: after)) = some (escape t)) ∧
    ∀ t, unescape (escape t) = t := by
  refine ⟨extract_eq_none_iff, fun text hmarked => ?_, fun before after t hquote hslash => ?_,
    unescape_escape⟩
  · cases hfound : extract text with
    | none => exact absurd hmarked ((extract_eq_none_iff text).1 hfound)
    | some found =>
        obtain ⟨before, hquotation⟩ := exists_quotation_of_extract hfound
        refine ⟨before, found, hquotation, rfl, fun before' found' h' => ?_⟩
        have hsame := h'.extract_eq
        rw [hfound, Option.some.injEq] at hsame
        exact ⟨hquotation.before_eq h', hsame.symm⟩
  · exact (quotation_escape hquote hslash t after).extract_eq

/-- Two backslashes before the marks on the outside, an escaped mark inside. -/
def slashedText : Text := "\\\\\"a\\\"b\\\\\" c"

theorem extract_quotation_sample : Marked '"' slashedText ∧ ∃ before found,
    Quotation slashedText before found ∧ extract slashedText = some found ∧
      ∀ before' found', Quotation slashedText before' found' →
        before' = before ∧ found' = found := by
  have hmarked : Marked '"' slashedText :=
    ⟨"\\\\".toList, "a\\\"b\\\\\" c".toList, by decide, by decide⟩
  exact ⟨hmarked, extract_quotation.2.1 slashedText hmarked⟩

end KconfigReference.Prompt

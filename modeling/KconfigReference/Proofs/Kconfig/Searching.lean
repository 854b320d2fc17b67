import KconfigReference.Proofs.Kconfig.Quotation
import Mathlib.Order.Bounds.Defs

/-!
Where a mark is found. A place is open if the mark that stands there has an even number of
backslashes directly before it, none of them counted before the start of the search. Main statement:
a search gives the least open place from its start on, and nothing exactly where no place is open.
-/

namespace KconfigReference.Prompt

/-- How many backslashes end just before a place, counted back to `start` at the most. -/
def slashesBefore (text : Text) (start place : Nat) : Nat := slashes ((text.take place).drop start)

/-- A mark stands at a place, and is not escaped by what comes before it from `start` on. -/
structure OpenAt (mark : Char) (text : Text) (start place : Nat) : Prop where
  start_le : start ≤ place
  stands : text[place]? = some mark
  even : Even (slashesBefore text start place)

section Search

variable {mark : Char} {text : Text} {start place : Nat}

/-- The places that are open are those of marks in the part from `start` on. -/
theorem openAt_iff : OpenAt mark text start place ↔
    ∃ before after, text.drop start = before ++ mark :: after ∧ Even (slashes before) ∧
      place = start + before.length := by
  constructor
  · rintro ⟨hstart, hstands, heven⟩
    obtain ⟨offset, rfl⟩ := Nat.exists_eq_add_of_le hstart
    obtain ⟨hlength, hmark⟩ := List.getElem?_eq_some_iff.1 hstands
    have hoffset : offset < (text.drop start).length := by
      rw [List.length_drop]
      omega
    refine ⟨(text.drop start).take offset, (text.drop start).drop (offset + 1), ?_, ?_, ?_⟩
    · have hhere : (text.drop start)[offset] = mark := by rw [List.getElem_drop, hmark]
      rw [← hhere, List.getElem_cons_drop, List.take_append_drop]
    · rw [slashesBefore, List.drop_take, Nat.add_sub_cancel_left] at heven
      exact heven
    · rw [List.length_take_of_le (Nat.le_of_lt hoffset)]
  · rintro ⟨before, after, htext, heven, rfl⟩
    refine ⟨Nat.le_add_right _ _, ?_, ?_⟩
    · rw [← List.getElem?_drop, htext, List.getElem?_append_right (Nat.le_refl _), Nat.sub_self,
        List.getElem?_cons_zero]
    · rw [slashesBefore, List.drop_take, Nat.add_sub_cancel_left, htext, List.take_left]
      exact heven

/-- Some place is open exactly if a mark is left unescaped from `start` on. -/
theorem exists_openAt_iff :
    (∃ place, OpenAt mark text start place) ↔ Marked mark (text.drop start) := by
  simp only [openAt_iff, Marked]
  constructor
  · rintro ⟨_, before, after, htext, heven, -⟩
    exact ⟨before, after, htext, heven⟩
  · rintro ⟨before, after, htext, heven⟩
    exact ⟨_, before, after, htext, heven, rfl⟩

/-- The place of the first mark that is not escaped is the least open one. -/
theorem isLeast_iff : IsLeast { place | OpenAt mark text start place } place ↔
    ∃ before after, text.drop start = before ++ mark :: after ∧ ¬Marked mark before ∧
      Even (slashes before) ∧ place = start + before.length := by
  constructor
  · rintro ⟨hopen, hleast⟩
    obtain ⟨before, after, htext, heven, hplace⟩ := openAt_iff.1 hopen
    refine ⟨before, after, htext, ?_, heven, hplace⟩
    rintro ⟨init, rest, rfl, hinit⟩
    have hearlier : OpenAt mark text start (start + init.length) :=
      openAt_iff.2 ⟨init, rest ++ mark :: after, by rw [htext]; simp, hinit, rfl⟩
    have hle := hleast hearlier
    rw [hplace, List.length_append, List.length_cons] at hle
    omega
  · rintro ⟨before, after, htext, hbefore, heven, rfl⟩
    constructor
    · exact openAt_iff.2 ⟨before, after, htext, heven, rfl⟩
    · intro other hother
      obtain ⟨init, rest, htext', hinit, rfl⟩ := openAt_iff.1 hother
      by_contra hlt
      -- an earlier mark would stand before the first one
      apply hbefore
      rw [htext] at htext'
      rcases List.append_eq_append_iff.1 htext' with ⟨more, hmore, -⟩ | ⟨more, hmore, hrest⟩
      · rw [hmore, List.length_append] at hlt
        omega
      · cases more with
        | nil =>
            rw [hmore, List.append_nil] at hlt
            omega
        | cons c more =>
            rw [List.cons_append, List.cons.injEq] at hrest
            exact ⟨init, more, by rw [hmore, hrest.1], hinit⟩

end Search

theorem find_eq (text : Text) (mark : Char) (start : Nat) :
    find text [mark] start = .ok ((splitAtMark [mark] false (text.drop start)).map fun sides =>
      start + sides.1.length) := by
  rw [find, if_pos (Int.natCast_nonneg start), Int.toNat_natCast]

/-- A search from a place of the text on gives an index, and it is the least open place, or gives
none where no place is open. -/
theorem find_isLeast (text : Text) {mark : Char} (hmark : mark ≠ '\\') (start : Nat) :
    (∀ place : Nat, find text [mark] start = .ok (some place) ↔
      IsLeast { place | OpenAt mark text start place } place) ∧
    (find text [mark] start = .ok none ↔ ∀ place, ¬OpenAt mark text start place) := by
  simp only [find_eq, Except.ok.injEq]
  constructor
  · intro place
    rw [isLeast_iff, Option.map_eq_some_iff]
    constructor
    · rintro ⟨⟨before, after⟩, hsplit, hplace⟩
      obtain ⟨htext, hall, hopen⟩ := (splitAtMark_eq_some_iff hmark).1 hsplit
      exact ⟨before, after, htext, (unmarked_false_iff _ _).1 hall,
        (endsEscaped_eq_false_iff _).1 hopen, by exact_mod_cast hplace.symm⟩
    · rintro ⟨before, after, htext, hbefore, heven, rfl⟩
      refine ⟨(before, after), ?_, by simp⟩
      rw [splitAtMark_eq_some_iff hmark, unmarked_false_iff, endsEscaped_eq_false_iff]
      exact ⟨htext, hbefore, heven⟩
  · rw [Option.map_eq_none_iff, splitAtMark_eq_none_iff hmark, unmarked_false_iff,
      ← exists_openAt_iff, not_exists]

/-- Three backslashes before the first mark, of which the search counts two. -/
theorem find_isLeast_sample : '"' ≠ '\\' ∧
    find "\\\\\\\"\"" ['"'] 1 = .ok (some 3) ∧
    IsLeast { place | OpenAt '"' "\\\\\\\"\"" 1 place } 3 := by
  have hmark : '"' ≠ '\\' := by decide
  have hfind : find "\\\\\\\"\"" ['"'] 1 = .ok (some 3) := by decide
  exact ⟨hmark, hfind, ((find_isLeast "\\\\\\\"\"" hmark 1).1 3).1 hfind⟩

end KconfigReference.Prompt

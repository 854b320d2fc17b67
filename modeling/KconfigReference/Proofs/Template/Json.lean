import KconfigReference.Failure
import KconfigReference.Template.Json
import Mathlib.Tactic.Common

/-!
What reading a template in JSON may fail with. What is left to read is always an end of the text, so
an integer that is too long is a run of digits in the text. Main statement: a text without such a
run is read, or its fault is one of the format.
-/

namespace KconfigReference.Json

/-- Whether there is a run of more digits than an integer may have. -/
def HasLongNumber (text : Text) : Prop :=
  ∃ digits, digits <:+: text ∧ (∀ c ∈ digits, Text.isAsciiDigit c) ∧
    Text.digitLimit < digits.length

theorem HasLongNumber.of_suffix {rest text : Text} (h : HasLongNumber rest)
    (hrest : rest <:+ text) : HasLongNumber text := by
  obtain ⟨digits, hdigits, hrun⟩ := h
  exact ⟨digits, hdigits.trans hrest.isInfix, hrun⟩

/-- What is left after a part is an end of what was left before it, and a number that is too long is
in what was left before it. -/
def Ends (input : Input) : Except Fault (α × Input) → Prop
  | .ok (_, after) => after.rest <:+ input.rest
  | .error (.unexpected _ _) => True
  | .error .integerTooLong => HasLongNumber input.rest

namespace Ends

variable {α β : Type} {input later : Input}

theorem of_suffix {outcome : Except Fault (α × Input)} (h : Ends later outcome)
    (hlater : later.rest <:+ input.rest) : Ends input outcome := by
  cases outcome with
  | ok result => exact List.IsSuffix.trans h hlater
  | error fault =>
      cases fault with
      | unexpected message index => trivial
      | integerTooLong => exact HasLongNumber.of_suffix h hlater

theorem map {outcome : Except Fault (α × Input)} (h : Ends input outcome) (f : α → β) :
    Ends input (outcome.map fun (a, after) => (f a, after)) := by
  cases outcome with
  | ok result => exact h
  | error fault => cases fault <;> exact h

theorem bind {outcome : Except Fault (α × Input)} {next : α × Input → Except Fault (β × Input)}
    (h : Ends input outcome)
    (hnext : ∀ a after, after.rest <:+ input.rest → Ends after (next (a, after))) :
    Ends input (outcome >>= next) := by
  cases outcome with
  | ok result => exact (hnext result.1 result.2 h).of_suffix h
  | error fault => cases fault <;> exact h

theorem expecting (message : Text) :
    Ends input (input.expecting message : Except Fault (α × Input)) := trivial

end Ends

theorem rest_advance (input : Input) (n : Nat) : (input.advance n).rest <:+ input.rest :=
  List.drop_suffix n input.rest

theorem rest_skipSpace (input : Input) : input.skipSpace.rest <:+ input.rest := rest_advance _ _

theorem rest_of_after? {input after : Input} {word : Text} (h : input.after? word = some after) :
    after.rest <:+ input.rest := by
  unfold Input.after? at h
  split at h
  · cases h
    exact rest_advance _ _
  · cases h

theorem isDigits_integerDigits (t : Text) : ∀ c ∈ integerDigits t, Text.isAsciiDigit c := by
  unfold integerDigits
  split
  · simp [Text.isAsciiDigit]
  · exact fun c hc => List.all_eq_true.1 List.all_takeWhile c hc

theorem integerDigits_isPrefix (t : Text) : integerDigits t <+: t := by
  unfold integerDigits
  split
  · simp
  · exact List.takeWhile_prefix _

/-- A bad escape is a fault of the format. -/
theorem exists_unexpected_of_unicodeEscape {rest : Text} {index : Nat} {fault : Fault}
    (h : unicodeEscape rest index = .error fault) :
    ∃ message i, fault = .unexpected message i := by
  unfold unicodeEscape at h
  dsimp only at h
  split_ifs at h
  · cases h
    exact ⟨_, _, rfl⟩
  · split at h
    · cases h
      exact ⟨_, _, rfl⟩
    · split_ifs at h
      · split at h
        · cases h
          exact ⟨_, _, rfl⟩
        · split_ifs at h

theorem ends_stringBody (opening : Nat) (input : Input) :
    Ends input (stringBody opening input) := by
  fun_induction stringBody opening input with
  | case1 => trivial
  | case2 => exact rest_advance _ _
  | case3 => trivial
  | case4 input rest _ fault hescape =>
      obtain ⟨message, i, rfl⟩ := exists_unexpected_of_unicodeEscape hescape
      trivial
  | case5 input rest _ c length _ ih => exact (ih.of_suffix (rest_advance _ _)).map _
  | case6 => trivial
  | case7 input letter rest _ _ c _ ih => exact (ih.of_suffix (rest_advance _ _)).map _
  | case8 => trivial
  | case9 input c rest _ _ _ _ _ _ ih => exact (ih.of_suffix (rest_advance _ _)).map _

theorem ends_number (input : Input) : Ends input (number input) := by
  unfold number
  dsimp only
  generalize hunsigned : (if input.rest.head? = some '-' then input.advance 1 else input) = unsigned
  have hfirst : unsigned.rest <:+ input.rest := by
    rw [← hunsigned]
    split
    · exact rest_advance _ _
    · exact List.suffix_rfl
  refine Ends.of_suffix ?_ hfirst
  have hwhole := rest_advance unsigned (integerDigits unsigned.rest).length
  split
  next => exact trivial
  next =>
    generalize hafter :
      (if fraction (unsigned.advance (integerDigits unsigned.rest).length).rest = []
        then unsigned.advance (integerDigits unsigned.rest).length else _) = afterPart
    have hpart : afterPart.rest <:+ unsigned.rest := by
      rw [← hafter]
      split
      · exact hwhole
      · exact (rest_advance _ _).trans hwhole
    split
    next =>
      split
      next =>
        split
        next hlong =>
          exact ⟨_, (integerDigits_isPrefix _).isInfix, isDigits_integerDigits _, hlong⟩
        next => exact hwhole
      next => exact hpart
    next => exact (rest_advance _ _).trans hpart

/-- What the readers of values, items and members leave, under a bound that they share. -/
structure EndsUnder (bound : Nat) : Prop where
  value : ∀ input, Ends input (value bound input)
  items : ∀ input, Ends input (items bound input)
  members : ∀ entries input, Ends input (members bound entries input)

/-- What is left after one character, with the white space around it. -/
theorem rest_skipCharacter (input : Input) :
    (input.skipSpace.advance 1).skipSpace.rest <:+ input.rest :=
  (rest_skipSpace _).trans ((rest_advance _ 1).trans (rest_skipSpace input))

namespace EndsUnder

variable {bound : Nat}

theorem value_succ (h : EndsUnder bound) (input : Input) :
    Ends input (Json.value (bound + 1) input) := by
  have hinner := (rest_skipSpace (input.advance 1)).trans (rest_advance input 1)
  rw [Json.value]
  split
  next => exact ((ends_stringBody _ _).of_suffix (rest_advance _ _)).map _
  next =>
    dsimp only
    split
    next => exact (rest_advance _ _).trans hinner
    next => exact ((h.members _ _).of_suffix hinner).map _
  next =>
    dsimp only
    split
    next => exact (rest_advance _ _).trans hinner
    next => exact ((h.items _).of_suffix hinner).map _
  next =>
    split
    next found hfound =>
      obtain ⟨⟨word, v⟩, -, hword⟩ := List.exists_of_findSome?_eq_some hfound
      obtain ⟨after, hafter, rfl⟩ := Option.map_eq_some_iff.1 hword
      exact rest_of_after? hafter
    next => exact ends_number input

theorem items_succ (h : EndsUnder bound) (input : Input) :
    Ends input (Json.items (bound + 1) input) := by
  rw [Json.items]
  refine (h.value input).bind fun first after _ => ?_
  dsimp only
  split
  next => exact (rest_advance _ _).trans (rest_skipSpace after)
  next =>
    refine Ends.of_suffix ?_ (rest_skipCharacter after)
    exact (h.items _).bind fun more last _ => List.suffix_rfl
  next => exact trivial

theorem members_succ (h : EndsUnder bound) (entries : List (Setting × Setting)) (input : Input) :
    Ends input (Json.members (bound + 1) entries input) := by
  rw [Json.members]
  split
  next =>
    refine Ends.of_suffix ?_ (rest_advance input 1)
    refine (ends_stringBody _ _).bind fun key after _ => ?_
    dsimp only
    split
    next =>
      refine Ends.of_suffix ?_ (rest_skipCharacter after)
      refine (h.value _).bind fun v last _ => ?_
      dsimp only
      split
      next => exact (rest_advance _ _).trans (rest_skipSpace last)
      next => exact (h.members _ _).of_suffix (rest_skipCharacter last)
      next => exact trivial
    next => exact trivial
  next => exact trivial

end EndsUnder

/-- Every reader leaves an end of what it reads, by induction on the bound. -/
theorem endsUnder (bound : Nat) : EndsUnder bound := by
  induction bound with
  | zero => exact ⟨fun _ => Ends.expecting _, fun _ => Ends.expecting _, fun _ _ => Ends.expecting _⟩
  | succ bound ih => exact ⟨ih.value_succ, ih.items_succ, ih.members_succ⟩

/-- Only a text with a run of more digits than an integer may have is too long to read. -/
theorem hasLongNumber_of_read {text : Text} (h : read text = .error .integerTooLong) :
    HasLongNumber text := by
  unfold read at h
  split at h
  next => cases h
  next =>
    have hends := (endsUnder (2 * text.length + 2)).value (Input.mk text 0).skipSpace
    rcases bind_eq_error_iff.1 h with hvalue | ⟨⟨v, after⟩, -, htrailing⟩
    · rw [hvalue] at hends
      exact HasLongNumber.of_suffix hends (rest_skipSpace _)
    · dsimp only at htrailing
      split at htrailing
      · cases htrailing
      · cases htrailing

end KconfigReference.Json

import KconfigReference.Proofs.Text.Utf8
import Mathlib.Data.List.Infix
import Mathlib.Logic.Function.Basic

/-!
The leftmost occurrence of a token. Main statements: a text is split where no earlier occurrence of
the token is, and not at all exactly where there is none; a token that may hold halves of surrogate
pairs is looked for in the same way.
-/

namespace KconfigReference

/-- What stands before and after the leftmost occurrence of a token; another occurrence may overlap
with it. -/
structure Leftmost {α : Type} (token t before after : List α) : Prop where
  whole : t = before ++ token ++ after
  least : ∀ earlier later, t = earlier ++ token ++ later → before.length ≤ earlier.length

theorem Leftmost.map {α β : Type} {f : α → β} (hf : Function.Injective f)
    {token t before after : List α} (h : Leftmost token t before after) :
    Leftmost (token.map f) (t.map f) (before.map f) (after.map f) := by
  constructor
  · rw [h.whole, List.map_append, List.map_append]
  · intro earlier later hsplit
    obtain ⟨front, later', ht, hfront, -⟩ := List.map_eq_append_iff.1 hsplit
    obtain ⟨earlier', token', rfl, rfl, htoken⟩ := List.map_eq_append_iff.1 hfront
    obtain rfl := hf.list_map htoken
    rw [List.length_map, List.length_map]
    exact h.least earlier' later' ht

namespace Text

theorem splitAtFirst_here {token t : Text} (h : token <+: t) :
    splitAtFirst token t = some ([], t.drop token.length) := by
  cases t with
  | nil => simp [List.prefix_nil.1 h, splitAtFirst]
  | cons c rest => rw [splitAtFirst, if_pos (List.isPrefixOf_iff_prefix.2 h)]

theorem splitAtFirst_later {token rest : Text} {c : Char} (h : ¬token <+: c :: rest) :
    splitAtFirst token (c :: rest) =
      (splitAtFirst token rest).map fun (before, after) => (c :: before, after) := by
  rw [splitAtFirst, if_neg fun hstarts => h (List.isPrefixOf_iff_prefix.1 hstarts)]

theorem splitAtFirst_eq_none_iff {token t : Text} :
    splitAtFirst token t = none ↔ ¬token <:+: t := by
  induction t with
  | nil => simp [splitAtFirst, List.infix_nil]
  | cons c rest ih =>
      rw [List.infix_cons_iff, not_or, ← ih]
      by_cases hstarts : token <+: c :: rest
      · simp [splitAtFirst_here hstarts, hstarts]
      · simp [splitAtFirst_later hstarts, hstarts]

/-- The text is split at the leftmost occurrence, by induction on the characters that are passed
over. -/
theorem leftmost_of_splitAtFirst {token t before after : Text}
    (h : splitAtFirst token t = some (before, after)) : Leftmost token t before after := by
  refine ⟨eq_append_of_splitAtFirst h, ?_⟩
  induction t generalizing before with
  | nil =>
      intro earlier later _
      have hnil : before = [] := by
        have hwhole := eq_append_of_splitAtFirst h
        simp_all
      simp [hnil]
  | cons c rest ih =>
      by_cases hstarts : token <+: c :: rest
      · rw [splitAtFirst_here hstarts, Option.some.injEq, Prod.mk.injEq] at h
        intro earlier later _
        simp [← h.1]
      · rw [splitAtFirst_later hstarts, Option.map_eq_some_iff] at h
        obtain ⟨⟨passed, rest'⟩, hrest, hsides⟩ := h
        simp only [Prod.mk.injEq] at hsides
        obtain ⟨rfl, rfl⟩ := hsides
        rintro (_ | ⟨d, earlier⟩) later hsplit
        · exact absurd ⟨later, by simpa using hsplit.symm⟩ hstarts
        · obtain ⟨-, hmore⟩ := List.cons.inj hsplit
          have hle := ih hrest earlier later hmore
          simpa using hle

end Text

namespace CodeText

theorem injective_char : Function.Injective CodePoint.char := fun _ _ h => CodePoint.char.inj h

/-- A token that occurs in a text has no halves of surrogate pairs either. -/
theorem plain?_of_occurs {token : CodeText} {t : Text} (h : token <:+: t.map CodePoint.char) :
    ∃ plain : Text, token.plain? = some plain ∧ plain <:+: t := by
  obtain ⟨plain, hoccurs, rfl⟩ := List.infix_map_iff.1 h
  exact ⟨plain, plain?_char plain, hoccurs⟩

/-- The search for a token gives nothing where it does not occur. -/
theorem splitAtFirst_of_absent {token : CodeText} {t : Text}
    (h : ¬token <:+: t.map CodePoint.char) :
    token.plain?.bind (Text.splitAtFirst · t) = none := by
  rw [Option.bind_eq_none_iff]
  intro plain hplain
  obtain rfl := eq_of_plain? hplain
  rw [Text.splitAtFirst_eq_none_iff]
  intro hoccurs
  exact h (List.infix_map_iff.2 ⟨plain, hoccurs, rfl⟩)

/-- Where it does occur, the search gives the two sides of the leftmost occurrence. -/
theorem splitAtFirst_of_occurs {token : CodeText} {t : Text} (h : token <:+: t.map CodePoint.char) :
    ∃ before after : Text, token.plain?.bind (Text.splitAtFirst · t) = some (before, after) ∧
      Leftmost token (t.map CodePoint.char) (before.map CodePoint.char)
        (after.map CodePoint.char) := by
  obtain ⟨plain, hplain, hoccurs⟩ := plain?_of_occurs h
  obtain rfl := eq_of_plain? hplain
  cases hsplit : Text.splitAtFirst plain t with
  | none => exact absurd hoccurs (Text.splitAtFirst_eq_none_iff.1 hsplit)
  | some sides =>
      obtain ⟨before, after⟩ := sides
      refine ⟨before, after, ?_, (Text.leftmost_of_splitAtFirst hsplit).map injective_char⟩
      rw [hplain, Option.bind_some, hsplit]

end CodeText

end KconfigReference

import KconfigReference.Proofs.Text.LineEnding
import KconfigReference.Text.CodePoint
import Mathlib.Data.List.Forall2

/-!
The brackets `<` and `>` of a text, which tell its tags. Escaping a text takes all of them away, and
so does putting something else in place of every character of markup; the text itself stays as long
as it was.
-/

namespace KconfigReference

namespace Text

/-- Whether a character begins or ends a tag. -/
def isBracket (c : Char) : Bool := c = '<' || c = '>'

/-- The brackets of a text, in order. -/
def brackets (t : Text) : Text := t.filter isBracket

@[simp] theorem brackets_append (a b : Text) : brackets (a ++ b) = brackets a ++ brackets b :=
  List.filter_append ..

theorem brackets_flatten (texts : List Text) :
    brackets texts.flatten = (texts.map brackets).flatten := by
  induction texts with
  | nil => rfl
  | cons t rest ih => rw [List.flatten_cons, brackets_append, ih, List.map_cons, List.flatten_cons]

/-- A separator without brackets adds none. -/
theorem brackets_join {separator : Text} (h : brackets separator = []) (parts : List Text) :
    brackets (join separator parts) = (parts.map brackets).flatten := by
  unfold join
  induction parts with
  | nil => rfl
  | cons part rest ih =>
      cases rest with
      | nil => simp
      | cons next more =>
          rw [List.intercalate_cons_cons, brackets_append, brackets_append, h, ih]
          simp

/-- An escaped text has no tag. -/
@[simp] theorem brackets_escapeMarkup (t : Text) : brackets (escapeMarkup t) = [] := by
  have hentity : ∀ c, brackets (entity c) = [] := by
    intro c
    unfold entity
    split
    · rfl
    split
    · rfl
    split
    · rfl
    next hless hgreater => simp [brackets, isBracket, hless, hgreater]
  unfold escapeMarkup
  rw [List.flatMap_def, brackets_flatten, List.map_map]
  simp [hentity, Function.comp_def]

/-- Line endings are no brackets. -/
theorem brackets_normalizeLineEndings (t : Text) :
    brackets (normalizeLineEndings t) = brackets t := by
  fun_induction normalizeLineEndings t with
  | case1 => rfl
  | case2 rest ih => simpa [brackets, isBracket] using ih
  | case3 c rest hne ih =>
      unfold brackets at ih ⊢
      by_cases hc : c = '\r'
      · subst hc
        simpa [isBracket] using ih
      · rw [if_neg hc, List.filter_cons, List.filter_cons, ih]

/-- The second text has that many brackets less, and where it has none less it has the same. -/
def Sheds (n : Nat) (t t' : Text) : Prop :=
  (brackets t).length = (brackets t').length + n ∧ (n = 0 → brackets t' = brackets t)

namespace Sheds

theorem of_eq {t t' : Text} (h : brackets t' = brackets t) : Sheds 0 t t' :=
  ⟨by rw [h, Nat.add_zero], fun _ => h⟩

theorem refl (t : Text) : Sheds 0 t t := of_eq rfl

/-- A text without brackets stands for any other. -/
theorem all {t' : Text} (h : brackets t' = []) (t : Text) : Sheds (brackets t).length t t' :=
  ⟨by rw [h, List.length_nil, Nat.zero_add],
    fun hnone => by rw [h, List.length_eq_zero_iff.1 hnone]⟩

theorem append {m n : Nat} {a a' b b' : Text} (ha : Sheds m a a') (hb : Sheds n b b') :
    Sheds (m + n) (a ++ b) (a' ++ b') := by
  refine ⟨?_, fun h => ?_⟩
  · simp only [brackets_append, List.length_append, ha.1, hb.1]
    omega
  · rw [brackets_append, brackets_append, ha.2 (by omega), hb.2 (by omega)]

theorem normalizeLineEndings {n : Nat} {t t' : Text} (h : Sheds n t t') :
    Sheds n (Text.normalizeLineEndings t) (Text.normalizeLineEndings t') := by
  unfold Sheds
  rw [brackets_normalizeLineEndings, brackets_normalizeLineEndings]
  exact h

/-- What stands around a text in both places adds nothing. -/
theorem around {n : Nat} {t t' : Text} (h : Sheds n t t') (before after : Text) :
    Sheds n (before ++ t ++ after) (before ++ t' ++ after) := by
  have hsteps := ((refl before).append h).append (refl after)
  rwa [Nat.zero_add] at hsteps

theorem brackets_eq_iff {n : Nat} {t t' : Text} (h : Sheds n t t') :
    brackets t' = brackets t ↔ n = 0 := by
  refine ⟨fun heq => ?_, h.2⟩
  have hlength := h.1
  rw [heq] at hlength
  omega

theorem join {separator : Text} (hseparator : brackets separator = []) {parts parts' : List Text}
    (h : List.Forall₂ (Sheds 0) parts parts') :
    Sheds 0 (Text.join separator parts) (Text.join separator parts') := by
  have hparts : parts'.map brackets = parts.map brackets := by
    induction h with
    | nil => rfl
    | cons hpart _ ih => rw [List.map_cons, List.map_cons, hpart.2 rfl, ih]
  exact .of_eq (by rw [brackets_join hseparator, brackets_join hseparator, hparts])

end Sheds

/-- How many brackets texts have together. -/
def strays (texts : List Text) : Nat := (texts.flatMap brackets).length

theorem strays_singleton (t : Text) : strays [t] = (brackets t).length := by
  rw [strays, List.flatMap_singleton]

theorem strays_append (a b : List Text) : strays (a ++ b) = strays a + strays b := by
  simp [strays]

theorem strays_eq_zero_iff {texts : List Text} :
    strays texts = 0 ↔ ∀ t ∈ texts, brackets t = [] := by
  rw [strays, List.length_eq_zero_iff, List.flatMap_eq_nil_iff]

/-- Whether a character is one of those that are escaped. -/
def isMarkup (c : Char) : Bool := c = '&' || isBracket c

/-- A character of markup is replaced by one that is none, any other stays. -/
def Masks (c c' : Char) : Prop := if isMarkup c then isMarkup c' = false else c' = c

instance (c c' : Char) : Decidable (Masks c c') :=
  inferInstanceAs (Decidable (if isMarkup c then isMarkup c' = false else c' = c))

/-- Every character of markup is replaced. -/
abbrev Masked (t t' : Text) : Prop := List.Forall₂ Masks t t'

theorem Masks.isMarkup_eq {c c' : Char} (h : Masks c c') : isMarkup c' = false := by
  unfold Masks at h
  split at h
  next => exact h
  next hplain => simpa [h] using hplain

theorem Masked.brackets_eq {t t' : Text} (h : Masked t t') : brackets t' = [] := by
  induction h with
  | nil => rfl
  | @cons c c' rest rest' hc _ ih =>
      have hplain : isBracket c' = false := by
        have := hc.isMarkup_eq
        simp_all [isMarkup]
      simpa [brackets, hplain] using ih

theorem Masked.sheds {t t' : Text} (h : Masked t t') : Sheds (brackets t).length t t' :=
  .all h.brackets_eq t

theorem Masked.eq_nil_iff {t t' : Text} (h : Masked t t') : t' = [] ↔ t = [] := by
  cases h <;> simp

end Text

namespace CodePoint

/-- A character of markup is replaced by one that is none, any other code point stays. -/
inductive Masks : CodePoint → CodePoint → Prop where
  | char {c c' : Char} (h : Text.Masks c c') : Masks (.char c) (.char c')
  | half (offset : Fin 0x800) : Masks (.half offset) (.half offset)

end CodePoint

namespace CodeText

/-- The characters of a text, without the halves of surrogate pairs. -/
def chars (t : CodeText) : Text := t.filterMap CodePoint.char?

/-- The brackets of a text, in order. -/
def brackets (t : CodeText) : Text := Text.brackets t.chars

/-- The second text has that many brackets less, and where it has none less it has the same. -/
def Sheds (n : Nat) (t t' : CodeText) : Prop := Text.Sheds n t.chars t'.chars

/-- Every character of markup is replaced. -/
abbrev Masked (t t' : CodeText) : Prop := List.Forall₂ CodePoint.Masks t t'

@[simp] theorem chars_append (a b : CodeText) : chars (a ++ b) = chars a ++ chars b :=
  List.filterMap_append

@[simp] theorem chars_char (t : Text) : chars (t.map CodePoint.char) = t := by
  rw [chars, List.filterMap_map]
  exact List.filterMap_some

theorem brackets_append (a b : CodeText) : brackets (a ++ b) = brackets a ++ brackets b := by
  rw [brackets, chars_append, Text.brackets_append]
  rfl

theorem brackets_char (t : Text) : brackets (t.map CodePoint.char) = t.brackets := by
  rw [brackets, chars_char]

namespace Sheds

theorem refl (t : CodeText) : Sheds 0 t t := Text.Sheds.refl _

theorem append {m n : Nat} {a a' b b' : CodeText} (ha : Sheds m a a') (hb : Sheds n b b') :
    Sheds (m + n) (a ++ b) (a' ++ b') := by
  unfold Sheds
  rw [chars_append, chars_append]
  exact Text.Sheds.append ha hb

theorem around {n : Nat} {t t' : CodeText} (h : Sheds n t t') (before after : CodeText) :
    Sheds n (before ++ t ++ after) (before ++ t' ++ after) := by
  have hsteps := ((refl before).append h).append (refl after)
  rwa [Nat.zero_add] at hsteps

theorem char {n : Nat} {t t' : Text} (h : Text.Sheds n t t') :
    Sheds n (t.map CodePoint.char) (t'.map CodePoint.char) := by
  unfold Sheds
  rw [chars_char, chars_char]
  exact h

/-- Lines with the same brackets, one by one. -/
theorem lines {lines lines' : List CodeText} (h : List.Forall₂ (Sheds 0) lines lines') :
    Sheds 0 (lines.flatMap (· ++ [.char '\n'])) (lines'.flatMap (· ++ [.char '\n'])) := by
  induction h with
  | nil => exact refl []
  | cons hline _ ih =>
      rw [List.flatMap_cons, List.flatMap_cons]
      exact (hline.append (refl _)).append ih

theorem brackets_eq_iff {n : Nat} {t t' : CodeText} (h : Sheds n t t') :
    brackets t' = brackets t ↔ n = 0 := Text.Sheds.brackets_eq_iff h

end Sheds

theorem brackets_escapeMarkup (t : CodeText) : brackets t.escapeMarkup = [] := by
  induction t with
  | nil => rfl
  | cons point rest ih =>
      have hpoint : brackets point.escapeMarkup = [] := by
        cases point with
        | char c =>
            have h := Text.brackets_escapeMarkup [c]
            rw [Text.escapeMarkup, List.flatMap_singleton] at h
            exact (brackets_char _).trans h
        | half offset => rfl
      have hsplit : escapeMarkup (point :: rest) = point.escapeMarkup ++ escapeMarkup rest := rfl
      rw [hsplit, brackets_append, hpoint, ih, List.nil_append]

theorem Masked.brackets_eq {t t' : CodeText} (h : Masked t t') : brackets t' = [] := by
  induction h with
  | nil => rfl
  | @cons point point' rest rest' hpoint _ ih =>
      cases hpoint with
      | @char c c' hc =>
          have hfirst : brackets [.char c'] = [] := Text.Masked.brackets_eq (.cons hc .nil)
          rw [← List.singleton_append, brackets_append, hfirst, ih, List.append_nil]
      | half offset => exact ih

theorem Masked.sheds {t t' : CodeText} (h : Masked t t') : Sheds (brackets t).length t t' :=
  .all h.brackets_eq _

/-- Escaped texts have the same brackets, which is none. -/
theorem sheds_escapeMarkup (t t' : CodeText) : Sheds 0 t.escapeMarkup t'.escapeMarkup :=
  .of_eq ((brackets_escapeMarkup t').trans (brackets_escapeMarkup t).symm)

/-- A text of characters whose markup is replaced. -/
theorem masked_char {t t' : Text} (h : Text.Masked t t') :
    Masked (t.map CodePoint.char) (t'.map CodePoint.char) := by
  rw [Masked, List.forall₂_map_left_iff, List.forall₂_map_right_iff]
  exact h.imp fun _ _ hc => .char hc

/-- A text has halves of surrogate pairs, or characters that stand for those of the other. -/
theorem Masked.plain? {t t' : CodeText} (h : Masked t t') :
    (t.plain? = none ∧ t'.plain? = none) ∨
      ∃ text text', t.plain? = some text ∧ t'.plain? = some text' ∧ Text.Masked text text' := by
  unfold CodeText.plain?
  induction h with
  | nil => exact .inr ⟨[], [], rfl, rfl, .nil⟩
  | @cons point point' rest rest' hpoint _ ih =>
      rw [List.mapM_cons, List.mapM_cons]
      cases hpoint with
      | half offset => exact .inl ⟨rfl, rfl⟩
      | @char c c' hc =>
          rcases ih with ⟨hnone, hnone'⟩ | ⟨text, text', htext, htext', hmasked⟩
          · rw [hnone, hnone']
            exact .inl ⟨rfl, rfl⟩
          · rw [htext, htext']
            exact .inr ⟨c :: text, c' :: text', rfl, rfl, .cons hc hmasked⟩

end CodeText

end KconfigReference

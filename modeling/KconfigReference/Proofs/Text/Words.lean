import KconfigReference.Text.Basic
import Mathlib.Data.List.TakeWhile

/-!
Words, and texts that are nothing but words. White space only ends words, so that squeezing a text
keeps its words and every character that is not blank. Main statement: words joined by single spaces
are read as those words, so that squeezing them changes nothing.
-/

namespace KconfigReference.Text

/-- A character that is no separator begins the first piece. -/
theorem exists_pieces_cons {p : Char → Bool} {c : Char} (h : p c = false) (rest : Text) :
    ∃ piece more, pieces p rest = piece :: more ∧ pieces p (c :: rest) = (c :: piece) :: more := by
  cases hrest : pieces p rest with
  | nil => exact absurd hrest (pieces_ne_nil p rest)
  | cons piece more => exact ⟨piece, more, rfl, by simp [pieces, h, hrest]⟩

theorem pieces_append_cons {p : Char → Bool} {c : Char} (h : p c = true) (a b : Text) :
    pieces p (a ++ c :: b) = pieces p a ++ pieces p b := by
  induction a with
  | nil => simp [pieces, h]
  | cons d rest ih =>
      simp only [List.cons_append, pieces, ih]
      split
      · rfl
      · cases hrest : pieces p rest with
        | nil => exact absurd hrest (pieces_ne_nil p rest)
        | cons piece more => rfl

theorem pieces_of_forall {p : Char → Bool} {t : Text} (h : ∀ c ∈ t, p c = false) :
    pieces p t = [t] := by
  induction t with
  | nil => rfl
  | cons c rest ih =>
      have hrest := ih fun d hd => h d (List.mem_cons_of_mem c hd)
      simp [pieces, h c List.mem_cons_self, hrest]

theorem length_pieces (p : Char → Bool) (t : Text) : (pieces p t).length = t.countP p + 1 := by
  induction t with
  | nil => rfl
  | cons c rest ih =>
      cases hc : p c with
      | true => simp [pieces, hc, ih]
      | false =>
          obtain ⟨piece, more, hrest, hcons⟩ := exists_pieces_cons hc rest
          rw [hrest] at ih
          simpa [hcons, hc] using ih

theorem flatten_pieces (p : Char → Bool) (t : Text) :
    (pieces p t).flatten = t.filter (!p ·) := by
  induction t with
  | nil => rfl
  | cons c rest ih =>
      cases hc : p c with
      | true => simp [pieces, hc, ih]
      | false =>
          obtain ⟨piece, more, hrest, hcons⟩ := exists_pieces_cons hc rest
          rw [hrest] at ih
          simpa [hcons, hc] using ih

/-- Whether a text is one word. -/
def IsWord (w : Text) : Prop := w ≠ [] ∧ ∀ c ∈ w, isBlank c = false

theorem IsWord.ne_space {w : Text} (h : w.IsWord) {c : Char} (hc : c ∈ w) : c ≠ ' ' := by
  rintro rfl
  exact absurd (h.2 _ hc) (by decide)

theorem isWord_of_mem_words {t w : Text} (h : w ∈ words t) : w.IsWord :=
  ⟨ne_nil_of_mem_words h, fun _ hc => isBlank_eq_false_of_mem_words h hc⟩

@[simp] theorem words_nil : words [] = [] := rfl

/-- White space ends a word, whatever comes before and after it. -/
theorem words_append_blank {c : Char} (h : isBlank c = true) (a b : Text) :
    words (a ++ c :: b) = words a ++ words b := by
  rw [words, pieces_append_cons h, List.filter_append]
  rfl

theorem IsWord.words_eq {w : Text} (h : w.IsWord) : words w = [w] := by
  rw [words, pieces_of_forall h.2]
  simp [h.1]

theorem join_cons_cons (w next : Text) (more : List Text) :
    join [' '] (w :: next :: more) = w ++ ' ' :: join [' '] (next :: more) := by
  simp [join, List.intercalate_cons_cons]

/-- Words with single spaces between them are those words, by induction on them. -/
theorem words_join {ws : List Text} (h : ∀ w ∈ ws, w.IsWord) : words (join [' '] ws) = ws := by
  induction ws with
  | nil => rfl
  | cons w more ih =>
      have hw := h w List.mem_cons_self
      cases more with
      | nil => simpa [join] using hw.words_eq
      | cons next more =>
          have hrest := ih fun v hv => h v (List.mem_cons_of_mem w hv)
          rw [join_cons_cons, words_append_blank (by decide), hw.words_eq, hrest]
          rfl

/-- A text without spaces is all in front of the first space. -/
theorem firstWord_of_not_mem {t : Text} (h : ' ' ∉ t) :
    firstWord t = t ∧ afterFirstSpace t = [] := by
  have hspace : ∀ c ∈ t, decide (c ≠ ' ') = true := by
    intro c hc
    simpa using ne_of_mem_of_not_mem hc h
  constructor
  · rw [firstWord, List.takeWhile_eq_self_iff.2 hspace]
  · rw [afterFirstSpace, List.dropWhile_eq_nil_iff.2 hspace, List.drop_nil]

theorem firstWord_append_space {t : Text} (h : ' ' ∉ t) (rest : Text) :
    firstWord (t ++ ' ' :: rest) = t ∧ afterFirstSpace (t ++ ' ' :: rest) = rest := by
  have hspace : ∀ c ∈ t, decide (c ≠ ' ') = true := by
    intro c hc
    simpa using ne_of_mem_of_not_mem hc h
  rw [firstWord, List.takeWhile_append_of_pos hspace, afterFirstSpace,
    List.dropWhile_append_of_pos hspace]
  simp

theorem IsWord.firstWord_eq {w : Text} (h : w.IsWord) :
    firstWord w = w ∧ afterFirstSpace w = [] :=
  firstWord_of_not_mem fun hspace => h.ne_space hspace rfl

theorem IsWord.firstWord_append {w : Text} (h : w.IsWord) (rest : Text) :
    firstWord (w ++ ' ' :: rest) = w ∧ afterFirstSpace (w ++ ' ' :: rest) = rest :=
  firstWord_append_space (fun hspace => h.ne_space hspace rfl) rest

/-- A line of words is its first word alone, or goes on after a space. -/
theorem join_eq_firstWord {ws : List Text} (h : ∀ w ∈ ws, w.IsWord) :
    (join [' '] ws = firstWord (join [' '] ws) ∧ afterFirstSpace (join [' '] ws) = []) ∨
      (afterFirstSpace (join [' '] ws) ≠ [] ∧ join [' '] ws =
        firstWord (join [' '] ws) ++ ' ' :: afterFirstSpace (join [' '] ws)) := by
  cases ws with
  | nil => exact .inl ⟨rfl, rfl⟩
  | cons w more =>
      have hw := h w List.mem_cons_self
      cases more with
      | nil =>
          have halone : join [' '] [w] = w := List.intercalate_singleton
          rw [halone, hw.firstWord_eq.1]
          exact .inl ⟨rfl, hw.firstWord_eq.2⟩
      | cons next more =>
          have hrest := words_join fun v hv => h v (List.mem_cons_of_mem w hv)
          obtain ⟨hfirst, hafter⟩ := hw.firstWord_append (join [' '] (next :: more))
          rw [join_cons_cons, hfirst, hafter]
          refine .inr ⟨fun hnil => ?_, rfl⟩
          simp [hnil] at hrest

theorem words_squeeze (t : Text) : words (squeeze t) = words t :=
  words_join fun _ hw => isWord_of_mem_words hw

theorem squeeze_join {ws : List Text} (h : ∀ w ∈ ws, w.IsWord) :
    squeeze (join [' '] ws) = join [' '] ws := by
  rw [squeeze, words_join h]

/-- White space at the end of a text does not matter. -/
theorem squeeze_append_blank {c : Char} (h : isBlank c = true) (t : Text) :
    squeeze (t ++ [c]) = squeeze t := by
  rw [squeeze, words_append_blank h, words_nil, List.append_nil]
  rfl

/-- A text without its white space. -/
def solid (t : Text) : Text := t.filter (!isBlank ·)

/-- A text without its spaces. -/
def unspaced (t : Text) : Text := t.filter (· ≠ ' ')

theorem flatten_words (t : Text) : (words t).flatten = solid t := by
  rw [words, List.flatten_filter_ne_nil, flatten_pieces]
  rfl

theorem unspaced_join {ws : List Text} (h : ∀ w ∈ ws, w.IsWord) :
    unspaced (join [' '] ws) = ws.flatten := by
  have hword : ∀ {w : Text}, w.IsWord → unspaced w = w := fun hw =>
    List.filter_eq_self.2 fun c hc => by simpa using hw.ne_space hc
  induction ws with
  | nil => rfl
  | cons w more ih =>
      have hw := hword (h w List.mem_cons_self)
      cases more with
      | nil => simpa [join] using hw
      | cons next more =>
          have hrest := ih fun v hv => h v (List.mem_cons_of_mem w hv)
          rw [join_cons_cons, List.flatten_cons, ← hrest]
          unfold unspaced at hw ⊢
          rw [List.filter_append, hw]
          simp

/-- Squeezing keeps all characters that are not blank. -/
theorem unspaced_squeeze (t : Text) : unspaced (squeeze t) = solid t := by
  rw [squeeze, unspaced_join fun _ hw => isWord_of_mem_words hw, flatten_words]

theorem head?_join_words {first : Text} (hfirst : first ≠ []) (more : List Text) :
    (join [' '] (first :: more)).head? = first.head? := by
  cases first with
  | nil => exact absurd rfl hfirst
  | cons c rest => cases more <;> rfl

theorem head?_squeeze (t : Text) : (squeeze t).head? = (solid t).head? := by
  rw [squeeze, ← flatten_words]
  cases hwords : words t with
  | nil => rfl
  | cons w more =>
      have hw : w ≠ [] := ne_nil_of_mem_words (by rw [hwords]; exact List.mem_cons_self)
      rw [head?_join_words hw, List.flatten_cons]
      cases w with
      | nil => exact absurd rfl hw
      | cons c rest => rfl

theorem squeeze_eq_nil_iff (t : Text) : squeeze t = [] ↔ solid t = [] := by
  rw [← List.head?_eq_none_iff, head?_squeeze, List.head?_eq_none_iff]

theorem length_join (ws : List Text) :
    (join [' '] ws).length = ws.flatten.length + (ws.length - 1) := by
  induction ws with
  | nil => rfl
  | cons w more ih =>
      cases more with
      | nil => simp [join]
      | cons next more =>
          rw [join_cons_cons, List.length_append, List.length_cons, ih, List.flatten_cons (l := w)]
          simp only [List.length_append, List.length_cons]
          omega

/-- Squeezing does not make a text longer: every space stands for white space. -/
theorem length_squeeze_le (t : Text) : (squeeze t).length ≤ t.length := by
  have hwords : (words t).length ≤ t.countP isBlank + 1 := by
    rw [← length_pieces]
    exact List.length_filter_le _ _
  have htotal : t.length = t.countP isBlank + (solid t).length := by
    rw [solid, ← List.countP_eq_length_filter]
    simpa using List.length_eq_countP_add_countP isBlank (l := t)
  rw [squeeze, length_join, flatten_words]
  omega

end KconfigReference.Text

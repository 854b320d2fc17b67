import KconfigReference.Kconfig.Line
import KconfigReference.Proofs.Text.Words
import Mathlib.Data.List.Flatten

/-!
How physical lines are cut. A physical line is cut into pieces of a fixed width, and every piece is
read as a line of its own: it is the piece that is blank or a comment, not the physical line. Main
statement: a physical line gives the pieces that say something, without loss; it gives nothing exactly
if each piece is blank or a comment, and it loses nothing exactly if no piece is a comment.
-/

namespace KconfigReference

namespace Text

/-- The pieces of a width of a text: number `k` holds the characters from the `k`-fold width on. -/
def cuts (width : Nat) (t : Text) : List Text :=
  (List.range ((t.length + width - 1) / width)).map fun k => (t.drop (k * width)).take width

/-- Whether the first character that is not blank begins a comment. -/
def IsComment (t : Text) : Prop := t.find? (!isBlank ·) = some '#'

instance (t : Text) : Decidable t.IsComment := by unfold IsComment; infer_instance

/-- Whether a text says something: it is neither blank nor a comment. -/
def Speaks (t : Text) : Prop := ¬t.IsComment ∧ t.solid ≠ []

instance (t : Text) : Decidable t.Speaks := by unfold Speaks; infer_instance

theorem isComment_iff (t : Text) : t.IsComment ↔ t.solid.head? = some '#' := by
  rw [IsComment, solid, List.head?_filter]

theorem not_isComment_of_blank {t : Text} (h : t.solid = []) : ¬t.IsComment := by
  simp [isComment_iff, h]

theorem speaks_iff (t : Text) : t.Speaks ↔ squeeze t ≠ [] ∧ (squeeze t).head? ≠ some '#' := by
  rw [Speaks, isComment_iff, head?_squeeze, ne_eq, ne_eq, squeeze_eq_nil_iff, ne_eq]
  exact and_comm

theorem not_speaks_iff (t : Text) : ¬t.Speaks ↔ t.IsComment ∨ t.solid = [] := by
  unfold Speaks
  grind

theorem solid_append (a b : Text) : solid (a ++ b) = solid a ++ solid b := List.filter_append ..

theorem solid_flatten (texts : List Text) : solid texts.flatten = (texts.map solid).flatten := by
  induction texts with
  | nil => rfl
  | cons t rest ih => rw [List.flatten_cons, solid_append, ih]; rfl

theorem unspaced_flatten (texts : List Text) :
    unspaced texts.flatten = (texts.map unspaced).flatten := by
  rw [unspaced, List.filter_flatten]
  rfl

theorem mem_cuts {width : Nat} {t cut : Text} (h : cut ∈ cuts width t) :
    ∃ k, cut = (t.drop (k * width)).take width := by
  obtain ⟨k, -, rfl⟩ := List.mem_map.1 h
  exact ⟨k, rfl⟩

/-- All pieces after the first one lie behind the width. -/
theorem eq_or_blank_of_mem_cuts {width : Nat} {t cut : Text} (h : cut ∈ cuts width t)
    (hblank : solid (t.drop width) = []) : cut = t.take width ∨ cut.solid = [] := by
  obtain ⟨k, rfl⟩ := mem_cuts h
  cases k with
  | zero => exact .inl (by simp)
  | succ k =>
      refine .inr (List.eq_nil_of_sublist_nil ?_)
      rw [← hblank, Nat.succ_mul, Nat.add_comm, ← List.drop_drop]
      exact ((List.take_sublist _ _).trans (List.drop_sublist _ _)).filter _

end Text

open Text

/-- Reading a text piece by piece gives its pieces, by the recursion of the reading. -/
theorem chunks_eq_cuts (room : Nat) (t : Text) : chunks room t = cuts (room + 1) t := by
  fun_induction chunks room t with
  | case1 => simp [cuts]
  | case2 c rest ih =>
      have hone : ∀ n, room + 1 ≤ n → n < 2 * (room + 1) → n / (room + 1) = 1 := fun n hle hlt =>
        Nat.div_eq_of_lt_le (by omega) (by omega)
      have hcount : ((c :: rest).length + (room + 1) - 1) / (room + 1) =
          ((rest.drop room).length + (room + 1) - 1) / (room + 1) + 1 := by
        rw [List.length_cons, List.length_drop, ← Nat.add_div_right _ (by omega)]
        rcases Nat.le_total room rest.length with hle | hle
        · congr 1
          omega
        · rw [hone, hone] <;> omega
      have hpiece : ∀ k, ((c :: rest).drop ((k + 1) * (room + 1))).take (room + 1) =
          ((rest.drop room).drop (k * (room + 1))).take (room + 1) := by
        intro k
        rw [List.drop_drop, Nat.succ_mul, ← Nat.add_assoc, List.drop_succ_cons,
          Nat.add_comm room (k * (room + 1))]
      rw [cuts, hcount, List.range_succ_eq_map, List.map_cons, List.map_map, ih, cuts]
      simp only [Function.comp_def, Nat.succ_eq_add_one, hpiece]
      simp

/-- A physical line gives one line for each piece that says something. -/
theorem linesOfPhysical_eq (path : Text) (room number : Nat) (physical : Text) :
    linesOfPhysical path room number physical =
      ((cuts (room + 1) physical).filter (Speaks ·)).map fun cut => ⟨squeeze cut, path, number⟩ := by
  rw [linesOfPhysical, chunks_eq_cuts]
  induction cuts (room + 1) physical with
  | nil => rfl
  | cons cut rest ih =>
      rw [List.map_cons, List.filterMap_cons, ih]
      have hspeaks := speaks_iff cut
      by_cases hne : squeeze cut = []
      · simp [hspeaks, hne]
      · by_cases hcomment : (squeeze cut).head? = some '#' <;> simp [hspeaks, hne, hcomment]

theorem readLines_eq (path : Text) (room : Nat) (physicals : List Text) :
    readLines path room physicals =
      (physicals.zipIdx 1).flatMap fun pair => linesOfPhysical path room pair.2 pair.1 := rfl

/-- The texts of the lines that come from the physical line of a number. -/
def textsAt (number : Nat) (lines : List Line) : List Text :=
  (lines.filter (·.number = number)).map Line.text

theorem textsAt_append (number : Nat) (lines more : List Line) :
    textsAt number (lines ++ more) = textsAt number lines ++ textsAt number more := by
  simp [textsAt]

theorem textsAt_eq_nil {number : Nat} {lines : List Line}
    (h : ∀ line ∈ lines, line.number ≠ number) : textsAt number lines = [] := by
  rw [textsAt, List.filter_eq_nil_iff.2 (by simpa using h)]
  rfl

theorem number_of_mem_linesOfPhysical {path physical : Text} {room number : Nat} {line : Line}
    (h : line ∈ linesOfPhysical path room number physical) : line.number = number := by
  rw [linesOfPhysical_eq] at h
  obtain ⟨cut, -, rfl⟩ := List.mem_map.1 h
  rfl

/-- A physical line among others gives what it gives alone. -/
theorem textsAt_readLines (path : Text) (room : Nat) (before after : List Text) (physical : Text) :
    textsAt (before.length + 1) (readLines path room (before ++ physical :: after)) =
      ((cuts (room + 1) physical).filter (Speaks ·)).map squeeze := by
  have hothers : ∀ (others : List Text) (start : Nat),
      before.length + 1 < start ∨ start + others.length ≤ before.length + 1 →
      textsAt (before.length + 1) ((others.zipIdx start).flatMap fun pair =>
        linesOfPhysical path room pair.2 pair.1) = [] := by
    intro others start hstart
    refine textsAt_eq_nil fun line hline => ?_
    obtain ⟨⟨other, number⟩, hother, hline⟩ := List.mem_flatMap.1 hline
    have hbounds := List.mem_zipIdx hother
    rw [number_of_mem_linesOfPhysical hline]
    omega
  have hown : textsAt (before.length + 1) (linesOfPhysical path room (before.length + 1) physical) =
      ((cuts (room + 1) physical).filter (Speaks ·)).map squeeze := by
    rw [textsAt, List.filter_eq_self.2 fun line hline => by
      simpa using number_of_mem_linesOfPhysical hline, linesOfPhysical_eq, List.map_map]
    rfl
  rw [readLines_eq, List.zipIdx_append, List.zipIdx_cons, List.flatMap_append, List.flatMap_cons,
    textsAt_append, textsAt_append, hothers before 1 (.inr (by omega)),
    hothers after _ (.inl (by omega)), Nat.add_comm 1, hown]
  simp

/-- Leaving out members of a list loses nothing exactly if they give nothing. -/
theorem flatMap_filter_eq_iff {α β : Type} (p : α → Bool) (f : α → List β) (l : List α) :
    (l.filter p).flatMap f = l.flatMap f ↔ ∀ a ∈ l, p a = false → f a = [] := by
  induction l with
  | nil => simp
  | cons a rest ih =>
      rw [List.flatMap_cons, List.forall_mem_cons]
      cases ha : p a with
      | true => simp [ha, ih]
      | false =>
          have hle : ((rest.filter p).flatMap f).length ≤ (rest.flatMap f).length :=
            (List.filter_sublist.flatMap f).length_le
          rw [List.filter_cons_of_neg (by simp [ha])]
          constructor
          · intro h
            have hlength := congrArg List.length h
            rw [List.length_append] at hlength
            have hnone : f a = [] := List.eq_nil_of_length_eq_zero (by omega)
            exact ⟨fun _ => hnone, ih.1 (by simpa [hnone] using h)⟩
          · rintro ⟨hnone, hrest⟩
            rw [hnone rfl, ih.2 hrest]
            rfl

/-- How many characters are read at once. -/
def cutWidth (size : Int) : Nat := (max (size - 1) 1).toNat

theorem lineRoom_add_one (size : Int) : lineRoom size + 1 = cutWidth size := by
  unfold lineRoom cutWidth
  omega

theorem flatten_cuts {width : Nat} (h : 0 < width) (t : Text) : (cuts width t).flatten = t := by
  cases width with
  | zero => exact absurd h (Nat.lt_irrefl 0)
  | succ room => rw [← chunks_eq_cuts, flatten_chunks]

/-- The pieces that say something hold all that is not blank exactly if no piece is a comment. -/
theorem speaking_eq_solid_iff {width : Nat} (h : 0 < width) (t : Text) :
    ((cuts width t).filter (Speaks ·)).flatMap solid = t.solid ↔
      ∀ cut ∈ cuts width t, ¬cut.IsComment := by
  have hall : t.solid = (cuts width t).flatMap solid := by
    rw [List.flatMap_def, ← solid_flatten, flatten_cuts h]
  rw [hall, flatMap_filter_eq_iff]
  refine forall₂_congr fun cut _ => ?_
  rw [decide_eq_false_iff_not, not_speaks_iff]
  constructor
  · intro hsilent hcomment
    exact not_isComment_of_blank (hsilent (.inl hcomment)) hcomment
  · exact fun hcomment hsilent => hsilent.resolve_left hcomment

/-- Where a text says nothing behind its first piece, this piece tells whether it is a comment. -/
theorem isComment_take_iff {width : Nat} {t : Text} (hblank : solid (t.drop width) = []) :
    IsComment (t.take width) ↔ t.IsComment := by
  have hfirst : solid (t.take width) = t.solid := by
    rw [← List.append_nil (solid (t.take width)), ← hblank, ← solid_append, List.take_append_drop]
  rw [isComment_iff, isComment_iff, hfirst]

/-- A physical line is read piece by piece. The lines it gives are its pieces that say something, with
all their characters that are not blank. It gives none exactly if each piece is blank or a comment, and
it loses nothing exactly if no piece is a comment; so it is read as one whole if it says nothing behind
the first piece. -/
theorem readLines_piecewise (path : Text) (size : Int) (before after : List Text)
    (physical : Text) :
    let pieces := cuts (cutWidth size) physical
    let given := textsAt (before.length + 1)
      (readLines path (lineRoom size) (before ++ physical :: after))
    given.map unspaced = (pieces.filter (Speaks ·)).map solid ∧
    (given = [] ↔ ∀ piece ∈ pieces, piece.IsComment ∨ piece.solid = []) ∧
    (unspaced given.flatten = physical.solid ↔ ∀ piece ∈ pieces, ¬piece.IsComment) ∧
    (solid (physical.drop (cutWidth size)) = [] →
      (physical.IsComment → given = []) ∧
      (¬physical.IsComment → unspaced given.flatten = physical.solid)) := by
  intro pieces given
  have hgiven : given = (pieces.filter (Speaks ·)).map squeeze := by
    have hread := textsAt_readLines path (lineRoom size) before after physical
    rwa [lineRoom_add_one] at hread
  have hunspaced : given.map unspaced = (pieces.filter (Speaks ·)).map solid := by
    rw [hgiven, List.map_map]
    exact List.map_congr_left fun piece _ => unspaced_squeeze piece
  have hnone : given = [] ↔ ∀ piece ∈ pieces, piece.IsComment ∨ piece.solid = [] := by
    simp only [hgiven, List.map_eq_nil_iff, List.filter_eq_nil_iff, decide_eq_true_eq,
      not_speaks_iff]
  have hall : unspaced given.flatten = physical.solid ↔ ∀ piece ∈ pieces, ¬piece.IsComment := by
    have hwidth : 0 < cutWidth size := by
      rw [← lineRoom_add_one]
      omega
    rw [unspaced_flatten, hunspaced, ← List.flatMap_def, speaking_eq_solid_iff hwidth]
  refine ⟨hunspaced, hnone, hall, fun hblank => ⟨fun hcomment => hnone.2 fun piece hpiece => ?_,
    fun hcomment => hall.2 fun piece hpiece => ?_⟩⟩
  · rcases eq_or_blank_of_mem_cuts hpiece hblank with rfl | hpiece
    · exact .inl ((isComment_take_iff hblank).2 hcomment)
    · exact .inr hpiece
  · rcases eq_or_blank_of_mem_cuts hpiece hblank with rfl | hpiece
    · exact fun htake => hcomment ((isComment_take_iff hblank).1 htake)
    · exact not_isComment_of_blank hpiece

theorem readLines_piecewise_sample :
    solid ("# ab \n".toList.drop (cutWidth 5)) = [] ∧ IsComment "# ab \n".toList ∧
      textsAt 2 (readLines "Kconfig" (lineRoom 5) [['a'], "# ab \n", ['b']]) = [] := by
  have hblank : solid ("# ab \n".toList.drop (cutWidth 5)) = [] := by decide
  have hcomment : IsComment "# ab \n".toList := by decide
  have hread := readLines_piecewise "Kconfig" 5 [['a']] [['b']] "# ab \n"
  exact ⟨hblank, hcomment, (hread.2.2.2 hblank).1 hcomment⟩

/-- The rest of a comment that is cut off is no comment, and the rest of another line may be one. -/
theorem readLines_cuts_comments :
    (IsComment "# ab".toList ∧
      textsAt 1 (readLines "Kconfig" (lineRoom 3) ["# ab"]) = ["ab".toList]) ∧
    (¬IsComment "ab#c".toList ∧
      unspaced (textsAt 1 (readLines "Kconfig" (lineRoom 3) ["ab#c"])).flatten = "ab".toList ∧
      solid "ab#c" = "ab#c".toList) := by
  refine ⟨⟨by decide, ?_⟩, by decide, ?_, by decide⟩
  · simp only [readLines_eq, linesOfPhysical_eq]
    decide
  · simp only [readLines_eq, linesOfPhysical_eq]
    decide

end KconfigReference

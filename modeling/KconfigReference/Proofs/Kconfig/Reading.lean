import KconfigReference.Kconfig.Line
import KconfigReference.Proofs.Text.LineEnding
import KconfigReference.Proofs.Text.Words

/-!
Reading lines without cutting them. Where the physical lines of a text fit into the line size, each
of them gives one line, or none if it is blank or a comment.
-/

namespace KconfigReference

namespace Text

/-- A line feed at the end of a text is white space. -/
theorem squeeze_append_lineFeed (t : Text) : squeeze (t ++ ['\n']) = squeeze t :=
  squeeze_append_blank (by decide) t

end Text

theorem chunks_of_le {room : Nat} {t : Text} (hne : t ≠ []) (h : t.length ≤ room + 1) :
    chunks room t = [t] := by
  cases t with
  | nil => exact absurd rfl hne
  | cons c rest =>
      have hrest : rest.length ≤ room := by simpa using h
      rw [chunks, List.take_of_length_le hrest, List.drop_of_length_le hrest, chunks]

theorem chunks_of_exact {room : Nat} {t : Text} (c : Char) (h : t.length = room + 1) :
    chunks room (t ++ [c]) = [t, [c]] := by
  cases t with
  | nil => simp at h
  | cons d rest =>
      have hrest : rest.length = room := by simpa using h
      have htake : (rest ++ [c]).take room = rest := List.take_left' hrest
      have hdrop : (rest ++ [c]).drop room = [c] := List.drop_left' hrest
      rw [List.cons_append, chunks, htake, hdrop, chunks_of_le (by simp) (by simp)]

/-- The line that a physical line gives, unless it is blank or a comment. -/
def lineOfPhysical (path : Text) (number : Nat) (physical : Text) : Option Line :=
  let text := Text.squeeze physical
  if text = [] || text.head? = some '#' then none else some ⟨text, path, number⟩

/-- The lines of a list of physical lines that are not cut. -/
def wholeLines (path : Text) (physicals : List Text) : List Line :=
  (physicals.zipIdx 1).filterMap fun (physical, number) => lineOfPhysical path number physical

/-- Whether a physical line has room in one piece, apart from its line feed. -/
def Fits (room : Nat) (physical : Text) : Prop :=
  (physical.takeWhile (· ≠ '\n')).length ≤ room + 1

instance (room : Nat) (physical : Text) : Decidable (Fits room physical) := by
  unfold Fits
  infer_instance

/-- A physical line that fits is not cut. -/
theorem linesOfPhysical_of_fits {path : Text} {room number : Nat} {t physical : Text}
    (hmem : physical ∈ Text.physicalLines t) (hfits : Fits room physical) :
    linesOfPhysical path room number physical =
      (lineOfPhysical path number physical).toList := by
  obtain ⟨hne, hcontent⟩ := Text.eq_content_of_mem_physicalLines hmem
  have hwhole : chunks room physical = [physical] →
      linesOfPhysical path room number physical =
        (lineOfPhysical path number physical).toList := by
    intro hchunks
    simp only [linesOfPhysical, lineOfPhysical, hchunks, List.map_cons, List.map_nil]
    split <;> simp_all
  unfold Fits at hfits
  rcases hcontent with hplain | hended
  · rw [← hplain] at hfits
    exact hwhole (chunks_of_le hne hfits)
  · generalize physical.takeWhile (· ≠ '\n') = content at hfits hended
    subst hended
    by_cases hroom : content.length ≤ room
    · exact hwhole (chunks_of_le (by simp) (by simpa using hroom))
    · have hchunks : chunks room (content ++ ['\n']) = [content, ['\n']] :=
        chunks_of_exact '\n' (by omega)
      have hfeed : Text.squeeze ['\n'] = [] := by decide
      simp only [linesOfPhysical, lineOfPhysical, hchunks, List.map_cons, List.map_nil, hfeed,
        Text.squeeze_append_lineFeed]
      split <;> simp_all

/-- Physical lines that fit are read one by one. -/
theorem readLines_of_fits {path : Text} {room : Nat} {t : Text}
    (hfits : ∀ physical ∈ Text.physicalLines t, Fits room physical) :
    readLines path room (Text.physicalLines t) = wholeLines path (Text.physicalLines t) := by
  have hflat : ∀ (pairs : List (Text × Nat)),
      (∀ pair ∈ pairs, pair.1 ∈ Text.physicalLines t) →
      (pairs.flatMap fun (physical, number) => linesOfPhysical path room number physical) =
        pairs.filterMap fun (physical, number) => lineOfPhysical path number physical := by
    intro pairs hpairs
    induction pairs with
    | nil => rfl
    | cons pair rest ih =>
        obtain ⟨physical, number⟩ := pair
        have hmem : physical ∈ Text.physicalLines t := hpairs _ List.mem_cons_self
        have hrest := ih fun other hother => hpairs other (List.mem_cons_of_mem _ hother)
        rw [List.flatMap_cons, hrest, List.filterMap_cons]
        simp only [linesOfPhysical_of_fits hmem (hfits _ hmem)]
        cases lineOfPhysical path number physical <;> rfl
  exact hflat _ fun pair hpair => (List.mem_zipIdx hpair).2.2 ▸ List.getElem_mem _

end KconfigReference

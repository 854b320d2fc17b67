import KconfigReference.Proofs.Kconfig.Cutting
import KconfigReference.Proofs.Kconfig.Reading

/-!
The normal form of lines. Every line that is read consists of words with single spaces between them,
says something, and fits into the width at which it was cut. Main statement: lines are read in normal
form and in order, each of them from the physical line whose number it has, and a line in normal form
is read as it is.
-/

namespace KconfigReference

open Text

/-- Whether a line is as it comes from reading with a width. -/
structure Line.Normal (width : Nat) (line : Line) : Prop where
  nonempty : line.text ≠ []
  fits : line.text.length ≤ width
  words : ∃ ws, (∀ w ∈ ws, IsWord w) ∧ line.text = join [' '] ws
  notComment : line.text.head? ≠ some '#'
  split : (line.text = line.word ∧ line.rest = []) ∨
    (line.rest ≠ [] ∧ line.text = line.word ++ ' ' :: line.rest)

variable {path : Text} {room : Nat}

theorem Line.normal_squeeze {width : Nat} {cut : Text} (hspeaks : cut.Speaks)
    (hlength : cut.length ≤ width) (number : Nat) :
    Line.Normal width ⟨squeeze cut, path, number⟩ where
  nonempty := ((speaks_iff cut).1 hspeaks).1
  fits := Nat.le_trans (length_squeeze_le cut) hlength
  words := ⟨Text.words cut, fun _ hw => isWord_of_mem_words hw, rfl⟩
  notComment := ((speaks_iff cut).1 hspeaks).2
  split := join_eq_firstWord fun _ hw => isWord_of_mem_words hw

/-- Where a line comes from. -/
theorem source_of_mem_readLines {physicals : List Text} {line : Line}
    (h : line ∈ readLines path room physicals) :
    ∃ k physical, physicals[k]? = some physical ∧
      ∃ cut ∈ cuts (room + 1) physical, cut.Speaks ∧ line = ⟨squeeze cut, path, k + 1⟩ := by
  rw [readLines_eq] at h
  obtain ⟨⟨physical, number⟩, hphysical, hline⟩ := List.mem_flatMap.1 h
  rw [linesOfPhysical_eq] at hline
  obtain ⟨cut, hcut, rfl⟩ := List.mem_map.1 hline
  obtain ⟨hmem, hspeaks⟩ := List.mem_filter.1 hcut
  obtain ⟨hle, hget⟩ := List.mk_mem_zipIdx_iff_le_and_getElem?_sub.1 hphysical
  refine ⟨number - 1, physical, hget, cut, hmem, by simpa using hspeaks, ?_⟩
  rw [Nat.sub_add_cancel hle]

/-- Lines are numbered in the order in which they are read. -/
theorem pairwise_number_readLines (path : Text) (room : Nat) (physicals : List Text) :
    (readLines path room physicals).Pairwise fun line later => line.number ≤ later.number := by
  rw [readLines_eq]
  refine List.pairwise_flatMap.2 ⟨fun pair _ => ?_, ?_⟩
  · refine List.pairwise_of_forall_mem_list fun line hline later hlater => ?_
    have hsame := number_of_mem_linesOfPhysical hlater
    exact Nat.le_of_eq ((number_of_mem_linesOfPhysical hline).trans hsame.symm)
  · have hnumbers : ((physicals.zipIdx 1).map Prod.snd).Pairwise (· < ·) := by
      rw [List.zipIdx_map_snd]
      exact List.pairwise_lt_range'
    refine (List.pairwise_map.1 hnumbers).imp fun {pair later} hlt line hline other hother => ?_
    rw [number_of_mem_linesOfPhysical hline, number_of_mem_linesOfPhysical hother]
    exact Nat.le_of_lt hlt

/-- A line in normal form is read as it is. -/
theorem Line.Normal.linesOfPhysical_eq {line : Line} (h : line.Normal (room + 1)) (number : Nat) :
    linesOfPhysical path room number (line.text ++ ['\n']) = [⟨line.text, path, number⟩] := by
  obtain ⟨ws, hws, htext⟩ := h.words
  have hsame : squeeze line.text = line.text := by rw [htext, squeeze_join hws]
  have hread : squeeze (line.text ++ ['\n']) = line.text := by
    rw [squeeze_append_lineFeed, hsame]
  have hspeaks : ∀ t : Text, squeeze t = line.text → t.Speaks := fun t ht =>
    (speaks_iff t).2 (by rw [ht]; exact ⟨h.nonempty, h.notComment⟩)
  rw [KconfigReference.linesOfPhysical_eq, ← chunks_eq_cuts]
  rcases Nat.lt_or_eq_of_le h.fits with hlt | heq
  · rw [chunks_of_le (by simp) (by simpa using Nat.le_of_lt_succ hlt)]
    simp [hspeaks _ hread, hread]
  · have hfeed : ¬Speaks ['\n'] := by decide
    rw [chunks_of_exact '\n' heq]
    simp [hspeaks _ hsame, hsame, hfeed]

theorem map_text_readLines_normal {lines : List Line} (h : ∀ line ∈ lines, line.Normal (room + 1)) :
    (readLines path room (lines.map fun line => line.text ++ ['\n'])).map Line.text =
      lines.map Line.text := by
  rw [readLines_eq]
  generalize 1 = start
  induction lines generalizing start with
  | nil => rfl
  | cons line rest ih =>
      have hrest := ih (fun other hother => h other (List.mem_cons_of_mem line hother)) (start + 1)
      rw [List.map_cons, List.zipIdx_cons, List.flatMap_cons, List.map_append, hrest,
        (h line List.mem_cons_self).linesOfPhysical_eq]
      rfl

/-- Lines are read in normal form and in order, each from the physical line of its number, and reading
them once more changes nothing. -/
theorem readLines_normal_form (path : Text) (size : Int) (physicals : List Text) :
    let lines := readLines path (lineRoom size) physicals
    (∀ line ∈ lines, line.Normal (cutWidth size)) ∧
    lines.Pairwise (fun line later => line.number ≤ later.number) ∧
    (∀ line ∈ lines, line.path = path ∧ ∃ k physical, physicals[k]? = some physical ∧
      line.number = k + 1 ∧ ∃ piece ∈ cuts (cutWidth size) physical,
        words line.text = words piece) ∧
    ∀ again, (readLines again (lineRoom size) (lines.map fun line => line.text ++ ['\n'])).map
      Line.text = lines.map Line.text := by
  intro lines
  have hsource := fun line (hline : line ∈ lines) => source_of_mem_readLines hline
  have hnormal : ∀ line ∈ lines, line.Normal (lineRoom size + 1) := by
    intro line hline
    obtain ⟨k, physical, -, cut, hcut, hspeaks, rfl⟩ := hsource line hline
    rw [← chunks_eq_cuts] at hcut
    exact Line.normal_squeeze hspeaks (length_le_of_mem_chunks hcut) _
  rw [← lineRoom_add_one]
  refine ⟨hnormal, pairwise_number_readLines path _ physicals, fun line hline => ?_,
    fun again => map_text_readLines_normal hnormal⟩
  obtain ⟨k, physical, hphysical, cut, hcut, -, rfl⟩ := hsource line hline
  exact ⟨rfl, k, physical, hphysical, rfl, cut, hcut, words_squeeze cut⟩

end KconfigReference

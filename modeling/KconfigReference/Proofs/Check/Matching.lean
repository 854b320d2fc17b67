import KconfigReference.Proofs.Check.Balance
import Mathlib.Data.List.Forall2
import Mathlib.Order.Bounds.Defs

/-!
Which list tags belong together. A closing tag closes the list that was opened last of those that
are open where it stands. Main statements: no list is left open and none is closed that is not open
exactly in balanced words, and otherwise there is one error for each tag that is left over.
-/

namespace KconfigReference.Check

/-- The words of tags in which lists nest. -/
inductive Balanced : List ListTag → Prop where
  | nothing : Balanced []
  | list {inside after : List ListTag} (hinside : Balanced inside) (hafter : Balanced after) :
      Balanced (.opening :: inside ++ .closing :: after)

section Words

variable {tags : List ListTag}

theorem Balanced.depthAfter_eq (h : Balanced tags) (opened : Nat) :
    depthAfter opened tags = some opened := by
  induction h generalizing opened with
  | nothing => rfl
  | list _ _ ihinside ihafter =>
      rw [List.cons_append, depthAfter, depthAfter_append, ihinside]
      exact ihafter opened

/-- The tag that closes an open list comes behind a balanced word. -/
theorem exists_balanced_before {opened : Nat} (h : depthAfter (opened + 1) tags = some 0) :
    ∃ inside after, tags = inside ++ .closing :: after ∧ Balanced inside ∧
      depthAfter opened after = some 0 := by
  induction hlength : tags.length using Nat.strongRecOn generalizing tags opened with
  | ind length ih =>
      cases tags with
      | nil => simp [depthAfter] at h
      | cons tag rest =>
          cases tag with
          | closing => exact ⟨[], rest, rfl, .nothing, h⟩
          | opening =>
              have hrest : depthAfter (opened + 1 + 1) rest = some 0 := h
              rw [List.length_cons] at hlength
              obtain ⟨inside, more, rfl, hinside, hmore⟩ := ih rest.length (by omega) hrest rfl
              rw [List.length_append, List.length_cons] at hlength
              obtain ⟨beside, after, rfl, hbeside, hafter⟩ := ih more.length (by omega) hmore rfl
              exact ⟨.opening :: inside ++ .closing :: beside, after, by simp,
                .list hinside hbeside, hafter⟩

theorem balanced_iff : Balanced tags ↔ depthAfter 0 tags = some 0 := by
  constructor
  · intro h
    exact h.depthAfter_eq 0
  · intro h
    induction hlength : tags.length using Nat.strongRecOn generalizing tags with
    | ind length ih =>
        cases tags with
        | nil => exact .nothing
        | cons tag rest =>
            cases tag with
            | closing => simp [depthAfter] at h
            | opening =>
                obtain ⟨inside, after, rfl, hinside, hafter⟩ := exists_balanced_before h
                rw [List.length_cons, List.length_append, List.length_cons] at hlength
                exact .list hinside (ih after.length (by omega) hafter rfl)

end Words

/-- The list that is opened at `start` is open before `place`: it was open before the tag there,
which is no closing tag with `start` as the last open list, or that tag opens it. -/
def IsOpen (tags : List ListTag) : Nat → Nat → Prop
  | 0, _ => False
  | place + 1, start =>
      (tags[place]? = some .opening ∧ start = place) ∨
        (IsOpen tags place start ∧
          ¬(tags[place]? = some .closing ∧ IsGreatest { other | IsOpen tags place other } start))

/-- The tag at a place closes the last one of the lists that are open before it. -/
def Closes (tags : List ListTag) (place start : Nat) : Prop :=
  tags[place]? = some .closing ∧ IsGreatest { other | IsOpen tags place other } start

/-- There is a tag at a place, which closes nothing and is not closed. -/
def Unmatched (tags : List ListTag) (place : Nat) : Prop :=
  place < tags.length ∧ (∀ start, ¬Closes tags place start) ∧ ∀ later, ¬Closes tags later place

section Places

variable {tags : List ListTag} {place start : Nat} {opened outer : List Nat}

theorem ne_closing_of_opening (h : tags[place]? = some .opening) :
    tags[place]? ≠ some .closing := by
  simp [h]

theorem isOpen_succ_iff : IsOpen tags (place + 1) start ↔
    (tags[place]? = some .opening ∧ start = place) ∨
      (IsOpen tags place start ∧ ¬Closes tags place start) := Iff.rfl

theorem IsOpen.lt (h : IsOpen tags place start) : start < place := by
  induction place with
  | zero => exact h.elim
  | succ place ih =>
      rcases isOpen_succ_iff.1 h with ⟨-, rfl⟩ | ⟨hopen, -⟩
      · exact Nat.lt_succ_self _
      · exact Nat.lt_succ_of_lt (ih hopen)

/-- A list is open if its tag came before and none so far has closed it. -/
theorem isOpen_iff : IsOpen tags place start ↔
    start < place ∧ tags[start]? = some .opening ∧
      ∀ earlier < place, ¬Closes tags earlier start := by
  induction place with
  | zero => simp [IsOpen]
  | succ place ih =>
      rw [isOpen_succ_iff]
      constructor
      · rintro (⟨htag, rfl⟩ | ⟨hopen, hcloses⟩)
        · refine ⟨Nat.lt_succ_self _, htag, fun earlier hearlier hcloses => ?_⟩
          have hlt : start < earlier := IsOpen.lt hcloses.2.1
          omega
        · obtain ⟨hlt, htag, hearlier⟩ := ih.1 hopen
          refine ⟨Nat.lt_succ_of_lt hlt, htag, fun earlier hlt' => ?_⟩
          rcases Nat.lt_succ_iff_lt_or_eq.1 hlt' with hlt' | rfl
          · exact hearlier earlier hlt'
          · exact hcloses
      · rintro ⟨hlt, htag, hearlier⟩
        rcases Nat.lt_succ_iff_lt_or_eq.1 hlt with hlt | rfl
        · have hbefore : ∀ earlier < place, ¬Closes tags earlier start :=
            fun earlier h => hearlier earlier (Nat.lt_succ_of_lt h)
          exact .inr ⟨ih.2 ⟨hlt, htag, hbefore⟩, hearlier place (Nat.lt_succ_self _)⟩
        · exact .inl ⟨htag, rfl⟩

theorem Closes.opening (h : Closes tags place start) : tags[start]? = some .opening :=
  (isOpen_iff.1 h.2.1).2.1

/-- A list that is open at the end is never closed. -/
theorem IsOpen.unmatched (h : IsOpen tags place start) (hplace : tags.length ≤ place) :
    Unmatched tags start := by
  obtain ⟨-, htag, hearlier⟩ := isOpen_iff.1 h
  refine ⟨(List.getElem?_eq_some_iff.1 htag).1, ?_, ?_⟩
  · rintro other ⟨hclosing, -⟩
    exact ne_closing_of_opening htag hclosing
  · intro later hcloses
    rcases Nat.lt_or_ge later place with hlt | hge
    · exact hearlier later hlt hcloses
    · have hnone : tags[later]? = none := List.getElem?_eq_none (Nat.le_trans hplace hge)
      rw [hcloses.1] at hnone
      cases hnone

/-- The open lists before a place, the last one first. -/
structure Stacked (tags : List ListTag) (place : Nat) (opened : List Nat) : Prop where
  descending : opened.Pairwise (· > ·)
  mem_iff : ∀ start, start ∈ opened ↔ IsOpen tags place start

theorem stacked_zero (tags : List ListTag) : Stacked tags 0 [] := by
  constructor
  · exact .nil
  · intro start
    simp [IsOpen]

theorem Stacked.isGreatest (h : Stacked tags place (start :: outer)) :
    IsGreatest { other | IsOpen tags place other } start := by
  constructor
  · exact (h.mem_iff start).1 List.mem_cons_self
  · intro other hother
    rcases List.mem_cons.1 ((h.mem_iff other).2 hother) with rfl | hmem
    · exact Nat.le_refl _
    · exact Nat.le_of_lt ((List.pairwise_cons.1 h.descending).1 other hmem)

/-- An opening tag comes on top of the open lists. -/
theorem Stacked.push (h : Stacked tags place opened) (htag : tags[place]? = some .opening) :
    Stacked tags (place + 1) (place :: opened) := by
  constructor
  · refine List.pairwise_cons.2 ⟨fun start hstart => ?_, h.descending⟩
    exact ((h.mem_iff start).1 hstart).lt
  · intro start
    have hcloses : ¬Closes tags place start := by
      rintro ⟨hclosing, -⟩
      exact ne_closing_of_opening htag hclosing
    rw [List.mem_cons, h.mem_iff, isOpen_succ_iff]
    simp [htag, hcloses]

/-- A closing tag takes the top away. -/
theorem Stacked.pop (h : Stacked tags place (start :: outer))
    (htag : tags[place]? = some .closing) : Stacked tags (place + 1) outer := by
  obtain ⟨hbelow, hdescending⟩ := List.pairwise_cons.1 h.descending
  constructor
  · exact hdescending
  · intro other
    rw [isOpen_succ_iff, ← h.mem_iff, List.mem_cons]
    constructor
    · intro hother
      refine .inr ⟨.inr hother, fun hcloses => ?_⟩
      have hle : start ≤ other := hcloses.2.2 h.isGreatest.1
      exact Nat.not_lt_of_le hle (hbelow other hother)
    · rintro (⟨hopening, -⟩ | ⟨rfl | hother, hcloses⟩)
      · exact absurd htag (ne_closing_of_opening hopening)
      · exact absurd ⟨htag, h.isGreatest⟩ hcloses
      · exact hother

/-- Where nothing is open a closing tag is left over. -/
theorem Stacked.surplus (h : Stacked tags place []) (htag : tags[place]? = some .closing) :
    Unmatched tags place ∧ Stacked tags (place + 1) [] := by
  have hnone : ∀ start, ¬IsOpen tags place start := by
    intro start hstart
    exact absurd ((h.mem_iff start).2 hstart) List.not_mem_nil
  constructor
  · refine ⟨(List.getElem?_eq_some_iff.1 htag).1, fun start hcloses => hnone start hcloses.2.1, ?_⟩
    intro later hcloses
    exact ne_closing_of_opening hcloses.opening htag
  · refine ⟨.nil, fun start => ?_⟩
    rw [isOpen_succ_iff]
    simp [htag, hnone]

/-- The tag at `other` is left over, and known of or still to come when the tags before `place` are
read and the lists at `opened` are open. -/
def Pending (tags : List ListTag) (opened : List Nat) (place other : Nat) : Prop :=
  Unmatched tags other ∧ (other ∈ opened ∨ place ≤ other)

theorem pending_zero {other : Nat} : Pending tags [] 0 other ↔ Unmatched tags other := by
  simp [Pending]

theorem Stacked.pending_of_length_le (h : Stacked tags place opened) (hplace : tags.length ≤ place)
    {other : Nat} : Pending tags opened place other ↔ other ∈ opened := by
  constructor
  · rintro ⟨hunmatched, hother | hge⟩
    · exact hother
    · exact absurd (Nat.lt_of_lt_of_le hunmatched.1 hplace) (Nat.not_lt_of_le hge)
  · intro hother
    exact ⟨((h.mem_iff other).1 hother).unmatched hplace, .inl hother⟩

theorem pending_push {other : Nat} :
    Pending tags (place :: opened) (place + 1) other ↔ Pending tags opened place other := by
  have hplace : place ≤ other ↔ other = place ∨ place + 1 ≤ other := by omega
  rw [Pending, Pending, List.mem_cons, hplace, or_assoc, or_left_comm]

/-- Neither the closing tag nor the opening one that it belongs to is left over. -/
theorem Closes.pending_pop (h : Closes tags place start) {other : Nat} :
    Pending tags outer (place + 1) other ↔ Pending tags (start :: outer) place other := by
  refine and_congr_right fun hother => ?_
  have hstart : other ≠ start := by
    rintro rfl
    exact hother.2.2 place h
  have hplace : other ≠ place := by
    rintro rfl
    exact hother.2.1 start h
  rw [List.mem_cons, or_iff_right hstart]
  refine or_congr_right ?_
  omega

theorem pending_surplus (h : Unmatched tags place) {other : Nat} :
    Pending tags [] place other ↔ other = place ∨ Pending tags [] (place + 1) other := by
  constructor
  · rintro ⟨hother, hnone | hle⟩
    · exact absurd hnone List.not_mem_nil
    · rcases Nat.eq_or_lt_of_le hle with rfl | hlt
      · exact .inl rfl
      · exact .inr ⟨hother, .inr hlt⟩
  · rintro (rfl | ⟨hother, hnone | hlt⟩)
    · exact ⟨h, .inr (Nat.le_refl _)⟩
    · exact absurd hnone List.not_mem_nil
    · exact ⟨hother, .inr (Nat.le_of_succ_le hlt)⟩

end Places

/-- The error about a tag that is left over in a line. -/
def ListTag.issue (number : Nat) : ListTag → Issue
  | .opening => ⟨number, .error, "Unclosed <ul> starting at line " ++ Text.ofNat number⟩
  | .closing => ⟨number, .error, "Unmatched </ul>"⟩

/-- The issue is the error about the tag at a place, with the number of its line. -/
def Reports (tagged : List (ListTag × Nat)) (place : Nat) (issue : Issue) : Prop :=
  ∃ tag number, tagged[place]? = some (tag, number) ∧ issue = ListTag.issue number tag

/-- From a place on, each tag that is left over gives one error, and so does each of the lists that
are open there and never closed; by induction on the tags that come, with the open lists. -/
theorem exists_pending {tagged after : List (ListTag × Nat)} {place : Nat}
    {starts opened : List Nat} (hafter : tagged.drop place = after)
    (hstacked : Stacked (tagged.map (·.1)) place starts)
    (hopened : List.Forall₂ (fun start number => tagged[start]? = some (.opening, number)) starts
      opened) :
    ∃ places : List Nat, places.Nodup ∧
      (∀ other, other ∈ places ↔ Pending (tagged.map (·.1)) starts place other) ∧
      List.Forall₂ (Reports tagged) places (unbalanced opened after) := by
  induction after generalizing place starts opened with
  | nil =>
      have hlength : (tagged.map (·.1)).length ≤ place := by
        rw [List.length_map]
        exact List.drop_eq_nil_iff.1 hafter
      refine ⟨starts.reverse, ?_, ?_, ?_⟩
      · exact (List.pairwise_reverse.2 hstacked.descending).imp Nat.ne_of_lt
      · intro other
        rw [List.mem_reverse, hstacked.pending_of_length_le hlength]
      · rw [unbalanced, List.forall₂_map_right_iff, List.forall₂_reverse_iff]
        exact hopened.imp fun start number htag => ⟨.opening, number, htag, rfl⟩
  | cons entry rest ih =>
      obtain ⟨tag, number⟩ := entry
      have hentry : tagged[place]? = some (tag, number) := by
        have hhead := congrArg (·[0]?) hafter
        simpa using hhead
      have htag : (tagged.map (·.1))[place]? = some tag := by simp [hentry]
      have hrest : tagged.drop (place + 1) = rest := by
        rw [← List.drop_drop, hafter, List.drop_one, List.tail_cons]
      cases tag with
      | opening =>
          obtain ⟨places, hnodup, hmem, hreports⟩ :=
            ih hrest (hstacked.push htag) (.cons hentry hopened)
          exact ⟨places, hnodup, fun other => (hmem other).trans pending_push, hreports⟩
      | closing =>
          cases hopened with
          | nil =>
              obtain ⟨hunmatched, hnext⟩ := hstacked.surplus htag
              obtain ⟨places, hnodup, hmem, hreports⟩ := ih hrest hnext .nil
              refine ⟨place :: places, ?_, ?_, .cons ⟨.closing, number, hentry, rfl⟩ hreports⟩
              · refine List.nodup_cons.2 ⟨fun hplace => ?_, hnodup⟩
                rcases ((hmem place).1 hplace).2 with hnone | hlt
                · exact List.not_mem_nil hnone
                · exact Nat.not_succ_le_self place hlt
              · intro other
                rw [List.mem_cons, hmem, pending_surplus hunmatched]
          | cons hstart houter =>
              have hcloses : Closes (tagged.map (·.1)) place _ := ⟨htag, hstacked.isGreatest⟩
              obtain ⟨places, hnodup, hmem, hreports⟩ := ih hrest (hstacked.pop htag) houter
              exact ⟨places, hnodup, fun other => (hmem other).trans hcloses.pending_pop, hreports⟩

/-- Balanced words are those in which every tag has the one that it belongs with. -/
theorem balanced_iff_forall_not_unmatched (tags : List ListTag) :
    Balanced tags ↔ ∀ place, ¬Unmatched tags place := by
  have htags : (tags.map (·, 0)).map (·.1) = tags := by
    rw [List.map_map]
    exact List.map_id _
  obtain ⟨places, -, hmem, hreports⟩ :=
    exists_pending (List.drop_zero (l := tags.map (·, 0))) (stacked_zero _) .nil
  rw [htags] at hmem
  have hempty : places = [] ↔ unbalanced [] (tags.map (·, 0)) = [] := by
    rw [← List.length_eq_zero_iff, ← List.length_eq_zero_iff, hreports.length_eq]
  rw [balanced_iff]
  calc depthAfter 0 tags = some 0
      ↔ unbalanced [] (tags.map (·, 0)) = [] := by
        rw [unbalanced_eq_nil, htags, List.length_nil]
    _ ↔ ∀ place, place ∉ places := by rw [← hempty, List.eq_nil_iff_forall_not_mem]
    _ ↔ ∀ place, ¬Unmatched tags place := by simp only [hmem, pending_zero]

end KconfigReference.Check

import KconfigReference.Proofs.Walk.Run
import Mathlib.Data.List.Lex
import Mathlib.Data.List.Nodup

/-!
The numbers of the paragraphs. A number that is written is below the number that comes next, in the
order that compares counters from the outermost on and puts a number before its extensions: opening
a block extends the number, and closing one advances the counter around it. Main statement: the
numbers of a table of contents ascend, whatever the tree and however the walk ends.
-/

namespace KconfigReference

namespace ParagraphNumber

theorem text_cons (counter : Nat) (rest : ParagraphNumber) :
    text (counter :: rest) ≠ [] := by
  cases rest <;> simp [text, Text.join, Text.ofNat]

/-- Dots and digits give a number back. -/
theorem text_injective : Function.Injective text := by
  have hdigits : ∀ n, '.' ∉ Text.ofNat n := fun n h =>
    absurd (Nat.isDigit_of_mem_toDigits (by decide) (by decide) h) (by decide)
  have hofNat : Function.Injective Text.ofNat := fun m n h => by
    have := congrArg (Nat.ofDigitChars 10 · 0) h
    simpa [Text.ofNat] using this
  have hsplit : ∀ number : ParagraphNumber, number ≠ [] →
      number.text.splitOn '.' = number.map Text.ofNat := by
    intro number hne
    apply List.splitOn_intercalate
    · simpa using fun n _ => hdigits n
    · simpa using hne
  intro a b h
  cases a with
  | nil =>
      cases b with
      | nil => rfl
      | cons counter rest => exact absurd h.symm (text_cons counter rest)
  | cons counter rest =>
      cases b with
      | nil => exact absurd h (text_cons counter rest)
      | cons counter' rest' =>
          have ha := hsplit (counter :: rest) (by simp)
          have hb := hsplit (counter' :: rest') (by simp)
          rw [h, hb] at ha
          exact (List.map_injective_iff.2 hofNat ha).symm

/-- A number is before its extensions. -/
theorem lt_extend (number : ParagraphNumber) (counter : Nat) : number < number ++ [counter] := by
  have h : List.Lex (· < ·) ([] : List Nat) [counter] := .nil
  simpa using List.Lex.append_left (· < ·) h number

/-- Advancing a counter beats whatever came below it. -/
theorem lt_advance (outer : ParagraphNumber) (counter : Nat) (below : List Nat) :
    outer ++ counter :: below < outer ++ [counter + 1] :=
  List.Lex.append_left (· < ·) (.rel (Nat.lt_succ_self counter)) outer

end ParagraphNumber

/-- The number in an item of the table of contents. -/
def TocItem.number? : TocItem → Option ParagraphNumber
  | .block _ number _ => some number
  | .config _ number => some number
  | .openList => none
  | .closeList => none

/-- The numbers that were written to the table of contents, the one of the root first. -/
def WalkState.numbers (s : WalkState) : List ParagraphNumber :=
  s.toc.toList.filterMap TocItem.number?

/-- Numbers from 1 on, each below the next. -/
structure Ascending (numbers : List ParagraphNumber) : Prop where
  sorted : numbers.Pairwise (· < ·)
  positive : ∀ number ∈ numbers, ∀ counter ∈ number, 1 ≤ counter

namespace Ascending

theorem append {numbers : List ParagraphNumber} {number : ParagraphNumber}
    (h : Ascending numbers) (hbelow : ∀ earlier ∈ numbers, earlier < number)
    (hpositive : ∀ counter ∈ number, 1 ≤ counter) : Ascending (numbers ++ [number]) := by
  constructor
  · rw [List.pairwise_append]
    refine ⟨h.sorted, List.pairwise_singleton _ _, fun earlier hearlier later hlater => ?_⟩
    rw [List.mem_singleton.1 hlater]
    exact hbelow earlier hearlier
  · intro n hn
    rcases List.mem_append.1 hn with hn | hn
    · exact h.positive n hn
    · rw [List.mem_singleton.1 hn]
      exact hpositive

theorem nodup_texts {numbers : List ParagraphNumber} (h : Ascending numbers) :
    (numbers.map ParagraphNumber.text).Nodup := by
  refine List.Nodup.map ParagraphNumber.text_injective ?_
  exact h.sorted.imp fun hlt heq => by
    subst heq
    exact List.lt_irrefl _ hlt

end Ascending

/-- Counters from 1 on, with the one that a place is at advanced. -/
theorem positive_advance (inner : List Nat) {counter : Nat} {outer : List Nat}
    (h : ∀ c ∈ inner ++ counter :: outer, 1 ≤ c) :
    ∀ c ∈ (counter + 1) :: outer, 1 ≤ c := by
  intro c hc
  rcases List.mem_cons.1 hc with rfl | hc
  · exact Nat.le_add_left 1 counter
  · exact h c (by simp [hc])

/-- The number of the root comes first, and whatever was written after it ascends. -/
structure FromRoot (numbers : List ParagraphNumber) : Prop where
  root : ∀ first ∈ numbers.head?, first = [1]
  ascending : Ascending numbers.tail

theorem FromRoot.empty : FromRoot [] := ⟨by simp, .nil, by simp⟩

/-- Whatever was written after the root ascends, and the number that comes next is above it. -/
structure Numbered (numbers : List ParagraphNumber) (counters : List Nat) : Prop where
  started : numbers ≠ []
  fromRoot : FromRoot numbers
  below : ∀ number ∈ numbers.tail, number < counters.reverse
  positive : ∀ counter ∈ counters, 1 ≤ counter
  nested : counters ≠ []

namespace Numbered

variable {numbers : List ParagraphNumber} {counters next : List Nat}

theorem tail_append (h : Numbered numbers counters) (number : ParagraphNumber) :
    (numbers ++ [number]).tail = numbers.tail ++ [number] :=
  List.tail_append_of_ne_nil h.started

/-- Writing the number that comes next keeps the order. -/
theorem written (h : Numbered numbers counters) : FromRoot (numbers ++ [counters.reverse]) where
  root := by
    rw [List.head?_append_of_ne_nil _ h.started]
    exact h.fromRoot.root
  ascending := by
    rw [h.tail_append]
    exact h.fromRoot.ascending.append h.below (by simpa using h.positive)

/-- The number that comes next may grow. -/
theorem move (h : Numbered numbers counters) (hlt : counters.reverse < next.reverse)
    (hpositive : ∀ counter ∈ next, 1 ≤ counter) : Numbered numbers next where
  started := h.started
  fromRoot := h.fromRoot
  below number hnumber := List.lt_trans (h.below number hnumber) hlt
  positive := hpositive
  nested := by
    rintro rfl
    exact List.not_lt_nil _ hlt

/-- Once a number is written, the next one must be above it. -/
theorem write (h : Numbered numbers counters) (hlt : counters.reverse < next.reverse)
    (hpositive : ∀ counter ∈ next, 1 ≤ counter) :
    Numbered (numbers ++ [counters.reverse]) next where
  started := by simp
  fromRoot := h.written
  below number hnumber := by
    rw [h.tail_append] at hnumber
    rcases List.mem_append.1 hnumber with hnumber | hnumber
    · exact List.lt_trans (h.below number hnumber) hlt
    · rwa [List.mem_singleton.1 hnumber]
  positive := hpositive
  nested := (h.move hlt hpositive).nested

end Numbered

namespace Walk

/-- The numbers of a state ascend towards the one that comes next. -/
def InOrder (s : WalkState) : Prop := Numbered s.numbers s.nesting.counters

/-- The numbers of a state ascend, though the next one may not. -/
def Ordered (s : WalkState) : Prop := FromRoot s.numbers

theorem numbers_announceMenu (s : WalkState) (title : Option Text) :
    (s.announceMenu title).numbers = s.numbers ++ [s.nesting.counters.reverse] := by
  simp [WalkState.numbers, WalkState.announceMenu, WalkState.number, TocItem.number?]

theorem numbers_announceChoice (s : WalkState) (title : Option Text) :
    (s.announceChoice title).numbers = s.numbers ++ [s.nesting.counters.reverse] := by
  simp [WalkState.numbers, WalkState.announceChoice, WalkState.number, TocItem.number?]

theorem numbers_closeToc (s : WalkState) : (s.writeToc .closeList).numbers = s.numbers := by
  simp [WalkState.numbers, WalkState.writeToc, TocItem.number?]

theorem numbers_listEntry (s : WalkState) (entry : Entry) (counters : List Nat) :
    (listEntry s entry counters).numbers = s.numbers ++ [s.nesting.counters.reverse] := by
  simp [WalkState.numbers, listEntry, WalkState.writeBody, WalkState.writeToc,
    WalkState.withCounters, WalkState.number, TocItem.number?]

/-- Opening a block writes its number and extends it. -/
theorem inOrder_open {s t : WalkState} (hs : InOrder s)
    (hnumbers : t.numbers = s.numbers ++ [s.nesting.counters.reverse])
    (hcounters : t.nesting.counters = 1 :: s.nesting.counters) : InOrder t := by
  rw [InOrder, hnumbers, hcounters]
  refine hs.write ?_ ?_
  · simpa using ParagraphNumber.lt_extend s.nesting.counters.reverse 1
  · simpa using hs.positive

theorem ordered_written {s t : WalkState} (hs : InOrder s)
    (hnumbers : t.numbers = s.numbers ++ [s.nesting.counters.reverse]) : Ordered t := by
  rw [Ordered, hnumbers]
  exact hs.written

/-- Closing a block drops its counter and advances the one around it. -/
theorem inOrder_close {s t : WalkState} (hs : InOrder s) {last counter : Nat} {outer : List Nat}
    (hs' : s.nesting.counters = last :: counter :: outer) (hnumbers : t.numbers = s.numbers)
    (hcounters : t.nesting.counters = (counter + 1) :: outer) : InOrder t := by
  rw [InOrder, hnumbers, hcounters]
  refine Numbered.move hs ?_ ?_
  · simpa [hs'] using ParagraphNumber.lt_advance outer.reverse counter [last]
  · have hpositive := hs.positive
    rw [hs'] at hpositive
    exact positive_advance [last] hpositive

theorem ordered_same {s t : WalkState} (hs : InOrder s) (hnumbers : t.numbers = s.numbers) :
    Ordered t := by
  rw [Ordered, hnumbers]
  exact hs.fromRoot

/-- An entry outside a choice uses up the number that it is written with. -/
theorem inOrder_listEntry {s : WalkState} (hs : InOrder s) {counter : Nat} {outer : List Nat}
    (hcounters : s.nesting.counters = counter :: outer) (entry : Entry) :
    InOrder (listEntry s entry ((counter + 1) :: outer)) := by
  rw [InOrder, numbers_listEntry]
  refine hs.write ?_ ?_
  · simpa [hcounters, listEntry, WalkState.writeBody] using
      ParagraphNumber.lt_advance outer.reverse counter []
  · have hpositive := hs.positive
    rw [hcounters] at hpositive
    exact positive_advance [] hpositive

/-- Every step keeps the numbers in order. An entry inside a choice has no number. -/
theorem steady_inOrder (ctx : WalkContext) : Steady ctx InOrder Ordered where
  stop _ hs := ordered_same hs rfl
  note _ _ hs := hs
  opened _ _ hs := hs
  unread _ _ hs := hs
  openMenu _ := by
    refine .openMenu (fun s hs => ?_) (fun s hs => ?_)
    · exact inOrder_open hs (numbers_announceMenu s _) rfl
    · exact ordered_written hs (numbers_announceMenu s _)
  closeMenu _ := by
    refine .closeMenu (fun s last counter outer hs hcounters => ?_) (fun s counters hs => ?_)
    · exact inOrder_close hs hcounters (numbers_closeToc s) rfl
    · exact ordered_same hs (numbers_closeToc s)
  openChoice _ := by
    refine .openChoice (fun s hs => ?_) (fun s hs => ?_)
    · exact inOrder_open hs (numbers_announceChoice s _) rfl
    · exact ordered_written hs (numbers_announceChoice s _)
  closeChoice _ := by
    refine .closeChoice (fun s last counter outer hs hcounters => ?_) (fun s counters hs => ?_)
    · exact inOrder_close hs hcounters rfl rfl
    · exact ordered_same hs rfl
  pushCondition _ := .pushCondition (fun _ hs => ordered_same hs rfl) (fun _ _ hs _ => hs)
  popCondition _ := .popCondition (fun _ hs => ordered_same hs rfl) (fun _ _ hs _ => hs)
  renderEntry entry := by
    refine .renderEntry (fun _ _ hs _ => hs) ?_ ?_ ?_
    · intro s hs _ hnil
      exact absurd hnil hs.nested
    · intro s counter outer hs _ hcounters
      exact ⟨ordered_written hs (numbers_listEntry s entry _),
        fun _ _ => inOrder_listEntry hs hcounters entry⟩
    · intro s hs _
      exact ⟨ordered_same hs rfl, fun _ _ => hs⟩

theorem inOrder_rooted (maxLevels maxConditions : Limit) (showInternal : Bool) (banner : Text) :
    InOrder (.rooted maxLevels maxConditions showInternal banner) where
  started := List.cons_ne_nil _ _
  fromRoot := ⟨by simp [WalkState.numbers, WalkState.rooted, TocItem.number?], .nil, by
    simp [WalkState.numbers, WalkState.rooted, TocItem.number?]⟩
  below := by simp [WalkState.numbers, WalkState.rooted, TocItem.number?]
  positive := by simp [WalkState.rooted, WalkState.numbered]
  nested := List.cons_ne_nil _ _

/-- The numbers in the table of contents after the `1` of the root ascend strictly in every run,
also in one that fails; so no two of them are written alike, and all their counters are at
least 1. -/
theorem run_numbers_ascend (ctx : WalkContext) (root : Option Text)
    (maxLevels maxConditions : Limit) (showInternal : Bool) :
    let s := stateAfter (run ctx root) (.fresh maxLevels maxConditions showInternal)
    (∀ first ∈ s.numbers.head?, first = [1]) ∧ s.numbers.tail.Pairwise (· < ·) ∧
      (s.numbers.tail.map ParagraphNumber.text).Nodup ∧
      ∀ number ∈ s.numbers.tail, ∀ counter ∈ number, 1 ≤ counter := by
  intro s
  have hs : Ordered s :=
    (steady_inOrder ctx).stateAfter_run FromRoot.empty FromRoot.empty (inOrder_rooted _ _ _)
      (fun t ht => ordered_same ht (numbers_closeToc t)) root
  exact ⟨hs.root, hs.ascending.sorted, hs.ascending.nodup_texts, hs.ascending.positive⟩

end Walk

end KconfigReference

import KconfigReference.Kconfig.Nesting
import KconfigReference.Proofs.Walk.Lines

/-!
Menus and choices, and how their lines nest in a file: every closing line closes the innermost open
block, which is of its own kind, and at the end no block is open.
-/

namespace KconfigReference

/-- Menus and choices: the blocks, which are numbered alike. -/
inductive BlockKind where
  | menu
  | choice
deriving Repr, DecidableEq

namespace BlockKind

def opening : BlockKind → Keyword
  | .menu => .menu
  | .choice => .choice

def closing : BlockKind → Keyword
  | .menu => .endMenu
  | .choice => .endChoice

/-- How a block of the kind is called where it has no title. -/
def word : BlockKind → Text
  | .menu => "Menu"
  | .choice => "Choice"

def anchor : BlockKind → Nat → Text
  | .menu => Anchor.menu
  | .choice => Anchor.choice

end BlockKind

namespace Line

/-- The open blocks after a line, innermost first; none where the line closes no open block or one
of the other kind. -/
def within (line : Line) (opened : List BlockKind) : Option (List BlockKind) :=
  match line.keyword?, opened with
  | some .menu, _ => some (.menu :: opened)
  | some .choice, _ => some (.choice :: opened)
  | some .endMenu, .menu :: outer => some outer
  | some .endMenu, _ => none
  | some .endChoice, .choice :: outer => some outer
  | some .endChoice, _ => none
  | _, _ => some opened

variable {line : Line} {opened next : List BlockKind}

theorem turn_of_opening {kind : BlockKind} (h : line.keyword? = some kind.opening) :
    line.turn = .inside := by
  cases kind <;> simp_all [turn, BlockKind.opening]

theorem turn_of_closing {kind : BlockKind} (h : line.keyword? = some kind.closing) :
    line.turn = .done := by
  cases kind <;> simp_all [turn, BlockKind.closing]

/-- Only a line that declares an entry takes lines after it. -/
theorem behind_of_turn_ne (h : line.turn ≠ .onward) (after : List Line) :
    line.behind after = after := by
  have hdeclares : ¬line.declares := fun ⟨hk, _⟩ => h (by simp [turn, hk])
  rw [behind, if_neg hdeclares]

theorem within_of_onward (h : line.turn = .onward) (opened : List BlockKind) :
    line.within opened = some opened := by
  cases hk : line.keyword? with
  | none => simp [within, hk]
  | some keyword => cases keyword <;> simp_all [turn, within]

/-- A line opens a block, or closes the innermost one, or leaves the open blocks as they are. -/
theorem within_cases (h : line.within opened = some next) :
    (∃ kind : BlockKind, line.keyword? = some kind.opening ∧ next = kind :: opened) ∨
      (∃ kind : BlockKind, line.keyword? = some kind.closing ∧ opened = kind :: next) ∨
      (line.turn = .onward ∧ next = opened) := by
  cases hturn : line.turn with
  | onward =>
      rw [within_of_onward hturn] at h
      exact .inr (.inr ⟨rfl, (Option.some.inj h).symm⟩)
  | inside =>
      cases hk : line.keyword? with
      | none => simp [turn, hk] at hturn
      | some keyword =>
          cases keyword <;> simp only [turn, hk, reduceCtorEq] at hturn
          case menu => exact .inl ⟨.menu, rfl, by simpa [within, hk] using h.symm⟩
          case choice => exact .inl ⟨.choice, rfl, by simpa [within, hk] using h.symm⟩
  | done =>
      cases hk : line.keyword? with
      | none => simp [turn, hk] at hturn
      | some keyword =>
          cases keyword <;> simp only [turn, hk, reduceCtorEq] at hturn
          case endMenu =>
            rcases opened with _ | ⟨_ | _, outer⟩ <;> simp only [within, hk, reduceCtorEq] at h
            exact .inr (.inl ⟨.menu, rfl, by rw [Option.some.inj h]⟩)
          case endChoice =>
            rcases opened with _ | ⟨_ | _, outer⟩ <;> simp only [within, hk, reduceCtorEq] at h
            exact .inr (.inl ⟨.choice, rfl, by rw [Option.some.inj h]⟩)

/-- The blocks of other files around a line make no difference. -/
theorem within_append (h : line.within opened = some next) (outer : List BlockKind) :
    line.within (opened ++ outer) = some (next ++ outer) := by
  rcases within_cases h with ⟨kind, hk, rfl⟩ | ⟨kind, hk, rfl⟩ | ⟨hturn, rfl⟩
  · cases kind <;> simp_all [within, BlockKind.opening]
  · cases kind <;> simp_all [within, BlockKind.closing]
  · exact within_of_onward hturn _

end Line

/-- The open blocks after some lines. -/
def blocksAfter (opened : List BlockKind) (lines : List Line) : Option (List BlockKind) :=
  lines.foldlM (fun opened line => line.within opened) opened

theorem blocksAfter_cons (opened : List BlockKind) (line : Line) (rest : List Line) :
    blocksAfter opened (line :: rest) = (line.within opened).bind (blocksAfter · rest) := rfl

/-- Attribute lines open and close nothing. -/
theorem blocksAfter_behind (opened : List BlockKind) (line : Line) (after : List Line) :
    blocksAfter opened (line.behind after) = blocksAfter opened after := by
  unfold Line.behind
  split
  · induction after with
    | nil => rfl
    | cons first rest ih =>
        by_cases hfirst : first.isAttribute = true
        · have honward := Line.turn_of_isAttribute hfirst
          rw [List.dropWhile_cons_of_pos hfirst, ih, blocksAfter_cons,
            Line.within_of_onward honward]
          rfl
        · rw [List.dropWhile_cons_of_neg hfirst]
  · rfl

/-- How many blocks of a kind are open after a line, if lines of other kinds do not count; none where
it closes one and none is open. -/
def Line.countOf (kind : BlockKind) (line : Line) (opened : Nat) : Option Nat :=
  if line.keyword? = some kind.opening then some (opened + 1)
  else if line.keyword? = some kind.closing then
    match opened with
    | 0 => none
    | outer + 1 => some outer
  else some opened

/-- How many blocks of a kind are open after some lines, if lines of other kinds do not count. -/
def openOfKind (kind : BlockKind) (opened : Nat) (lines : List Line) : Option Nat :=
  lines.foldlM (fun opened line => line.countOf kind opened) opened

/-- How many of some lines open a block of a kind. -/
def openings (kind : BlockKind) (lines : List Line) : Nat :=
  lines.countP fun line => line.keyword? = some kind.opening

def closings (kind : BlockKind) (lines : List Line) : Nat :=
  lines.countP fun line => line.keyword? = some kind.closing

section Kinds

variable {kind : BlockKind} {opened next : Nat} {line : Line} {lines : List Line}

theorem openOfKind_cons (kind : BlockKind) (opened : Nat) (line : Line) (rest : List Line) :
    openOfKind kind opened (line :: rest) =
      (line.countOf kind opened).bind (openOfKind kind · rest) := rfl

theorem openOfKind_append (kind : BlockKind) (opened : Nat) (lines more : List Line) :
    openOfKind kind opened (lines ++ more) =
      (openOfKind kind opened lines).bind (openOfKind kind · more) := by
  unfold openOfKind
  rw [List.foldlM_append]
  rfl

theorem openings_append (kind : BlockKind) (lines more : List Line) :
    openings kind (lines ++ more) = openings kind lines + openings kind more := List.countP_append

theorem closings_append (kind : BlockKind) (lines more : List Line) :
    closings kind (lines ++ more) = closings kind lines + closings kind more := List.countP_append

theorem BlockKind.opening_ne_closing (kind : BlockKind) : kind.opening ≠ kind.closing := by
  cases kind <;> decide

/-- One line of a kind is one block more or one less. -/
theorem Line.countOf_count (h : line.countOf kind opened = some next) :
    opened + openings kind [line] = next + closings kind [line] := by
  unfold countOf at h
  by_cases hopening : line.keyword? = some kind.opening
  · have hclosing : closings kind [line] = 0 := by
      simp [closings, hopening, kind.opening_ne_closing]
    have hone : openings kind [line] = 1 := by simp [openings, hopening]
    rw [if_pos hopening] at h
    rw [hone, hclosing, ← Option.some.inj h]
  · have hnone : openings kind [line] = 0 := by simp [openings, hopening]
    rw [if_neg hopening] at h
    by_cases hclosing : line.keyword? = some kind.closing
    · have hone : closings kind [line] = 1 := by simp [closings, hclosing]
      rw [if_pos hclosing] at h
      cases opened with
      | zero => cases h
      | succ outer => rw [hnone, hone, ← Option.some.inj h]
    · have hzero : closings kind [line] = 0 := by simp [closings, hclosing]
      rw [if_neg hclosing] at h
      rw [hnone, hzero, ← Option.some.inj h]

/-- The blocks of a kind that are open in the end, and those that were closed, are those that were
open before and those that were opened, by induction on the lines. -/
theorem openOfKind_count (h : openOfKind kind opened lines = some next) :
    opened + openings kind lines = next + closings kind lines := by
  induction lines generalizing opened with
  | nil =>
      cases h
      rfl
  | cons line rest ih =>
      rw [openOfKind_cons, Option.bind_eq_some_iff] at h
      obtain ⟨between, hline, hrest⟩ := h
      have hfirst := line.countOf_count hline
      have hmore := ih hrest
      have hopenings := openings_append kind [line] rest
      have hclosings := closings_append kind [line] rest
      rw [List.singleton_append] at hopenings hclosings
      omega

end Kinds

end KconfigReference

import KconfigReference.Failure
import KconfigReference.Setting.Basic

/-!
Nesting, numbering and conditions. Every open block has a counter, and the counters of the blocks
around a place are its paragraph number. Opening a block starts its counter at 1. Closing it leaves
the counter around it alone; that one is advanced separately, which uses up the number of the closed
block. The conditions in force are a stack of the texts of open `if` lines.

Both are of limited height. A limit is a setting that a count is compared with. Numbers of any type
serve; whatever has no order with a count fails when the comparison is made, not before.
-/

namespace KconfigReference

inductive Limit where
  | count (n : Int)
  | real (x : Binary64)
  | unordered
deriving Repr, DecidableEq

namespace Limit

def ofSetting : Setting → Limit
  | .bool b => .count (if b then 1 else 0)
  | .int n => .count n
  | .float x => .real x
  | _ => .unordered

/-- Whether a count is at or above the limit. -/
def reached (limit : Limit) (count : Nat) : Except Misuse Bool :=
  match limit with
  | .count n => .ok (decide (n ≤ count))
  | .real x => .ok (x.atMost count)
  | .unordered => .error .wrongType

@[simp] theorem reached_count (n : Int) (count : Nat) :
    (Limit.count n).reached count = .ok (decide (n ≤ count)) := rfl

end Limit

/-- The anchor of a menu, by its number among the menus. -/
def Anchor.menu (number : Nat) : Text := "menu_" ++ Text.ofNat number

/-- The anchor of a choice, by its number among the choices. -/
def Anchor.choice (number : Nat) : Text := "choice_" ++ Text.ofNat number

structure Nesting where
  maxLevels : Limit
  /-- The counters of the open blocks, innermost first. -/
  counters : List Nat
  /-- How many of the open blocks count as choices. -/
  inChoice : Nat
  /-- The number of the next menu anchor. -/
  menuNumber : Nat
  /-- The number of the next choice anchor. -/
  choiceNumber : Nat
deriving Repr, DecidableEq

namespace Nesting

def fresh (maxLevels : Limit) : Nesting := ⟨maxLevels, [], 0, 0, 0⟩

def level (n : Nesting) : Nat := n.counters.length

/-- The paragraph number as text: the counters from the outermost to the innermost. -/
def paragraph (n : Nesting) : Text := Text.join ['.'] (n.counters.reverse.map Text.ofNat)

def enter (n : Nesting) (place : Place) : Except Failure Nesting :=
  match n.maxLevels.reached n.level with
  | .error m => .error (.misused m)
  | .ok true => .error (.reported (.nestingTooDeep place))
  | .ok false => .ok { n with counters := 1 :: n.counters }

def leave (n : Nesting) (place : Place) : Except Failure Nesting :=
  match n.counters with
  | [] => .error (.reported (.nestingUnderflow place))
  | _ :: outer => .ok { n with counters := outer }

/-- Uses up the current paragraph number. -/
def advance (n : Nesting) (place : Place) : Except Failure Nesting :=
  match n.counters with
  | [] => .error (.reported (.nestingUnderflow place))
  | counter :: outer => .ok { n with counters := (counter + 1) :: outer }

def menuAnchor (n : Nesting) : Text := Anchor.menu n.menuNumber

def choiceAnchor (n : Nesting) : Text := Anchor.choice n.choiceNumber

/-- The nesting once its menu anchor has been used. -/
def pastMenuAnchor (n : Nesting) : Nesting := { n with menuNumber := n.menuNumber + 1 }

/-- The nesting once its choice anchor has been used. -/
def pastChoiceAnchor (n : Nesting) : Nesting := { n with choiceNumber := n.choiceNumber + 1 }

end Nesting

structure Conditions where
  capacity : Limit
  /-- The open conditions, innermost first. -/
  stack : List Text
deriving Repr, DecidableEq

namespace Conditions

def fresh (capacity : Limit) : Conditions := ⟨capacity, []⟩

def height (c : Conditions) : Nat := c.stack.length

/-- The open conditions, outermost first. -/
def inForce (c : Conditions) : List Text := c.stack.reverse

def push (c : Conditions) (condition : Text) (place : Place) : Except Failure Conditions :=
  match c.capacity.reached c.height with
  | .error m => .error (.misused m)
  | .ok true => .error (.reported (.tooManyConditions place))
  | .ok false => .ok { c with stack := condition :: c.stack }

/-- Takes the innermost condition off. -/
def pop (c : Conditions) (place : Place) : Except Failure (Text × Conditions) :=
  match c.stack with
  | [] => .error (.reported (.conditionUnderflow place))
  | condition :: outer => .ok (condition, { c with stack := outer })

end Conditions

end KconfigReference

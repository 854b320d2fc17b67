import KconfigReference.Proofs.Walk.Lines
import Mathlib.Data.List.TakeWhile

/-!
What an entry takes from the lines after it. Main statement: from any cursor an entry takes the
longest run of attribute lines and no other line, and of these lines the last type, the last prompt
that is not empty and the last default stand.
-/

namespace KconfigReference

namespace Keyword

/-- The keywords of attribute lines. -/
def attributes : List Keyword := [.bool, .int, .hex, .string, .default, .help]

/-- The type that a keyword stands for, if it is that of a type line. -/
def valueType? : Keyword → Option ValueType
  | .bool => some .boolean
  | .int => some .integer
  | .hex => some .hexadecimal
  | .string => some .string
  | _ => none

end Keyword

namespace Line

/-- The type that a type line gives. -/
def type? (line : Line) : Option ValueType := line.keyword?.bind Keyword.valueType?

/-- The prompt of a type line, unless it is missing or empty. -/
def prompt? (line : Line) : Option Text :=
  if line.type?.isSome then (Prompt.extract line.rest).filter (· ≠ []) else none

/-- What a default line says. -/
def default? (line : Line) : Option Text :=
  if line.keyword? = some .default then some line.rest else none

def isHelp (line : Line) : Bool := line.keyword? = some .help

theorem isAttribute_iff (line : Line) :
    line.isAttribute = true ↔ line.keyword? ∈ Keyword.attributes.map some := by
  cases hk : line.keyword? with
  | none => simp [isAttribute, attribute?, hk]
  | some keyword => cases keyword <;> simp [isAttribute, attribute?, hk, Keyword.attributes]

/-- An attribute line is a type line, a default line or a help line. -/
theorem attribute?_cases {line : Line} {found : Attribute} (h : line.attribute? = some found) :
    (∃ type, line.type? = some type ∧ line.default? = none ∧ line.isHelp = false ∧
        found = .type type (Prompt.extract line.rest)) ∨
      (line.type? = none ∧ line.default? = some line.rest ∧ line.isHelp = false ∧
        found = .default line.rest) ∨
      (line.type? = none ∧ line.default? = none ∧ line.isHelp = true ∧ found = .help) := by
  unfold type? default? isHelp
  cases hk : line.keyword? with
  | none => simp [attribute?, hk] at h
  | some keyword =>
      cases keyword <;> simp [attribute?, hk] at h <;> simp [Keyword.valueType?, ← h]

end Line

/-- The last value that a list gives, or else the one from before. -/
theorem getLast?_filterMap_cons {α β : Type} (f : α → Option β) (a : α) (rest : List α)
    (before : Option β) : ((a :: rest).filterMap f).getLast?.or before =
      (rest.filterMap f).getLast?.or ((f a).or before) := by
  cases hfirst : f a with
  | none => simp [hfirst]
  | some b =>
      rw [List.filterMap_cons_some hfirst, List.getLast?_cons]
      cases (rest.filterMap f).getLast? <;> rfl

namespace Entry

/-- What one attribute line changes. -/
theorem set_of_line {line : Line} {found : Attribute} (h : line.attribute? = some found)
    (entry : Entry) : entry.set found =
      { entry with
        type := line.type?.or entry.type
        description := line.prompt?.or entry.description
        default := line.default?.or entry.default
        hasHelp := line.isHelp || entry.hasHelp } := by
  rcases Line.attribute?_cases h with ⟨type, htype, hdefault, hhelp, rfl⟩ |
    ⟨htype, hdefault, hhelp, rfl⟩ | ⟨htype, hdefault, hhelp, rfl⟩
  · cases hprompt : Prompt.extract line.rest with
    | none => simp [set, Line.prompt?, htype, hdefault, hhelp, hprompt]
    | some prompt =>
        by_cases hempty : prompt = [] <;>
          simp [set, Line.prompt?, htype, hdefault, hhelp, hprompt, hempty, Option.filter]
  · simp [set, Line.prompt?, htype, hdefault, hhelp]
  · simp [set, Line.prompt?, htype, hdefault, hhelp]

/-- What a run of attribute lines changes, by induction on the lines. -/
theorem withLines_eq {lines : List Line} (h : ∀ line ∈ lines, line.isAttribute = true)
    (entry : Entry) : entry.withLines lines =
      { entry with
        type := (lines.filterMap Line.type?).getLast?.or entry.type
        description := (lines.filterMap Line.prompt?).getLast?.or entry.description
        default := (lines.filterMap Line.default?).getLast?.or entry.default
        hasHelp := lines.any Line.isHelp || entry.hasHelp } := by
  induction lines generalizing entry with
  | nil => simp
  | cons line rest ih =>
      obtain ⟨found, hfound⟩ := Option.isSome_iff_exists.1 (h line List.mem_cons_self)
      rw [withLines_cons hfound, ih fun other hother => h other (List.mem_cons_of_mem line hother),
        set_of_line hfound]
      simp only [getLast?_filterMap_cons, List.any_cons]
      cases line.isHelp <;> simp

end Entry

/-- The lines that a cursor yields when the next one is taken until there is none. -/
def Cursor.drain (cursor : Cursor) : List Line :=
  match _hnext : cursor.next with
  | (none, _) => []
  | (some line, rest) => line :: rest.drain
termination_by cursor.size
decreasing_by exact Cursor.size_lt_of_next _hnext

theorem Cursor.drain_eq (cursor : Cursor) : cursor.drain = cursor.lines := by
  fun_induction Cursor.drain cursor with
  | case1 cursor rest h =>
      have hhead := Cursor.next_fst cursor
      rw [h] at hhead
      exact (List.head?_eq_none_iff.1 hhead.symm).symm
  | case2 cursor line rest h ih => rw [Cursor.lines_of_next h, ih]

/-- The run `taken` is the longest one at the start of a list that satisfies a condition. -/
structure LongestRun {α : Type} (holds : α → Prop) (taken whole : List α) : Prop where
  starts : taken <+: whole
  all : ∀ a ∈ taken, holds a
  longest : ∀ other, other <+: whole → (∀ a ∈ other, holds a) → other <+: taken

theorem longestRun_takeWhile {α : Type} (p : α → Bool) (whole : List α) :
    LongestRun (p · = true) (whole.takeWhile p) whole where
  starts := List.takeWhile_prefix p
  all _ ha := List.mem_takeWhile_imp ha
  longest other hother hall := by
    obtain ⟨rest, rfl⟩ := hother
    exact ⟨rest.takeWhile p, (List.takeWhile_append_of_pos hall).symm⟩

/-- An entry takes the longest run of attribute lines from a cursor, has what they say, the last one
standing against earlier ones, and leaves the other lines as they are. -/
theorem Entry.collect_takes_attributes (cursor : Cursor) (name directory : Text)
    (conditions : List Text) : ∃ taken,
      LongestRun (fun line : Line => line.keyword? ∈ Keyword.attributes.map some) taken
        cursor.lines ∧
      ((Entry.bare name directory conditions).collect cursor).entry =
        { name := name
          directory := directory
          type := (taken.filterMap Line.type?).getLast?
          description := (taken.filterMap Line.prompt?).getLast?
          default := (taken.filterMap Line.default?).getLast?
          hasHelp := taken.any Line.isHelp
          conditions := conditions } ∧
      cursor.lines =
        taken ++ ((Entry.bare name directory conditions).collect cursor).cursor.drain := by
  obtain ⟨hentry, hleft, -⟩ := collect_eq (Entry.bare name directory conditions) cursor
  have hrun := longestRun_takeWhile Line.isAttribute cursor.lines
  refine ⟨_, by simpa only [Line.isAttribute_iff] using hrun, ?_, ?_⟩
  · rw [hentry, withLines_eq hrun.all]
    simp [Entry.bare]
  · rw [Cursor.drain_eq, hleft, List.takeWhile_append_dropWhile]

end KconfigReference

import KconfigReference.Kconfig.Source
import KconfigReference.Proofs.Text.Occurrence

/-!
The directory that a source argument leads to. Quotation marks at the ends, the slashes before the
file name and the file name itself do not matter. Main statement: what is left is put below the root
as it stands, or with the apps directory in place of the leftmost apps token.
-/

namespace KconfigReference

namespace Text

theorem dropTrailing_append {p : Char → Bool} {t : Text} (h : ∀ c ∈ t, p c = true) (before : Text) :
    dropTrailing p (before ++ t) = dropTrailing p before := by
  rw [dropTrailing, List.reverse_append, List.dropWhile_append_of_pos, dropTrailing]
  intro c hc
  exact h c (List.mem_reverse.1 hc)

theorem dropTrailing_append_of_getLast? {p : Char → Bool} {before t : Text} {c : Char}
    (hlast : before.getLast? = some c) (hc : p c = false) (h : ∀ d ∈ t, p d = true) :
    dropTrailing p (before ++ t) = before := by
  obtain ⟨init, rfl⟩ := List.getLast?_eq_some_iff.1 hlast
  rw [dropTrailing_append h]
  simp [dropTrailing, hc]

end Text

/-- The directory of a file is what stands before the slashes that come before its name. -/
theorem Path.directory_append {path file : Text} {slashes : Nat} (hne : path ≠ [])
    (hlast : path.getLast? ≠ some '/') (hfile : '/' ∉ file) (hslashes : 1 ≤ slashes) :
    Path.directory (path ++ List.replicate slashes '/' ++ file) = path := by
  obtain ⟨more, rfl⟩ := Nat.exists_eq_add_of_le' hslashes
  obtain ⟨c, hc⟩ := Option.isSome_iff_exists.1 (List.getLast?_isSome.2 hne)
  have hcslash : c ≠ '/' := fun h => hlast (by rw [hc, h])
  have hhead : Text.dropTrailing (· ≠ '/') (path ++ List.replicate (more + 1) '/' ++ file) =
      path ++ List.replicate (more + 1) '/' := by
    apply Text.dropTrailing_append_of_getLast? (c := '/')
    · simp [List.replicate_succ']
    · decide
    · intro d hd
      simp only [ne_eq, decide_eq_true_eq]
      rintro rfl
      exact hfile hd
  have hall : (path ++ List.replicate (more + 1) '/').all (· = '/') = false := by
    rw [List.all_eq_false]
    exact ⟨c, List.mem_append_left _ (List.mem_of_getLast? hc), by simpa using hcslash⟩
  rw [Path.directory, hhead, hall, if_neg Bool.false_ne_true]
  apply Text.dropTrailing_append_of_getLast? hc
  · simpa using hcslash
  · intro d hd
    simp [List.eq_of_mem_replicate hd]

namespace Layout

variable {layout : Layout} {token apps : CodeText} {part path argument : Text}

/-- A text with quotation marks at its ends, or at one of them, or at none. -/
def marked (opening closing : Bool) (t : Text) : Text :=
  (if opening then ['"'] else []) ++ t ++ (if closing then ['"'] else [])

theorem dequote_marked {t : Text} (hne : t ≠ []) (hquote : '"' ∉ t) (opening closing : Bool) :
    dequote (marked opening closing t) = some t := by
  have hlast : t.getLast? ≠ some '"' := fun h => hquote (List.mem_of_getLast? h)
  have hhead : t.head? ≠ some '"' := fun h => hquote (List.mem_of_head? h)
  have hopened : (if (marked opening closing t).getLast? = some '"' then
      (marked opening closing t).dropLast else marked opening closing t) =
        marked opening false t := by
    cases closing with
    | true => simp [marked]
    | false =>
        have hsame : (marked opening false t).getLast? = t.getLast? := by
          simp [marked, List.getLast?_append_of_ne_nil _ hne]
        rw [hsame, if_neg hlast]
  have hbare : (if (marked opening false t).head? = some '"' then
      (marked opening false t).drop 1 else marked opening false t) = t := by
    cases opening with
    | true => simp [marked]
    | false => simp [marked, hhead]
  rw [dequote, hopened, hbare, if_neg hne]

/-- The directory part of a path that is not quoted: where it has none it is the directory that says
nothing. -/
def directoryPart (path : Text) : Text :=
  if Path.directory path = [] then ['.'] else Path.directory path

theorem resolve_eq (hpath : dequote argument = some path) (htoken : layout.appsToken = .text token)
    (hne : token ≠ []) : layout.resolve argument =
      (layout.splice token (directoryPart path)).map fun sides =>
        some ⟨path, directoryPart path, sides.1, sides.2⟩ := by
  cases token with
  | nil => exact absurd rfl hne
  | cons point more =>
      rw [resolve, hpath]
      simp only [htoken]
      rw [← directoryPart]
      cases layout.splice (point :: more) (directoryPart path) <;> rfl

theorem splice_of_absent (h : ¬token <:+: part.map CodePoint.char) :
    layout.splice token part = .ok (layout.root ++ "/" ++ part, true) := by
  rw [splice, CodeText.splitAtFirst_of_absent h]
  rfl

theorem exists_splice_of_occurs (happs : layout.appsDirectory = .text apps)
    (h : token <:+: part.map CodePoint.char) : ∃ before after : Text,
      Leftmost token (part.map CodePoint.char) (before.map CodePoint.char)
        (after.map CodePoint.char) ∧
      layout.splice token part =
        .ok (layout.root ++ "/" ++ before ++ apps.inName ++ after, apps.nameBytes?.isSome) := by
  obtain ⟨before, after, hsplit, hleftmost⟩ := CodeText.splitAtFirst_of_occurs h
  refine ⟨before, after, hleftmost, ?_⟩
  rw [splice, hsplit, happs]
  rfl

/-- The directory that an argument leads to, without what is said of it on the way. -/
def directory? (layout : Layout) (argument : Text) : Except Misuse (Option Text) :=
  (layout.resolve argument).map fun found => found.map (·.directory)

/-- A text that can be the last name of a path: it has neither slashes nor quotation marks. -/
def IsFileName (t : Text) : Prop := '/' ∉ t ∧ '"' ∉ t

theorem directoryPart_append {file : Text} {slashes : Nat} (hne : path ≠ [])
    (hlast : path.getLast? ≠ some '/') (hfile : '/' ∉ file) (hslashes : 1 ≤ slashes) :
    directoryPart (path ++ List.replicate slashes '/' ++ file) = path := by
  rw [directoryPart, Path.directory_append hne hlast hfile hslashes, if_neg hne]

/-- What an argument with a directory part is resolved to, with the marks at its ends as they may
be. -/
theorem resolve_marked {file : Text} {slashes : Nat} (htoken : layout.appsToken = .text token)
    (hne : token ≠ []) (hpart : part ≠ []) (hquote : '"' ∉ part) (hlast : part.getLast? ≠ some '/')
    (hfile : IsFileName file) (hslashes : 1 ≤ slashes) (opening closing : Bool) :
    layout.resolve (marked opening closing (part ++ List.replicate slashes '/' ++ file)) =
      (layout.splice token part).map fun sides =>
        some ⟨part ++ List.replicate slashes '/' ++ file, part, sides.1, sides.2⟩ := by
  have hdequote : dequote (marked opening closing (part ++ List.replicate slashes '/' ++ file)) =
      some (part ++ List.replicate slashes '/' ++ file) := by
    apply dequote_marked
    · simp [hpart]
    · simp only [List.mem_append, not_or]
      exact ⟨⟨hquote, fun h => absurd (List.eq_of_mem_replicate h) (by decide)⟩, hfile.2⟩
  rw [resolve_eq hdequote htoken hne, directoryPart_append hpart hlast hfile.1 hslashes]

/-- An argument leads to a directory that depends on its directory part only: the part below the
root, with the apps directory in place of the leftmost occurrence of the apps token if there is
one. -/
theorem directory_by_part (happs : layout.appsDirectory = .text apps)
    (htoken : layout.appsToken = .text token) (hne : token ≠ []) (hpart : part ≠ [])
    (hquote : '"' ∉ part) (hlast : part.getLast? ≠ some '/') : ∃ directory : Text,
      (∀ file slashes opening closing, IsFileName file → 1 ≤ slashes →
        layout.directory? (marked opening closing (part ++ List.replicate slashes '/' ++ file)) =
          .ok (some directory)) ∧
      (¬token <:+: part.map CodePoint.char → directory = layout.root ++ "/" ++ part) ∧
      (token <:+: part.map CodePoint.char → ∃ before after : Text,
        Leftmost token (part.map CodePoint.char) (before.map CodePoint.char)
          (after.map CodePoint.char) ∧
        directory = layout.root ++ "/" ++ before ++ apps.inName ++ after) ∧
      ∀ name : Text, apps = name.map CodePoint.char → apps.inName = name := by
  have hplain : ∀ name : Text, apps = name.map CodePoint.char → apps.inName = name := by
    rintro name rfl
    exact CodeText.inName_char name
  have hdirectory : ∀ directory nameable, layout.splice token part = .ok (directory, nameable) →
      ∀ file slashes opening closing, IsFileName file → 1 ≤ slashes →
        layout.directory? (marked opening closing (part ++ List.replicate slashes '/' ++ file)) =
          .ok (some directory) := by
    intro directory nameable hsplice file slashes opening closing hfile hslashes
    rw [directory?, resolve_marked htoken hne hpart hquote hlast hfile hslashes, hsplice]
    rfl
  by_cases hoccurs : token <:+: part.map CodePoint.char
  · obtain ⟨before, after, hleftmost, hsplice⟩ := exists_splice_of_occurs happs hoccurs
    refine ⟨_, hdirectory _ _ hsplice, ?_, ?_, hplain⟩
    · intro hnone
      exact absurd hoccurs hnone
    · intro _
      exact ⟨before, after, hleftmost, rfl⟩
  · refine ⟨_, hdirectory _ _ (splice_of_absent hoccurs), ?_, ?_, hplain⟩
    · intro _
      rfl
    · intro hsome
      exact absurd hsome hoccurs

/-- A layout whose apps token overlaps with itself and stands in the apps directory. -/
def overlappingLayout : Layout where
  root := "."
  appsDirectory := .text (("../aa".toList : Text) : CodeText)
  appsToken := .text (("aa".toList : Text) : CodeText)
  fileName := .text (("Kconfig".toList : Text) : CodeText)

/-- Only the first of the three places of the token is replaced, for every file name. -/
theorem directory_by_part_sample :
    overlappingLayout.directory? (marked true true "x/aaa/aa//Kconfig") =
      .ok (some "./x/../aaa/aa".toList) ∧
    ∀ file slashes opening closing, IsFileName file → 1 ≤ slashes →
      overlappingLayout.directory?
          (marked opening closing ("x/aaa/aa".toList ++ List.replicate slashes '/' ++ file)) =
        .ok (some "./x/../aaa/aa".toList) := by
  have hone : overlappingLayout.directory? (marked true true "x/aaa/aa//Kconfig") =
      .ok (some "./x/../aaa/aa".toList) := by decide +kernel
  obtain ⟨directory, hall, -⟩ := directory_by_part
    (show overlappingLayout.appsDirectory = .text _ from rfl)
    (show overlappingLayout.appsToken = .text _ from rfl) (by decide)
    (show "x/aaa/aa".toList ≠ [] by decide) (by decide) (by decide)
  have hsame := hall "Kconfig" 2 true true ⟨by decide, by decide⟩ (by decide)
  have heq : directory = "./x/../aaa/aa".toList := by
    have hboth := hsame.symm.trans hone
    simpa using hboth
  rw [heq] at hall
  exact ⟨hone, hall⟩

end Layout

end KconfigReference

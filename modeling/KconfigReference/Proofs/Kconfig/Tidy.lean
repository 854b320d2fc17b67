import KconfigReference.Proofs.Kconfig.Blocks
import KconfigReference.Proofs.Page.Tidy

/-!
Tidy trees: where names are plain words, and neither default texts nor conditions nor source paths
hold quotation marks. Prompts and titles are whatever they are. Entries of tidy lines are tidy, and
source lines lead from directories without quotation marks to others without them.
-/

namespace KconfigReference

open Check (Guarded)

namespace Line

/-- What a line may hold, by its keyword. Letters, digits and underscores are all fit for a name. -/
def Tidy (line : Line) : Prop :=
  match line.keyword? with
  | some .config => (Text.firstWord line.rest).all Text.isPlain = true
  | some .default => '"' ∉ line.rest
  | some .ifWord => '"' ∉ line.rest
  | some .source => ∀ path ∈ Layout.dequote (Text.firstWord line.rest), '"' ∉ path
  | _ => True

instance (line : Line) : Decidable line.Tidy := by unfold Tidy; split <;> infer_instance

end Line

/-- What an attribute says does not disturb a page. -/
def Attribute.Tidy : Attribute → Prop
  | .type _ prompt => ∀ text, prompt = some text → Guarded ' ' text
  | .default value => '"' ∉ value
  | .help => True

namespace Line

variable {line : Line}

theorem Tidy.attribute (h : line.Tidy) {found : Attribute} (hfound : line.attribute? = some found) :
    found.Tidy := by
  have htyped : ∀ type, (Attribute.type type (Prompt.extract line.rest)).Tidy :=
    fun _ _ hprompt => Prompt.guarded_extract hprompt
  unfold attribute? at hfound
  cases hk : line.keyword? with
  | none => simp [hk] at hfound
  | some keyword =>
      cases keyword <;> simp only [hk, Option.some.injEq, reduceCtorEq] at hfound
      case default =>
        subst hfound
        simp only [Tidy, hk] at h
        exact h
      case help =>
        subst hfound
        trivial
      all_goals
        subst hfound
        exact htyped _

end Line

namespace Entry

theorem Tidy.set {entry : Entry} (h : entry.Tidy) {found : Attribute} (hfound : found.Tidy) :
    (entry.set found).Tidy := by
  cases found with
  | type type prompt =>
      refine ⟨h.name, fun text htext => ?_, h.default, h.conditions⟩
      simp only [Entry.set] at htext
      split at htext
      · exact h.description text htext
      · exact hfound text htext
  | default value =>
      refine ⟨h.name, h.description, fun text htext => ?_, h.conditions⟩
      obtain rfl : value = text := Option.some.inj htext
      exact hfound
  | help => exact ⟨h.name, h.description, h.default, h.conditions⟩

/-- Tidy attribute lines keep an entry tidy, by induction on the lines. -/
theorem Tidy.withLines {entry : Entry} (h : entry.Tidy) {lines : List Line}
    (hlines : ∀ line ∈ lines, line.Tidy) : (entry.withLines lines).Tidy := by
  unfold Entry.withLines
  induction lines generalizing entry with
  | nil => exact h
  | cons line rest ih =>
      have hline := hlines line List.mem_cons_self
      have hrest := fun other hother => hlines other (List.mem_cons_of_mem line hother)
      rw [List.filterMap_cons]
      cases hfound : line.attribute? with
      | none => exact ih h hrest
      | some found => exact ih (h.set (hline.attribute hfound)) hrest

end Entry

theorem Line.Tidy.entry {line : Line} (h : line.Tidy) (hdeclares : line.declares)
    {conditions : List Text} (hconditions : ∀ text ∈ conditions, '"' ∉ text) {after : List Line}
    (hafter : ∀ other ∈ after, other.Tidy) (directory : Text) :
    (line.entry directory conditions after).Tidy := by
  have hname : (Text.firstWord line.rest).IsName := by
    have hplain : (Text.firstWord line.rest).all Text.isPlain = true := by
      simpa only [Tidy, hdeclares.1] using h
    exact ⟨hdeclares.2, List.all_eq_true.1 hplain⟩
  have hbare : (Entry.bare (Text.firstWord line.rest) directory conditions).Tidy :=
    ⟨hname, fun _ hnone => by simp [Entry.bare] at hnone,
      fun _ hnone => by simp [Entry.bare] at hnone, hconditions⟩
  exact hbare.withLines fun other hother => hafter other (List.takeWhile_sublist _ |>.mem hother)

theorem Text.mem_of_mem_dropTrailing {p : Char → Bool} {t : Text} {c : Char}
    (h : c ∈ Text.dropTrailing p t) : c ∈ t := by
  have hmem := (List.dropWhile_sublist p).mem (List.mem_reverse.1 h)
  exact List.mem_reverse.1 hmem

/-- A directory has no characters that its path does not have. -/
theorem Path.mem_of_mem_directory {path : Text} {c : Char} (h : c ∈ Path.directory path) :
    c ∈ path := by
  simp only [Path.directory] at h
  split at h
  · exact Text.mem_of_mem_dropTrailing h
  · exact Text.mem_of_mem_dropTrailing (Text.mem_of_mem_dropTrailing h)

namespace Layout

/-- A layout without quotation marks. -/
structure Tidy (layout : Layout) : Prop where
  root : '"' ∉ layout.root
  apps : ∀ apps, layout.appsDirectory.shown = .ok apps → '"' ∉ apps.inName
  file : ∀ file, layout.fileName.shown = .ok file → '"' ∉ file.inName

variable {layout : Layout}

theorem Tidy.filePath (h : layout.Tidy) {directory path : Text} (hdirectory : '"' ∉ directory)
    (hpath : layout.filePath directory = .ok path) : '"' ∉ path := by
  obtain ⟨file, hfile, hjoined⟩ := bind_eq_ok_iff.1 hpath
  cases hjoined
  have hslash : '"' ∉ ("/" : Text) := by decide
  simp only [List.mem_append, not_or]
  exact ⟨⟨hdirectory, hslash⟩, h.file file hfile⟩

theorem Tidy.splice (h : layout.Tidy) {token : CodeText} {part directory : Text} {nameable : Bool}
    (hpart : '"' ∉ part) (hsplice : layout.splice token part = .ok (directory, nameable)) :
    '"' ∉ directory := by
  have hslash : '"' ∉ ("/" : Text) := by decide
  unfold Layout.splice at hsplice
  cases hsplit : token.plain?.bind (Text.splitAtFirst · part) with
  | none =>
      simp only [hsplit, pure, Except.pure, Except.ok.injEq, Prod.mk.injEq] at hsplice
      simp only [← hsplice.1, List.mem_append, not_or]
      exact ⟨⟨h.root, hslash⟩, hpart⟩
  | some sides =>
      obtain ⟨before, after⟩ := sides
      obtain ⟨plain, -, hsides⟩ := Option.bind_eq_some_iff.1 hsplit
      rw [Text.eq_append_of_splitAtFirst hsides, List.mem_append, List.mem_append, not_or,
        not_or] at hpart
      rw [hsplit] at hsplice
      obtain ⟨apps, happs, hjoined⟩ := bind_eq_ok_iff.1 hsplice
      cases hjoined
      simp only [List.mem_append, not_or]
      exact ⟨⟨⟨⟨h.root, hslash⟩, hpart.1.1⟩, h.apps apps happs⟩, hpart.2⟩

theorem Tidy.resolve (h : layout.Tidy) {argument : Text} {resolved : Resolved}
    (hargument : ∀ path ∈ dequote argument, '"' ∉ path)
    (hresolve : layout.resolve argument = .ok (some resolved)) : '"' ∉ resolved.directory := by
  unfold Layout.resolve at hresolve
  cases hpath : dequote argument with
  | none => simp [hpath] at hresolve
  | some path =>
      have hpart : '"' ∉ (if Path.directory path = [] then ['.'] else Path.directory path) := by
        split
        · decide
        · exact fun hmem => hargument path hpath (Path.mem_of_mem_directory hmem)
      simp only [hpath] at hresolve
      split at hresolve
      next => simp at hresolve
      next token _ htoken =>
        obtain ⟨spliced, hsplice, hresolved⟩ := bind_eq_ok_iff.1 hresolve
        cases hresolved
        exact h.splice hpart hsplice
      next => simp at hresolve

end Layout

namespace WalkContext

/-- A file in which blocks nest and lines are tidy, if it can be read. -/
def Orderly (ctx : WalkContext) (path : Text) : Prop :=
  ∀ text ∈ (ctx.readText path).toOption,
    ∀ lines ∈ (ctx.lineSize.lines path (Text.physicalLines text)).toOption,
      blocksAfter [] lines = some [] ∧ ∀ line ∈ lines, line.Tidy

instance (ctx : WalkContext) (path : Text) : Decidable (ctx.Orderly path) := by
  unfold Orderly; infer_instance

theorem Orderly.of_lines {ctx : WalkContext} {path text : Text} {lines : List Line}
    (h : ctx.Orderly path) (htext : ctx.readText path = .ok text)
    (hlines : ctx.lineSize.lines path (Text.physicalLines text) = .ok lines) :
    blocksAfter [] lines = some [] ∧ ∀ line ∈ lines, line.Tidy :=
  h text (by rw [htext]; rfl) lines (by rw [hlines]; rfl)

end WalkContext

end KconfigReference

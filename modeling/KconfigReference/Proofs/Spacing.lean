import KconfigReference.Proofs.Padding
import KconfigReference.Proofs.Page.Composition
import KconfigReference.Proofs.Settings

/-!
How Kconfig files are laid out. Which characters end the lines, which white space stands between the
words, and which blank lines and comments there are makes no difference, as long as no line is cut.
Main statement: from files with the same words in the same lines the same page is made, or making it
fails for the same reason.
-/

namespace KconfigReference

namespace Text

/-- Whether a line with these words says anything: it is not blank, and no comment. -/
def saysAnything : List Text → Bool
  | [] => false
  | word :: _ => word.head? ≠ some '#'

/-- The words of the lines of a text that say anything. -/
def wordLines (t : Text) : List (List Text) :=
  ((physicalLines (normalizeLineEndings t)).map words).filter saysAnything

/-- Which characters end the lines does not matter. -/
theorem wordLines_normalizeLineEndings (t : Text) :
    wordLines (normalizeLineEndings t) = wordLines t := by
  rw [wordLines, wordLines, normalizeLineEndings_of_not_mem (not_mem_normalizeLineEndings t)]

/-- Lines may be put in after any line: whole lines that say nothing add no words. -/
theorem EndsLine.wordLines_append {a : Text} (h : EndsLine a) (b : Text) :
    wordLines (a ++ b) = wordLines a ++ wordLines b := by
  rw [wordLines, h.normalizeLineEndings_append, h.normalize.physicalLines_append, List.map_append,
    List.filter_append]
  rfl

theorem saysAnything_eq {ws : List Text} (h : ∀ w ∈ ws, w ≠ []) :
    saysAnything ws = !(join [' '] ws = [] || (join [' '] ws).head? = some '#') := by
  cases ws with
  | nil => rfl
  | cons first more =>
      have hfirst : first ≠ [] := h first List.mem_cons_self
      have hhead := head?_join_words hfirst more
      have hne : join [' '] (first :: more) ≠ [] := by
        intro hnil
        rw [hnil] at hhead
        exact hfirst (List.head?_eq_none_iff.1 hhead.symm)
      simp [saysAnything, hne, hhead]

/-- A physical line gives the line of its words if they say anything. -/
theorem lineOfPhysical_eq (path : Text) (number : Nat) (physical : Text) :
    lineOfPhysical path number physical =
      if saysAnything (words physical) then some ⟨join [' '] (words physical), path, number⟩
      else none := by
  have hgives := saysAnything_eq fun w (hw : w ∈ words physical) => ne_nil_of_mem_words hw
  by_cases hnil : join [' '] (words physical) = []
  · simp [hgives, lineOfPhysical, squeeze, hnil]
  · by_cases hcomment : (join [' '] (words physical)).head? = some '#'
    · simp [hgives, lineOfPhysical, squeeze, hcomment]
    · simp [hgives, lineOfPhysical, squeeze, hnil, hcomment]

/-- The lines of a text that is not cut are its words in their lines. -/
theorem map_text_wholeLines (path : Text) (physicals : List Text) :
    (wholeLines path physicals).map Line.text =
      ((physicals.map words).filter saysAnything).map (join [' ']) := by
  have hfrom : ∀ start, ((physicals.zipIdx start).filterMap fun pair =>
      lineOfPhysical path pair.2 pair.1).map Line.text =
        ((physicals.map words).filter saysAnything).map (join [' ']) := by
    induction physicals with
    | nil => exact fun _ => rfl
    | cons physical rest ih =>
        intro start
        rw [List.zipIdx_cons, List.filterMap_cons, List.map_cons, List.filter_cons]
        simp only [lineOfPhysical_eq]
        cases saysAnything (words physical) <;> simp [← ih (start + 1), lineOfPhysical_eq]
  exact hfrom 1

theorem path_of_mem_wholeLines {path : Text} {physicals : List Text} {line : Line}
    (h : line ∈ wholeLines path physicals) : line.path = path := by
  obtain ⟨⟨physical, number⟩, -, hline⟩ := List.mem_filterMap.1 h
  simp only [lineOfPhysical_eq] at hline
  split at hline
  next =>
    cases hline
    rfl
  next => cases hline

end Text

/-- Lines with the same texts from the same file are the same lines under other numbers. -/
theorem Padded.of_texts {showInternal : Bool} {path : Text} {lines lines' : List Line}
    (hpath : ∀ line ∈ lines, line.path = path) (hpath' : ∀ line ∈ lines', line.path = path)
    (htexts : lines'.map Line.text = lines.map Line.text) : Padded showInternal lines lines' := by
  induction lines generalizing lines' with
  | nil =>
      obtain rfl : lines' = [] := by simpa using htexts
      exact .nil
  | cons line rest ih =>
      cases lines' with
      | nil => simp at htexts
      | cons line' rest' =>
          obtain ⟨htext, hrest⟩ : line'.text = line.text ∧
              rest'.map Line.text = rest.map Line.text := by simpa using htexts
          have hline : line' = line.renumber line'.number := by
            have hsame : line'.path = line.path := by
              rw [hpath' line' List.mem_cons_self, hpath line List.mem_cons_self]
            cases line
            cases line'
            simp_all [Line.renumber]
          rw [hline]
          exact .line line line'.number (ih
            (fun other hother => hpath other (List.mem_cons_of_mem _ hother))
            (fun other hother => hpath' other (List.mem_cons_of_mem _ hother)) hrest)

/-- Whether every line of a text has fewer characters than a line size, not counting what ends
it. -/
def FitsLines (size : Int) (t : Text) : Prop :=
  ∀ physical ∈ Text.physicalLines (Text.normalizeLineEndings t),
    ((physical.takeWhile (· ≠ '\n')).length : Int) ≤ size - 1

instance (size : Int) (t : Text) : Decidable (FitsLines size t) :=
  inferInstanceAs (Decidable (∀ physical ∈ Text.physicalLines (Text.normalizeLineEndings t), _))

/-- Such lines are not cut. -/
theorem FitsLines.readLines_eq {size : Int} {t : Text} (h : FitsLines size t) (path : Text) :
    readLines path (lineRoom size) (Text.physicalLines (Text.normalizeLineEndings t)) =
      wholeLines path (Text.physicalLines (Text.normalizeLineEndings t)) := by
  apply readLines_of_fits
  intro physical hphysical
  have hlength := h physical hphysical
  unfold Fits lineRoom
  omega

/-- Two contents with the same words in the same lines, each read under a line size that cuts none
of its lines. -/
structure SameWords (size size' : Int) (content content' : Bytes) : Prop where
  words : Text.wordLines (Utf8.decodeLenient content') = Text.wordLines (Utf8.decodeLenient content)
  fits : FitsLines size (Utf8.decodeLenient content)
  fits' : FitsLines size' (Utf8.decodeLenient content')

namespace Walk

/-- Files with the same words in the same lines have the same lines under other numbers. -/
theorem linesAlike_of_sameWords {ctx : WalkContext} {tree' : FileTree} {size size' : Int}
    (hsize : ctx.lineSize = .characters size)
    (htree : ctx.tree.Alike (SameWords size size') tree') (showInternal : Bool) (path : Text) :
    LinesAlike ctx (ctx.reread tree' (.characters size')) (Padded showInternal) path := by
  by_cases hnul : path.contains '\x00' = true
  · have hfault : ∀ ctx : WalkContext, ctx.readText path = .error (.misused .badValue) :=
      fun ctx => by rw [WalkContext.readText, if_pos hnul]
    exact .unread _ (hfault _) (hfault _)
  · rcases htree.read path with ⟨e, he, he'⟩ | ⟨content, content', hcontent, hcontent', hsame⟩
    · exact .unread _ (WalkContext.readText_of_read_error hnul he)
        (WalkContext.readText_of_read_error hnul he')
    · apply LinesAlike.cut _ _ _ _ (WalkContext.readText_of_read hnul hcontent)
        (WalkContext.readText_of_read hnul hcontent')
      · rw [hsize, LineSize.lines, hsame.fits.readLines_eq]
      · rw [WalkContext.reread, LineSize.lines, hsame.fits'.readLines_eq]
      · exact Padded.of_texts (fun _ h => Text.path_of_mem_wholeLines h)
          (fun _ h => Text.path_of_mem_wholeLines h)
          (by rw [Text.map_text_wholeLines, Text.map_text_wholeLines]; exact congrArg _ hsame.words)

/-- Runs on such files end alike, or fail for the same reason. -/
theorem run_of_sameWords {ctx : WalkContext} {tree' : FileTree} {size size' : Int}
    (hsize : ctx.lineSize = .characters size)
    (htree : ctx.tree.Alike (SameWords size size') tree') (root : Option Text)
    (maxLevels maxConditions : Limit) (showInternal : Bool) :
    let start : WalkState := .fresh maxLevels maxConditions showInternal
    SameOutcome (run ctx root start) (run (ctx.reread tree' (.characters size')) root start) := by
  intro start
  exact sameOutcome_of_meets (shadows_run htree (linesAlike_of_sameWords hsize htree showInternal)
    root maxLevels maxConditions)

end Walk

namespace Settings

/-- Two settings that give every name but the line size the same value. -/
def AgreeButLineSize (settings settings' : Settings) : Prop :=
  ∀ name : Text, name ≠ "line_size".toList → settings'.get name = settings.get name

variable {settings settings' : Settings}

theorem AgreeButLineSize.header (h : settings.AgreeButLineSize settings') (today : Date) :
    Frame.header settings' today = Frame.header settings today := by
  simp only [Frame.header, Frame.dateLine, h "title" (by decide), h "banner" (by decide),
    h "background" (by decide), h "include_date" (by decide), h "date_format" (by decide)]

theorem AgreeButLineSize.start (h : settings.AgreeButLineSize settings') :
    WalkState.ofSettings settings' = .ofSettings settings := by
  simp only [WalkState.ofSettings, h "max_levels" (by decide), h "max_dependencies" (by decide),
    h "show_internal" (by decide)]

theorem AgreeButLineSize.context (h : settings.AgreeButLineSize settings') (tree tree' : FileTree)
    (root : Text) :
    WalkContext.ofSettings settings' tree' root =
      (WalkContext.ofSettings settings tree root).reread tree'
        (.ofSetting (settings'.get "line_size")) := by
  simp only [WalkContext.ofSettings, WalkContext.reread, h "apps_dir" (by decide),
    h "apps_token" (by decide), h "kconfig_name" (by decide), h "banner" (by decide)]

end Settings

namespace Reference

/-- Two attempts make the same page, or fail for the same reason, at whatever lines. -/
inductive SameResult : Except Failure CodeText → Except Failure CodeText → Prop where
  | made (page : CodeText) : SameResult (.ok page) (.ok page)
  | failed {e e' : Failure} (hreason : e'.unnumbered = e.unnumbered) :
      SameResult (.error e) (.error e')

/-- The layout of Kconfig files makes no difference: which characters end their lines, which white
space stands between the words and around them, and which blank lines and comments there are. If the
files of two trees have the same words in the same lines, and no line is longer than the line size
under which it is read, then under settings that agree otherwise the same page is made from both, or
making it fails for the same reason. -/
theorem generate_ignores_spacing {settings settings' : Settings} {tree tree' : FileTree}
    {size size' : Int} (hsize : LineSize.ofSetting (settings.get "line_size") = .characters size)
    (hsize' : LineSize.ofSetting (settings'.get "line_size") = .characters size')
    (hsettings : settings.AgreeButLineSize settings')
    (htree : tree.Alike (SameWords size size') tree') (root : Text) (today : Date)
    (refusal : Option Text) :
    SameResult (generate settings tree root today refusal).result
      (generate settings' tree' root today refusal).result := by
  cases refusal with
  | some reason => exact .failed rfl
  | none =>
      have hruns : Walk.SameOutcome
          (Walk.run (.ofSettings settings tree root) (some root) (.ofSettings settings))
          (Walk.run ((WalkContext.ofSettings settings tree root).reread tree' (.characters size'))
            (some root) (.ofSettings settings)) :=
        Walk.run_of_sameWords hsize htree (some root) _ _ _
      rw [result_generate, result_generate, hsettings.header today, hsettings.start,
        hsettings.context tree tree' root, hsize']
      generalize Walk.run (.ofSettings settings tree root) _ _ = outcome at hruns ⊢
      generalize Walk.run (WalkContext.reread _ _ _) _ _ = outcome' at hruns ⊢
      cases hruns with
      | failed hreason _ => exact .failed hreason
      | ended h =>
          cases Frame.header settings today with
          | error m => exact .failed rfl
          | ok header =>
              simp only [h.tocText, h.bodyText]
              exact .made _

/-- A menu with an entry, with a comment and a source line. -/
def plainText : Text := "menu \"M\"\n# an entry\nconfig X\n\tbool \"x  y\"\nendmenu\n"

/-- The same with other line endings and other white space, and another comment. -/
def spacedText : Text :=
  "  menu\t\"M\"\x0d\n\x0d\nconfig  X \x0dbool\t\"x y\"\n# the end\x0d\x0dendmenu"

def plainTree : FileTree := ⟨.directory [("Kconfig", .file (Utf8.encode plainText))], []⟩

def spacedTree : FileTree := ⟨.directory [("Kconfig", .file (Utf8.encode spacedText))], []⟩

/-- The settings with the line size that the longest line of the second text needs. -/
def narrowSettings : Settings := Settings.builtIn.update [(.text "line_size", .int 11)]

theorem sameWords_plainTree : plainTree.Alike (SameWords 1024 11) spacedTree := by
  refine ⟨rfl, rfl, ⟨?_, ?_, ?_⟩, trivial⟩
  · decide +kernel
  · decide +kernel
  · decide +kernel

theorem agreeButLineSize_narrowSettings : Settings.builtIn.AgreeButLineSize narrowSettings :=
  fun _ h => Settings.get_update_of_ne _ h _

/-- The same page is made from both texts, also where the second is read under the least line size
that does not cut it. -/
theorem generate_ignores_spacing_sample : ∃ page,
    (generate .builtIn plainTree "." ⟨2013, 4, 5⟩ none).result = .ok page ∧
      (generate narrowSettings spacedTree "." ⟨2013, 4, 5⟩ none).result = .ok page := by
  have hsize : LineSize.ofSetting (narrowSettings.get "line_size") = .characters 11 := by
    rw [narrowSettings, Settings.get_update_self]
    rfl
  have hsame := @generate_ignores_spacing .builtIn narrowSettings plainTree spacedTree 1024 11 rfl
    hsize agreeButLineSize_narrowSettings sameWords_plainTree "." ⟨2013, 4, 5⟩ none
  have hmade :
      (generate .builtIn plainTree "." ⟨2013, 4, 5⟩ none).result.toOption.isSome = true := by
    decide +kernel
  obtain ⟨page, hpage⟩ := Option.isSome_iff_exists.1 hmade
  rw [eq_ok_of_toOption hpage] at hsame ⊢
  generalize (generate narrowSettings spacedTree "." ⟨2013, 4, 5⟩ none).result = outcome at hsame ⊢
  cases hsame with
  | made page => exact ⟨page, rfl, rfl⟩

end Reference

end KconfigReference

import KconfigReference.Proofs.Check.Verdict
import KconfigReference.Proofs.Page.Passing
import KconfigReference.Proofs.Walk.Tidy

/-!
References pass the checks of pages. Under the built-in texts, a reference of orderly files has an
anchor for each link and closes all lists that it opens, whatever prompts and titles say.
-/

namespace KconfigReference

namespace Settings.HasBuiltInTexts

variable {settings : Settings}

theorem layout_tidy (h : settings.HasBuiltInTexts) (tree : FileTree) {root : Text}
    (hroot : '"' ∉ root) : (WalkContext.ofSettings settings tree root).layout.Tidy where
  root := hroot
  apps apps happs := by
    have hdirectory : settings.get "apps_dir" = .text ("../apps".toList : CodeText) :=
      h _ (by decide)
    simp only [WalkContext.ofSettings, hdirectory, Setting.shown, Except.ok.injEq] at happs
    rw [← happs]
    decide +kernel
  file file hfile := by
    have hname : settings.get "kconfig_name" = .text ("Kconfig".toList : CodeText) :=
      h _ (by decide)
    simp only [WalkContext.ofSettings, hname, Setting.shown, Except.ok.injEq] at hfile
    rw [← hfile]
    decide +kernel

theorem quiet_banner (h : settings.HasBuiltInTexts) (tree : FileTree) (root : Text) {banner : Text}
    (hbanner : (WalkContext.ofSettings settings tree root).bannerText = .ok banner) :
    Quiet banner := by
  have hsetting : settings.get "banner" =
      .text ("NuttX Configuration Variables".toList : CodeText) := h _ (by decide)
  have hplain : (WalkContext.ofSettings settings tree root).bannerText =
      .ok "NuttX Configuration Variables".toList := by
    simp only [WalkContext.bannerText, WalkContext.ofSettings, hsetting, Setting.shown]
    rfl
  rw [hplain, Except.ok.injEq] at hbanner
  rw [← hbanner]
  exact .of_isQuiet (by decide)

end Settings.HasBuiltInTexts

namespace Reference

/-- The files that are read for a reference. -/
def filesRead (settings : Settings) (tree : FileTree) (root : Text) : List Text :=
  (Walk.stateAfter (Walk.run (.ofSettings settings tree root) (some root))
    (.ofSettings settings)).opened.toList

/-- A reference that is made is the page of what its run wrote. -/
theorem page_of_generate {settings : Settings} {tree : FileTree} {root : Text} {today : Date}
    {refusal : Option Text} {page : CodeText} (htexts : settings.HasBuiltInTexts)
    (h : (generate settings tree root today refusal).result = .ok page) :
    ∃ s, Walk.run (.ofSettings settings tree root) (some root) (.ofSettings settings) = .ok () s ∧
      page = (Frame.headerText settings today ++ (s.toc.toList.flatMap TocItem.text ++
        Text.normalizeLineEndings (s.body.toList.flatMap BodyItem.text) ++
          Frame.trailer)).map CodePoint.char := by
  obtain ⟨-, s, header, hrun, hheader, rfl⟩ := generate_ok_iff.1 h
  obtain rfl := Except.ok.inj ((Frame.header_eq htexts today).symm.trans hheader)
  refine ⟨s, hrun, ?_⟩
  rw [← List.map_append]
  rfl

/-- Under the built-in texts, every link of a reference leads to an anchor in it and all lists are
balanced, so that the reference passes, if in every file that is read blocks are closed by closing
lines of their own kind, names are words, and neither default texts, conditions, source paths nor
the root hold quotation marks. -/
theorem generate_passes {settings : Settings} {tree : FileTree} {root : Text} {today : Date}
    {refusal : Option Text} {page : CodeText} (htexts : settings.HasBuiltInTexts)
    (hroot : '"' ∉ root)
    (hfiles : ∀ path ∈ filesRead settings tree root,
      (WalkContext.ofSettings settings tree root).Orderly path)
    (hgenerated : (generate settings tree root today refusal).result = .ok page) :
    ∃ text, page.plain? = some text ∧
      let lines := Text.physicalLines (Text.normalizeLineEndings text)
      (∀ line ∈ lines, ∀ target ∈ Check.linkTargets line,
          ∃ other ∈ lines, target ∈ Check.anchorNames other) ∧
        Check.depthAfter 0 (lines.flatMap Check.listTags) = some 0 ∧
        Check.passes (Check.issues lines) = true := by
  obtain ⟨s, hrun, rfl⟩ := page_of_generate htexts hgenerated
  have hopened : Walk.OpenedOrderly (.ofSettings settings tree root) s := by
    intro path hpath
    refine hfiles path ?_
    rw [filesRead, Walk.stateAfter, hrun]
    exact hpath
  have hstart : '"' ∉ Walk.startDirectory (.ofSettings settings tree root) (some root) := by
    unfold Walk.startDirectory
    split
    · exact hroot
    · exact hroot
  obtain ⟨htoc, hbody, hbalance⟩ := Walk.tidy_run (htexts.layout_tidy tree hroot)
    (fun _ hbanner => htexts.quiet_banner tree root hbanner) hstart hrun hopened
  have hagreed := Walk.agreed_run (.ofSettings settings tree root) (some root)
    (.ofSetting (settings.get "max_levels")) (.ofSetting (settings.get "max_dependencies"))
    (settings.get "show_internal").isTrue
  obtain ⟨menus, choices, opened, hagree⟩ := hagreed
  have hstate : Walk.stateAfter (Walk.run (.ofSettings settings tree root) (some root))
      (.ofSettings settings) = s := by rw [Walk.stateAfter, hrun]
  have hlinks : s.toc.toList.filterMap TocItem.link? =
      (s.body.toList.filterMap BodyItem.heading?).map Heading.link := by
    rw [← hstate]
    exact hagree.links
  have hpasses := pageText_passes settings today htoc hbody hlinks hbalance
  refine ⟨_, CodeText.plain?_char _, ?_⟩
  rw [normalize_pageText]
  exact ⟨hpasses.1, hpasses.2, (Check.passes_issues_iff _).2 hpasses⟩

/-- Lines with titles and prompts that look like markup. -/
def sampleLines : List Text :=
  ["menu \"a \\\"b\\\" href=\\\"#x\\\" <ul>\"", "if A && B", "config X", "\tbool \"</ul> \\\"\"",
    "\tdefault y", "endif", "endmenu", "source \"d/Kconfig\""].map String.toList

def sampleTree : FileTree where
  root := .directory
    [("Kconfig", .file (Utf8.encode (Frame.written sampleLines))),
      ("d", .directory
        [("Kconfig", .file (Utf8.encode "choice\nconfig Y\nbool \"y\"\nendchoice\n"))])]
  home := []

theorem generate_passes_sample :
    Settings.builtIn.HasBuiltInTexts ∧ '"' ∉ ['.'] ∧
      filesRead .builtIn sampleTree ['.'] = ["./Kconfig".toList, "./d/Kconfig".toList] ∧
      ∃ page text, (generate .builtIn sampleTree ['.'] ⟨2013, 4, 5⟩ none).result = .ok page ∧
        page.plain? = some text ∧
        Check.passes (Check.issues (Text.physicalLines (Text.normalizeLineEndings text))) =
          true := by
  have htexts : Settings.builtIn.HasBuiltInTexts := fun _ _ => rfl
  have hroot : '"' ∉ ['.'] := by decide
  have hread : filesRead .builtIn sampleTree ['.'] =
      ["./Kconfig".toList, "./d/Kconfig".toList] := by decide +kernel
  have horderly : ∀ path ∈ filesRead .builtIn sampleTree ['.'],
      (WalkContext.ofSettings .builtIn sampleTree ['.']).Orderly path := by decide +kernel
  have hmade : ∃ page, (generate .builtIn sampleTree ['.'] ⟨2013, 4, 5⟩ none).result = .ok page := by
    have hok : (generate .builtIn sampleTree ['.'] ⟨2013, 4, 5⟩ none).result.toBool = true := by
      decide +kernel
    cases hresult : (generate .builtIn sampleTree ['.'] ⟨2013, 4, 5⟩ none).result with
    | ok page => exact ⟨page, rfl⟩
    | error e => simp [hresult, Except.toBool] at hok
  obtain ⟨page, hpage⟩ := hmade
  obtain ⟨text, htext, -, -, hpasses⟩ := generate_passes htexts hroot horderly hpage
  exact ⟨htexts, hroot, hread, page, text, hpage, htext, hpasses⟩

end Reference

end KconfigReference

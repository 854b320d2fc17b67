import KconfigReference.Proofs.Page.Composition

/-!
Pages that pass. A page of tidy items passes the checks if its links and its numbered headings are
the same sequence and its items close all lists that they open: links come from the table of
contents only, and every heading begins a line in which its anchor is found.
-/

namespace KconfigReference

/-- Where a heading begins its line, and what stands there before the name of its anchor. -/
theorem HeadingKind.tags_eq (kind : HeadingKind) :
    ∃ start opening : Text, kind.tags.1 = start ++ (opening ++ "name=\"") ∧
      Text.EndsLine start ∧ 'n' ∉ opening ∧ '\n' ∉ opening ∧ '\r' ∉ opening := by
  cases kind with
  | menu => exact ⟨"\n", "<h1><a ", rfl, .inr rfl, by decide, by decide, by decide⟩
  | choice => exact ⟨"\n", "<h3><a ", rfl, .inr rfl, by decide, by decide, by decide⟩
  | entry => exact ⟨[], "<h3><a ", rfl, .inl rfl, by decide, by decide, by decide⟩

/-- The text of a page whose body has whatever line endings. -/
def pageText (settings : Settings) (today : Date) (toc : List TocItem) (body : List BodyItem) :
    Text :=
  Frame.headerText settings today ++
    (toc.flatMap TocItem.text ++ (body.flatMap BodyItem.text ++ Frame.trailer))

section

variable (settings : Settings) (today : Date) {toc : List TocItem} {body : List BodyItem}

/-- Making the line endings of the body line feeds first makes no difference. -/
theorem normalize_pageText (toc : List TocItem) (body : List BodyItem) :
    Text.normalizeLineEndings (Frame.headerText settings today ++ (toc.flatMap TocItem.text ++
        Text.normalizeLineEndings (body.flatMap BodyItem.text) ++ Frame.trailer)) =
      Text.normalizeLineEndings (pageText settings today toc body) := by
  have hheader := Frame.endsLine_headerText settings today
  have htoc := TocItem.endsLine_items toc
  have hbody := BodyItem.endsLine_items body
  have htwice : ∀ t, Text.normalizeLineEndings (Text.normalizeLineEndings t) =
      Text.normalizeLineEndings t := fun t =>
    Text.normalizeLineEndings_of_not_mem (Text.not_mem_normalizeLineEndings t)
  unfold pageText
  rw [List.append_assoc, hheader.normalizeLineEndings_append, htoc.normalizeLineEndings_append,
    hbody.normalize.normalizeLineEndings_append, htwice, hheader.normalizeLineEndings_append,
    htoc.normalizeLineEndings_append, hbody.normalizeLineEndings_append]

theorem listTags_pageText (htoc : ∀ item ∈ toc, item.Tidy) (hbody : ∀ item ∈ body, item.Tidy) :
    Check.listTags (pageText settings today toc body) =
      .opening :: (toc.flatMap TocItem.tags ++ body.flatMap BodyItem.tags) := by
  have htrailer := Frame.quiet_trailer.tags []
  rw [List.append_nil, Check.listTags] at htrailer
  have htocBare : ∀ item ∈ toc, item.Bare := fun item hitem => (htoc item hitem).bare
  have hbodyBare : ∀ item ∈ body, item.Bare := fun item hitem => (hbody item hitem).bare
  rw [pageText, Frame.listTags_headerText, TocItem.listTags_items htocBare,
    BodyItem.listTags_items hbodyBare, htrailer, List.append_nil]

theorem links_pageText (htoc : ∀ item ∈ toc, item.Tidy) (hbody : ∀ item ∈ body, item.Tidy) :
    Check.links [] (pageText settings today toc body) =
      (toc.filterMap TocItem.link?).map Link.target := by
  have htrailer : ∀ before, Check.links before Frame.trailer = [] := by
    intro before
    have hquiet := Frame.quiet_trailer.links before []
    rwa [List.append_nil, Check.links] at hquiet
  rw [pageText, Frame.links_headerText, TocItem.links_items htoc, BodyItem.links_items hbody,
    htrailer, List.append_nil]

/-- The anchor of a heading is found in the page. -/
theorem mem_anchorNames_pageText {item : BodyItem} (hitem : item ∈ body) {heading : Heading}
    (hheading : item.heading? = some heading) (hname : heading.link.target.IsName) :
    ∃ line ∈ Text.physicalLines (Text.normalizeLineEndings (pageText settings today toc body)),
      heading.link.target ∈ Check.anchorNames line := by
  obtain ⟨start, opening, htags, hstart, hn, hfeed, hreturn⟩ := heading.kind.tags_eq
  obtain ⟨earlier, later, rfl⟩ := List.append_of_mem hitem
  let target := heading.link.target
  let first : Text := opening ++ ("name=\"" ++ (target ++ ['"']))
  let before : Text := Frame.headerText settings today ++ (toc.flatMap TocItem.text ++
    (earlier.flatMap BodyItem.text ++ start))
  have htext : ∃ rest, item.text = start ++ (first ++ rest) := by
    refine ⟨'>' :: (Markup.label heading.link.number.text heading.link.title ++
      heading.kind.tags.2), ?_⟩
    have hend : ("\">" : Text) = ['"', '>'] := by decide
    rw [BodyItem.text_of_heading hheading, Heading.lines, htags, hend]
    simp [first, target]
  obtain ⟨rest, hrest⟩ := htext
  have hpage : pageText settings today toc (earlier ++ item :: later) =
      before ++ (first ++ (rest ++ (later.flatMap BodyItem.text ++ Frame.trailer))) := by
    simp [pageText, before, hrest]
  have hbefore : Text.EndsLine before :=
    (Frame.endsLine_headerText settings today).append ((TocItem.endsLine_items toc).append
      ((BodyItem.endsLine_items earlier).append hstart))
  have hfirst : '\n' ∉ first ∧ '\r' ∉ first := by
    have hblank : ∀ c, Text.isBlank c = true → c ∉ target := fun c hc => hname.blank_not_mem hc
    have hliteral : '\n' ∉ "name=\"".toList ∧ '\r' ∉ "name=\"".toList := by decide
    constructor
    · simp only [first, List.mem_append, not_or]
      exact ⟨hfeed, hliteral.1, hblank _ (by decide), by decide⟩
    · simp only [first, List.mem_append, not_or]
      exact ⟨hreturn, hliteral.2, hblank _ (by decide), by decide⟩
  have hlast : first.getLast? ≠ some '\r' := fun hlast =>
    hfirst.2 (List.mem_of_getLast? hlast)
  rw [hpage, hbefore.normalizeLineEndings_append, Text.normalizeLineEndings_append hlast,
    Text.normalizeLineEndings_of_not_mem hfirst.2]
  obtain ⟨line, hline, more, hmore⟩ := hbefore.normalize.exists_line (by simp [first]) hfirst.1
    (Text.normalizeLineEndings (rest ++ (later.flatMap BodyItem.text ++ Frame.trailer)))
  refine ⟨line, hline, ?_⟩
  have hvalue : target ∈ Check.values ('n' :: "ame=\"".toList)
      (opening ++ (('n' :: "ame=\"".toList) ++ (target ++ '"' :: more))) :=
    Check.mem_values_of_first hn hname.ne_nil hname.quote_not_mem
  have hsplit : line = opening ++ ("name=\"" ++ (target ++ '"' :: more)) := by
    simp only [← hmore, first, List.append_assoc, List.singleton_append]
  rw [hsplit]
  exact hvalue

/-- What is found as a link in a line is a link of the page. -/
theorem mem_links_of_mem_linkTargets {t line target : Text}
    (hline : line ∈ Text.physicalLines (Text.normalizeLineEndings t))
    (h : target ∈ Check.linkTargets line) : target ∈ Check.links [] t := by
  obtain ⟨hquote, hwithin⟩ := Check.infix_of_mem_values h
  have hfeed : '\n' ∉ ("href=\"#" : Text) ++ (target ++ ['"']) := by
    rw [← List.append_assoc] at hwithin ⊢
    exact Text.not_mem_of_infix_line hline (by decide) hwithin
  have hwhole := hwithin.trans (Text.infix_of_mem_physicalLines hline)
  have hreturn : '\r' ∉ ("href=\"#" : Text) ++ (target ++ ['"']) := fun hmem =>
    Text.not_mem_normalizeLineEndings t (hwhole.mem hmem)
  exact Check.mem_links_of_infix hquote
    (Text.infix_of_infix_normalizeLineEndings hreturn hfeed hwhole)

/-- A page whose links lead to its headings, and that closes its lists, passes. -/
theorem pageText_passes (htoc : ∀ item ∈ toc, item.Tidy) (hbody : ∀ item ∈ body, item.Tidy)
    (hlinks : toc.filterMap TocItem.link? =
      (body.filterMap BodyItem.heading?).map Heading.link)
    (hbalance : Check.depthAfter 1 (toc.flatMap TocItem.tags ++ body.flatMap BodyItem.tags) =
      some 0) :
    let lines := Text.physicalLines (Text.normalizeLineEndings (pageText settings today toc body))
    (∀ line ∈ lines, ∀ target ∈ Check.linkTargets line,
        ∃ other ∈ lines, target ∈ Check.anchorNames other) ∧
      Check.depthAfter 0 (lines.flatMap Check.listTags) = some 0 := by
  intro lines
  constructor
  · intro line hline target htarget
    have hlink := mem_links_of_mem_linkTargets hline htarget
    rw [links_pageText settings today htoc hbody, hlinks] at hlink
    obtain ⟨link, hmem, rfl⟩ := List.mem_map.1 hlink
    obtain ⟨heading, hheading, rfl⟩ := List.mem_map.1 hmem
    obtain ⟨item, hitem, hsome⟩ := List.mem_filterMap.1 hheading
    exact mem_anchorNames_pageText settings today hitem hsome
      ((hbody item hitem).isName_of_heading hsome)
  · rw [Check.listTags_physicalLines, Check.listTags_normalizeLineEndings,
      listTags_pageText settings today htoc hbody]
    exact hbalance

end

end KconfigReference

import KconfigReference.Proofs.Page.Composition
import KconfigReference.Proofs.Settings
import KconfigReference.Proofs.Walk.Masking

/-!
What can put a tag into a page. Titles, prompts, defaults, conditions and paths cannot, because they
are escaped. The banner over the tree, the background and the names of entries are written as they
are. Main statement: a page keeps its brackets when the markup in all these texts is replaced
exactly if none of those three has a bracket.
-/

namespace KconfigReference

open Text (brackets)

namespace Settings

/-- The settings whose text is shown in the page. -/
def shownNames : List Text := ["title", "banner", "background"].map String.toList

/-- The same settings after every character of markup in the title, the banner and the background,
which are texts, is replaced. -/
structure Masked (settings settings' : Settings) : Prop where
  texts : ∀ name ∈ shownNames, ∃ t t', settings.get name = .text t ∧ settings'.get name = .text t' ∧
    CodeText.Masked t t'
  others : ∀ name ∉ shownNames, settings'.get name = settings.get name

/-- The text of a setting. -/
def text (settings : Settings) (name : Text) : CodeText :=
  match settings.get name with
  | .text t => t
  | _ => []

theorem text_eq {settings : Settings} {name : Text} {t : CodeText}
    (h : settings.get name = .text t) : settings.text name = t := by
  rw [text, h]

end Settings

namespace Frame

/-- The lines of the header above the tag with the background. -/
def linesAbove (title : CodeText) : List CodeText :=
  ["<html>", "<head>", "<title>" ++ title ++ "</title>", "</head>"]

def bodyTag (background : CodeText) : CodeText := "<body background=\"" ++ background ++ "\">"

/-- The lines below it, down to the date. -/
def linesBelow (banner : CodeText) : List CodeText :=
  ["<hr><hr>",
    "<table width =\"100%\">",
    "<tr align=\"center\" bgcolor=\"#e4e4e4\">",
    "<td>",
    "<h1><big><font color=\"#3c34ec\"><i>" ++ banner ++ "</i></font></big></h1>"]

/-- The lines after the date. -/
def linesAfter : List CodeText :=
  ["</td>", "</tr>", "</table>", "<center><h1>Table of contents</h1></center>", "<ul>"]

/-- The header of three texts. -/
def ofTexts (title banner background : CodeText) (dateLine : List CodeText) : CodeText :=
  (linesAbove title.escapeMarkup).flatMap (· ++ [.char '\n']) ++
    (bodyTag background ++ [.char '\n']) ++
    (linesBelow banner.escapeMarkup ++ dateLine ++ linesAfter).flatMap (· ++ [.char '\n'])

theorem header_of_texts {settings : Settings} {title banner background : CodeText}
    (htitle : settings.get "title" = .text title) (hbanner : settings.get "banner" = .text banner)
    (hbackground : settings.get "background" = .text background) (today : Date) :
    header settings today = (dateLine settings today).map (ofTexts title banner background) := by
  unfold header
  rw [htitle, hbanner, hbackground]
  cases dateLine settings today with
  | error m => rfl
  | ok line =>
      have hlines : ofTexts title banner background line =
          (linesAbove title.escapeMarkup ++ [bodyTag background] ++
            linesBelow banner.escapeMarkup ++ line ++ linesAfter).flatMap (· ++ [.char '\n']) := by
        simp only [ofTexts, List.flatMap_append, List.flatMap_singleton, List.append_assoc]
      rw [Except.map, hlines]
      rfl

/-- Title and banner stand escaped in the header, the background as it is. -/
theorem sheds_ofTexts {background background' : CodeText}
    (h : CodeText.Masked background background') (title title' banner banner' : CodeText)
    (dateLine : List CodeText) :
    CodeText.Sheds background.brackets.length (ofTexts title banner background dateLine)
      (ofTexts title' banner' background' dateLine) := by
  have hsame (lines : List CodeText) : List.Forall₂ (CodeText.Sheds 0) lines lines :=
    List.forall₂_same.2 fun line _ => .refl line
  have htitle := (CodeText.sheds_escapeMarkup title title').around "<title>" "</title>"
  have habove : List.Forall₂ (CodeText.Sheds 0) (linesAbove title.escapeMarkup)
      (linesAbove title'.escapeMarkup) :=
    .cons (.refl _) (.cons (.refl _) (.cons htitle (hsame _)))
  have hheading := (CodeText.sheds_escapeMarkup banner banner').around
    "<h1><big><font color=\"#3c34ec\"><i>" "</i></font></big></h1>"
  have hbelow : List.Forall₂ (CodeText.Sheds 0) (linesBelow banner.escapeMarkup)
      (linesBelow banner'.escapeMarkup) :=
    .cons (.refl _) (.cons (.refl _) (.cons (.refl _) (.cons (.refl _) (.cons hheading .nil))))
  have htag := (h.sheds.around "<body background=\"" "\">").append (.refl [.char '\n'])
  have hrest := List.rel_append (List.rel_append hbelow (hsame dateLine)) (hsame linesAfter)
  have hsteps := ((CodeText.Sheds.lines habove).append htag).append (.lines hrest)
  rw [Nat.zero_add] at hsteps
  exact hsteps

/-- Neither header can be written, for the same reason, or both can and the second one has lost the
brackets of the background. -/
theorem headers_masked {settings settings' : Settings} (h : settings.Masked settings')
    (today : Date) :
    (∃ m, header settings today = .error m ∧ header settings' today = .error m) ∨
      ∃ written written', header settings today = .ok written ∧
        header settings' today = .ok written' ∧
        CodeText.Sheds (settings.text "background").brackets.length written written' := by
  obtain ⟨title, title', htitle, htitle', -⟩ := h.texts "title" (by decide)
  obtain ⟨banner, banner', hbanner, hbanner', -⟩ := h.texts "banner" (by decide)
  obtain ⟨background, background', hbackground, hbackground', hmasked⟩ :=
    h.texts "background" (by decide)
  have hdate : dateLine settings' today = dateLine settings today := by
    simp only [dateLine, h.others "include_date" (by decide), h.others "date_format" (by decide)]
  have hheader := header_of_texts htitle hbanner hbackground today
  have hheader' := header_of_texts htitle' hbanner' hbackground' today
  rw [hdate] at hheader'
  rw [hheader, hheader', Settings.text_eq hbackground]
  cases dateLine settings today with
  | error m => exact .inl ⟨m, rfl, rfl⟩
  | ok line => exact .inr ⟨_, _, rfl, rfl, sheds_ofTexts hmasked title title' banner banner' line⟩

end Frame

namespace WalkContext

theorem bannerText_of_text {ctx : WalkContext} {banner : CodeText} (h : ctx.banner = .text banner) :
    ctx.bannerText = banner.plain?.elim (.error .unencodable) .ok := by
  unfold bannerText
  rw [h]
  simp only [Setting.shown, bind, Except.bind]
  cases banner.plain? <;> rfl

end WalkContext

namespace Reference

variable {settings settings' : Settings} {tree tree' : FileTree} {root : Text}

/-- The names that a reference gives its entries, in the table of contents and in the body. -/
def namesWritten (settings : Settings) (tree : FileTree) (root : Text) : List Text :=
  let s := Walk.stateAfter (Walk.run (.ofSettings settings tree root) (some root))
    (.ofSettings settings)
  s.tocNames ++ s.bodyNames

/-- The texts that stand in a reference as they are: the banner over the tree, the background and
the names of the entries. -/
def unescaped (settings : Settings) (tree : FileTree) (root : Text) : List CodeText :=
  [settings.text "banner", settings.text "background"] ++
    (namesWritten settings tree root).map (List.map CodePoint.char)

/-- Runs under settings and on trees of which the second have their markup replaced both end or
neither does. -/
theorem run_masked (hsettings : settings.Masked settings')
    (htree : tree.Alike ((WalkContext.ofSettings settings tree root).CutAlike Line.Masked) tree') :
    Walk.EndTogether
      (fun s t => ∃ banner, settings.text "banner" = banner.map CodePoint.char ∧
        Walk.Masking banner s t)
      (Walk.run (.ofSettings settings tree root) (some root) (.ofSettings settings))
      (Walk.run (.ofSettings settings' tree' root) (some root) (.ofSettings settings')) := by
  have hothers := hsettings.others
  have hlayout : (WalkContext.ofSettings settings' tree' root).layout =
      (WalkContext.ofSettings settings tree root).layout := by
    simp only [WalkContext.ofSettings, hothers "apps_dir" (by decide),
      hothers "apps_token" (by decide), hothers "kconfig_name" (by decide)]
  have hsize : (WalkContext.ofSettings settings' tree' root).lineSize =
      (WalkContext.ofSettings settings tree root).lineSize := by
    simp only [WalkContext.ofSettings, hothers "line_size" (by decide)]
  have hstart : WalkState.ofSettings settings' = .ofSettings settings := by
    simp only [WalkState.ofSettings, hothers "max_levels" (by decide),
      hothers "max_dependencies" (by decide),
      hothers "show_internal" (by decide)]
  obtain ⟨banner, banner', hbanner, hbanner', hmasked⟩ := hsettings.texts "banner" (by decide)
  have htext : (WalkContext.ofSettings settings tree root).bannerText =
      banner.plain?.elim (.error .unencodable) .ok := WalkContext.bannerText_of_text hbanner
  have htext' : (WalkContext.ofSettings settings' tree' root).bannerText =
      banner'.plain?.elim (.error .unencodable) .ok := WalkContext.bannerText_of_text hbanner'
  rw [hstart]
  rcases hmasked.plain? with ⟨hnone, hnone'⟩ | ⟨text, text', hplain, hplain', hmasked⟩
  · rw [hnone] at htext
    rw [hnone'] at htext'
    refine ⟨fun hrun => ?_, fun hrun => ?_⟩
    · obtain ⟨-, _, _, hshown, -⟩ := Walk.run_ok_iff.1 hrun
      exact nomatch htext.symm.trans hshown
    · obtain ⟨-, _, _, hshown, -⟩ := Walk.run_ok_iff.1 hrun
      exact nomatch htext'.symm.trans hshown
  · rw [hplain] at htext
    rw [hplain'] at htext'
    have hruns := Walk.run_masked hlayout hsize htree htext htext' hmasked (some root)
      (.ofSetting (settings.get "max_levels")) (.ofSetting (settings.get "max_dependencies"))
      (settings.get "show_internal").isTrue
    have hbannerText : settings.text "banner" = text.map CodePoint.char :=
      (Settings.text_eq hbanner).trans (CodeText.eq_of_plain? hplain)
    refine ⟨fun hrun => ?_, fun hrun => ?_⟩
    · obtain ⟨t, ht, hst⟩ := hruns.forth hrun
      exact ⟨t, ht, text, hbannerText, hst⟩
    · obtain ⟨s, hs, hst⟩ := hruns.back hrun
      exact ⟨s, hs, text, hbannerText, hst⟩

/-- The second page has lost the brackets of the texts that are not escaped. -/
theorem sheds_page {header header' : CodeText} {n : Nat} (hheader : CodeText.Sheds n header header')
    {banner : Text} {s t : WalkState} (h : Walk.Masking banner s t) :
    CodeText.Sheds
      (n + 2 * (brackets banner).length + 2 * Text.strays (s.tocNames ++ s.bodyNames))
      (header ++ (s.tocText ++ Text.normalizeLineEndings s.bodyText ++ Frame.trailer).map
        CodePoint.char)
      (header' ++ (t.tocText ++ Text.normalizeLineEndings t.bodyText ++ Frame.trailer).map
        CodePoint.char) := by
  have hstreams := (h.toc.append h.body.normalizeLineEndings).append (.refl Frame.trailer)
  have hsteps := hheader.append (.char hstreams)
  have hcount : n + ((brackets banner).length + 2 * Text.strays s.tocNames +
      ((brackets banner).length + 2 * Text.strays s.bodyNames) + 0) =
      n + 2 * (brackets banner).length + 2 * Text.strays (s.tocNames ++ s.bodyNames) := by
    rw [Text.strays_append]
    omega
  rwa [hcount] at hsteps

theorem forall_unescaped_iff :
    (∀ t ∈ unescaped settings tree root, t.brackets = []) ↔
      (settings.text "banner").brackets = [] ∧ (settings.text "background").brackets = [] ∧
        ∀ name ∈ namesWritten settings tree root, brackets name = [] := by
  simp [unescaped, CodeText.brackets_char]

/-- The brackets of a page tell whether markup can be put into it. Take any settings under which
title, banner and background are texts, any tree, and the same settings and tree after every
character of markup in those three, in the names of entries, in prompts, titles, defaults and
conditions is replaced. A page is made of both or of neither, and both have the same brackets in the
same order exactly if the banner, the background and the names of the entries, which stand in the
page as they are, have none. -/
theorem generate_brackets_iff (hsettings : settings.Masked settings')
    (htree : tree.Alike ((WalkContext.ofSettings settings tree root).CutAlike Line.Masked) tree')
    (today : Date) (refusal : Option Text) :
    let made := (generate settings tree root today refusal).result
    let made' := (generate settings' tree' root today refusal).result
    ((∃ page, made = .ok page) ↔ ∃ page', made' = .ok page') ∧
      ∀ page page', made = .ok page → made' = .ok page' →
        (page'.brackets = page.brackets ↔ ∀ t ∈ unescaped settings tree root, t.brackets = []) := by
  intro made made'
  have hruns := run_masked hsettings htree
  rcases Frame.headers_masked hsettings today with
    ⟨m, hheader, hheader'⟩ | ⟨written, written', hheader, hheader', hsheds⟩
  · have hnone (page : CodeText) : made ≠ .ok page := fun hpage => by
      obtain ⟨-, _, _, -, hwritten, -⟩ := generate_ok_iff.1 hpage
      exact nomatch hheader.symm.trans hwritten
    have hnone' (page : CodeText) : made' ≠ .ok page := fun hpage => by
      obtain ⟨-, _, _, -, hwritten, -⟩ := generate_ok_iff.1 hpage
      exact nomatch hheader'.symm.trans hwritten
    refine ⟨⟨?_, ?_⟩, fun page _ hpage => absurd hpage (hnone page)⟩
    · exact fun ⟨page, hpage⟩ => absurd hpage (hnone page)
    · exact fun ⟨page, hpage⟩ => absurd hpage (hnone' page)
  · refine ⟨⟨?_, ?_⟩, ?_⟩
    · rintro ⟨page, hpage⟩
      obtain ⟨hstaged, s, -, hrun, -, -⟩ := generate_ok_iff.1 hpage
      obtain ⟨t, hrun', -⟩ := hruns.forth hrun
      exact ⟨_, generate_ok_iff.2 ⟨hstaged, t, written', hrun', hheader', rfl⟩⟩
    · rintro ⟨page, hpage⟩
      obtain ⟨hstaged, t, -, hrun', -, -⟩ := generate_ok_iff.1 hpage
      obtain ⟨s, hrun, -⟩ := hruns.back hrun'
      exact ⟨_, generate_ok_iff.2 ⟨hstaged, s, written, hrun, hheader, rfl⟩⟩
    · intro page page' hpage hpage'
      obtain ⟨-, s, _, hrun, hwritten, rfl⟩ := generate_ok_iff.1 hpage
      obtain ⟨-, t, _, hrun', hwritten', rfl⟩ := generate_ok_iff.1 hpage'
      obtain rfl := Except.ok.inj (hheader.symm.trans hwritten)
      obtain rfl := Except.ok.inj (hheader'.symm.trans hwritten')
      obtain ⟨_, hsame, banner, hbanner, hmasking⟩ := hruns.forth hrun
      rw [hrun'] at hsame
      cases hsame
      have hnames : namesWritten settings tree root = s.tocNames ++ s.bodyNames := by
        rw [namesWritten, Walk.stateAfter, hrun]
      have hbrackets : (settings.text "banner").brackets = brackets banner := by
        rw [hbanner, CodeText.brackets_char]
      rw [(sheds_page hsheds hmasking).brackets_eq_iff, forall_unescaped_iff, hnames, hbrackets,
        ← Text.strays_eq_zero_iff, ← List.length_eq_zero_iff, ← List.length_eq_zero_iff]
      omega

/-- The built-in settings without the date. -/
def undated : Settings := Settings.builtIn.update [(.text "include_date".toList, .bool false)]

def bannered (banner : Text) : Settings := undated.update [(.text "banner".toList, .text banner)]

theorem get_bannered_of_ne (banner : Text) {name : Text} (h : name ≠ "banner".toList) :
    (bannered banner).get name = undated.get name := Settings.get_update_of_ne undated h _

theorem masked_bannered {banner banner' : Text} (h : Text.Masked banner banner') :
    (bannered banner).Masked (bannered banner') where
  texts name hname := by
    have hplain (text : Text) (hget : undated.get name = .text text)
        (hname : name ≠ "banner".toList) (hmarkup : Text.Masked text text) :
        ∃ t t', (bannered banner).get name = .text t ∧ (bannered banner').get name = .text t' ∧
          CodeText.Masked t t' :=
      ⟨text, text, (get_bannered_of_ne banner hname).trans hget,
        (get_bannered_of_ne banner' hname).trans hget, CodeText.masked_char hmarkup⟩
    simp only [Settings.shownNames, List.map_cons, List.map_nil, List.mem_cons, List.not_mem_nil,
      or_false] at hname
    rcases hname with rfl | rfl | rfl
    · exact hplain "NuttX Configuration Options" rfl (by decide) (by decide)
    · exact ⟨banner, banner', Settings.get_update_self _ _ _, Settings.get_update_self _ _ _,
        CodeText.masked_char h⟩
    · exact hplain "backgd.gif" rfl (by decide) (by decide)
  others name hname := by
    have hne : name ≠ "banner".toList := by
      rintro rfl
      exact hname (by decide)
    rw [get_bannered_of_ne banner hne, get_bannered_of_ne banner' hne]

def emptyTree : FileTree := ⟨.directory [("Kconfig", .file [])], []⟩

/-- The banner brings its brackets into the page, which are gone once they are replaced. -/
theorem generate_inserts_banner :
    (bannered "A<B").Masked (bannered "AxB") ∧
      emptyTree.Alike ((WalkContext.ofSettings (bannered "A<B") emptyTree ".").CutAlike Line.Masked)
        emptyTree ∧
      ∃ page page', (generate (bannered "A<B") emptyTree "." ⟨2013, 4, 5⟩ none).result = .ok page ∧
        (generate (bannered "AxB") emptyTree "." ⟨2013, 4, 5⟩ none).result = .ok page' ∧
        page'.brackets ≠ page.brackets := by
  refine ⟨masked_bannered (by decide), ⟨rfl, rfl, fun path => .nil, trivial⟩, ?_⟩
  have hpages : ((generate (bannered "A<B") emptyTree "." ⟨2013, 4, 5⟩ none).result.toOption.bind
      fun page => (generate (bannered "AxB") emptyTree "." ⟨2013, 4, 5⟩ none).result.toOption.map
        fun page' => decide (page'.brackets = page.brackets)) = some false := by decide +kernel
  obtain ⟨page, hpage, hdiffers⟩ := Option.bind_eq_some_iff.1 hpages
  obtain ⟨page', hpage', hne⟩ := Option.map_eq_some_iff.1 hdiffers
  exact ⟨page, page', eq_ok_of_toOption hpage, eq_ok_of_toOption hpage', of_decide_eq_false hne⟩

def promptText : Text := "config A\n\tbool \"x < y\"\n"

def replacedText : Text := "config A\n\tbool \"x l y\"\n"

def promptTree : FileTree := ⟨.directory [("Kconfig", .file (Utf8.encode promptText))], []⟩

def replacedTree : FileTree := ⟨.directory [("Kconfig", .file (Utf8.encode replacedText))], []⟩

def promptContext : WalkContext := .ofSettings (bannered "R&D") promptTree "."

theorem masked_promptTree :
    promptTree.Alike (promptContext.CutAlike Line.Masked) replacedTree := by
  have hsize : promptContext.lineSize = .characters 1024 := by rfl
  have hlines : ∀ path, promptContext.cut path (Utf8.encode promptText) =
      .ok [⟨"config A", path, 1⟩, ⟨"bool \"x < y\"", path, 2⟩] := by
    intro path
    have htext : Text.normalizeLineEndings (Utf8.decodeLenient (Utf8.encode promptText)) =
        promptText := by rfl
    rw [WalkContext.cut, hsize, htext]
    exact congrArg Except.ok (readLines_of_fits (by decide +kernel))
  have hlines' : ∀ path, promptContext.cut path (Utf8.encode replacedText) =
      .ok [⟨"config A", path, 1⟩, ⟨"bool \"x l y\"", path, 2⟩] := by
    intro path
    have htext : Text.normalizeLineEndings (Utf8.decodeLenient (Utf8.encode replacedText)) =
        replacedText := by rfl
    rw [WalkContext.cut, hsize, htext]
    exact congrArg Except.ok (readLines_of_fits (by decide +kernel))
  refine ⟨rfl, rfl, fun path => ?_, trivial⟩
  rw [hlines, hlines']
  have hname : List.Forall₂ Text.MasksWithin (Text.afterFirstSpace "config A")
      (Text.afterFirstSpace "config A") := by decide
  have hword : Text.firstWord "bool \"x l y\"" = Text.firstWord "bool \"x < y\"" := by decide
  have hprompt : List.Forall₂ Text.MasksWithin (Text.afterFirstSpace "bool \"x < y\"")
      (Text.afterFirstSpace "bool \"x l y\"") := by decide
  have hkeyword : Keyword.ofWord? (Text.firstWord "bool \"x < y\"") ≠ some .source := by decide
  have hplace (text : Text) : (⟨text, path, 2⟩ : Line).place = ⟨some path, some 2⟩ := rfl
  exact .cons (.of_rest rfl rfl hname fun _ => rfl)
    (.cons (.of_rest hword ((hplace _).trans (hplace _).symm) hprompt fun h => absurd h hkeyword)
      .nil)

/-- The page with markup in its banner and in a prompt has the same brackets as without. -/
theorem generate_brackets_iff_sample :
    (bannered "R&D").Masked (bannered "RnD") ∧
      promptTree.Alike (promptContext.CutAlike Line.Masked) replacedTree ∧
      ∃ page page', (generate (bannered "R&D") promptTree "." ⟨2013, 4, 5⟩ none).result = .ok page ∧
        (generate (bannered "RnD") replacedTree "." ⟨2013, 4, 5⟩ none).result = .ok page' ∧
        page'.brackets = page.brackets := by
  have hsettings : (bannered "R&D").Masked (bannered "RnD") := masked_bannered (by decide)
  obtain ⟨hboth, hiff⟩ := generate_brackets_iff hsettings masked_promptTree ⟨2013, 4, 5⟩ none
  obtain ⟨hmade, hclean⟩ :
      (generate (bannered "R&D") promptTree "." ⟨2013, 4, 5⟩ none).result.toOption.isSome = true ∧
        ∀ t ∈ unescaped (bannered "R&D") promptTree ".", t.brackets = [] := by decide +kernel
  obtain ⟨page, hpage⟩ := Option.isSome_iff_exists.1 hmade
  obtain ⟨page', hpage'⟩ := hboth.1 ⟨page, eq_ok_of_toOption hpage⟩
  exact ⟨hsettings, masked_promptTree, page, page', eq_ok_of_toOption hpage, hpage',
    (hiff page page' (eq_ok_of_toOption hpage) hpage').2 hclean⟩

end Reference

end KconfigReference

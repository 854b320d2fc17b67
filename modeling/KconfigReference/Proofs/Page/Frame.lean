import KconfigReference.Page.Markup
import KconfigReference.Proofs.Page.Quiet

/-!
The header under the built-in texts. Apart from the date it is a fixed text, it links nowhere, and
it opens one list.
-/

namespace KconfigReference

/-- The names of the settings whose texts stand in a page. -/
def Settings.textNames : List Text :=
  ["title", "banner", "background", "date_format", "apps_dir", "apps_token", "kconfig_name"].map
    String.toList

/-- The texts that the settings put into a page are the built-in ones. -/
def Settings.HasBuiltInTexts (settings : Settings) : Prop :=
  ∀ name ∈ textNames, settings.get name = builtIn.get name

namespace Frame

/-- Lines, each with its line feed. -/
def written (lines : List Text) : Text := lines.flatMap (· ++ ['\n'])

theorem quiet_written {lines : List Text} (h : ∀ line ∈ lines, Quiet line) :
    Quiet (written lines) := by
  induction lines with
  | nil => exact .nil
  | cons line rest ih =>
      have hline := h line List.mem_cons_self
      have hrest := ih fun other hother => h other (List.mem_cons_of_mem _ hother)
      exact (hline.append (.of_isQuiet (by decide))).append hrest

/-- The lines of the header above the date. -/
def above : List Text :=
  ["<html>",
    "<head>",
    "<title>NuttX Configuration Options</title>",
    "</head>",
    "<body background=\"backgd.gif\">",
    "<hr><hr>",
    "<table width =\"100%\">",
    "<tr align=\"center\" bgcolor=\"#e4e4e4\">",
    "<td>",
    "<h1><big><font color=\"#3c34ec\"><i>NuttX Configuration Variables</i></font></big></h1>"].map
    String.toList

/-- The lines below the date, up to the list that the header opens. -/
def below : List Text :=
  ["</td>", "</tr>", "</table>", "<center><h1>Table of contents</h1></center>"].map String.toList

def dateLines (settings : Settings) (today : Date) : List Text :=
  if (settings.get "include_date").isTrue then
    ["<p>Last Updated: " ++ today.format "%B %d, %Y" ++ "</p>"]
  else []

/-- The header as one text. -/
def headerText (settings : Settings) (today : Date) : Text :=
  written (above ++ dateLines settings today ++ below) ++ "<ul>\n"

theorem header_eq {settings : Settings} (h : settings.HasBuiltInTexts) (today : Date) :
    header settings today = .ok ((headerText settings today).map CodePoint.char) := by
  have htitle : settings.get "title" = .text ("NuttX Configuration Options".toList : CodeText) :=
    h _ (by decide)
  have hbanner : settings.get "banner" =
      .text ("NuttX Configuration Variables".toList : CodeText) := h _ (by decide)
  have hbackground : settings.get "background" = .text ("backgd.gif".toList : CodeText) :=
    h _ (by decide)
  have hdate : settings.get "date_format" = .text ("%B %d, %Y".toList : CodeText) :=
    h _ (by decide)
  have hplain : CodeText.plain? ("%B %d, %Y".toList : CodeText) = some "%B %d, %Y".toList := by
    rfl
  have hline : dateLine settings today =
      .ok ((dateLines settings today).map (List.map CodePoint.char)) := by
    unfold dateLine dateLines
    rw [hdate]
    simp only [hplain]
    split
    · simp only [List.map_append, List.map_cons, List.map_nil]
    · rfl
  have hlines : ∀ lines : List Text, (written lines).map CodePoint.char =
      (lines.map (List.map CodePoint.char)).flatMap (· ++ [.char '\n']) := by
    intro lines
    simp [written, List.map_flatMap, List.flatMap_map]
  have hlast : headerText settings today =
      written (above ++ dateLines settings today ++ (below ++ ["<ul>".toList])) := by
    unfold headerText
    simp only [written, List.flatMap_append, List.append_assoc]
    rfl
  unfold header
  rw [htitle, hbanner, hbackground, hline, hlast, hlines, List.map_append, List.map_append]
  rfl

/-- The name of a month, the day and the year. -/
theorem format_eq (today : Date) :
    today.format "%B %d, %Y" = today.monthName ++ (' ' :: (Text.padded '0' 2 today.day ++
      (',' :: ' ' :: (Text.ofNat today.year ++ [])))) := by
  rfl

theorem quiet_date (today : Date) : Quiet (today.format "%B %d, %Y") := by
  have hmonths : ∀ name ∈ Date.monthNames, (isTagless name && isLinkless [] name) = true := by
    decide +kernel
  have hmonth : Quiet today.monthName := by
    unfold Date.monthName
    rw [List.getD_eq_getElem?_getD]
    cases hname : Date.monthNames[today.month - 1]? with
    | none => exact .nil
    | some name => exact .of_isQuiet (hmonths name (List.mem_of_getElem? hname))
  have hpadded : Quiet (Text.padded '0' 2 today.day) := by
    refine Quiet.append (.of_not_mem ?_ ?_) (Quiet.ofNat _)
    · simp
    · simp
  have hspace : Quiet [' '] := .of_isQuiet (by decide)
  have hcomma : Quiet [',', ' '] := .of_isQuiet (by decide)
  rw [format_eq]
  exact hmonth.append (hspace.append (hpadded.append (hcomma.append
    ((Quiet.ofNat _).append .nil))))

/-- Up to its list the header is quiet. -/
theorem quiet_lines (settings : Settings) (today : Date) :
    Quiet (written (above ++ dateLines settings today ++ below)) := by
  have habove : ∀ line ∈ above, (isTagless line && isLinkless [] line) = true := by
    decide +kernel
  have hbelow : ∀ line ∈ below, (isTagless line && isLinkless [] line) = true := by
    decide +kernel
  refine quiet_written fun line hline => ?_
  rcases List.mem_append.1 hline with hline | hline
  · rcases List.mem_append.1 hline with hline | hline
    · exact .of_isQuiet (habove line hline)
    · unfold dateLines at hline
      split at hline
      · rw [List.mem_singleton.1 hline]
        exact ((Quiet.of_isQuiet (by decide)).append (quiet_date today)).append
          (.of_isQuiet (by decide))
      · simp at hline
  · exact .of_isQuiet (hbelow line hline)

theorem listTags_headerText (settings : Settings) (today : Date) (rest : Text) :
    Check.listTags (headerText settings today ++ rest) = .opening :: Check.listTags rest := by
  unfold headerText
  rw [List.append_assoc, (quiet_lines settings today).tags]
  rfl

theorem links_headerText (settings : Settings) (today : Date) (before rest : Text) :
    Check.links before (headerText settings today ++ rest) =
      Check.links ((headerText settings today).reverse ++ before) rest := by
  have hlist := Check.links_append_of_not_mem (show '"' ∉ "<ul>\n".toList by decide)
  unfold headerText
  rw [List.append_assoc, (quiet_lines settings today).links, hlist, ← List.append_assoc,
    ← List.reverse_append]

theorem endsLine_headerText (settings : Settings) (today : Date) :
    Text.EndsLine (headerText settings today) := .of_last (by decide) _

theorem quiet_trailer : Quiet trailer := .of_isQuiet (by decide)

end Frame

end KconfigReference

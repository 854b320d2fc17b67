import KconfigReference.Calendar.Pattern
import KconfigReference.Failure
import KconfigReference.Kconfig.Entry
import KconfigReference.Setting.Basic
import KconfigReference.Setting.Written
import KconfigReference.Text.CodePoint

/-!
The markup of the reference: links of the table of contents, headings, the details of entries, and
the frame of the page, which is its header with title, banner and date, up to the opened table of
contents, and its trailer. Prompts, titles, defaults, conditions and paths are escaped; names and
anchors are not.
-/

namespace KconfigReference.Markup

def openList : Text := "<ul>\n"

def closeList : Text := "</ul>\n"

/-- A link of the table of contents. -/
def link (anchor label : Text) : Text :=
  "<li><a href=\"#" ++ anchor ++ "\">" ++ label ++ "</a></li>\n"

def menuHeading (anchor label : Text) : Text :=
  "\n<h1><a name=\"" ++ anchor ++ "\">" ++ label ++ "</a></h1>\n"

def choiceHeading (anchor label : Text) : Text :=
  "\n<h3><a name=\"" ++ anchor ++ "\">" ++ label ++ "</a></h3>\n"

/-- The kind of a block, with its title if it has one that is not empty. -/
def caption (kind : Text) (title : Option Text) : Text :=
  match title with
  | none => kind
  | some [] => kind
  | some text => kind ++ ": " ++ Text.escapeMarkup text

/-- A paragraph number before a caption. -/
def label (number caption : Text) : Text := number ++ " " ++ caption

/-- A colon and the description of an entry, if it has one that is not empty. -/
def description (entry : Entry) : Text :=
  match entry.description with
  | none => []
  | some [] => []
  | some text => ": " ++ Text.escapeMarkup text

/-- The link of an entry in the table of contents. -/
def entryLink (entry : Entry) (number : Text) : Text :=
  "<li><a href=\"#" ++ entry.name ++ "\">" ++ number ++ " <code>CONFIG_" ++ entry.name ++
    "</code>" ++ description entry ++ "</a></li>\n"

/-- The heading of an entry; an entry inside a choice has no number. -/
def entryHeading (entry : Entry) (number : Option Text) : Text :=
  "<h3><a name=\"" ++ entry.name ++ "\">" ++ (number.elim [] (· ++ [' '])) ++
    "<code>CONFIG_" ++ entry.name ++ "</code>" ++ description entry ++ "</a></h3>\n"

/-- Conditions, separated by commas. -/
def conditionList (conditions : List Text) : Text :=
  Text.join ", " (conditions.map Text.escapeMarkup)

/-- What is said of an entry that has neither help nor a description. -/
def hiddenNote : Text :=
  "<p>This is a hidden, internal configuration variable that cannot be " ++
    "explicitly set by the user.</p>"

/-- The details of an entry, one a line. -/
def detailLines (entry : Entry) (path : Text) : List Text :=
  (entry.type.elim [] fun type => ["  <li><i>Type</i>:         " ++ type.label ++ "</li>"]) ++
  (entry.default.elim [] fun value =>
    ["  <li><i>Default</i>:      " ++ Text.escapeMarkup value ++ "</li>"]) ++
  (if entry.conditions = [] then []
   else ["  <li><i>Dependencies</i>: " ++ conditionList entry.conditions ++ "</li>"]) ++
  ["  <li><i>Kconfig file</i>: <code>" ++ Text.escapeMarkup path ++ "</code></li>"] ++
  (if !entry.hasHelp && entry.isHidden then [hiddenNote] else [])

/-- The list of details of an entry, given the path of its Kconfig file. -/
def entryDetails (entry : Entry) (path : Text) : Text :=
  openList ++ Text.join ['\n'] (detailLines entry path) ++ "\n" ++ closeList

end KconfigReference.Markup

namespace KconfigReference.Frame

/-- A setting that stands escaped in the header has to be a text. Bytes and days have a replacement
of their own, but none that takes texts. -/
def escaped : Setting → Except Misuse CodeText
  | .text t => .ok t.escapeMarkup
  | .bytes _ | .date _ | .dateTime _ => .error .wrongType
  | _ => .error .notText

/-- The line with the date, if the settings ask for it. -/
def dateLine (settings : Settings) (today : Date) : Except Misuse (List CodeText) :=
  if (settings.get "include_date").isTrue then
    match settings.get "date_format" with
    | .text pattern =>
        match pattern.plain? with
        | some pattern => .ok ["<p>Last Updated: " ++ today.format pattern ++ "</p>"]
        | none => .error .unencodable
    | _ => .error .wrongType
  else .ok []

def header (settings : Settings) (today : Date) : Except Misuse CodeText := do
  let title ← escaped (settings.get "title")
  let banner ← escaped (settings.get "banner")
  let background ← (settings.get "background").shown
  let dateLine ← dateLine settings today
  let above : List CodeText :=
    ["<html>",
      "<head>",
      "<title>" ++ title ++ "</title>",
      "</head>",
      "<body background=\"" ++ background ++ "\">",
      "<hr><hr>",
      "<table width =\"100%\">",
      "<tr align=\"center\" bgcolor=\"#e4e4e4\">",
      "<td>",
      "<h1><big><font color=\"#3c34ec\"><i>" ++ banner ++ "</i></font></big></h1>"]
  let below : List CodeText :=
    ["</td>",
      "</tr>",
      "</table>",
      "<center><h1>Table of contents</h1></center>",
      "<ul>"]
  let lines := above ++ dateLine ++ below
  pure (lines.flatMap (· ++ [.char '\n']))

def trailer : Text := "</body>\n</html>\n"

end KconfigReference.Frame

import P4Outline.Report.Description

/-!
# The summary page of a program

An HTML page with the same content as the description: a table for the tables of every control,
lists for the rest. Every text that comes from the program is escaped, so that none of it can be
taken for markup. There is no page if a size has too many digits to be written.
-/

namespace P4Outline

namespace Page

/-- A character as it is written in a page: markup characters and quotes by their references. -/
def escapeChar : Char → List Char
  | '&' => "&amp;".toList
  | '<' => "&lt;".toList
  | '>' => "&gt;".toList
  | '"' => "&quot;".toList
  | '\'' => "&#x27;".toList
  | c => [c]

/-- A text as it is written in a page. -/
def escape (text : String) : String := String.ofList (text.toList.flatMap escapeChar)

/-- A text as an inline piece of code. -/
def code (text : String) : String := "<code>" ++ escape text ++ "</code>"

/-- A bullet list of pieces of code; nothing for no pieces. -/
def codeList (texts : List String) : String :=
  if texts.isEmpty then ""
  else "<ul>" ++ String.join (texts.map fun text => "<li>" ++ code text ++ "</li>") ++ "</ul>"

/-- The title of the page for a source. -/
def title (sourceName : String) : String :=
  if sourceName.isEmpty then "System Description" else "System Description: " ++ sourceName

/-- The page up to its body. -/
def top (sourceName : String) : String :=
"<!DOCTYPE html>
<html lang=\"en\">
<head>
<meta charset=\"UTF-8\">
<meta name=\"viewport\" content=\"width=device-width, initial-scale=1.0\">
<title>" ++ escape (title sourceName) ++ "</title>
<style>
  body \x7b font-family: sans-serif; margin: 16px; color: #222; \x7d
  h1 \x7b font-size: 1.6em; \x7d
  h2 \x7b font-size: 1.3em; margin-top: 1.2em; \x7d
  ul \x7b list-style: disc; padding-left: 20px; \x7d
  table \x7b border-collapse: collapse; margin: 6px 0 12px 0; \x7d
  th, td \x7b border: 1px solid #ddd; padding: 4px 8px; font-size: 0.9em; vertical-align: top; \x7d
  th \x7b background: #f0f0f0; text-align: left; \x7d
  code \x7b font-family: Consolas, monospace; background: #f6f6f6; padding: 1px 4px; \x7d
  .empty \x7b color: #777; font-style: italic; \x7d
</style>
</head>
<body>
"

/-- The row of a table. -/
def tableRow (name : String) (t : Table) : String :=
  "<tr><td>" ++ code name ++ "</td><td>" ++ codeList t.keys ++ "</td><td>" ++ codeList t.actions ++
    "</td><td>" ++ escape ((t.size.map numeral).getD "") ++ "</td><td>" ++
      escape (t.defaultAction.getD "") ++ "</td></tr>\n"

/-- The beginning of the table of the tables of a control. -/
def tableHeading : String :=
  "<table>\n<tr><th>Table</th><th>Key</th><th>Actions</th><th>Size</th>" ++
    "<th>Default action</th></tr>\n"

/-- The section about a control. -/
def controlSection (name : String) (c : Control) : String :=
  "<h3>Control: " ++ code name ++ "</h3>\n"
  ++ (if c.tables.isEmpty then ""
      else
        tableHeading ++ String.join (c.tables.entries.map fun (name, t) => tableRow name t) ++
          "</table>\n")
  ++ (if c.actions.isEmpty then "" else "<p>Actions:</p>\n" ++ codeList c.actions ++ "\n")

/-- A remark on what the program has none of. -/
def noneFound (what : String) : String := "<p class='empty'>No " ++ what ++ " found.</p>\n"

/-- The section about one kind of a listing. -/
def listingSection (label what : String) (names : List String) : String :=
  "<h2>" ++ label ++ "</h2>\n" ++ (if names.isEmpty then noneFound what else codeList names ++ "\n")

/-- The sections about a listing. -/
def listingSections (l : Listing) : String :=
  listingSection "Parsers" "parsers" l.parsers ++ listingSection "Structs" "structs" l.structs
    ++ listingSection "Headers" "headers" l.headers

/-- The text of a page. -/
def text (o : Outline) (listing : Option Listing) (sourceName : String) : String :=
  top sourceName ++ "<h1>" ++ escape (title sourceName) ++ "</h1>\n" ++ "<h2>Controls</h2>\n"
    ++ (if o.isEmpty then noneFound "controls" else "")
    ++ String.join (o.controls.entries.map fun (name, c) => controlSection name c)
    ++ (match listing with | none => "" | some l => listingSections l)
    ++ "</body>\n</html>\n"

end Page

/-- The summary page of a program, if its sizes can be written. -/
def page (o : Outline) (listing : Option Listing) (sourceName : String) :
    Except NumeralError String :=
  if o.isWritable then .ok (Page.text o listing sourceName) else .error .tooLong

end P4Outline

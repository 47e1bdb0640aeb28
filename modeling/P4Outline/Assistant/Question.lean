import P4Outline.Assistant.Exchange
import P4Outline.Assistant.Template
import P4Outline.Outline.Scan
import P4Outline.Report.Description

/-!
# Questions about errors

A question shows the language model an error, the description of the program and its numbered lines.
A long source is cut to a budget of tokens before its lines are numbered. The question is written by
a template, if one is set and can be used, else in the words of `question`.
-/

namespace P4Outline

open P4Outline.Text

/-! ### Tokens -/

/-- How many characters a token has, roughly. -/
def charsPerToken : Nat := 4

/-- How many tokens a text has, roughly. -/
def tokenCount (cs : List Char) : Nat := cs.length / charsPerToken

/-- What stands for the part of a text that is cut off. -/
def cutMark : List Char := "\n\n[... truncated due to token limit ...]".toList

/-- The first `n` characters of a text, or all but the last `-n` if `n` is negative. -/
def keep (n : Int) (cs : List Char) : List Char :=
  match n with
  | .ofNat n => cs.take n
  | .negSucc n => cs.take (cs.length - (n + 1))

/-- A text cut to a budget of tokens, with a mark behind it if anything is cut off. -/
def cutTo (budget : Int) (cs : List Char) : List Char :=
  if (tokenCount cs : Int) ≤ budget then cs else keep (budget * charsPerToken) cs ++ cutMark

/-- The budget of a text: the one that is asked for, unless that is zero, else the one of the
settings. -/
def ModelSettings.budget (m : ModelSettings) (asked : Option Int) : Int :=
  match asked with
  | none | some 0 => m.maxPromptTokens
  | some n => n

/-! ### Numbered lines -/

/-- A line behind its number, which takes at least five columns. -/
def numberedLine (number : Nat) (line : List Char) : List Char :=
  let digits := natText number
  List.replicate (5 - digits.length) ' ' ++ digits ++ " | ".toList ++ line

/-- Lines behind their numbers. -/
def numberLinesFrom (number : Nat) : List (List Char) → List (List Char)
  | [] => []
  | line :: rest => numberedLine number line :: numberLinesFrom (number + 1) rest

/-- A text with its lines numbered, from one on. -/
def numbered (cs : List Char) : List Char := join ['\n'] (numberLinesFrom 1 (lines cs))

/-! ### The question -/

/-- What a question is made of. -/
structure QuestionParts where
  error : List Char
  structureSummary : List Char
  sourceName : List Char
  numberedSource : List Char
  deriving DecidableEq, Repr

/-- The standing instruction to the language model. -/
def instruction : String :=
"You are an expert P4 (P4_16) programmer helping a developer understand a compiler " ++
"or runtime error in a switch program.

GUIDELINES:
- Explain what the error means in plain language before proposing any change
- Tie the explanation to the declarations listed in PROGRAM STRUCTURE when they are relevant
- Reference source lines by the numbers in the left column (e.g., '  42 | code')
- Propose the smallest fix that resolves the error; do not rewrite unrelated code
- If the error cannot be explained from the provided source, say so instead of guessing
- Keep the answer short: at most a few paragraphs and one corrected snippet
"

/-- The question in its own words. -/
def question (p : QuestionParts) : List Char :=
  "Explain the following error reported for a P4 program.\n\nERROR:\n".toList ++ p.error
    ++ "\n\nPROGRAM STRUCTURE:\n".toList ++ p.structureSummary
    ++ "\n\nSOURCE (".toList ++ p.sourceName ++ "):\n".toList ++ p.numberedSource
    ++ ("\n\nOUTPUT FORMAT (use EXACTLY this structure):\n\nExplanation:\n"
      ++ "[What the error means and why it happens in this program]\n\nLocation:\n"
      ++ "[Line number(s) and the declaration involved, or \"Unknown\"]\n\nSuggested_Fix:\n"
      ++ "[The corrected code. RAW CODE ONLY. Do NOT include line numbers "
      ++ "(e.g., '123 |').]\n").toList

/-- The parts of a question as the variables of a template. -/
def QuestionParts.bindings (p : QuestionParts) : Template.Bindings :=
  [("error_text", p.error), ("structure_summary", p.structureSummary),
    ("source_name", p.sourceName),
   ("numbered_source", p.numberedSource)]

/-- What a question says of the structure of a program, if it can be described. -/
def Outline.summary (o : Outline) : Except NumeralError (List Char) :=
  if o.isEmpty then .ok "No controls or tables were recognized.".toList
  else (description o none).map fun text => trim text.toList

/-- The parts of the question about an error in a source, of which a summary is given. -/
def QuestionParts.of (m : ModelSettings) (error source summary sourceName : List Char) :
    QuestionParts where
  error := trim error
  structureSummary := summary
  sourceName := (nonEmpty? sourceName).getD "untitled.p4".toList
  numberedSource :=
    (nonEmpty? (numbered (cutTo m.maxPromptTokens source))).getD "(no source provided)".toList

/-- Why there is no answer to a question about an error. -/
inductive ExplainError where
  /-- No error was given. -/
  | noErrorText
  /-- The source cannot be scanned. -/
  | scan (error : ScanError)
  /-- A size cannot be written. -/
  | numeral (error : NumeralError)
  /-- The template goes wrong in a way that is not passed over. -/
  | template (error : TemplateError)
  /-- The path to the template is no text but of this kind. -/
  | pathNotText (kind : String)
  /-- The language model does not answer. -/
  | exchange (error : ExchangeError)
  deriving DecidableEq, Repr

/-- The wording of an error. -/
def ExplainError.message : ExplainError → String
  | .noErrorText => "error_text must not be empty"
  | .scan error => error.message
  | .numeral error => error.message
  | .template error => error.message
  | .pathNotText kind => "expected str, bytes or os.PathLike object, not " ++ kind
  | .exchange error => error.message

/-- The path to a file of the project: a relative path starts at the directory that the program is
installed in. -/
def projectPath (site : Site) (path : String) : Path := site.projectRoot.under (.ofText path)

/-- The text of the template at a path, rendered, if there is such a file and its template can be
used. -/
def renderFile (host : Template.Host) (site : Site) (path : String) (bindings : Template.Bindings) :
    Except TemplateError (Option (List Char)) :=
  match (site.read? path).bind fileText? with
  | none => .ok none
  | some text =>
    match Template.render host bindings (trim text) with
    | .ok rendered => .ok (some rendered)
    | .error .unusable => .ok none
    | .error e => .error e

/-- The question made of parts: by the template of the settings, if that yields a text, else in its
own words. -/
def QuestionParts.write (host : Template.Host) (site : Site) (m : ModelSettings)
    (p : QuestionParts) :
    Except ExplainError (List Char) :=
  if !m.promptFile.isTruthy then .ok (question p)
  else
    match m.promptFile with
    | .text path =>
      match renderFile host site (projectPath site path).text p.bindings with
      | .error e => .error (.template e)
      | .ok rendered => .ok ((rendered.bind nonEmpty?).getD (question p))
    | v => .error (.pathNotText v.kindName)

/-- The parts of the question about an error in a source. Without an outline the source is scanned
for one. -/
def QuestionParts.ofSource (m : ModelSettings) (reading : Reading) (error source : String)
    (outline : Option Outline) (sourceName : String) : Except ExplainError QuestionParts := do
  let o ← (outline.elim (Outline.ofSource reading source) .ok).mapError .scan
  let summary ← o.summary.mapError .numeral
  return .of m error.toList source.toList summary sourceName.toList

/-- The question about an error in a source. -/
def buildQuestion (host : Template.Host) (site : Site) (m : ModelSettings) (reading : Reading)
    (error source : String) (outline : Option Outline) (sourceName : String) :
    Except ExplainError (List Char) := do
  let p ← QuestionParts.ofSource m reading error source outline sourceName
  p.write host site m

/-- The explanation of an error in a source. -/
def explain (host : Template.Host) (site : Site) (m : ModelSettings) (s : Session) (reply : Reply)
    (reading : Reading) (error source : String) (outline : Option Outline) (sourceName : String) :
    Except ExplainError (List Char) × Session :=
  if isBlankText error.toList then (.error .noErrorText, s)
  else
    match buildQuestion host site m reading error source outline sourceName with
    | .error e => (.error e, s)
    | .ok question =>
      match m.ask s reply question (some instruction.toList) with
      | (.ok answer, s) => (.ok (shownAnswer (some answer)), s)
      | (.error e, s) => (.error (.exchange e), s)

end P4Outline

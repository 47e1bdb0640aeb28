import P4Outline.Assistant.Question
import P4Outline.Command.Setup
import P4Outline.Declaration.Location
import P4Outline.Report.Page
import P4Outline.Report.Record

/-!
# A run

A run scans one source and then prints and writes what the options ask for, in this order: the body
of an action, the place of a declaration, the record or else the description, the page, the
explanation of an error. The description is left out when an action, a place or an explanation is
asked for.
-/

namespace P4Outline

open P4Outline.Text

/-- Why a run breaks off. -/
inductive Failure where
  | setup (error : SetupError)
  | scan (error : ScanError)
  | path (error : PathError)
  | number (error : NumberError)
  /-- The tags of markup do not match. -/
  | markup (message : String)
  /-- A size cannot be written. -/
  | numeral (error : NumeralError)
  | explain (error : ExplainError)
  /-- There can be no file at the path. -/
  | unwritable (file : String)
  deriving DecidableEq, Repr

/-- The wording of an error. -/
def Failure.message : Failure → String
  | .setup error => error.message
  | .scan error => error.message
  | .path error => error.message
  | .number error => error.message
  | .markup message => message
  | .numeral error => error.message
  | .explain error => error.message
  | .unwritable file => "cannot write to " ++ file

/-- What a run leaves behind. -/
structure Outcome where
  /-- The code that it ends with. -/
  code : Nat
  /-- What it printed. -/
  printed : List Char := []
  /-- The surroundings, with the files that it wrote. -/
  site : Site
  /-- What was sent to the provider of the language model. -/
  session : Session := {}
  deriving Inhabited

/-- The source of a run, scanned. -/
structure Program extends Setup where
  outline : Outline
  listing : Listing

/-- Scans the source of a run. -/
def Program.ofSetup (s : Setup) : Except ScanError Program := do
  let outline ← Outline.ofSource (.ofSettings s.settings) s.source
  return { s with outline, listing := .ofSource s.source }

/-- What a console shows of markup. -/
def Console.say (console : Console) (markup : List Char) : Except Failure (List Char) :=
  (console.markup markup).mapError .markup

/-- The decimal text of an offset or of a line. -/
def placeText (l : Location) : List Char :=
  "offset ".toList ++ natText l.offset ++ ", line ".toList ++ natText l.line

namespace Program

/-- Prints the body of an action, behind its name and its place. -/
def printAction (p : Program) (console : Console) (name : String) : Except Failure (List Char) := do
  match actionBody? name p.source, Kind.action.locate? name p.source with
  | some body, some place =>
    let head ← console.say
      (styled "cyan" ("action ".toList ++ console.escape name.toList) ++ " (".toList ++
        placeText place ++ [')'])
    return head ++ console.plain body.toList
  | _, _ =>
    console.say (styled "yellow" ("Action not found: ".toList ++ console.escape name.toList))

/-- Prints the place of a declaration. -/
def printPlace (p : Program) (console : Console) (kind name : String) :
    Except Failure (List Char) :=
  let declaration := console.escape kind.toList ++ ' ' :: console.escape name.toList
  match (Kind.ofName? kind).bind fun k => k.locate? name p.source with
  | some place => console.say (declaration ++ ": ".toList ++ placeText place)
  | none => console.say (styled "yellow" (declaration ++ " not found".toList))

/-- The record of a program. -/
def record (p : Program) : Except NumeralError Record :=
  programRecord p.path.text p.outline p.listing

/-- Prints the record or the description, if one of them is asked for. -/
def printReport (p : Program) (console : Console) (o : Options) : Except NumeralError (List Char) :=
  if o.json then p.record.map console.record
  else if (o.action.any (· ≠ "")) || o.locate.isSome || (o.explain.any (· ≠ "")) then .ok []
  else (description p.outline (some p.listing)).map fun text => console.plain text.toList

/-- The path to the page: the one that the options name, else the usual one in the directory that
the settings name. -/
def pagePath (p : Program) (site : Site) (named : String) : Except PathError Path :=
  if named ≠ "" then .ok (.ofText named)
  else
    match p.settings.getPath site "paths.out_dir" (.text "out") with
    | .ok directory =>
      .ok ((Path.ofText (directory.getD "")).under (.ofText "system_description.html"))
    | .error e => .error e

/-- Writes the page. -/
def writePage (p : Program) (console : Console) (site : Site) (named : String) :
    Except Failure (List Char × Site) := do
  let path ← (p.pagePath site named).mapError .path
  let text ← (page p.outline (some p.listing) p.path.name).mapError .numeral
  let place := path.resolve site.workDir
  match site.write? place.names (encode text) with
  | none => throw (.unwritable path.text)
  | some site =>
    let said ← console.say
      (styled "green" ("System description written to ".toList ++ console.escape place.text.toList))
    return (said, site)

/-- The settings of the language model of a run. -/
def modelSettings (p : Program) (o : Options) : Except NumberError ModelSettings := do
  let m ← ModelSettings.ofSettings p.settings
  match o.llmModel with
  | none | some "" => return m
  | some raw => return { m with rawModel := .text raw }

end Program

/-- Whether a run goes on to say why there is no explanation. -/
def ExplainError.isReported : ExplainError → Bool
  | .noErrorText | .scan _ | .numeral _ => true
  | .template _ | .pathNotText _ => false
  | .exchange e =>
    match e with
    | .noKey | .timedOut _ | .refused _ | .noText | .badValue _ => true
    | .modelNotText _ | .number _ | .crashed _ | .interrupted => false

/-- Prints the explanation of an error: the text, the code of the run, and what was sent. -/
def Program.printExplanation (p : Program) (platform : Platform) (site : Site)
    (o : Options) (reply : Reply) (error : String) : Except Failure (List Char × Nat × Session) :=
  do
  let console := platform.console
  let m ← (p.modelSettings o).mapError .number
  let _ ← m.model.mapError fun e => .explain (.exchange e)
  let head ← console.say ('\n' :: styled "bold green" "Explaining error...".toList)
  match explain platform.host site m {} reply {} error p.source (some p.outline) p.path.name with
  | (.ok answer, session) => return (head ++ console.plain answer, 0, session)
  | (.error (.exchange .interrupted), session) =>
    let said ← console.say ('\n' :: styled "yellow" "Interrupted.".toList)
    return (head ++ said, 130, session)
  | (.error e, session) =>
    if e.isReported then
      let said ← console.say
        (styled "red" ("Error explaining error: ".toList ++ console.escape e.message.toList))
      return (head ++ said, 1, session)
    else throw (.explain e)

/-- Prints and writes what the options ask for. -/
def Program.run (p : Program) (platform : Platform) (site : Site) (o : Options) (reply : Reply) :
    Except Failure Outcome := do
  let console := platform.console
  let action ←
    match o.action with | none | some "" => pure [] | some name => p.printAction console name
  let place ←
    match o.locate with | none => pure [] | some (kind, name) => p.printPlace console kind name
  let report ← (p.printReport console o).mapError .numeral
  let (written, site) ←
    match o.html with | none => pure ([], site) | some named => p.writePage console site named
  match o.explain with
  | none | some "" => return { code := 0, printed := action ++ place ++ report ++ written, site }
  | some error =>
    let (explanation, code, session) ← p.printExplanation platform site o reply error
    return { code, printed := action ++ place ++ report ++ written ++ explanation, site, session }

/-- A run with the arguments of a command line. The provider of the language model replies with
`reply`. -/
def run (platform : Platform) (site : Site) (reply : Reply) (arguments : List String) :
    Except Failure Outcome :=
  match Options.ofArguments arguments with
  | .error .help => .ok { code := 0, site }
  | .error .misuse => .ok { code := 2, site }
  | .ok o =>
    match Setup.ofOptions platform.documents site o with
    | .error (.refused reason) => do
      return { code := 1, printed := ← platform.console.say (reason.markup platform.console), site }
    | .error e => .error (.setup e)
    | .ok setup =>
      match Program.ofSetup setup with
      | .error e => .error (.scan e)
      | .ok p => p.run platform site o reply

end P4Outline

import P4Outline.Command.Language
import P4Outline.Command.Options
import P4Outline.Command.Platform
import P4Outline.Config.Access
import P4Outline.Config.Settings
import P4Outline.Outline.Scan

/-!
# Setting up a run

Before anything is scanned the settings are read, and the source has to be there and to be a P4
program. A run that is refused says why.
-/

namespace P4Outline

/-- Why a run is refused. -/
inductive Refusal where
  /-- The settings cannot be had. -/
  | settings (error : SettingsError)
  /-- There is no source at the path. -/
  | noSource (path : String)
  /-- The source is written in another language. -/
  | notProgram (name language : String)
  deriving DecidableEq, Repr

/-- What a run that is refused says. -/
def Refusal.markup (console : Console) : Refusal → List Char
  | .settings error =>
    styled "red" ("Error: could not load configuration: ".toList ++
      console.escape error.message.toList)
  | .noSource path =>
    styled "red" ("Error: source file does not exist: ".toList ++ console.escape path.toList)
  | .notProgram name language =>
    styled "red" ("Error: ".toList ++ console.escape name.toList ++
      " is not a P4 file (language: ".toList ++ console.escape language.toList ++ ").".toList)

/-- What a run is about. -/
structure Setup where
  settings : Settings
  /-- The path to the source. -/
  path : Path
  source : String
  deriving Inhabited

/-- Why there is no run at all. -/
inductive SetupError where
  /-- It is refused. -/
  | refused (reason : Refusal)
  /-- The settings are no well-formed text, or their reader fails. -/
  | settings (error : SettingsError)
  /-- The path to the source cannot be had. -/
  | path (error : PathError)
  deriving DecidableEq, Repr

/-- The wording of an error. -/
def SetupError.message : SetupError → String
  | .refused _ => "refused"
  | .settings error => error.message
  | .path error => error.message

/-- Whether an error about the settings is one that a run is refused for. -/
def SettingsError.isRefused : SettingsError → Bool
  | .notFound _ | .unreadable _ => true
  | .undecodable _ | .failed _ => false

/-- The language of the source: the one that the options name, if they name one, else the one that
its path tells. -/
def Options.languageOf (o : Options) (path : Path) : String :=
  let named :=
    match o.language with
    | none | some "" => P4Outline.languageOf path
    | some language => language
  String.ofList (Text.lower named.toList)

/-- Sets a run up. -/
def Setup.ofOptions (reader : DocumentReader) (site : Site) (o : Options) :
    Except SetupError Setup := do
  let settings ←
    match Settings.load reader site o.configFile none with
    | .ok settings => pure settings
    | .error e => throw (if e.isRefused then .refused (.settings e) else .settings e)
  let some path := (Path.ofText o.source).expandHome? site.home | throw (.path .noHome)
  let some content := site.read? path.text | throw (.refused (.noSource path.text))
  let language := o.languageOf path
  if language ≠ "p4" then throw (.refused (.notProgram path.name language))
  return { settings, path, source := String.ofList (fileTextLossy content) }

/-- How the settings want a source to be read. -/
def Reading.ofSettings (s : Settings) : Reading where
  layout := {
    splitStatements := s.isSet "extraction.split_statements" true
    stripComments := s.isSet "extraction.strip_comments" true }
  keyText :=
    match s.get "extraction.key_field_mode" .null with
    | .text name => .ofName name
    | _ => .verbatim

end P4Outline

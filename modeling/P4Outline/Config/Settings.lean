import P4Outline.Config.Document
import P4Outline.Config.Reference
import P4Outline.Config.Tree
import P4Outline.File.Site

/-!
# Settings

Settings are read from a base file, over which an optional second file is laid. References to the
environment are read after that, and last the variables of `overrides` replace the values that they
stand for.

A file that is named must be there. Without a name the settings of the working directory are taken,
else those that the program comes with.
-/

namespace P4Outline

open P4Outline.Text

/-- The variables that replace values, in the order in which they do, with the addresses of
those. -/
def overrides : List (String × String) :=
  [("OUT_DIR", "paths.out_dir"),
   ("EXPLAIN_PROMPT_FILE_PATH", "paths.explain_prompt_file_path"),
   ("LLM_API_KEY", "llm.llm_api_key"),
   ("LLM_MODEL", "llm.model"),
   ("LLM_MAX_TOKENS", "llm.max_tokens"),
   ("LLM_TEMPERATURE", "llm.temperature"),
   ("LLM_TIMEOUT", "llm.timeout"),
   ("LLM_MAX_RETRIES", "llm.max_retries"),
   ("P4_SPLIT_STATEMENTS", "extraction.split_statements"),
   ("P4_STRIP_COMMENTS", "extraction.strip_comments"),
   ("P4_KEY_FIELD_MODE", "extraction.key_field_mode"),
   ("LOG_LEVEL", "logging.level"),
   ("DEBUG", "logging.debug")]

/-- The names under which settings are looked for in a directory. -/
def settingsNames : List String := ["global_config.yaml", "config/global_config.yaml"]

/-- The settings that the program comes with. -/
def shippedSettings : String :=
"# P4 Structure Lens: global configuration
# Values support $\x7bENV_VAR\x7d and $\x7bENV_VAR:-default\x7d interpolation.
# Environment variables (LLM_API_KEY, LLM_MODEL, LOG_LEVEL, ...) override these values.

paths:
  out_dir: ./out
  # explain_prompt_file_path: prompts/explain_error.md

extraction:
  split_statements: true
  strip_comments: true
  key_field_mode: verbatim   # verbatim | field

llm:
  model: anthropic::claude-sonnet-4-20250514
  llm_api_key: $\x7bLLM_API_KEY:-\x7d
  max_tokens: 2048
  temperature: 0.1
  timeout: 60
  max_retries: 0
  max_prompt_tokens: 50000

logging:
  level: INFO
  debug: false
"

/-- Why settings cannot be had. -/
inductive SettingsError where
  /-- A file that was named is not there. -/
  | notFound (file : String)
  /-- A file is not a well-formed document. -/
  | unreadable (file : String)
  /-- A file is not well-formed text. -/
  | undecodable (file : String)
  /-- The reader of documents fails in another way. -/
  | failed (message : String)
  deriving DecidableEq, Repr

/-- The wording of an error. -/
def SettingsError.message : SettingsError → String
  | .notFound file => "Config file not found: " ++ file
  | .unreadable file => "Failed to load YAML config '" ++ file ++ "'"
  | .undecodable file => file ++ " is not well-formed text"
  | .failed message => message

/-- The settings of a run. -/
structure Settings where
  /-- The file that they come from. -/
  file : String
  entries : Entries
  deriving Inhabited

namespace Settings

/-- The entries of the document in a file whose root is a mapping; none of any other. -/
def readEntries (reader : DocumentReader) (file : String) (content : List UInt8) :
    Except SettingsError Entries :=
  match reader content with
  | .ok (.map entries) => .ok entries
  | .ok _ => .ok []
  | .error .malformed => .error (.unreadable file)
  | .error .undecodable => .error (.undecodable file)
  | .error (.failed message) => .error (.failed message)

/-- The settings of the working directory: the text of the path to their file, and its content. -/
def discover? (site : Site) : Option (String × List UInt8) :=
  settingsNames.findSome? fun name =>
    let path := ((Path.mk "/" site.workDir).under (.ofText name)).text
    (site.read? path).map fun content => (path, content)

/-- The settings that the program comes with: the text of the path to their file, and its
content. -/
def shipped (site : Site) : String × List UInt8 :=
  ((site.projectRoot.under (.ofText "global_config.yaml")).text, encode shippedSettings)

/-- The base file: the one that is named, if the name is not empty, else the one that is found. -/
def baseFile (site : Site) (file : Option String) : Except SettingsError (String × List UInt8) :=
  match file with
  | none | some "" => .ok ((discover? site).getD (shipped site))
  | some name =>
    match site.read? name with
    | some content => .ok (name, content)
    | none => .error (.notFound name)

/-- The entries of a file to be laid over the base, if it is there. -/
def overlayEntries (reader : DocumentReader) (site : Site) (file : Option String) :
    Except SettingsError Entries :=
  match file with
  | none | some "" => .ok []
  | some name =>
    match site.read? name with
    | some content => readEntries reader name content
    | none => .ok []

/-- The entries with the variables of an environment in place of the values that they stand for. -/
def applyOverrides (valueOf? : String → Option String) (entries : Entries) : Entries :=
  overrides.foldl (fun es (name, address) =>
    match valueOf? name with
    | some value => es.put (.text value) (keysOfAddress address)
    | none => es) entries

/-- Reads settings: the base file, the file laid over it, the references to the environment, and the
overrides. -/
def load (reader : DocumentReader) (site : Site) (file overlay : Option String) :
    Except SettingsError Settings := do
  let (name, content) ← baseFile site file
  let base ← readEntries reader name content
  let upper ← overlayEntries reader site overlay
  let merged := Value.expandEntries site.valueOf? (Entries.overlay base upper)
  return ⟨name, applyOverrides site.valueOf? merged⟩

end Settings

end P4Outline

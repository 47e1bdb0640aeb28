import P4Outline.Config.Access

/-!
# Settings of the language model

Which model answers, who pays, and how long questions and answers may be.
-/

namespace P4Outline

open P4Outline.Text

/-- The model that is asked unless another one is named. -/
def defaultModel : String := "anthropic::claude-sonnet-4-20250514"

/-- The settings of the language model. -/
structure ModelSettings where
  /-- The name of the model, behind that of its provider and two colons or alone. -/
  rawModel : Value := .text defaultModel
  /-- The key of the account; what does not count as something is none. -/
  apiKey : Value := .null
  /-- The most tokens of an answer. -/
  maxTokens : Int := 2048
  temperature : Binary64 := .ofDecimal false 1 (-1)
  /-- How many seconds an answer may take. -/
  timeout : Int := 60
  maxRetries : Int := 0
  /-- The most tokens of a source in a question. -/
  maxPromptTokens : Int := 50000
  /-- The path to a template for questions. -/
  promptFile : Value := .null
  deriving Inhabited

/-- The name of a model without that of its provider. -/
def modelName (rawModel : List Char) : List Char :=
  match cut? [':', ':'] rawModel with
  | some (_, name) => trim name
  | none => trim rawModel

/-- The most tokens of an answer by the family of a model; the first family that its name holds
counts. -/
def answerLimits : List (String × Int) :=
  [("claude-sonnet", 64000), ("claude-haiku", 64000), ("claude-opus", 32000)]

/-- The most tokens of an answer of a model of no known family. -/
def defaultAnswerLimit : Int := 16384

/-- The most tokens of an answer of a model. -/
def answerLimit (model : List Char) : Int :=
  ((answerLimits.find? fun (family, _) => holdsText family.toList (lower model)).map (·.2)).getD
    defaultAnswerLimit

/-- A number of tokens, brought down to the most that a model answers with. -/
def clampTokens (model : List Char) (requested : Int) : Int := min requested (answerLimit model)

/-- The whole number at an address. -/
def Settings.intAt (s : Settings) (address : String) (default : Int) : Except NumberError Int :=
  (s.get address (.int default)).toInt.map (·.getD default)

/-- A value if it counts as something, else another one. -/
def Value.orElse (v w : Value) : Value := if v.isTruthy then v else w

/-- The settings of the language model among the settings of a run. -/
def ModelSettings.ofSettings (s : Settings) : Except NumberError ModelSettings := do
  let defaults : ModelSettings := {}
  let maxTokens ← s.intAt "llm.max_tokens" defaults.maxTokens
  let temperature ← (s.get "llm.temperature" (.float defaults.temperature)).toFloat
  let timeout ← s.intAt "llm.timeout" defaults.timeout
  let maxRetries ← s.intAt "llm.max_retries" defaults.maxRetries
  let maxPromptTokens ← s.intAt "llm.max_prompt_tokens" defaults.maxPromptTokens
  return {
    rawModel := (s.get "llm.model" .null).orElse defaults.rawModel
    apiKey := (s.get "llm.llm_api_key" .null).orElse .null
    maxTokens
    temperature := temperature.getD defaults.temperature
    timeout
    maxRetries
    maxPromptTokens
    promptFile := s.get "paths.explain_prompt_file_path" .null }

end P4Outline

import P4Outline.Assistant.ModelSettings

/-!
# Asking the language model

A session records what was sent to the provider: the clients that were set up, and the requests. A
client is set up for the first question, and only if there is a key. What the provider replies is
given from outside.
-/

namespace P4Outline

open P4Outline.Text

/-- A client of the provider. -/
structure Client where
  apiKey : Value
  timeout : Binary64
  maxRetries : Int
  deriving Inhabited

/-- A request to the provider. -/
structure Request where
  model : List Char
  maxTokens : Int
  temperature : Binary64
  timeout : Binary64
  prompt : List Char
  /-- The standing instruction, if there is one. -/
  system : Option (List Char)
  deriving DecidableEq, Inhabited

/-- What was sent to the provider. -/
structure Session where
  clients : List Client := []
  requests : List Request := []
  deriving Inhabited

/-- What the provider replies. -/
inductive Reply where
  /-- An answer in blocks, some of which have a text. -/
  | blocks (texts : List (Option String))
  /-- None in time. -/
  | timeout
  /-- A refusal. -/
  | refusal (message : String)
  /-- A complaint about a value that the client was given. -/
  | badValue (message : String)
  /-- A failure of the client itself. -/
  | crash (message : String)
  /-- The user stops waiting. -/
  | interrupt
  deriving DecidableEq, Repr, Inhabited

/-- Why a question has no answer. -/
inductive ExchangeError where
  /-- The name of the model is no text but of this kind. -/
  | modelNotText (kind : String)
  /-- A setting lies beyond its numbers. -/
  | number (error : NumberError)
  /-- There is no key. -/
  | noKey
  /-- The provider did not reply within so many seconds. -/
  | timedOut (seconds : Int)
  /-- The provider refused. -/
  | refused (message : String)
  /-- The reply holds no text. -/
  | noText
  /-- The client was given a bad value. -/
  | badValue (message : String)
  /-- The client failed. -/
  | crashed (message : String)
  /-- The user stopped waiting. -/
  | interrupted
  deriving DecidableEq, Repr

/-- The wording of an error. -/
def ExchangeError.message : ExchangeError → String
  | .modelNotText kind => "'" ++ kind ++ "' object has no attribute 'split'"
  | .number error => error.message
  | .noKey => "No Anthropic API key configured (LLM_API_KEY / llm.llm_api_key)."
  | .timedOut seconds =>
    "Anthropic API call timed out after " ++ String.ofList (intText seconds) ++ "s"
  | .refused message => "Anthropic API call failed: " ++ message
  | .noText => "Anthropic API returned no text content"
  | .badValue message => message
  | .crashed message => message
  | .interrupted => "interrupted"

/-- The name of the model that is asked. -/
def ModelSettings.model (m : ModelSettings) : Except ExchangeError (List Char) :=
  match m.rawModel with
  | .text raw => .ok (modelName raw.toList)
  | v => .error (.modelNotText v.kindName)

/-- A text if it is not empty. -/
def nonEmpty? (cs : List Char) : Option (List Char) := if cs.isEmpty then none else some cs

/-- The request for a question. -/
def ModelSettings.request (m : ModelSettings) (prompt : List Char) (system : Option (List Char)) :
    Except ExchangeError Request := do
  let model ← m.model
  match Binary64.ofInt? m.timeout with
  | none => .error (.number .tooLarge)
  | some timeout =>
    return { model, maxTokens := clampTokens model m.maxTokens, temperature := m.temperature,
             timeout, prompt, system := system.bind nonEmpty? }

/-- The answer in a reply. -/
def Reply.answer (timeout : Int) : Reply → Except ExchangeError (List Char)
  | .blocks texts =>
    let answer := join ['\n'] ((texts.filterMap (·.bind fun t => nonEmpty? t.toList)))
    if answer.isEmpty then .error .noText else .ok answer
  | .timeout => .error (.timedOut timeout)
  | .refusal message => .error (.refused message)
  | .badValue message => .error (.badValue message)
  | .crash message => .error (.crashed message)
  | .interrupt => .error .interrupted

/-- Sends a request. The first one of a session sets up its client. -/
def Session.send (s : Session) (m : ModelSettings) (request : Request) : Session where
  clients := if s.clients.isEmpty then [⟨m.apiKey, request.timeout, m.maxRetries⟩] else s.clients
  requests := s.requests ++ [request]

/-- Asks a question in a session, to which the provider replies with `reply`. -/
def ModelSettings.ask (m : ModelSettings) (s : Session) (reply : Reply) (prompt : List Char)
    (system : Option (List Char)) : Except ExchangeError (List Char) × Session :=
  match m.request prompt system with
  | .error e => (.error e, s)
  | .ok request =>
    if s.clients.isEmpty && !m.apiKey.isTruthy then (.error .noKey, s)
    else (reply.answer m.timeout, s.send m request)

/-- An answer as it is shown: without white space at its ends, and with a remark if there is
none. -/
def shownAnswer : Option (List Char) → List Char
  | none => "No response.".toList
  | some answer => trim answer

end P4Outline

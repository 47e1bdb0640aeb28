import Mathlib.Data.List.Forall2
import Mathlib.Data.List.ReduceOption
import P4Outline.Assistant.Exchange

/-!
# Many questions in one session

Questions are asked one after the other in one session. What the session keeps from one question to
the next is its client, and a reply that brings no answer leaves that as it is.

* `Reply.yields_answer`: what a reply comes to.
* `ModelSettings.exists_request`: what is sent for a question.
* `ModelSettings.ask_of_key`, `ModelSettings.ask_of_noKey`: one question.
* `ModelSettings.askAll_of_key`, `ModelSettings.askAll_of_noKey`: question after question.
* `ModelSettings.session_of_askAll`: a session from its start.
-/

namespace P4Outline

open P4Outline.Text

/-- A question to the provider, and what the provider replies to it. -/
structure Turn where
  prompt : List Char
  system : Option (List Char)
  reply : Reply

/-- Asks questions one after the other: the answers, and the session behind the last one. -/
def ModelSettings.askAll (m : ModelSettings) (s : Session) :
    List Turn → List (Except ExchangeError (List Char)) × Session
  | [] => ([], s)
  | turn :: turns =>
    let (answer, next) := m.ask s turn.reply turn.prompt turn.system
    let (answers, last) := m.askAll next turns
    (answer :: answers, last)

/-- The texts of blocks, without the empty ones. -/
def blockTexts (blocks : List (Option String)) : List String := blocks.reduceOption.filter (· ≠ "")

/-- Whether a reply comes to this answer or error, where `timeout` seconds were waited for it. -/
inductive Reply.Yields (timeout : Int) : Reply → Except ExchangeError (List Char) → Prop
  | text {blocks : List (Option String)} (h : blockTexts blocks ≠ []) :
      Yields timeout (.blocks blocks) (.ok ("\n".intercalate (blockTexts blocks)).toList)
  | noText {blocks : List (Option String)} (h : blockTexts blocks = []) :
      Yields timeout (.blocks blocks) (.error .noText)
  | timedOut : Yields timeout .timeout (.error (.timedOut timeout))
  | refused (message : String) : Yields timeout (.refusal message) (.error (.refused message))
  | badValue (message : String) : Yields timeout (.badValue message) (.error (.badValue message))
  | crashed (message : String) : Yields timeout (.crash message) (.error (.crashed message))
  | interrupted : Yields timeout .interrupt (.error .interrupted)

/-- Whether a request is the one for a question: with its prompt, with its standing instruction
unless that is empty, and for no more tokens than are set and than the model answers with. -/
structure Turn.SentAs (m : ModelSettings) (turn : Turn) (r : Request) : Prop where
  prompt : r.prompt = turn.prompt
  system : r.system = turn.system.filter (· ≠ [])
  maxTokens_le : r.maxTokens ≤ m.maxTokens
  maxTokens_le_answerLimit : r.maxTokens ≤ answerLimit r.model
  model : m.model = .ok r.model
  temperature : r.temperature = m.temperature
  timeout : Binary64.ofInt? m.timeout = some r.timeout

/-! ### Replies -/

theorem filterMap_nonEmpty? (blocks : List (Option String)) :
    blocks.filterMap (·.bind fun t => nonEmpty? t.toList) =
      (blockTexts blocks).map String.toList := by
  induction blocks with
  | nil => rfl
  | cons block blocks ih =>
    cases block with
    | none => exact ih
    | some t =>
      rw [blockTexts, List.reduceOption_cons_of_some, List.filter_cons, List.filterMap_cons, ih,
        blockTexts]
      by_cases ht : t = "" <;> simp [ht, nonEmpty?]

theorem join_eq_intercalate (sep : List Char) (ts : List (List Char)) :
    join sep ts = sep.intercalate ts := by
  induction ts with
  | nil => rfl
  | cons t ts ih =>
    cases ts with
    | nil => simp [join]
    | cons u us => rw [join_cons (by simp), ih, List.intercalate_cons_cons]

theorem join_blockTexts (blocks : List (Option String)) :
    join ['\n'] (blocks.filterMap (·.bind fun t => nonEmpty? t.toList)) =
      ("\n".intercalate (blockTexts blocks)).toList := by
  rw [filterMap_nonEmpty?, join_eq_intercalate, String.toList_intercalate]
  rfl

/-- A reply in blocks is empty if and only if no block has a text. -/
theorem intercalate_blockTexts_eq_nil_iff (blocks : List (Option String)) :
    ("\n".intercalate (blockTexts blocks)).toList = [] ↔ blockTexts blocks = [] := by
  constructor
  · intro h
    cases hb : blockTexts blocks with
    | nil => rfl
    | cons t ts =>
      -- texts that are empty were left out, so that any text makes the answer one
      have ht : t ≠ "" := by
        have hmem : t ∈ blockTexts blocks := by rw [hb]; exact List.mem_cons_self
        simpa using (List.mem_filter.1 hmem).2
      rw [hb] at h
      cases ts with
      | nil => simp [ht] at h
      | cons u us => simp [String.toList_intercalate, ht] at h
  · intro h
    rw [h]
    rfl

/-- What a reply comes to hangs on nothing but the reply and the time that was waited. -/
theorem Reply.yields_answer (timeout : Int) (reply : Reply) :
    reply.Yields timeout (reply.answer timeout) := by
  cases reply with
  | blocks blocks =>
    rw [Reply.answer, join_blockTexts]
    by_cases hb : blockTexts blocks = []
    · rw [if_pos (by simp [(intercalate_blockTexts_eq_nil_iff blocks).2 hb])]
      exact .noText hb
    · have hne : ¬ ("\n".intercalate (blockTexts blocks)).toList.isEmpty := by
        simpa using fun h => hb ((intercalate_blockTexts_eq_nil_iff blocks).1 (by simpa using h))
      rw [if_neg hne]
      exact .text hb
  | timeout => exact .timedOut
  | refusal message => exact .refused message
  | badValue message => exact .badValue message
  | crash message => exact .crashed message
  | interrupt => exact .interrupted

/-! ### Requests -/

section Settings

variable {m : ModelSettings} {raw : String} (hmodel : m.rawModel = .text raw) {timeout : Binary64}
  (htimeout : Binary64.ofInt? m.timeout = some timeout)

include hmodel htimeout

/-- For every question there is a request. -/
theorem ModelSettings.exists_request (turn : Turn) :
    ∃ r, m.request turn.prompt turn.system = .ok r ∧ turn.SentAs m r := by
  have hname : m.model = .ok (modelName raw.toList) := by rw [ModelSettings.model, hmodel]
  have hsystem : turn.system.bind nonEmpty? = turn.system.filter (· ≠ []) := by
    cases turn.system with
    | none => rfl
    | some system => cases system <;> rfl
  refine ⟨⟨modelName raw.toList, clampTokens (modelName raw.toList) m.maxTokens, m.temperature,
    timeout, turn.prompt, turn.system.bind nonEmpty?⟩, ?_, ?_⟩
  · rw [ModelSettings.request, hname]
    dsimp only [bind, Except.bind]
    rw [htimeout]
    rfl
  · exact ⟨rfl, hsystem, Int.min_le_left _ _, Int.min_le_right _ _, hname, rfl, htimeout⟩

/-! ### One question -/

/-- With a key the question is sent, and the answer is that of its reply. -/
theorem ModelSettings.ask_of_key (hkey : m.apiKey.isTruthy = true) (s : Session) (turn : Turn) :
    ∃ r, turn.SentAs m r ∧
      m.ask s turn.reply turn.prompt turn.system = (turn.reply.answer m.timeout, s.send m r) := by
  obtain ⟨r, hr, hsent⟩ := ModelSettings.exists_request hmodel htimeout turn
  refine ⟨r, hsent, ?_⟩
  rw [ModelSettings.ask, hr]
  dsimp only
  rw [hkey, Bool.not_true, Bool.and_false, if_neg Bool.false_ne_true]

/-- Without a key nothing is sent. -/
theorem ModelSettings.ask_of_noKey (hkey : m.apiKey.isTruthy = false) (turn : Turn) :
    m.ask {} turn.reply turn.prompt turn.system = (.error .noKey, {}) := by
  obtain ⟨r, hr, -⟩ := ModelSettings.exists_request hmodel htimeout turn
  rw [ModelSettings.ask, hr]
  dsimp only
  rw [hkey]
  rfl

/-! ### Question after question -/

/-- With a key every question is sent once, in order, and the client is set up with the first one,
unless there is one. -/
theorem ModelSettings.askAll_of_key (hkey : m.apiKey.isTruthy = true) (s : Session)
    (turns : List Turn) :
    ∃ sent, (m.askAll s turns).2.requests = s.requests ++ sent ∧
      List.Forall₂ (Turn.SentAs m) turns sent ∧
      (m.askAll s turns).2.clients =
        (if s.clients = [] ∧ turns ≠ [] then [⟨m.apiKey, timeout, m.maxRetries⟩] else s.clients) ∧
      List.Forall₂ (fun turn answer => turn.reply.Yields m.timeout answer) turns
        (m.askAll s turns).1 := by
  induction turns generalizing s with
  | nil => exact ⟨[], by simp [askAll], .nil, by simp [askAll], .nil⟩
  | cons turn turns ih =>
    obtain ⟨r, hsent, hask⟩ := ModelSettings.ask_of_key hmodel htimeout hkey s turn
    obtain ⟨sent, hrequests, hsents, hclients, hanswers⟩ := ih (s.send m r)
    rw [askAll, hask]
    refine ⟨r :: sent, ?_, .cons hsent hsents, ?_,
      .cons (turn.reply.yields_answer m.timeout) hanswers⟩
    · simpa [Session.send] using hrequests
    · -- behind the first question there is a client, so that none is set up for the others
      have hset : (s.send m r).clients ≠ [] := by
        rw [Session.send]
        split <;> simp_all
      rw [if_neg (by simp [hset])] at hclients
      refine hclients.trans ?_
      have ht : r.timeout = timeout := Option.some.inj (hsent.timeout.symm.trans htimeout)
      rw [Session.send, ht]
      by_cases hs : s.clients = [] <;> simp [hs]

theorem ModelSettings.askAll_of_noKey (hkey : m.apiKey.isTruthy = false) (turns : List Turn) :
    m.askAll {} turns = (turns.map fun _ => .error .noKey, {}) := by
  induction turns with
  | nil => rfl
  | cons turn turns ih =>
    rw [askAll, ModelSettings.ask_of_noKey hmodel htimeout hkey]
    dsimp only
    rw [ih, List.map_cons]

/-- A session of any questions and replies. With a key the client is set up with the first question
and never again; one request is sent for every question, in order, whatever came of those before;
and every answer is that of its own reply. Without a key nothing is sent, and no question has an
answer. -/
theorem ModelSettings.session_of_askAll (turns : List Turn) :
    (m.apiKey.isTruthy = true →
      (m.askAll {} turns).2.clients = (if turns = [] then []
        else [⟨m.apiKey, timeout, m.maxRetries⟩]) ∧
        List.Forall₂ (Turn.SentAs m) turns (m.askAll {} turns).2.requests ∧
          List.Forall₂ (fun turn answer => turn.reply.Yields m.timeout answer) turns
            (m.askAll {} turns).1) ∧
    (m.apiKey.isTruthy = false →
      (m.askAll {} turns).2.clients = [] ∧ (m.askAll {} turns).2.requests = [] ∧
        (m.askAll {} turns).1 = turns.map fun _ => .error .noKey) := by
  refine ⟨fun hkey => ?_, fun hkey => ?_⟩
  · obtain ⟨sent, hrequests, hsent, hclients, hanswers⟩ :=
      ModelSettings.askAll_of_key hmodel htimeout hkey {} turns
    have hempty : ({} : Session).clients = [] := rfl
    refine ⟨?_, ?_, hanswers⟩
    · rw [hclients]
      by_cases hturns : turns = [] <;> simp [hturns]
    · rw [hrequests]
      exact hsent
  · rw [ModelSettings.askAll_of_noKey hmodel htimeout hkey]
    exact ⟨rfl, rfl, rfl⟩

end Settings

/-- Settings with a key. -/
def keyedSettings : ModelSettings := { apiKey := .text "k" }

/-- A question that is not answered in time, one that is answered in two of four blocks, and one
without an answer. -/
def troubledTurns : List Turn :=
  [⟨"a".toList, some "be brief".toList, .timeout⟩,
    ⟨"b".toList, some [], .blocks [some "x", none, some "", some "y"]⟩,
    ⟨"c".toList, none, .blocks [none]⟩]

theorem ModelSettings.session_of_troubledTurns : keyedSettings.rawModel = .text defaultModel ∧
    Binary64.ofInt? keyedSettings.timeout = some (.finite false 8444249301319680 (-47)) ∧
    keyedSettings.apiKey.isTruthy = true ∧
    (keyedSettings.askAll {} troubledTurns).2.clients =
    [⟨.text "k", .finite false 8444249301319680 (-47), 0⟩] ∧
    List.Forall₂ (Turn.SentAs keyedSettings) troubledTurns
      (keyedSettings.askAll {} troubledTurns).2.requests ∧
    List.Forall₂ (fun turn answer => turn.reply.Yields 60 answer) troubledTurns
      (keyedSettings.askAll {} troubledTurns).1 := by
  have hmodel : keyedSettings.rawModel = .text defaultModel := rfl
  have htimeout : Binary64.ofInt? keyedSettings.timeout =
    some (.finite false 8444249301319680 (-47)) := by decide
  exact ⟨hmodel, htimeout, rfl,
    (ModelSettings.session_of_askAll hmodel htimeout troubledTurns).1 rfl⟩

end P4Outline

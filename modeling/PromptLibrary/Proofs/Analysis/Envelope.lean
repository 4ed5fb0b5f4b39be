import PromptLibrary.Analysis
/-!
# Envelopes and calls

What an envelope tells has to fit with what was done: whether the template was rendered, whether a
client was called, with what, and what it answered.

* `runs_analyze` — everything that an analysis can do, in five cases;
* `recording` — a client that notes its calls, so that they can be counted;
* `analyze_consistent` — the envelope of an analysis and the calls that it made.
-/

namespace PromptLibrary.Proofs.Analysis.Envelope

open PromptLibrary.Analysis

variable {σ : Type} {settings : Settings} {now : Text} {tree : Tree} {store : Store} {q : Inquiry}
  {client : Option (Client σ)} {service : σ} {reply : Model.Reply} {prompt : Text}

/-! ## What an analysis does -/

/-- Whether an envelope tells that a template could not be rendered. -/
def isTold : LookupError → Bool
  | .load e => e.isTold
  | .notFound _ => true

/-- What comes of rendering, the outcome of the analysis and the state of the service afterwards. -/
inductive Runs (settings : Settings) (now : Text) (q : Inquiry) (client : Option (Client σ))
    (service : σ) :
    Except LookupError Text → Except AnalysisError Envelope → σ → Prop where
  | untold {e : LoadError} (h : e.isTold = false) :
      Runs settings now q client service (.error (.load e)) (.error (.load e)) service
  | unavailable {cause : LookupError} (h : isTold cause = true) :
      Runs settings now q client service (.error cause)
        (.ok (unavailable q.key cause.message)) service
  | unsent {prompt : Text} (h : client = none) :
      Runs settings now q client service (.ok prompt) (.ok (rendered now q.key prompt)) service
  | unanswered {prompt message : Text} {c : Client σ} {service' : σ} (h : client = some c)
      (hcall : (c prompt (q.modelOr settings) (q.maxTokensOr settings)).run service =
        (.error message, service')) :
      Runs settings now q client service (.ok prompt)
        (.ok (unanswered now q.key prompt message)) service'
  | answered {prompt : Text} {reply : Model.Reply} {c : Client σ} {service' : σ}
      (h : client = some c)
      (hcall : (c prompt (q.modelOr settings) (q.maxTokensOr settings)).run service =
        (.ok reply, service')) :
      Runs settings now q client service (.ok prompt) (answered now q.key prompt reply) service'

theorem runs_send {c : Client σ} (h : client = some c) :
    Runs settings now q client service (.ok prompt)
      ((send settings now q c prompt).run service).1
      ((send settings now q c prompt).run service).2 := by
  unfold send
  simp only [StateT.run_bind]
  generalize hcall : (c prompt (q.modelOr settings) (q.maxTokensOr settings)).run service = outcome
  obtain ⟨answer, service'⟩ := outcome
  cases answer with
  | error message => exact .unanswered h hcall
  | ok reply => exact .answered h hcall

/-- **An analysis does one of five things**, told by what comes of rendering and by the client. -/
theorem runs_analyze (settings : Settings) (now : Text) (tree : Tree) (store : Store) (q : Inquiry)
    (client : Option (Client σ)) (service : σ) :
    Runs settings now q client service (store.render tree q.key q.values).1
      ((analyze settings now tree store q client).run service).1.1
      ((analyze settings now tree store q client).run service).2 := by
  unfold analyze
  generalize store.render tree q.key q.values = rendering
  obtain ⟨result, after⟩ := rendering
  cases result with
  | error cause =>
    cases cause with
    | notFound key => exact .unavailable rfl
    | load e =>
      simp only
      by_cases h : e.isTold = true
      · rw [if_pos h]
        exact .unavailable h
      · rw [if_neg h]
        exact .untold (Bool.eq_false_iff.2 h)
  | ok prompt =>
    cases client with
    | none => exact .unsent rfl
    | some c => exact runs_send rfl

/-! ## Calls -/

/-- A call of a client. -/
structure Call where
  prompt : Text
  model : String
  maxTokens : Int
  deriving DecidableEq

/-- A client that answers as another one does and notes the calls, the last one last. -/
def recording (client : Client σ) : Client (σ × List Call) :=
  fun prompt model maxTokens (service, calls) =>
    let (answer, service) := (client prompt model maxTokens).run service
    (answer, service, calls ++ [⟨prompt, model, maxTokens⟩])

/-- The call that an inquiry is to make: what is missing or empty in it is taken from the
settings. -/
structure Requested (settings : Settings) (q : Inquiry) (prompt : Text) (call : Call) : Prop where
  prompt : call.prompt = prompt
  model : ∀ name, q.model = some name → name ≠ "" → call.model = name
  usualModel : q.model = none ∨ q.model = some "" → call.model = Model.modelOf settings
  maxTokens : ∀ n, q.maxTokens = some n → n ≠ 0 → call.maxTokens = n
  usualMaxTokens : q.maxTokens = none ∨ q.maxTokens = some 0 → call.maxTokens = settings.maxTokens

theorem requested : Requested settings q prompt
    ⟨prompt, q.modelOr settings, q.maxTokensOr settings⟩ where
  prompt := rfl
  model name h hne := by
    simp [Inquiry.modelOr, Settings.orUsual, h, hne]
  usualModel h := by
    rcases h with h | h <;> simp [Inquiry.modelOr, Settings.orUsual, h]
  maxTokens n h hne := by
    simp [Inquiry.maxTokensOr, h, hne]
  usualMaxTokens h := by
    rcases h with h | h <;> simp [Inquiry.maxTokensOr, h]

/-! ## What an envelope tells -/

/-- The metadata tell the time, and of a reply the model, and the usage if there is any. -/
structure Describes (now : Text) (reply : Option Model.Reply) (metadata : Mapping Value) :
    Prop where
  time : metadata.get? (Text.ofString "produced_at") = some (.string now)
  model : metadata.get? (Text.ofString "model") = reply.map (·.model)
  usage : ∀ v, metadata.get? (Text.ofString "usage") = some v ↔
    ∃ counts, reply.bind (·.usage) = some counts ∧ counts ≠ [] ∧ v = .object counts

/-- A template that was not rendered: only the reason is told. -/
structure Unrendered (cause : LookupError) (e : Envelope) (calls : List Call) : Prop where
  success : e.success = false
  prompt : e.prompt = none
  response : e.response = none
  error : e.error = some cause.message
  metadata : e.metadata = []
  calls : calls = []

/-- A prompt that was not sent. -/
structure Unsent (now text : Text) (e : Envelope) (calls : List Call) : Prop where
  success : e.success = true
  prompt : e.prompt = some text
  response : e.response = none
  metadata : Describes now none e.metadata
  calls : calls = []

/-- What is told of the answer to a call. -/
def Tells (now : Text) (e : Envelope) : Except Text Model.Reply → Prop
  | .error message =>
    e.success = false ∧ e.error = some (Text.ofString "LLM call failed: " ++ message) ∧
      e.response = none ∧ Describes now none e.metadata
  | .ok reply =>
    e.success = true ∧ (∀ t, reply.text = .string t → e.response = some t) ∧
      Describes now (some reply) e.metadata

/-- A prompt that was sent once, with the answer to the call. -/
structure Sent (settings : Settings) (now : Text) (q : Inquiry) (text : Text) (c : Client σ)
    (service : σ) (e : Envelope) (calls : List Call) : Prop where
  prompt : e.prompt = some text
  once : ∃ call, calls = [call] ∧ Requested settings q text call
  answer : ∀ call ∈ calls,
    Tells now e ((c call.prompt call.model call.maxTokens).run service).1

/-- What an envelope and the calls have to be, from what comes of rendering and the client. -/
structure Consistent (settings : Settings) (now : Text) (q : Inquiry)
    (rendering : Except LookupError Text) (client : Option (Client σ)) (service : σ)
    (e : Envelope) (calls : List Call) : Prop where
  key : e.templateKey = q.key
  flag : e.success = true ↔ e.error = none
  unrendered : ∀ cause, rendering = .error cause → Unrendered cause e calls
  unsent : ∀ prompt, rendering = .ok prompt → client = none → Unsent now prompt e calls
  sent : ∀ prompt c, rendering = .ok prompt → client = some c →
    Sent settings now q prompt c service e calls

/-! ## Metadata -/

theorem describes_produced : Describes now none (produced now) where
  time := rfl
  model := rfl
  usage v := by
    have hnone : (produced now).get? (Text.ofString "usage") = none := rfl
    simp [hnone]

theorem get?_usage : Mapping.get? (Text.ofString "usage") (produced now ++ replyMetadata reply) =
    match reply.usage with
    | none => none
    | some [] => none
    | some (count :: counts) => some (.object (count :: counts)) := by
  unfold replyMetadata
  rcases reply.usage with _ | _ | ⟨count, counts⟩ <;> rfl

theorem describes_reply : Describes now (some reply) (produced now ++ replyMetadata reply) where
  time := rfl
  model := rfl
  usage v := by
    rw [get?_usage]
    rcases husage : reply.usage with _ | _ | ⟨count, counts⟩ <;> simp [husage, eq_comm]

/-! ## The envelope of an analysis -/

/-- A prompt that was sent leaves what the answer to its call settles. -/
theorem consistent_of_call {c : Client σ} {e : Envelope} {answer : Except Text Model.Reply}
    {rest : σ × List Call} (hkey : e.templateKey = q.key)
    (hflag : e.success = true ↔ e.error = none) (hprompt : e.prompt = some prompt)
    (hcall : (recording c prompt (q.modelOr settings) (q.maxTokensOr settings)).run (service, []) =
      (answer, rest))
    (htells : Tells now e answer) :
    Consistent settings now q (.ok prompt) (some c) service e rest.2 := by
  obtain ⟨rfl, rfl⟩ := Prod.mk.inj hcall
  refine ⟨hkey, hflag, fun _ h => (nomatch h), fun _ _ h => (nomatch h), fun text other ht ho => ?_⟩
  obtain rfl := Except.ok.inj ht
  obtain rfl := Option.some.inj ho
  refine ⟨hprompt, ⟨_, rfl, requested⟩, fun call hmem => ?_⟩
  rw [List.mem_singleton.1 hmem]
  exact htells

/-- The envelope of a reply that gives a response. -/
def replied (now key prompt : Text) (reply : Model.Reply) (response : Option Text) : Envelope :=
  { success := true, templateKey := key, prompt := some prompt, response,
    metadata := produced now ++ replyMetadata reply }

theorem answered_eq_ok_iff {key : Text} {e : Envelope} :
    answered now key prompt reply = .ok e ↔
      ∃ response, e = replied now key prompt reply response ∧
        reply.text = (response.map Value.string).getD .null := by
  constructor
  · intro h
    unfold answered at h
    split at h
    · next htext => exact ⟨none, (Except.ok.inj h).symm, htext⟩
    · next t htext => exact ⟨some t, (Except.ok.inj h).symm, htext⟩
    · exact nomatch h
  · rintro ⟨response, rfl, htext⟩
    unfold answered
    rw [htext]
    cases response <;> rfl

theorem tells_replied {key : Text} {response : Option Text}
    (h : reply.text = (response.map Value.string).getD .null) :
    Tells now (replied now key prompt reply response) (.ok reply) := by
  refine ⟨rfl, fun t ht => ?_, describes_reply⟩
  rw [ht] at h
  cases response with
  | none => exact nomatch h
  | some u => exact congrArg some (Value.string.inj h).symm

theorem consistent_of_runs {e : Envelope} {rendering : Except LookupError Text}
    {result : Except AnalysisError Envelope} {rest : σ × List Call}
    (h : Runs settings now q (client.map recording) (service, []) rendering result rest)
    (he : result = .ok e) : Consistent settings now q rendering client service e rest.2 := by
  cases h with
  | untold => exact nomatch he
  | unavailable =>
    obtain rfl := Except.ok.inj he
    refine ⟨rfl, by simp [unavailable], fun cause h => ?_, fun _ h => (nomatch h),
      fun _ _ h => (nomatch h)⟩
    obtain rfl := Except.error.inj h
    exact ⟨rfl, rfl, rfl, rfl, rfl, rfl⟩
  | unsent hclient =>
    obtain rfl := Except.ok.inj he
    obtain rfl : client = none := Option.map_eq_none_iff.1 hclient
    refine ⟨rfl, by simp [rendered], fun _ h => (nomatch h), fun text h _ => ?_,
      fun _ _ _ h => (nomatch h)⟩
    obtain rfl := Except.ok.inj h
    exact ⟨rfl, rfl, rfl, describes_produced, rfl⟩
  | unanswered hclient hcall =>
    obtain rfl := Except.ok.inj he
    obtain ⟨c, rfl, rfl⟩ := Option.map_eq_some_iff.1 hclient
    exact consistent_of_call rfl (by simp [unanswered]) rfl hcall
      ⟨rfl, rfl, rfl, describes_produced⟩
  | answered hclient hcall =>
    obtain ⟨response, rfl, hresponse⟩ := answered_eq_ok_iff.1 he
    obtain ⟨c, rfl, rfl⟩ := Option.map_eq_some_iff.1 hclient
    exact consistent_of_call rfl (by simp [replied]) rfl hcall (tells_replied hresponse)

/-- **The envelope of an analysis fits what was done.**  Its flag says whether there is an error.  A
template that cannot be rendered leaves the reason and no call; otherwise the prompt is the
rendered text, and a client is called once, with this prompt and with what the inquiry or else the
settings say.  The answer to this call settles the rest. -/
theorem analyze_consistent (settings : Settings) (now : Text) (tree : Tree) (store : Store)
    (q : Inquiry) (client : Option (Client σ)) (service : σ) {e : Envelope} {after : Store}
    {rest : σ × List Call}
    (h : (analyze settings now tree store q (client.map recording)).run (service, []) =
      ((.ok e, after), rest)) :
    Consistent settings now q (store.render tree q.key q.values).1 client service e rest.2 := by
  have hruns := runs_analyze settings now tree store q (client.map recording) (service, [])
  rw [h] at hruns
  exact consistent_of_runs hruns rfl

/-- A client that answers every prompt alike. -/
def agreeing : Client Unit := fun _ _ _ => pure <| .ok
  { text := .string (Text.ofString "yes"), model := .string (Text.ofString "m"),
    stopReason := .null, usage := some [(Text.ofString "output_tokens", .int 1)] }

/-- A store of one template, which has no placeholders. -/
def plainStore : Store :=
  { path := .ofString "t.json", loaded := some [(Text.ofString "a", Text.ofString "b")] }

/-- An inquiry that leaves the model and the tokens to the settings. -/
def usualInquiry : Inquiry :=
  { key := Text.ofString "a", model := some "", maxTokens := some 0 }

/-- The envelope of the answer to this inquiry. -/
def agreed : Envelope :=
  { success := true, templateKey := Text.ofString "a", prompt := some (Text.ofString "b"),
    response := some (Text.ofString "yes"),
    metadata := [(Text.ofString "produced_at", .string []),
      (Text.ofString "model", .string (Text.ofString "m")),
      (Text.ofString "usage", .object [(Text.ofString "output_tokens", .int 1)])] }

theorem analyze_consistent_usual :
    Consistent {} [] usualInquiry (plainStore.render {} usualInquiry.key usualInquiry.values).1
      (some agreeing) () agreed [⟨Text.ofString "b", "claude-sonnet-4-20250514", 4096⟩] := by
  have h : (analyze {} [] {} plainStore usualInquiry ((some agreeing).map recording)).run ((), []) =
      ((.ok agreed, plainStore), (), [⟨Text.ofString "b", "claude-sonnet-4-20250514", 4096⟩]) := by
    with_unfolding_all rfl
  exact analyze_consistent {} [] {} plainStore usualInquiry (some agreeing) () h

end PromptLibrary.Proofs.Analysis.Envelope

import PromptLibrary.Proofs.Analysis.Envelope
import PromptLibrary.Proofs.Store.Cache
/-!
# Analyses without an envelope

An analysis is to tell every failure by its envelope.  It does so for a file that is not there, that
is no JSON or holds no templates, for a template that is not there and for a client that fails.  It
ends without an envelope where the file cannot be opened, where a document breaks a limit of the
reader, and where the text of a reply is no text.

* `untold_iff` — the files of the first two kinds;
* `text_of_replyOf` — the text of a reply, as the document of the service has it;
* `analyze_tells_iff` — the analyses that end without an envelope, and what the others tell.
-/

namespace PromptLibrary.Proofs.Analysis.Failures

open PromptLibrary.Analysis
open PromptLibrary.Model (OpenRouter)
open PromptLibrary.Proofs.Analysis.Envelope
open PromptLibrary.Proofs.Store.Cache (lookup render_eq load_of_loaded load_of_error load_of_ok)

variable {σ : Type} {settings : Settings} {now : Text} {tree : Tree} {path : Path} {store : Store}
  {q : Inquiry} {client : Option (Client σ)} {service : σ} {e : LoadError}

/-! ## Files -/

/-- A file at a path holds a text. -/
def Holds (tree : Tree) (path : Path) (text : List Char) : Prop :=
  ∃ bytes, tree.find path = .ok (.file bytes) ∧ Encoding.utf8.readText bytes = .ok text

/-- The load errors that no envelope tells. -/
inductive Untold (tree : Tree) (path : Path) : LoadError → Prop where
  | nameTooLong (h : tree.find path = .error .nameTooLong) :
      Untold tree path (.file ⟨.nameTooLong, [path.text]⟩)
  | isDirectory (h : tree.find path = .ok .directory) :
      Untold tree path (.file ⟨.isDirectory, [path.text]⟩)
  | tooManyDigits {text : List Char} {count : Nat} (h : Holds tree path text)
      (hread : Json.read (Text.ofChars text) = .error (.tooManyDigits count)) :
      Untold tree path (.tooManyDigits count)
  | tooDeep {text : List Char} {kind : Kind} (h : Holds tree path text)
      (hread : Json.read (Text.ofChars text) = .error (.tooDeep kind)) :
      Untold tree path (.tooDeep kind)

/-! ## Reading a file of templates -/

theorem readTemplates_of_error {cause : FileCause} (h : tree.find path = .error cause) :
    readTemplates tree path = if cause = .nameTooLong then .error (.file ⟨cause, [path.text]⟩)
      else .error (.notFound path) := by
  unfold readTemplates Tree.isThere
  rw [h]
  cases cause <;> rfl

theorem readTemplates_of_directory (h : tree.find path = .ok .directory) :
    readTemplates tree path = .error (.file ⟨.isDirectory, [path.text]⟩) := by
  unfold readTemplates Tree.isThere Tree.read
  rw [h]

theorem readTemplates_of_holds {text : List Char} (h : Holds tree path text) :
    readTemplates tree path = match Json.read (Text.ofChars text) with
      | .error (.malformed fault rest) =>
        .error (.corrupt path (.malformed (Text.ofChars text) fault rest))
      | .error (.tooManyDigits count) => .error (.tooManyDigits count)
      | .error (.tooDeep kind) => .error (.tooDeep kind)
      | .ok (.object members) => (storedTemplates members).mapError (.corrupt path)
      | .ok v => .error (.corrupt path (.notObject v.kind)) := by
  obtain ⟨bytes, hfind, htext⟩ := h
  unfold readTemplates Tree.isThere Tree.read
  rcases hread : Json.read (Text.ofChars text) with failure | v
  · cases failure <;> simp only [hfind, htext, hread]
  · cases v <;> simp only [hfind, htext, hread]

theorem readTemplates_of_undecodable {bytes : List UInt8} {fault : Encoding.Fault}
    (h : tree.find path = .ok (.file bytes))
    (hfault : Encoding.utf8.readText bytes = .error fault) :
    readTemplates tree path = .error (.corrupt path (.undecodable fault)) := by
  unfold readTemplates Tree.isThere Tree.read
  simp only [h, hfault]

/-- What is wrong with a document that could be read is told. -/
theorem isTold_of_document {members : List (Text × Value)}
    (h : (storedTemplates members).mapError (.corrupt path) = .error e) : e.isTold = true := by
  cases hm : storedTemplates members with
  | ok m => rw [hm] at h; exact nomatch h
  | error what =>
    rw [hm] at h
    obtain rfl := Except.error.inj h
    rfl

/-- A load fails without being told in these four ways only. -/
theorem untold_iff : Untold tree path e ↔
    readTemplates tree path = .error e ∧ e.isTold = false := by
  constructor
  · intro h
    cases h with
    | nameTooLong h => exact ⟨by rw [readTemplates_of_error h, if_pos rfl], rfl⟩
    | isDirectory h => exact ⟨readTemplates_of_directory h, rfl⟩
    | tooManyDigits h hread => exact ⟨by rw [readTemplates_of_holds h, hread], rfl⟩
    | tooDeep h hread => exact ⟨by rw [readTemplates_of_holds h, hread], rfl⟩
  · rintro ⟨h, htold⟩
    cases hfind : tree.find path with
    | error cause =>
      rw [readTemplates_of_error hfind] at h
      split at h
      · next hlong =>
        subst hlong
        exact Except.error.inj h ▸ .nameTooLong hfind
      · obtain rfl := Except.error.inj h
        exact nomatch htold
    | ok entry =>
      cases entry with
      | directory =>
        rw [readTemplates_of_directory hfind] at h
        exact Except.error.inj h ▸ .isDirectory hfind
      | file bytes =>
        cases htext : Encoding.utf8.readText bytes with
        | error fault =>
          rw [readTemplates_of_undecodable hfind htext] at h
          obtain rfl := Except.error.inj h
          exact nomatch htold
        | ok text =>
          have hholds : Holds tree path text := ⟨bytes, hfind, htext⟩
          rw [readTemplates_of_holds hholds] at h
          split at h
          · obtain rfl := Except.error.inj h
            exact nomatch htold
          · next hread => exact Except.error.inj h ▸ .tooManyDigits hholds hread
          · next hread => exact Except.error.inj h ▸ .tooDeep hholds hread
          · rw [isTold_of_document h] at htold
            exact nomatch htold
          · obtain rfl := Except.error.inj h
            exact nomatch htold

/-! ## Replies -/

/-- The content of the first choice in a reply of the service. -/
def contentOf (document : Value) : Except Model.CallError Value := do
  let choice ← OpenRouter.firstItem (← Model.memberOrNull document "choices")
  Model.memberOrNull ((← Model.member? choice "message").getD (.object [])) "content"

theorem bind_eq_ok {ε α β : Type} {x : Except ε α} {f : α → Except ε β} {b : β} :
    x >>= f = .ok b ↔ ∃ a, x = .ok a ∧ f a = .ok b := by
  cases x with
  | error e => simp [bind, Except.bind]
  | ok a => simp [bind, Except.bind]

/-- The text of a reply is the content as it is, unless there is nothing. -/
theorem text_of_replyOf {document : Value} {model : String} {reply : Model.Reply}
    (h : OpenRouter.replyOf document model = .ok reply) :
    ∃ content, contentOf document = .ok content ∧
      reply.text = if content.isNothing then .string [] else content := by
  unfold OpenRouter.replyOf at h
  obtain ⟨choices, hchoices, h⟩ := bind_eq_ok.1 h
  split at h
  · obtain ⟨error, _, h⟩ := bind_eq_ok.1 h
    exact nomatch h
  · obtain ⟨choice, hchoice, h⟩ := bind_eq_ok.1 h
    obtain ⟨message, hmessage, h⟩ := bind_eq_ok.1 h
    obtain ⟨_, _, h⟩ := bind_eq_ok.1 h
    obtain ⟨content, hcontent, h⟩ := bind_eq_ok.1 h
    obtain ⟨_, _, h⟩ := bind_eq_ok.1 h
    obtain ⟨_, _, h⟩ := bind_eq_ok.1 h
    obtain ⟨_, _, h⟩ := bind_eq_ok.1 h
    obtain rfl := Except.ok.inj h
    refine ⟨content, ?_, rfl⟩
    simp only [contentOf, bind_eq_ok]
    exact ⟨choices, hchoices, choice, hchoice, message, hmessage, hcontent⟩

/-- A reply is invalid if there is a content and it is no text. -/
theorem answered_eq_error_iff {key prompt : Text} {document : Value} {model : String}
    {reply : Model.Reply} {error : AnalysisError}
    (h : OpenRouter.replyOf document model = .ok reply) :
    answered now key prompt reply = .error error ↔ error = .invalid ∧
      ∃ content, contentOf document = .ok content ∧ content.isNothing = false ∧
        ∀ t, content ≠ .string t := by
  obtain ⟨content, hcontent, htext⟩ := text_of_replyOf h
  unfold answered
  constructor
  · intro he
    split at he
    · exact nomatch he
    · exact nomatch he
    · next hnull hstring =>
      rw [htext] at hstring
      have hsome : content.isNothing = false := by
        rw [← Bool.not_eq_true]
        exact fun hnothing => hstring [] (if_pos hnothing)
      rw [hsome, if_neg Bool.false_ne_true] at hstring
      exact ⟨(Except.error.inj he).symm, content, hcontent, hsome, hstring⟩
  · rintro ⟨rfl, other, hother, hsome, hstring⟩
    obtain rfl := Except.ok.inj (hcontent.symm.trans hother)
    rw [hsome, if_neg Bool.false_ne_true] at htext
    split
    · next hnull =>
      rw [htext] at hnull
      rw [hnull] at hsome
      exact nomatch hsome
    · next t hs => exact absurd (htext.symm.trans hs) (hstring t)
    · rfl

/-! ## Analyses -/

/-- A client that fails, or gives the reply that some document of the service holds. -/
def Answering (c : Client σ) : Prop :=
  ∀ prompt model maxTokens service reply,
    ((c prompt model maxTokens).run service).1 = .ok reply →
      ∃ document, OpenRouter.replyOf document model = .ok reply

/-- What an analysis ends with in place of an envelope, and why. -/
inductive Escapes (settings : Settings) (tree : Tree) (store : Store) (q : Inquiry)
    (client : Option (Client σ)) (service : σ) : AnalysisError → Prop where
  | load {cause : LoadError} (hloaded : store.loaded = none)
      (h : Untold tree store.path cause) :
      Escapes settings tree store q client service (.load cause)
  | content {prompt : Text} {c : Client σ} {reply : Model.Reply} {document content : Value}
      (hprompt : (store.render tree q.key q.values).1 = .ok prompt) (hclient : client = some c)
      (hreply : ((c prompt (q.modelOr settings) (q.maxTokensOr settings)).run service).1 =
        .ok reply)
      (hdocument : OpenRouter.replyOf document (q.modelOr settings) = .ok reply)
      (hcontent : contentOf document = .ok content) (hsome : content.isNothing = false)
      (htext : ∀ t, content ≠ .string t) :
      Escapes settings tree store q client service .invalid

/-- A failure that an envelope has to tell, with its message. -/
inductive Failed (settings : Settings) (tree : Tree) (store : Store) (q : Inquiry)
    (client : Option (Client σ)) (service : σ) : Text → Prop where
  | rendering {cause : LookupError} (h : (store.render tree q.key q.values).1 = .error cause) :
      Failed settings tree store q client service cause.message
  | call {prompt message : Text} {c : Client σ}
      (hprompt : (store.render tree q.key q.values).1 = .ok prompt) (hclient : client = some c)
      (h : ((c prompt (q.modelOr settings) (q.maxTokensOr settings)).run service).1 =
        .error message) :
      Failed settings tree store q client service (Text.ofString "LLM call failed: " ++ message)

theorem render_of_found {m : Mapping Text} {key : Text} {values : Mapping Value}
    (h : (store.load tree).1 = .ok m) :
    (store.render tree key values).1 ≠ .error (.load e) := by
  rw [render_eq, h, lookup]
  cases m.get? key <;> simp [Except.map]

theorem render_untold_iff {key : Text} {values : Mapping Value} :
    (store.render tree key values).1 = .error (.load e) ∧ e.isTold = false ↔
      store.loaded = none ∧ Untold tree store.path e := by
  rw [untold_iff]
  cases hloaded : store.loaded with
  | some m =>
    have hfound : (store.load tree).1 = .ok m := by rw [load_of_loaded hloaded]
    simp [render_of_found hfound]
  | none =>
    cases hread : readTemplates tree store.path with
    | ok m =>
      have hfound : (store.load tree).1 = .ok m := by rw [load_of_ok hloaded hread]
      simp [render_of_found hfound]
    | error cause =>
      rw [render_eq, load_of_error hloaded hread]
      simp [lookup, Except.map]

section Runs

variable {rendering : Except LookupError Text} {result : Except AnalysisError Envelope} {rest : σ}
  {error : AnalysisError}

theorem escapes_of_runs (hanswering : ∀ c ∈ client, Answering c)
    (hrendering : (store.render tree q.key q.values).1 = rendering)
    (h : Runs settings now q client service rendering result rest) (he : result = .error error) :
    Escapes settings tree store q client service error := by
  cases h with
  | untold htold =>
    obtain rfl := Except.error.inj he
    obtain ⟨hloaded, h⟩ := render_untold_iff.1 ⟨hrendering, htold⟩
    exact .load hloaded h
  | unavailable => exact nomatch he
  | unsent => exact nomatch he
  | unanswered => exact nomatch he
  | @answered prompt reply c _ hclient hcall =>
    have hreply := congrArg Prod.fst hcall
    obtain ⟨document, hdocument⟩ := hanswering c (hclient ▸ rfl) _ _ _ _ _ hreply
    obtain ⟨rfl, content, hcontent, hsome, htext⟩ := (answered_eq_error_iff hdocument).1 he
    exact .content hrendering hclient hreply hdocument hcontent hsome htext

theorem error_of_escapes (hrendering : (store.render tree q.key q.values).1 = rendering)
    (h : Runs settings now q client service rendering result rest)
    (he : Escapes settings tree store q client service error) : result = .error error := by
  cases he with
  | load hloaded huntold =>
    obtain ⟨hload, htold⟩ := render_untold_iff.2 ⟨hloaded, huntold⟩
    obtain rfl := hrendering.symm.trans hload
    cases h with
    | untold => rfl
    | unavailable h => exact nomatch htold.symm.trans h
  | content hprompt hclient hreply hdocument hcontent hsome htext =>
    obtain rfl := hrendering.symm.trans hprompt
    cases h with
    | unsent hnone => exact nomatch hclient.symm.trans hnone
    | unanswered hother hcall =>
      obtain rfl := Option.some.inj (hclient.symm.trans hother)
      exact nomatch hreply.symm.trans (congrArg Prod.fst hcall)
    | answered hother hcall =>
      obtain rfl := Option.some.inj (hclient.symm.trans hother)
      obtain rfl := Except.ok.inj (hreply.symm.trans (congrArg Prod.fst hcall))
      exact (answered_eq_error_iff hdocument).2 ⟨rfl, _, hcontent, hsome, htext⟩

theorem error_eq_some_iff_of_runs {e : Envelope} {message : Text}
    (hrendering : (store.render tree q.key q.values).1 = rendering)
    (h : Runs settings now q client service rendering result rest) (he : result = .ok e) :
    e.error = some message ↔ Failed settings tree store q client service message := by
  constructor
  · intro hmessage
    cases h with
    | untold => exact nomatch he
    | unavailable =>
      obtain rfl := Except.ok.inj he
      obtain rfl := Option.some.inj hmessage
      exact .rendering hrendering
    | unsent =>
      obtain rfl := Except.ok.inj he
      exact nomatch hmessage
    | unanswered hclient hcall =>
      obtain rfl := Except.ok.inj he
      obtain rfl := Option.some.inj hmessage
      exact .call hrendering hclient (congrArg Prod.fst hcall)
    | answered hclient hcall =>
      obtain ⟨response, rfl, _⟩ := answered_eq_ok_iff.1 he
      exact nomatch hmessage
  · intro hfailed
    cases hfailed with
    | rendering hcause =>
      obtain rfl := hrendering.symm.trans hcause
      cases h with
      | untold => exact nomatch he
      | unavailable =>
        obtain rfl := Except.ok.inj he
        rfl
    | call hprompt hclient hcall =>
      obtain rfl := hrendering.symm.trans hprompt
      cases h with
      | unsent hnone => exact nomatch hclient.symm.trans hnone
      | unanswered hother hanswer =>
        obtain rfl := Option.some.inj (hclient.symm.trans hother)
        obtain rfl := Except.error.inj (hcall.symm.trans (congrArg Prod.fst hanswer))
        obtain rfl := Except.ok.inj he
        rfl
      | answered hother hanswer =>
        obtain rfl := Option.some.inj (hclient.symm.trans hother)
        exact nomatch hcall.symm.trans (congrArg Prod.fst hanswer)

theorem success_iff_of_runs {e : Envelope}
    (h : Runs settings now q client service rendering (.ok e) rest) :
    e.success = true ↔ e.error = none := by
  generalize he : Except.ok e = result at h
  cases h with
  | untold => exact nomatch he
  | unavailable | unsent | unanswered =>
    obtain rfl := Except.ok.inj he
    simp [unavailable, rendered, unanswered]
  | answered =>
    obtain ⟨response, rfl, _⟩ := answered_eq_ok_iff.1 he.symm
    simp [replied]

end Runs

/-- A client that gives the reply in one document, whatever it is asked. -/
def documented (document : Value) : Client Unit := fun _ model _ =>
  pure ((OpenRouter.replyOf document model).mapError Model.CallError.message)

theorem answering_documented (document : Value) : Answering (documented document) := by
  intro _ model _ _ reply h
  cases hreply : OpenRouter.replyOf document model with
  | error e =>
    rw [documented, hreply] at h
    exact nomatch h
  | ok given =>
    rw [documented, hreply] at h
    exact ⟨document, hreply.trans (congrArg Except.ok (Except.ok.inj h))⟩

/-- A document of which the content is a row of parts. -/
def parted : Value :=
  .object [(Text.ofString "choices", .array [.object [(Text.ofString "message", .object
    [(Text.ofString "content", .array [.string (Text.ofString "yes")])])]])]

end PromptLibrary.Proofs.Analysis.Failures

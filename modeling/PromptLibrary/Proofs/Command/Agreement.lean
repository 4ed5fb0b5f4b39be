import PromptLibrary.Proofs.Analysis.Envelope
import PromptLibrary.Proofs.Command.Arguments
import PromptLibrary.Proofs.Command.Console
import PromptLibrary.Proofs.Store.Cache
import PromptLibrary.Proofs.Template.Origin
/-!
# Rendering and analysing agree

With the same key, input and variables, the command that analyses without sending writes the prompt
that the command that renders writes, between lines of its own.  What one of them fails on, the
other fails on in the same way.

* `result_runRender`, `result_runAnalyze` — what each command tells, if this comes of rendering;
* `agree_of_lookup` — how both commands end, told by what the file has under the key;
* `render_analyze_agree` — the same for command lines.
-/

namespace PromptLibrary.Proofs.Command.Agreement

open PromptLibrary.Command
open PromptLibrary.Proofs.Analysis
open PromptLibrary.Proofs.Analysis.Envelope (isTold)
open PromptLibrary.Proofs.Command.Arguments
open PromptLibrary.Proofs.Command.Console
open PromptLibrary.Proofs.Command.Variables
open PromptLibrary.Proofs.Files.Action
open PromptLibrary.Proofs.Store.Cache
open PromptLibrary.Proofs.Template.Origin
open PromptLibrary.Proofs.Text.Points

/-! ## How two commands end -/

/-- What analysing writes before it looks for the template. -/
def opening (key : Text) : Text :=
  printed [Text.ofString "Arch Analysis Tool", ruler,
    Text.ofString "Analyzing with template: " ++ key ++ Text.ofString "..."]

/-- What it writes once it has the prompt. -/
def heading (key : Text) : Text :=
  printed [Text.ofString "", ruler, Text.ofString "RESULT (" ++ key ++ Text.ofString "):", ruler]

/-- What it writes below the prompt. -/
def closing : Text :=
  printed [ruler, Text.ofString "Analysis complete."]

/-- How rendering and analysing end, told by what comes of looking for the body.  Nothing but the
output and the error messages is changed. -/
inductive Agree (world : World) (key : Text) (values : Mapping Value) :
    Except LookupError Text → Outcome × World → Outcome × World → Prop where
  | shown {body : Text} (h : (Template.render body values).WellFormed) :
      Agree world key values (.ok body)
        (.exit 0, wrote world (printed [Template.render body values]))
        (.exit 0, wrote world
          (opening key ++ heading key ++ printed [Template.render body values] ++ closing))
  | unprintable {body : Text} (hbody : ¬ body.WellFormed)
      (h : ¬ (Template.render body values).WellFormed) :
      Agree world key values (.ok body) (.crash .unprintable, world)
        (.crash .unprintable, wrote world (opening key ++ heading key))
  | told {cause : LookupError} (h : isTold cause = true) :
      Agree world key values (.error cause)
        (.exit 1, complained world (Text.ofString "Error: " ++ cause.message))
        (.exit 1, complained (wrote world (opening key)) (Text.ofString "Error: " ++ cause.message))
  | broken {e : LoadError} (h : e.isTold = false) :
      Agree world key values (.error (.load e)) (.crash (.load e), world)
        (.crash (.load e), wrote world (opening key))

variable {env : Environment} {world : World} {key t : Text} {m : Mapping Text}

/-! ## The two commands -/

theorem result_useService {α : Type} (action : StateM Model.Exchange α) :
    result (useService action) world = (.ok (action.run world.exchange).1,
      { world with exchange := (action.run world.exchange).2 }) :=
  rfl

theorem wellFormed_ruler : ruler.WellFormed :=
  wellFormed_ofChars

theorem wellFormed_labelled {front back : String} (hkey : key.WellFormed) :
    Text.WellFormed (Text.ofString front ++ key ++ Text.ofString back) := by
  simp [hkey, wellFormed_ofString]

/-- What is rendered with a store that has not been asked for anything. -/
theorem render_storeOf (values : Mapping Value) :
    ((storeOf env none).render world.tree key values).1 =
      (lookup (readTemplates world.tree env.settings.templatesPath) key).map
        (Template.render · values) := by
  have hpath : (storeOf env none).path = env.settings.templatesPath := rfl
  rw [render_eq, (load_of_unloaded _ rfl).1, hpath]

/-- What a command comes to. -/
def ending (r : Except Crash Nat × World) : Outcome × World :=
  match r with
  | (.ok code, world) => (.exit code, world)
  | (.error e, world) => (.crash e, world)

/-- What is told of a template that cannot be rendered. -/
def tellFailure : LookupError → Run Nat
  | .load e => failLoad e
  | .notFound k => failWith (LookupError.notFound k).message

theorem tellFailure_of_told {cause : LookupError} (h : isTold cause = true) :
    tellFailure cause = failWith cause.message := by
  cases cause with
  | notFound k => rfl
  | load e =>
    have he : e.isTold = true := h
    rw [tellFailure, failLoad, if_pos he]
    rfl

theorem tellFailure_of_untold {e : LoadError} (h : e.isTold = false) :
    tellFailure (.load e) = throw (.load e) := by
  rw [tellFailure, failLoad, if_neg (Bool.eq_false_iff.1 h)]

/-- What is told of an analysis. -/
def report (env : Environment) (key : Text) : Except AnalysisError Envelope → Run Nat
  | .error (.load e) => throw (.load e)
  | .error .invalid => throw .invalidEnvelope
  | .ok e =>
    if e.success then printResult env key e else failWith (e.error.getD (Text.ofString "None"))

/-- What is told by rendering, if this comes of it. -/
def tellPrompt : Except LookupError Text → Run Nat
  | .ok prompt => do
    print prompt
    return 0
  | .error cause => tellFailure cause

/-- What is told by analysing, if this comes of rendering. -/
def tellResult (env : Environment) (key : Text) : Except LookupError Text → Run Nat
  | .ok prompt => printResult env key (Analysis.rendered env.now key prompt)
  | .error cause => tellFailure cause

section Runs

variable {σ : Type} {settings : Settings} {now : Text} {q : Inquiry}
  {rendering : Except LookupError Text} {outcome : Except AnalysisError Envelope}
  {service after : σ}

/-- Without a client, no service is called. -/
theorem service_of_runs (h : Envelope.Runs settings now q none service rendering outcome after) :
    after = service := by
  cases h with
  | unanswered h => cases h
  | answered h => cases h
  | _ => rfl

theorem report_of_runs (h : Envelope.Runs settings now q none service rendering outcome after)
    (hkey : q.key = key) (hnow : env.now = now) :
    report env key outcome = tellResult env key rendering := by
  subst hkey hnow
  cases h with
  | untold h => exact (tellFailure_of_untold h).symm
  | unavailable h => exact (tellFailure_of_told h).symm
  | unsent => rfl
  | unanswered h => cases h
  | answered h => cases h

end Runs

theorem result_printResult (hdebug : env.settings.debug = false) (hkey : key.WellFormed)
    {now prompt : Text} : result (printResult env key (Analysis.rendered now key prompt)) world =
      if prompt.WellFormed then
        (.ok 0, wrote world (heading key ++ printed [prompt] ++ closing))
      else (.error .unprintable, wrote world (heading key)) := by
  have hline := @wellFormed_labelled key "RESULT (" "):" hkey
  have hprompt (usual : Text) : ((Analysis.rendered now key prompt).response.or
      (Analysis.rendered now key prompt).prompt).getD usual = prompt := rfl
  unfold printResult
  simp only [result_bind, result_printString, result_print wellFormed_ruler, result_print hline,
    hdebug, hprompt]
  by_cases h : prompt.WellFormed
  · rw [result_print h, if_pos h]
    simp [result_printString, heading, closing, printed, Except.map]
  · rw [result_print_of_not h, if_neg h]
    simp [heading, printed]

/-- What an analysis tells that does not send. -/
theorem result_runAnalysis (hkey : key.WellFormed) (store : Store) :
    result (runAnalysis env store key t m false) world =
      result (tellResult env key (store.render world.tree key (renderVariables m (some t))).1)
        (wrote world
          (printed [Text.ofString "Analyzing with template: " ++ key ++ Text.ofString "..."])) := by
  have hline := @wellFormed_labelled key "Analyzing with template: " "..." hkey
  have hruns := Envelope.runs_analyze env.settings env.now world.tree store
    { key, values := renderVariables m (some t) } none world.exchange
  -- The exchange comes back from the analysis as it was, so only the output is another one.
  have hservice := service_of_runs hruns
  have hexchange (line : Text) : (wrote world line).exchange = world.exchange := rfl
  have htree (line : Text) : (wrote world line).tree = world.tree := rfl
  rw [← report_of_runs hruns rfl rfl]
  unfold runAnalysis
  simp only [wantedClient, Bool.false_eq_true, not_false_eq_true, if_true, result_bind,
    result_print hline, result_get, result_useService, hexchange, htree, hservice, printed,
    List.flatMap_cons, List.flatMap_nil, List.append_nil]
  rfl

theorem result_runAnalyze (hkey : key.WellFormed) (hne : key ≠ []) :
    result (runAnalyze env none (some key) (some t) m false) world =
      result (tellResult env key
        ((lookup (readTemplates world.tree env.settings.templatesPath) key).map
          (Template.render · (renderVariables m (some t))))) (wrote world (opening key)) := by
  obtain ⟨p, more, rfl⟩ := List.exists_cons_of_ne_nil hne
  have htree (line : Text) : (wrote world line).tree = world.tree := rfl
  unfold runAnalyze
  simp only [result_bind, result_printString, result_print wellFormed_ruler, withInput,
    result_runAnalysis hkey, wrote_wrote, htree, render_storeOf]
  simp [opening, printed]

theorem result_runRender :
    result (runRender env none key (some t) m) world =
      result (tellPrompt ((lookup (readTemplates world.tree env.settings.templatesPath) key).map
        (Template.render · (renderVariables m (some t))))) world := by
  unfold runRender
  simp only [result_bind, result_get, ← render_storeOf]
  cases ((storeOf env none).render world.tree key (renderVariables m (some t))).1 with
  | ok prompt => rfl
  | error cause => cases cause <;> rfl

/-- Rendering and analysing agree, whatever the file has under the key. -/
theorem agree_of_lookup (hdebug : env.settings.debug = false) (hkey : key.WellFormed)
    (hne : key ≠ []) (hvalues : ∀ name v,
      (renderVariables m (some t)).get? name = some v → v.display.WellFormed) :
    Agree world key (renderVariables m (some t))
      (lookup (readTemplates world.tree env.settings.templatesPath) key)
      (ending (result (runRender env none key (some t) m) world))
      (ending (result (runAnalyze env none (some key) (some t) m false) world)) := by
  rw [result_runRender, result_runAnalyze hkey hne]
  cases lookup (readTemplates world.tree env.settings.templatesPath) key with
  | ok body =>
    simp only [Except.map, tellPrompt, tellResult, result_printResult hdebug hkey, result_bind]
    by_cases hprompt : (Template.render body (renderVariables m (some t))).WellFormed
    · rw [if_pos hprompt, result_print hprompt, wrote_wrote]
      have h := @Agree.shown world key _ body hprompt
      simpa [ending, printed] using h
    · rw [if_neg hprompt, result_print_of_not hprompt, wrote_wrote]
      exact .unprintable (fun hbody => hprompt (wellFormed_render hbody hvalues)) hprompt
  | error cause =>
    simp only [Except.map, tellPrompt, tellResult]
    by_cases htold : isTold cause = true
    · simp only [tellFailure_of_told htold, result_failWith]
      exact .told htold
    · cases cause with
      | notFound k => exact absurd rfl htold
      | load e =>
        have he : e.isTold = false := Bool.eq_false_iff.2 htold
        simp only [tellFailure_of_untold he, result_throw]
        exact .broken he

/-! ## Command lines -/

theorem run_runArguments {args : List String} {command : Subcommand} {x : Run Nat}
    (hargs : Request.ofArguments args = .ok { command := some command })
    (hcommand : result (runCommand env none command) world = result (.exit <$> x) world) :
    (runArguments env args).run world = ending (result x world) := by
  have hrun : (runArguments env args).run world =
      match result (runCommand env none command) world with
      | (.ok outcome, world) => (outcome, world)
      | (.error e, world) => (.crash e, world) := by
    unfold runArguments result
    rw [hargs]
    simp only [StateT.run_bind]
    generalize (runCommand env none command).run.run world = r
    obtain ⟨_ | _, world⟩ := r <;> rfl
  rw [hrun, hcommand, result_map]
  generalize result x world = r
  obtain ⟨_ | _, world⟩ := r <;> rfl

end PromptLibrary.Proofs.Command.Agreement

import PromptLibrary.Proofs.Command.Variables
import PromptLibrary.Proofs.Text.Runs
/-!
# Reading command lines

A command line of a command's name, two arguments and an option that comes again and again is read
as a request.  What stands behind the name is the command's to read, as long as its words have a
role in the grammar of the whole line (`ofArguments_of_readCommand`).

* `roleOf_long`, `roleOf_joined` — a word with two dashes, and what an equals sign attaches to it;
* `readOptions_uses` — the uses of one option, by induction on the words;
* `read_uses` — two positionals and the uses of an option behind them;
* `ofArguments_render`, `ofArguments_analyze` — the lines of two commands as requests.
-/

namespace PromptLibrary.Proofs.Command.Arguments

open PromptLibrary.Command
open PromptLibrary.Command.Grammar
open PromptLibrary.Proofs.Command.Variables
open PromptLibrary.Proofs.Text.Runs (takeWhile_eq_run takeWhile_ne_eq_run)

section Grammars

variable {σ : Type} {g : Grammar σ} {rule : OptionRule σ} {role : Role σ} {w : String}
  {args : List String} {ws rest : List (Word σ)} {flag name s : List Char}

/-! ## Roles -/

theorem words_cons (hw : w ≠ "--") (hrole : g.roleOf w.toList = .ok role)
    (hargs : g.words args = .ok ws) : g.words (w :: args) = .ok (⟨w, role⟩ :: ws) := by
  rw [words, hrole, hargs]
  · rfl
  · exact fun h => hw h

/-- The options that a name with two dashes may be cut from. -/
def candidates (g : Grammar σ) (flag : List Char) : List (List Char × OptionRule σ) :=
  g.named.filter fun n => flag.isPrefixOf n.1

/-- A name with two dashes, to which no text is joined. -/
structure Flag (flag : List Char) : Prop where
  dashes : ['-', '-'] <+: flag
  clear : '=' ∉ flag

theorem cutAtEquals_of_clear (h : '=' ∉ flag) : cutAtEquals flag = (flag, none) := by
  have hall : ∀ c ∈ flag, decide (c ≠ '=') = true := fun _ hc =>
    decide_eq_true fun heq => h (heq ▸ hc)
  have hrun := takeWhile_eq_run hall (r := []) (by simp)
  rw [List.append_nil] at hrun
  rw [cutAtEquals, hrun.2]

theorem cutAtEquals_joined (h : '=' ∉ flag) : cutAtEquals (flag ++ '=' :: s) = (flag, some s) := by
  obtain ⟨htake, hdrop⟩ := @takeWhile_ne_eq_run _ s flag _ '=' h
  rw [cutAtEquals, hdrop, htake]

theorem roleOf_long (h : Flag flag) : g.roleOf flag =
    match g.rule? flag with
    | some r => .ok (.option r flag none)
    | none => match candidates g flag with
      | _ :: _ :: _ => .error .badUsage
      | [(name, r)] => .ok (.option r name none)
      | [] => .ok (if isNegativeNumber flag || ' ' ∈ flag then .argument else .unknown) := by
  have hcut := cutAtEquals_of_clear h.clear
  obtain ⟨rest, rfl⟩ := h.dashes
  simp only [List.cons_append, List.nil_append] at hcut ⊢
  unfold roleOf
  cases hrule : g.rule? ('-' :: '-' :: rest) with
  | some r => simp
  | none =>
    simp only [dashedRole, longMatches, hcut, candidates]
    generalize List.filter _ g.named = found
    rcases found with _ | ⟨⟨name, r⟩, _ | ⟨e, more⟩⟩ <;> rfl

/-- What an equals sign joins to a name is attached to the option, if that is the name of one. -/
theorem roleOf_joined (hnames : ∀ r ∈ g.options, ∀ name ∈ r.names, '=' ∉ name.toList)
    (h : Flag flag) : g.roleOf (flag ++ '=' :: s) =
    match g.rule? flag with
    | some r => .ok (.option r flag (some s))
    | none => match candidates g flag with
      | _ :: _ :: _ => .error .badUsage
      | [(name, r)] => .ok (.option r name (some s))
      | [] => .ok (if isNegativeNumber (flag ++ '=' :: s) || ' ' ∈ flag ++ '=' :: s then .argument
          else .unknown) := by
  have hcut := @cutAtEquals_joined flag s h.clear
  have hnone : g.rule? (flag ++ '=' :: s) = none := by
    rw [rule?, List.find?_eq_none]
    intro r hr
    simp only [decide_eq_true_eq]
    intro hname
    apply hnames r hr _ hname
    simp
  obtain ⟨rest, rfl⟩ := h.dashes
  simp only [List.cons_append, List.nil_append] at hcut hnone ⊢
  unfold roleOf
  simp only [hnone, dashedRole, longMatches, hcut, candidates]
  cases hrule : g.rule? ('-' :: '-' :: rest) with
  | some r => simp
  | none =>
    generalize List.filter _ g.named = found
    rcases found with _ | ⟨⟨name, r⟩, _ | ⟨e, more⟩⟩ <;> rfl

/-- A name that has a role has one with an equals sign and a text behind it.  If it is the name of
an option, the text is attached to that. -/
theorem exists_roleOf_joined
    (hnames : ∀ r ∈ g.options, ∀ name ∈ r.names, '=' ∉ name.toList) (h : Flag flag)
    (hrole : g.roleOf flag = .ok role) : ∃ joined, g.roleOf (flag ++ '=' :: s) = .ok joined ∧
      ∀ rule name, role = .option rule name none → joined = .option rule name (some s) := by
  rw [roleOf_long h] at hrole
  rw [roleOf_joined hnames h]
  cases hr : g.rule? flag with
  | some r =>
    rw [hr] at hrole
    cases hrole
    refine ⟨_, rfl, fun rule name hoption => ?_⟩
    cases hoption
    rfl
  | none =>
    rw [hr] at hrole
    rcases hfound : candidates g flag with _ | ⟨⟨name, r⟩, _ | ⟨e, more⟩⟩
    · simp only [hfound] at hrole
      refine ⟨_, rfl, fun rule name hoption => ?_⟩
      rw [hoption] at hrole
      split at hrole <;> cases hrole
    · simp only [hfound] at hrole
      cases hrole
      refine ⟨_, rfl, fun rule name hoption => ?_⟩
      cases hoption
      rfl
    · simp [hfound] at hrole

/-! ## Options and positionals -/

/-- Words that use one option again and again, and the arguments that they give it. -/
inductive Uses (rule : OptionRule σ) : List (Word σ) → List (Option String) → Prop where
  | none : Uses rule [] []
  | apart {flag w : String} {name : List Char} {ws : List (Word σ)} {given : List (Option String)}
      (h : Uses rule ws given) :
      Uses rule (⟨flag, .option rule name none⟩ :: ⟨w, .argument⟩ :: ws) (some w :: given)
  | joined {w : String} {name s : List Char} {ws : List (Word σ)} {given : List (Option String)}
      (h : Uses rule ws given) :
      Uses rule (⟨w, .option rule name (some s)⟩ :: ws) (attachedArgument s :: given)

variable {put : Option String → σ → σ} {given : List (Option String)} {text : String}
  {word : Word σ} {due : List (PositionalRule σ)} {p q : PositionalRule σ}
  {state : σ} {leftover : List String}

theorem takeOption_apart (hput : rule.effect = .valued fun a s => .ok (put a s)) :
    takeOption g ⟨text, .option rule name none⟩ (⟨w, .argument⟩ :: ws) state leftover =
      .ok (put (some w) state, true, leftover) := by
  have hcluster : g.cluster (some w) rule name none = .ok ⟨[⟨rule, some w⟩], true⟩ := by
    simp only [cluster, alone, hput]
  simp only [takeOption, hcluster, bind, Except.bind, List.foldlM_cons, Use.apply, hput]
  rfl

theorem takeOption_joined (hput : rule.effect = .valued fun a s => .ok (put a s)) :
    takeOption g ⟨text, .option rule name (some s)⟩ ws state leftover =
      .ok (put (attachedArgument s) state, false, leftover) := by
  have hcluster (next : Option String) :
      g.cluster next rule name (some s) = .ok ⟨[⟨rule, attachedArgument s⟩], false⟩ := by
    simp only [cluster, hput]
  simp only [takeOption, hcluster, bind, Except.bind, List.foldlM_cons, Use.apply, hput]
  rfl

theorem readOptions_nil :
    g.readOptions ⟨due, [], state, leftover⟩ = .ok ⟨due, [], state, leftover⟩ := by
  rw [readOptions]

theorem readOptions_option (h : word.role.isOption = true) :
    g.readOptions ⟨due, word :: ws, state, leftover⟩ =
      takeOption g word ws state leftover >>= fun (next, takesNext, more) =>
        g.readOptions ⟨due, ws.drop (if takesNext then 1 else 0), next, more⟩ := by
  rw [readOptions]
  simp [h]

/-- The arguments of an option change the state one after the other. -/
theorem readOptions_uses (hput : rule.effect = .valued fun a s => .ok (put a s))
    (h : Uses rule ws given) : g.readOptions ⟨due, ws, state, leftover⟩ =
      .ok ⟨due, [], given.foldl (fun s a => put a s) state, leftover⟩ := by
  induction h generalizing state with
  | none => exact readOptions_nil
  | apart h ih =>
    rw [readOptions_option rfl, takeOption_apart hput]
    exact ih
  | joined h ih =>
    rw [readOptions_option rfl, takeOption_joined hput]
    exact ih

/-- A positional that takes one word. -/
inductive TakesWord (put : String → σ → σ) : PositionalRule σ → Prop where
  | required : TakesWord put (.required put)
  | optional : TakesWord put (.optional put)

theorem argumentLength_argument (hws : separators ws = 0) :
    argumentLength? (⟨w, .argument⟩ :: ws) = some 1 := by
  have hnone : separators (⟨w, .argument⟩ :: ws) = 0 := rfl
  unfold argumentLength?
  simp [hnone, hws]

theorem takePositionals_argument {put : String → σ → σ} (hp : TakesWord put p) (hw : w ≠ "--")
    (hws : separators ws = 0) :
    takePositionals (⟨w, .argument⟩ :: ws) state leftover (p :: due) =
      takePositionals ws (put w state) leftover due := by
  have htakes : takes? p (⟨w, .argument⟩ :: ws) = some 1 := by
    cases hp <;> simp [takes?, argumentLength_argument hws]
  have happly : applyPositional p [w] state = .ok (put w state, []) := by
    have herase : [w].erase "--" = [w] := List.erase_of_not_mem (by simpa using hw.symm)
    cases hp <;> simp [applyPositional, herase]
  rw [takePositionals, htakes]
  simp [happly, bind, Except.bind]

/-- A command takes all words behind its name. -/
theorem takePositionals_command {run : String → List String → σ → Except Stop (σ × List String)} :
    takePositionals (⟨w, .argument⟩ :: ws) state leftover [.command run] =
      (run w (ws.map (·.text)) state).map fun (next, more) => ⟨[], [], next, leftover ++ more⟩ := by
  have htakes : takes? (.command run) (⟨w, .argument⟩ :: ws) = some (ws.length + 1) := by
    simp [takes?, argumentLength?, separators]
  rw [takePositionals, htakes]
  simp only [List.take_succ_cons, List.take_length, List.map_cons, applyPositional, bind,
    Except.bind]
  cases run w (ws.map (·.text)) state with
  | error e => rfl
  | ok taken => simp [takePositionals, Except.map]

theorem readOptions_of_no_option (h : ws.any (·.role.isOption) = false) :
    g.readOptions ⟨due, ws, state, leftover⟩ = .ok ⟨due, ws, state, leftover⟩ := by
  cases ws with
  | nil => exact readOptions_nil
  | cons word ws =>
    rw [readOptions]
    exact if_pos (by simpa using h)

/-- Positionals in front of options take their words first. -/
theorem readOptions_positionals {next : σ} (hword : word.role.isOption = false)
    (hoption : (word :: ws).any (·.role.isOption) = true)
    (hnext : takePositionals (word :: ws) state leftover due = .ok ⟨[], rest, next, leftover⟩)
    (hless : rest.length < (word :: ws).length) :
    g.readOptions ⟨due, word :: ws, state, leftover⟩ =
      g.readOptions ⟨[], rest, next, leftover⟩ := by
  rw [readOptions]
  simp only [hoption, not_true_eq_false, if_false, hword, Bool.false_eq_true, dite_false, hnext,
    bind, Except.bind, hless, dite_true]

/-- A line is read if the positionals take their words from the front and options are the rest. -/
theorem read_of_takePositionals {next last : σ} (hwords : g.words args = .ok (word :: ws))
    (hword : word.role.isOption = false)
    (htake : takePositionals (word :: ws) state [] g.positionals = .ok ⟨[], rest, next, []⟩)
    (hsuffix : rest <:+ ws)
    (hrest : g.readOptions ⟨[], rest, next, []⟩ = .ok ⟨[], [], last, []⟩) :
    Grammar.read g args state = .ok (last, []) := by
  obtain ⟨progress, hoptions, hend⟩ : ∃ progress,
      g.readOptions ⟨g.positionals, word :: ws, state, []⟩ = .ok progress ∧
      takePositionals progress.words progress.state progress.leftover progress.due =
        .ok ⟨[], [], last, []⟩ := by
    -- Positionals are read as soon as they come if an option is behind them, else at the end.
    by_cases hoption : (word :: ws).any (·.role.isOption) = true
    · have hless : rest.length < (word :: ws).length := Nat.lt_succ_of_le hsuffix.length_le
      refine ⟨⟨[], [], last, []⟩, ?_, rfl⟩
      rw [readOptions_positionals hword hoption htake hless, hrest]
    · have hnone : rest.any (·.role.isOption) = false := by
        rw [List.any_eq_false]
        intro w hw hw'
        exact hoption (List.any_eq_true.2 ⟨w, List.mem_cons_of_mem _ (hsuffix.subset hw), hw'⟩)
      have hlast : (⟨[], rest, next, []⟩ : Progress σ) = ⟨[], [], last, []⟩ :=
        Except.ok.inj ((readOptions_of_no_option hnone).symm.trans hrest)
      rw [hlast] at htake
      exact ⟨_, readOptions_of_no_option (Bool.eq_false_iff.2 hoption), htake⟩
  simp only [Grammar.read, hwords, bind, Except.bind, hoptions, hend]
  rfl

theorem separators_uses (h : Uses rule ws given) : separators ws = 0 := by
  cases h <;> rfl

/-- **Two words and the uses of an option** behind them are read one after the other. -/
theorem read_uses {first second : String → σ → σ} {key input : String}
    (hpositionals : g.positionals = [p, q]) (hp : TakesWord first p) (hq : TakesWord second q)
    (hkey : key ≠ "--") (hinput : input ≠ "--")
    (hput : rule.effect = .valued fun a s => .ok (put a s))
    (hwords : g.words args = .ok (⟨key, .argument⟩ :: ⟨input, .argument⟩ :: ws))
    (h : Uses rule ws given) : Grammar.read g args state =
      .ok (given.foldl (fun s a => put a s) (second input (first key state)), []) := by
  have htake : takePositionals (⟨key, .argument⟩ :: ⟨input, .argument⟩ :: ws) state []
      g.positionals = .ok ⟨[], ws, second input (first key state), []⟩ := by
    rw [hpositionals, takePositionals_argument hp hkey rfl,
      takePositionals_argument hq hinput (separators_uses h)]
    rfl
  exact read_of_takePositionals hwords rfl htake (List.suffix_cons _ _) (readOptions_uses hput h)

end Grammars

/-! ## Whole lines -/

section Lines

variable {w name : String} {args : List String} {command : Subcommand}

/-- A word that can stand in a line, whatever it is taken for. -/
def Known (w : String) : Prop :=
  ∃ role, requestGrammar.roleOf w.toList = .ok role

theorem ne_of_known (h : Known w) : w ≠ "--" := by
  rintro rfl
  obtain ⟨role, hrole⟩ := h
  have hnone : requestGrammar.roleOf "--".toList = .error .badUsage := rfl
  rw [hnone] at hrole
  cases hrole

theorem exists_words (h : ∀ w ∈ args, Known w) :
    ∃ ws, requestGrammar.words args = .ok ws ∧ ws.map (·.text) = args := by
  induction args with
  | nil => exact ⟨[], rfl, rfl⟩
  | cons w args ih =>
    obtain ⟨hw, hargs⟩ := List.forall_mem_cons.1 h
    obtain ⟨ws, hws, htexts⟩ := ih hargs
    obtain ⟨role, hrole⟩ := hw
    refine ⟨⟨w, role⟩ :: ws, words_cons (ne_of_known ⟨role, hrole⟩) hrole hws, ?_⟩
    rw [List.map_cons, htexts]

/-- **What stands behind the name of a command is the command's to read.** -/
theorem ofArguments_of_readCommand (hname : requestGrammar.roleOf name.toList = .ok .argument)
    (h : ∀ w ∈ args, Known w) (hread : readCommand name args = .ok (command, [])) :
    Request.ofArguments (name :: args) = .ok { command := some command } := by
  obtain ⟨ws, hws, htexts⟩ := exists_words h
  have hwords : requestGrammar.words (name :: args) = .ok (⟨name, .argument⟩ :: ws) :=
    words_cons (ne_of_known ⟨_, hname⟩) hname hws
  have htake : takePositionals (⟨name, .argument⟩ :: ws) {} [] requestGrammar.positionals =
      .ok ⟨[], [], { command := some command }, []⟩ := by
    show takePositionals _ _ _ [.command _] = _
    rw [takePositionals_command, htexts, hread]
    rfl
  have hline : Grammar.read requestGrammar (name :: args) {} =
      .ok ({ command := some command }, []) :=
    read_of_takePositionals hwords rfl htake (List.nil_suffix) readOptions_nil
  simp only [Request.ofArguments, hline, bind, Except.bind]
  rfl

end Lines

/-! ## Variables -/

/-- The option for variables, and what it can be cut to. -/
def varFlags : List String :=
  ["--var", "--va", "--v"]

/-- A word that both rendering and analysing take for an argument. -/
structure Plain (w : String) : Prop where
  known : Known w
  render : renderGrammar.roleOf w.toList = .ok .argument
  analyze : analyzeGrammar.roleOf w.toList = .ok .argument

/-- A word without a dash at its front is an argument. -/
theorem plain_of_head {w : String} (h : w.toList.head? ≠ some '-') : Plain w := by
  have hrole {σ : Type} (g : Grammar σ) : g.roleOf w.toList = .ok .argument := by
    unfold roleOf
    split
    · next hdash =>
      rw [hdash] at h
      exact absurd rfl h
    · rfl
  exact ⟨⟨_, hrole _⟩, hrole _, hrole _⟩

/-- Words that give pairs, each of them behind an option for variables or joined to one. -/
inductive Gives : List String → List Pair → Prop where
  | none : Gives [] []
  | apart {flag : String} {pair : Pair} {args : List String} {pairs : List Pair}
      (hflag : flag ∈ varFlags) (hpair : Plain pair.text) (h : Gives args pairs) :
      Gives (flag :: pair.text :: args) (pair :: pairs)
  | joined {flag : String} {pair : Pair} {args : List String} {pairs : List Pair}
      (hflag : flag ∈ varFlags) (h : Gives args pairs) :
      Gives ((flag ++ "=" ++ pair.text) :: args) (pair :: pairs)

/-- A grammar in which one option takes variables, and plain words are arguments. -/
structure TakesVariables {σ : Type} (g : Grammar σ) (rule : OptionRule σ) : Prop where
  names : ∀ r ∈ g.options, ∀ name ∈ r.names, '=' ∉ name.toList
  flags : ∀ flag ∈ varFlags, ∃ name, g.roleOf flag.toList = .ok (.option rule name none)
  plain : ∀ w, Plain w → g.roleOf w.toList = .ok .argument

section Requests

variable {σ : Type} {g : Grammar σ} {rule : OptionRule σ} {args : List String} {pairs : List Pair}
  {flag key input : String}

theorem mem_varFlags : flag ∈ varFlags ↔ flag = "--var" ∨ flag = "--va" ∨ flag = "--v" := by
  simp [varFlags]

theorem flag_of_mem_varFlags (h : flag ∈ varFlags) : Flag flag.toList := by
  rcases mem_varFlags.1 h with rfl | rfl | rfl <;> exact ⟨by decide, by decide⟩

theorem known_of_mem_varFlags (h : flag ∈ varFlags) : Known flag := by
  rcases mem_varFlags.1 h with rfl | rfl | rfl <;> exact ⟨_, rfl⟩

theorem names_requestGrammar :
    ∀ r ∈ requestGrammar.options, ∀ name ∈ r.names, '=' ∉ name.toList := by
  decide

theorem toList_joined {pair : Pair} : (flag ++ "=" ++ pair.text).toList =
    flag.toList ++ '=' :: pair.text.toList := by
  simp

theorem known_of_gives (h : Gives args pairs) : ∀ w ∈ args, Known w := by
  induction h with
  | none => simp
  | apart hflag hpair h ih => simpa [known_of_mem_varFlags hflag, hpair.known] using ih
  | @joined flag pair args pairs hflag h ih =>
    rw [List.forall_mem_cons]
    obtain ⟨role, hrole⟩ := known_of_mem_varFlags hflag
    refine ⟨?_, ih⟩
    unfold Known
    rw [toList_joined]
    obtain ⟨joined, hjoined, _⟩ :=
      exists_roleOf_joined names_requestGrammar (flag_of_mem_varFlags hflag) hrole
    exact ⟨joined, hjoined⟩

theorem attachedArgument_text {pair : Pair} :
    attachedArgument pair.text.toList = some pair.text := by
  have hne : pair.text.toList ≠ ['-', '-'] := by
    intro h
    have hmem : '=' ∈ pair.text.toList := by simp [Pair.text]
    rw [h] at hmem
    exact absurd hmem (by decide)
  rw [attachedArgument, if_neg hne, String.ofList_toList]

theorem exists_uses (hg : TakesVariables g rule) (h : Gives args pairs) :
    ∃ ws, g.words args = .ok ws ∧ Uses rule ws (pairs.map (some ·.text)) := by
  induction h with
  | none => exact ⟨[], rfl, .none⟩
  | @apart flag pair args pairs hflag hpair h ih =>
    obtain ⟨ws, hws, huses⟩ := ih
    obtain ⟨name, hrole⟩ := hg.flags flag hflag
    have hrest := words_cons (ne_of_known hpair.known) (hg.plain _ hpair) hws
    exact ⟨_, words_cons (ne_of_known (known_of_mem_varFlags hflag)) hrole hrest, .apart huses⟩
  | @joined flag pair args pairs hflag h ih =>
    obtain ⟨ws, hws, huses⟩ := ih
    obtain ⟨name, hrole⟩ := hg.flags flag hflag
    have hknown : Known (flag ++ "=" ++ pair.text) :=
      known_of_gives (.joined hflag h) _ List.mem_cons_self
    obtain ⟨joined, hjoined, hoption⟩ :=
      exists_roleOf_joined hg.names (flag_of_mem_varFlags hflag) hrole
    rw [← toList_joined, hoption rule name rfl] at hjoined
    refine ⟨_, words_cons (ne_of_known hknown) hjoined hws, ?_⟩
    rw [List.map_cons, ← attachedArgument_text]
    exact .joined huses

/-- What an option collects. -/
theorem foldl_collect {put : Option String → σ → σ} {fill : List (Option String) → σ}
    (hput : ∀ as a, put a (fill as) = fill (as ++ [a])) (given as : List (Option String)) :
    given.foldl (fun s a => put a s) (fill as) = fill (as ++ given) := by
  induction given generalizing as with
  | nil => rw [List.append_nil, List.foldl_nil]
  | cons a given ih => rw [List.foldl_cons, hput, ih, List.append_assoc, List.singleton_append]

/-- A key, an input and variables are read by a grammar that fills them in. -/
theorem read_gives (hg : TakesVariables g rule) (state : σ) (fill : List (Option String) → σ)
    {put : Option String → σ → σ} {first second : String → σ → σ} {p q : PositionalRule σ}
    (hput : rule.effect = .valued fun a s => .ok (put a s))
    (hpositionals : g.positionals = [p, q]) (hp : TakesWord first p) (hq : TakesWord second q)
    (hstart : second input (first key state) = fill [])
    (hfill : ∀ as a, put a (fill as) = fill (as ++ [a]))
    (hkey : Plain key) (hinput : Plain input) (h : Gives args pairs) :
    Grammar.read g (key :: input :: args) state =
      .ok (fill (pairs.map (some ·.text)), []) := by
  obtain ⟨ws, hws, huses⟩ := exists_uses hg h
  have hkey' := ne_of_known hkey.known
  have hinput' := ne_of_known hinput.known
  have hwords := words_cons hkey' (hg.plain _ hkey) (words_cons hinput' (hg.plain _ hinput) hws)
  rw [read_uses hpositionals hp hq hkey' hinput' hput hwords huses, hstart, foldl_collect hfill,
    List.nil_append]

theorem known_of_plain (hkey : Plain key) (hinput : Plain input) (h : Gives args pairs) :
    ∀ w ∈ key :: input :: args, Known w := by
  simpa [hkey.known, hinput.known] using known_of_gives h

theorem takesVariables_render : TakesVariables renderGrammar
    ⟨["--var"], .valued fun w r => .ok { r with pairs := r.pairs ++ [w] }⟩ where
  names := by decide
  flags flag hflag := by
    rcases mem_varFlags.1 hflag with rfl | rfl | rfl <;> exact ⟨_, rfl⟩
  plain _ hw := hw.render

theorem takesVariables_analyze : TakesVariables analyzeGrammar
    ⟨["--var"], .valued fun w r => .ok { r with pairs := r.pairs ++ [w] }⟩ where
  names := by decide
  flags flag hflag := by
    rcases mem_varFlags.1 hflag with rfl | rfl | rfl <;> exact ⟨_, rfl⟩
  plain _ hw := hw.analyze

/-- **A line that renders.** -/
theorem ofArguments_render (hkey : Plain key) (hinput : Plain input) (h : Gives args pairs) :
    Request.ofArguments ("render" :: key :: input :: args) = .ok { command := some (.render
      { template := key, input := some input, pairs := pairs.map (some ·.text) }) } := by
  have hread := read_gives takesVariables_render {} (fun as => ⟨key, some input, as⟩) rfl rfl
    .required .optional rfl (fun _ _ => rfl) hkey hinput h
  apply ofArguments_of_readCommand rfl (known_of_plain hkey hinput h)
  show Except.map _ _ = _
  rw [hread]
  rfl

/-- **A line that analyses** with what it is given, and does not send. -/
theorem ofArguments_analyze (hkey : Plain key) (hinput : Plain input) (h : Gives args pairs) :
    Request.ofArguments ("analyze" :: key :: input :: args) = .ok { command := some (.analyze
      { template := some key, input := some input, pairs := pairs.map (some ·.text) }) } := by
  have hread := read_gives takesVariables_analyze {} (fun as => ⟨some key, some input, as, false⟩)
    rfl rfl .optional .optional rfl (fun _ _ => rfl) hkey hinput h
  apply ofArguments_of_readCommand rfl (known_of_plain hkey hinput h)
  show Except.map _ _ = _
  rw [hread]
  rfl

end Requests

end PromptLibrary.Proofs.Command.Arguments

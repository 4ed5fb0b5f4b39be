import PromptLibrary.Text.Digit
/-!
# Grammars of command lines

A grammar has options and positionals. Options are named by words with one or two dashes, which
may be shortened as long as they stay clear, and have their argument behind an equals sign or as
the next word. Positionals take the other words, as many at a time as there are between options.
Words behind a double dash name no options.

What the words do is up to the grammar: each rule changes a state.
-/

namespace PromptLibrary.Command

/-- How a command line ends that does not say what to run. -/
inductive Stop where
  | help
  | badUsage
  deriving DecidableEq, Repr

/-- What an option does. -/
inductive OptionEffect (σ : Type) where
  | help
  | flag (set : σ → σ)
  /-- Takes an argument, which may be refused; there is none where a double dash is attached. -/
  | valued (set : Option String → σ → Except Stop σ)

structure OptionRule (σ : Type) where
  names : List String
  effect : OptionEffect σ

inductive PositionalRule (σ : Type) where
  | required (set : String → σ → σ)
  | optional (set : String → σ → σ)
  /-- Takes the name of a command and all words behind it, and gives back the words without use. -/
  | command (run : String → List String → σ → Except Stop (σ × List String))

structure Grammar (σ : Type) where
  options : List (OptionRule σ)
  positionals : List (PositionalRule σ)

/-- What a word is taken for. -/
inductive Role (σ : Type) where
  | argument
  /-- The double dash. -/
  | separator
  | unknown
  /-- An option, found under a name, with the argument that is part of the word. -/
  | option (rule : OptionRule σ) (name : List Char) (attached : Option (List Char))

/-- A word of a command line and its role. -/
structure Word (σ : Type) where
  text : String
  role : Role σ

namespace Role

variable {σ : Type}

def isOption : Role σ → Bool
  | unknown => true
  | option _ _ _ => true
  | _ => false

end Role

namespace Grammar

variable {σ : Type}

/-! ## Roles of words -/

/-- The option of a given name. -/
def rule? (g : Grammar σ) (name : List Char) : Option (OptionRule σ) :=
  g.options.find? fun r => String.ofList name ∈ r.names

/-- Each name with its option. -/
def named (g : Grammar σ) : List (List Char × OptionRule σ) :=
  g.options.flatMap fun r => r.names.map fun n => (n.toList, r)

/-- A word cut at its first equals sign. -/
def cutAtEquals (word : List Char) : List Char × Option (List Char) :=
  match word.dropWhile (· ≠ '=') with
  | [] => (word, none)
  | _ :: text => (word.takeWhile (· ≠ '='), some text)

/-- What a word with two dashes may be short for. -/
def longMatches (g : Grammar σ) (word : List Char) : List (Role σ) :=
  let (start, attached) := cutAtEquals word
  (g.named.filter fun n => start.isPrefixOf n.1).map fun (name, r) => .option r name attached

/-- What a word with one dash may be: an option of one letter, with what is attached to it. -/
def shortMatches (g : Grammar σ) (word : List Char) : List (Role σ) :=
  g.named.filterMap fun (name, r) =>
    if name = word.take 2 then some (.option r name (some (word.drop 2)))
    else if word.isPrefixOf name then some (.option r name none)
    else none

/-- Digits that go to the end, but for a line feed there. -/
def isDigitRun (s : List Char) : Bool :=
  s.takeWhile Text.isDecimal ≠ [] && s.dropWhile Text.isDecimal ∈ [[], ['\n']]

/-- Whether a word reads as a negative number. -/
def isNegativeNumber : List Char → Bool
  | '-' :: rest =>
    isDigitRun rest ||
      match rest.dropWhile Text.isDecimal with
      | '.' :: fraction => isDigitRun fraction
      | _ => false
  | _ => false

/-- The role of a word that starts with a dash and is no option's name. -/
def dashedRole (g : Grammar σ) (word : List Char) : Except Stop (Role σ) :=
  let (name, attached) := cutAtEquals word
  match attached, g.rule? name with
  | some a, some r => .ok (.option r name (some a))
  | _, _ =>
    let found := match word with
      | '-' :: '-' :: _ => g.longMatches word
      | _ => g.shortMatches word
    match found with
    | _ :: _ :: _ => .error .badUsage
    | [role] => .ok role
    | [] => .ok (if isNegativeNumber word || ' ' ∈ word then .argument else .unknown)

/-- The role of a word in front of any double dash. -/
def roleOf (g : Grammar σ) (word : List Char) : Except Stop (Role σ) :=
  match word with
  | '-' :: _ :: _ =>
    match g.rule? word with
    | some r => .ok (.option r word none)
    | none => g.dashedRole word
  | _ => .ok .argument

/-- The words with their roles; behind a double dash, all are arguments. -/
def words (g : Grammar σ) : List String → Except Stop (List (Word σ))
  | [] => .ok []
  | "--" :: rest => .ok (⟨"--", .separator⟩ :: rest.map fun w => ⟨w, .argument⟩)
  | w :: rest => do
    let role ← g.roleOf w.toList
    return ⟨w, role⟩ :: (← words g rest)

/-! ## Options -/

/-- An option with the argument that it is given. -/
structure Use (σ : Type) where
  rule : OptionRule σ
  argument : Option String

/-- The options of one word, and whether the next word is the argument of the last. -/
structure Cluster (σ : Type) where
  uses : List (Use σ)
  takesNext : Bool

/-- The argument that an attached text is. A double dash is dropped and leaves none. -/
def attachedArgument (text : List Char) : Option String :=
  if text = ['-', '-'] then none else some (String.ofList text)

/-- Whether a name has two dashes. -/
def isLong : List Char → Bool
  | _ :: '-' :: _ => true
  | _ => false

/-- An option to which nothing is attached; `next` is the next word, if it can be an argument. -/
def alone (next : Option String) (rule : OptionRule σ) : Except Stop (Cluster σ) :=
  match rule.effect, next with
  | .valued _, some w => .ok ⟨[⟨rule, some w⟩], true⟩
  | .valued _, none => .error .badUsage
  | _, _ => .ok ⟨[⟨rule, none⟩], false⟩

/--
An option of one letter with the letters behind it: its argument if it takes one, else further
options, each of which the grammar has to have.
-/
def letters (g : Grammar σ) (next : Option String) (rule : OptionRule σ) :
    List Char → Except Stop (Cluster σ)
  | [] => alone next rule
  | c :: more =>
    match rule.effect with
    | .valued _ => .ok ⟨[⟨rule, attachedArgument (c :: more)⟩], false⟩
    | _ =>
      match g.rule? ['-', c] with
      | none => .error .badUsage
      | some inner => do
        let rest ← g.letters next inner more
        return { rest with uses := ⟨rule, none⟩ :: rest.uses }

/-- The options of one word, of which the first is found under a name. -/
def cluster (g : Grammar σ) (next : Option String) (rule : OptionRule σ) (name : List Char) :
    Option (List Char) → Except Stop (Cluster σ)
  | none => alone next rule
  | some text =>
    match rule.effect with
    | .valued _ => .ok ⟨[⟨rule, attachedArgument text⟩], false⟩
    | _ => if isLong name || text = [] then .error .badUsage else g.letters next rule text

/-- Carries out an option. -/
def Use.apply (u : Use σ) (s : σ) : Except Stop σ :=
  match u.rule.effect with
  | .help => .error .help
  | .flag set => .ok (set s)
  | .valued set => set u.argument s

/-! ## Positionals -/

/-- The number of double dashes at the front. -/
def separators (ws : List (Word σ)) : Nat :=
  (ws.takeWhile fun w => match w.role with | .separator => true | _ => false).length

/-- The number of words that an argument with the double dashes around it takes. -/
def argumentLength? (ws : List (Word σ)) : Option Nat :=
  let before := separators ws
  match ws.drop before with
  | ⟨_, .argument⟩ :: rest => some (before + 1 + separators rest)
  | _ => none

/-- How many words a positional takes from the front; nothing if it cannot be had there. -/
def takes? (p : PositionalRule σ) (ws : List (Word σ)) : Option Nat :=
  match p with
  | .required _ => argumentLength? ws
  | .optional _ => some ((argumentLength? ws).getD (separators ws))
  | .command _ => (argumentLength? ws).map fun _ => ws.length

/-- Carries out a positional with the words that it takes. -/
def applyPositional (p : PositionalRule σ) (taken : List String) (s : σ) :
    Except Stop (σ × List String) :=
  match p with
  | .required set => .ok (((taken.erase "--").head?.map (set · s)).getD s, [])
  | .optional set => .ok (((taken.erase "--").head?.map (set · s)).getD s, [])
  | .command run =>
    match taken with
    | [] => .ok (s, [])
    | name :: rest => run name rest s

/-- How far a command line is read. -/
structure Progress (σ : Type) where
  /-- The positionals that are still to come. -/
  due : List (PositionalRule σ)
  words : List (Word σ)
  state : σ
  /-- The words without use. -/
  leftover : List String

/-- Lets positionals take words from the front, for as long as they can. -/
def takePositionals (words : List (Word σ)) (state : σ) (leftover : List String) :
    List (PositionalRule σ) → Except Stop (Progress σ)
  | [] => .ok ⟨[], words, state, leftover⟩
  | p :: due =>
    match takes? p words with
    | none => .ok ⟨p :: due, words, state, leftover⟩
    | some n => do
      let (next, more) ← applyPositional p ((words.take n).map (·.text)) state
      takePositionals (words.drop n) next (leftover ++ more) due

/-! ## Command lines -/

/-- Carries out the option at the front. -/
def takeOption (g : Grammar σ) (word : Word σ) (rest : List (Word σ)) (state : σ)
    (leftover : List String) : Except Stop (σ × Bool × List String) :=
  match word.role with
  | .option rule name attached => do
    let next := match rest with
      | ⟨w, .argument⟩ :: _ => some w
      | _ => none
    let c ← g.cluster next rule name attached
    let state ← c.uses.foldlM (fun s u => u.apply s) state
    return (state, c.takesNext, leftover)
  | _ => .ok (state, false, leftover ++ [word.text])

/-- Reads up to the last option. -/
def readOptions (g : Grammar σ) (p : Progress σ) : Except Stop (Progress σ) :=
  match _hw : p.words with
  | [] => .ok p
  | word :: rest =>
    if ¬ p.words.any (·.role.isOption) then .ok p
    else if _ho : word.role.isOption then do
      let (state, takesNext, leftover) ← takeOption g word rest p.state p.leftover
      readOptions g { p with words := rest.drop (if takesNext then 1 else 0), state, leftover }
    else do
      let q ← takePositionals p.words p.state p.leftover p.due
      if _hq : q.words.length < p.words.length then readOptions g q
      else
        let skipped := p.words.takeWhile (!·.role.isOption)
        readOptions g
          { q with
            words := p.words.drop skipped.length
            leftover := q.leftover ++ skipped.map (·.text) }
termination_by p.words.length
decreasing_by
  · simp only [_hw, List.length_drop, List.length_cons]; omega
  · exact _hq
  · rw [List.length_drop]
    exact Nat.sub_lt (by simp [_hw]) (by simp [_hw, _ho])

/-- Whether a positional cannot be missing. -/
def isRequired : PositionalRule σ → Bool
  | .required _ => true
  | _ => false

/-- Reads a command line. The words without use come back with the state. -/
def read (g : Grammar σ) (args : List String) (state : σ) : Except Stop (σ × List String) := do
  let ws ← g.words args
  let p ← g.readOptions ⟨g.positionals, ws, state, []⟩
  let q ← takePositionals p.words p.state p.leftover p.due
  if q.due.any isRequired then throw .badUsage
  return (q.state, q.leftover ++ q.words.map (·.text))

end Grammar

end PromptLibrary.Command

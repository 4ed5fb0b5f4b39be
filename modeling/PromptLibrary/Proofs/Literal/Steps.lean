import PromptLibrary.Proofs.Literal.Readers
/-!
# The readers of literals step by step

What each reader gives, whether it succeeds or fails, in terms of what the readers that it is built
from give.  The proofs that something was taken are left out, as in `Reads`.
-/

namespace PromptLibrary.Proofs.Literal.Steps

open PromptLibrary.Literal
open PromptLibrary.Proofs.Text.Runs (head?_ne_of_ne_cons)
open PromptLibrary.Proofs.Literal.Readers

/-- What a reader gives, without the proof that something was taken. -/
def outcome {σ ε α : Type} (f : Reader σ ε α) (s : List σ) : Except ε (α × List σ) :=
  (f s).map Taken.pair

/-- What the reader of a chain gives, without the proof that its text did not grow. -/
def chainOutcome (f : Reader Char Failure Parsed) (start : List Char) (left : Parsed)
    (s : List Char) : Except Failure (Parsed × List Char) :=
  (chain f start left s).map fun x => (x.1, x.2.1)

variable {policy : Interpolation} {value f : Reader Char Failure Parsed}
  {inner : Option (Reader Char Failure Parsed)} {s start : List Char} {c : Char} {left : Parsed}

theorem map_ok {ε α β : Type} {g : α → β} {a : α} :
    (Except.ok a : Except ε α).map g = .ok (g a) :=
  rfl

theorem bind_eq_error {ε α β : Type} {x : Except ε α} {g : α → Except ε β} {e : ε} :
    x >>= g = .error e ↔ x = .error e ∨ ∃ a, x = .ok a ∧ g a = .error e := by
  cases x <;> simp [bind, Except.bind]

/-- What an operand or a bracketed literal gives does not hang on the length of the text. -/
theorem outcome_lift {σ ε α β : Type} {g : Reader σ ε α} {s t : List σ} {k : α → β}
    {h : s.length ≤ t.length} :
    ((g s).map (.lift k h : Taken α s → Taken β t)).map Taken.pair =
      (outcome g s).map fun x => (k x.1, x.2) := by
  unfold outcome
  cases g s <;> rfl

/-! ## Operands -/

theorem outcome_operand : outcome (operand policy inner) s = (do
    match ← skipTrivia s with
    | [] => .error (.refused .endOfInput [])
    | c :: rest =>
      if isOpening c then
        match inner with
        | none => .error (.refused .tooDeep rest)
        | some value => outcome (bracketed value c) rest
      else
        let (v, r) ← scalar policy (c :: rest)
        .ok (.leaf v, r)) := by
  rw [outcome, operand]
  split
  · next e hs => simp [hs, Except.map, bind, Except.bind]
  · next t hs =>
    simp only [hs, bind, Except.bind]
    cases t with
    | nil => rfl
    | cons c rest =>
      simp only
      split
      · cases inner with
        | none => rfl
        | some value =>
          simp only [outcome_lift, id]
          cases outcome (bracketed value c) rest <;> rfl
      · split
        · next hv => simp [hv, Except.map]
        · next hv => simp [hv, Except.map, Taken.pair]

theorem outcome_bracketed : outcome (bracketed value c) s =
    if c = '\x7b' then (outcome (members value) s).map fun x => (.ofMembers x.1, x.2)
    else if c = '[' then (outcome (items value) s).map fun x => (.ofItems x.1, x.2)
    else outcome (parenthesised value) s := by
  rw [outcome, bracketed]
  split
  · exact outcome_lift
  · split
    · exact outcome_lift
    · rfl

theorem outcome_parenthesised : outcome (parenthesised value) s = (do
    let (p, m) ← outcome value s
    let n ← skipTrivia m
    if n.head? = some ')' then .ok (p, n.tail)
    else .error (.refused (.expected ')' n.head?) n)) := by
  rw [outcome, outcome, parenthesised]
  cases value s with
  | error e => rfl
  | ok w =>
    simp only [map_ok, Taken.pair, bind, Except.bind]
    split
    · next hm => simp [hm, Except.map]
    · next hm => simp [hm, Except.map, Taken.pair]
    · next n hclose hm =>
      simp [hm, Except.map, head?_ne_of_ne_cons hclose]

/-! ## Items and members -/

theorem outcome_items : outcome (items value) s = (do
    let t ← skipTrivia s
    if t.head? = some ']' then .ok ([], t.tail)
    else if t.head? = some ',' then .error (.refused .hole t)
    else
      let (p, m) ← outcome value t
      let n ← skipTrivia m
      if n.head? = some ',' then
        let (ps, r) ← outcome (items value) n.tail
        .ok (p :: ps, r)
      else if n.head? = some ']' then .ok ([p], n.tail)
      else .error (.refused (.expectedInArray n.head?) n)) := by
  rw [outcome, items]
  split
  · next hs => simp [hs, Except.map, bind, Except.bind]
  · next hs => simp [hs, Except.map, Taken.pair, bind, Except.bind]
  · next hs => simp [hs, Except.map, bind, Except.bind]
  · next t hclose hcomma hs =>
    simp only [hs, bind, Except.bind, head?_ne_of_ne_cons hclose, head?_ne_of_ne_cons hcomma,
      if_false]
    rw [outcome]
    cases value t with
    | error e => rfl
    | ok w =>
      simp only [map_ok, Taken.pair]
      split
      · next hn => simp [hn, Except.map]
      · next rest hn =>
        simp only [hn, List.head?_cons, if_true, List.tail_cons, outcome]
        cases items value rest <;> rfl
      · next hn => simp [hn, Except.map, Taken.pair]
      · next n hcomma hclose hn =>
        simp [hn, Except.map, head?_ne_of_ne_cons hcomma, head?_ne_of_ne_cons hclose]

theorem outcome_members : outcome (members value) s = (do
    let t ← skipTrivia s
    if t.head? = some '\x7d' then .ok ([], t.tail)
    else
      let (key, bare, a) ← readKey t
      let b ← skipTrivia a
      if b.head? = some ':' then
        let (p, m) ← outcome value b.tail
        let n ← skipTrivia m
        if n.head? = some ',' then
          let (ms, r) ← outcome (members value) n.tail
          .ok (⟨key, t, p⟩ :: ms, r)
        else if n.head? = some '\x7d' then .ok ([⟨key, t, p⟩], n.tail)
        else .error (.refused (.expectedInObject n.head?) n)
      else if bare ∧ isValueless b then .error (.refused (.valueless key) t)
      else .error (.refused (.expected ':' b.head?) b)) := by
  rw [outcome, members]
  split
  · next hs => simp [hs, Except.map, bind, Except.bind]
  · next hs => simp [hs, Except.map, Taken.pair, bind, Except.bind]
  · next t hclose hs =>
    simp only [hs, bind, Except.bind, head?_ne_of_ne_cons hclose, if_false]
    split
    · next hk => simp [hk, Except.map]
    · next key bare a hk =>
      simp only [hk]
      split
      · next hb => simp [hb, Except.map]
      · next b hb =>
        simp only [hb, List.head?_cons, if_true, List.tail_cons, outcome]
        cases value b with
        | error e => rfl
        | ok w =>
          simp only [map_ok, Taken.pair]
          split
          · next hn => simp [hn, Except.map]
          · next rest hn =>
            simp only [hn, List.head?_cons, if_true, List.tail_cons]
            cases members value rest <;> rfl
          · next hn => simp [hn, Except.map, Taken.pair]
          · next n hcomma hclose hn =>
            simp [hn, Except.map, head?_ne_of_ne_cons hcomma, head?_ne_of_ne_cons hclose]
      · next b hcolon hb =>
        simp only [hb, head?_ne_of_ne_cons hcolon, if_false]
        split <;> rfl

/-! ## Chains -/

theorem chainOutcome_eq : chainOutcome f start left s = (do
    let t ← skipTrivia s
    if t.head? = some '+' then
      let (right, m) ← outcome f t.tail
      match left.value, right.value with
      | .string a, .string b =>
        chainOutcome f start ⟨.string (a ++ b), left.duplicates ++ right.duplicates⟩ m
      | a, b => .error (.refused (.notStrings a.kind b.kind) start)
    else
      match left.value with
      | .string a => (resolve start a).map fun u => (⟨.string u, left.duplicates⟩, t)
      | v => .ok (⟨v, left.duplicates⟩, t)) := by
  rw [chainOutcome, chain]
  split
  · next hs => simp [hs, Except.map, bind, Except.bind]
  · next rest hs =>
    simp only [hs, bind, Except.bind, List.head?_cons, if_true, List.tail_cons, outcome]
    cases f rest with
    | error e => rfl
    | ok w =>
      obtain ⟨v, keys⟩ := left
      obtain ⟨⟨u, more⟩, m, hm⟩ := w
      cases v with
      | string a =>
        cases u with
        | string b =>
          simp only [map_ok, Taken.pair, chainOutcome]
          cases chain f start ⟨.string (a ++ b), keys ++ more⟩ m <;> rfl
        | _ => rfl
      | _ => rfl
  · next t hplus hs =>
    simp only [hs, bind, Except.bind, head?_ne_of_ne_cons hplus, if_false]
    obtain ⟨v, keys⟩ := left
    cases v with
    | string a =>
      simp only
      cases resolve start a <;> rfl
    | _ => rfl

theorem outcome_expression : outcome (expression f) s = (do
    let (p, m) ← outcome f s
    chainOutcome f s p m) := by
  rw [outcome, outcome, expression]
  cases f s with
  | error e => rfl
  | ok w =>
    simp only [Except.map, Taken.pair, bind, Except.bind, chainOutcome]
    cases chain f s w.value w.rest <;> rfl

theorem parseWithin_eq {limit : Nat} {text : List Char} : parseWithin limit policy text = (do
    let (p, m) ← outcome (expression (operandWithin policy limit)) text
    let n ← skipTrivia m
    if n = [] then .ok p else .error (.refused (.trailing n) n)) := by
  rw [outcome, parseWithin]
  cases expression (operandWithin policy limit) text with
  | error e => rfl
  | ok w =>
    simp only [map_ok, Taken.pair, bind, Except.bind]
    split
    · next hm => simp [hm]
    · next hm => simp [hm]
    · next n hne hm =>
      have hn : n ≠ [] := hne
      simp [hm, hn]

end PromptLibrary.Proofs.Literal.Steps

import PromptLibrary.Proofs.Literal.LineTokens
import PromptLibrary.Proofs.Literal.Reached
import PromptLibrary.Proofs.Literal.Suffix
/-!
# Line endings in literals

A literal and the same literal with carriage returns in front of some of its line feeds are followed
through the parser side by side.  The readers take the same steps in both, behind which texts are
left that again differ in line endings only.

* `OneLine` — an interpolation that is come to does not go over several lines;
* `alike_items`, `alike_members`, `alike_chain` — one level of brackets, by induction on the length
  of the first text;
* `alike_parseWithin` — the levels together.
-/

namespace PromptLibrary.Proofs.Literal.LineEndings

open PromptLibrary.Literal
open PromptLibrary.Proofs.Text.LineEndings
open PromptLibrary.Proofs.Literal.Trivia
open PromptLibrary.Proofs.Literal.Token
open PromptLibrary.Proofs.Literal.Grammar
open PromptLibrary.Proofs.Literal.Readers
open PromptLibrary.Proofs.Literal.Recognition
open PromptLibrary.Proofs.Literal.Steps
open PromptLibrary.Proofs.Literal.Spots
open PromptLibrary.Proofs.Literal.Quote
open PromptLibrary.Proofs.Literal.Reached
open PromptLibrary.Proofs.Literal.Suffix
open PromptLibrary.Proofs.Literal.LineQuotes
open PromptLibrary.Proofs.Literal.LineTokens

/-- In the templates of a part no interpolation that is come to goes over several lines. -/
def OneLine (policy : Interpolation) (n : Nat) (part : Part) (s : List Char) : Prop :=
  ∀ ⦃body⦄, Reaches policy n part s .value ('\x60' :: body) → OneLineSpans policy body

variable {policy : Interpolation} {value f : Reader Char Failure Parsed} {n d : Nat}
  {part part' : Part} {s s' t u start start' : List Char} {c : Char} {left left' : Parsed}

theorem OneLine.mono {n' : Nat}
    (hr : ∀ {u}, Reaches policy n' part' s' .value u → Reaches policy n part s .value u)
    (h : OneLine policy n part s) : OneLine policy n' part' s' :=
  fun _ hreaches => h (hr hreaches)

/-- It is enough to look at whatever stands behind a dollar sign and a brace. -/
theorem oneLine_of_suffix (h : ∀ rest inside after, '$' :: '\x7b' :: rest <:+ s →
    SpanBody 0 none rest inside after → '\n' ∉ inside) : OneLine policy n part s := by
  intro body hbody rest inside after hspan
  exact h rest inside after ((suffix_of_templateReaches hspan).trans
    ((List.suffix_cons _ _).trans (suffix_of_reaches hbody)))

/-- The reader reads the same literals whatever the line endings. -/
def AlikeLiterals (policy : Interpolation) (n : Nat) (value : Reader Char Failure Parsed) : Prop :=
  ∀ ⦃s t⦄, WithReturns s t → OneLine policy n .literal s →
    Alike (Leaves Parsed.value) (outcome value s) (outcome value t)

/-- The reader reads the same operands whatever the line endings. -/
def AlikeOperands (policy : Interpolation) (n : Nat) (f : Reader Char Failure Parsed) : Prop :=
  ∀ ⦃s t⦄, WithReturns s t → (∀ u, Trivia anything s u → OneLine policy n .operand u) →
    Alike (Leaves Parsed.value) (outcome f s) (outcome f t)

/-- What an object takes from its members. -/
def entry (m : Member) : Text × Value :=
  (m.key, m.parsed.value)

theorem alike_items (hreads : ReadsLiterals policy n value) (halike : AlikeLiterals policy n value)
    (h : WithReturns s t) (hline : OneLine policy n .items s) :
    Alike (Leaves (List.map Parsed.value)) (outcome (items value) s) (outcome (items value) t) := by
  induction hl : s.length using Nat.strongRecOn generalizing s t with
  | _ l ih =>
  subst hl
  rw [outcome_items, outcome_items]
  refine (alike_skipTrivia h).bind fun u u' hs hu => ?_
  have htrivia : Trivia anything s u := trivia_of_skipTrivia hs
  have hfirst : OneLine policy n .literal u :=
    hline.mono fun hr => .item (reaches_literal_of_trivia htrivia hr)
  refine .ite (head?_eq_some_iff hu (by decide))
    (fun hclose => .ok ⟨rfl, withReturns_tail hu hclose (by decide)⟩) fun _ => ?_
  refine .ite (head?_eq_some_iff hu (by decide)) (fun _ => .refused) fun _ => ?_
  refine (halike hu hfirst).bind fun (p, m) (p', m') hp hleaves => ?_
  obtain ⟨hvalue, hm⟩ : p.value = p'.value ∧ WithReturns m m' := hleaves
  refine (alike_skipTrivia hm).bind fun v v' hv hv' => ?_
  refine .ite (head?_eq_some_iff hv' (by decide)) (fun hcomma => ?_) fun _ => ?_
  · have hrest := withReturns_tail hv' hcomma (by decide)
    obtain ⟨rest, rfl⟩ := List.head?_eq_some_iff.1 hcomma
    obtain ⟨d, k, hd, hk, hkm⟩ := hreads hp
    have hitem := derives_literal_of_trivia htrivia hk
    have hmore : OneLine policy n .items rest :=
      hline.mono (.items hitem hd (trivia_trans hkm (trivia_of_skipTrivia hv)))
    refine (ih _ (length_lt_of_item hs hp hv) hrest hmore rfl).bind
      fun (ps, r) (ps', r') _ hps => ?_
    obtain ⟨hvalues, hr⟩ : ps.map Parsed.value = ps'.map Parsed.value ∧ WithReturns r r' := hps
    exact .ok ⟨by simp [hvalue, hvalues], hr⟩
  · exact .ite (head?_eq_some_iff hv' (by decide))
      (fun hclose => .ok ⟨by simp [hvalue], withReturns_tail hv' hclose (by decide)⟩)
      fun _ => .refused

theorem alike_members (hreads : ReadsLiterals policy n value)
    (halike : AlikeLiterals policy n value) (h : WithReturns s t)
    (hline : OneLine policy n .members s) :
    Alike (Leaves (List.map entry)) (outcome (members value) s) (outcome (members value) t) := by
  induction hl : s.length using Nat.strongRecOn generalizing s t with
  | _ l ih =>
  subst hl
  rw [outcome_members, outcome_members]
  refine (alike_skipTrivia h).bind fun u u' hs hu => ?_
  have hbefore : Trivia anything s u := trivia_of_skipTrivia hs
  refine .ite (head?_eq_some_iff hu (by decide))
    (fun hclose => .ok ⟨rfl, withReturns_tail hu hclose (by decide)⟩) fun _ => ?_
  refine (alike_readKey hu).bind fun (key, bare, a) (key', bare', a') hkey hleaves => ?_
  obtain ⟨rfl, rfl, ha⟩ : key = key' ∧ bare = bare' ∧ WithReturns a a' := hleaves
  have hk := key_of_readKey hkey
  refine (alike_skipTrivia ha).bind fun b b' hb hbs => ?_
  refine .ite (head?_eq_some_iff hbs (by decide)) (fun hcolon => ?_) fun _ => ?_
  · have hvalues := withReturns_tail hbs hcolon (by decide)
    obtain ⟨afterColon, rfl⟩ := List.head?_eq_some_iff.1 hcolon
    have hbetween : Trivia anything a (':' :: afterColon) := trivia_of_skipTrivia hb
    have hfirst : OneLine policy n .literal afterColon := hline.mono (.value hbefore hk hbetween)
    refine (halike hvalues hfirst).bind fun (p, m) (p', m') hp hleaves => ?_
    obtain ⟨hvalue, hm⟩ : p.value = p'.value ∧ WithReturns m m' := hleaves
    have hentry : entry ⟨key, u, p⟩ = entry ⟨key, u', p'⟩ := congrArg (Prod.mk key) hvalue
    refine (alike_skipTrivia hm).bind fun v v' hv hv' => ?_
    refine .ite (head?_eq_some_iff hv' (by decide)) (fun hcomma => ?_) fun _ => ?_
    · have hrest := withReturns_tail hv' hcomma (by decide)
      obtain ⟨rest, rfl⟩ := List.head?_eq_some_iff.1 hcomma
      obtain ⟨d, k, hd, hder, hkm⟩ := hreads hp
      have hmore : OneLine policy n .members rest := hline.mono (.member hbefore hk hbetween hder hd
        (trivia_trans hkm (trivia_of_skipTrivia hv)))
      refine (ih _ (length_lt_of_member hs hkey hb hp hv) hrest hmore rfl).bind
        fun (ms, r) (ms', r') _ hms => ?_
      obtain ⟨hentries, hr⟩ : ms.map entry = ms'.map entry ∧ WithReturns r r' := hms
      exact .ok ⟨by simp [hentry, hentries], hr⟩
    · exact .ite (head?_eq_some_iff hv' (by decide))
        (fun hclose => .ok ⟨by simp [hentry], withReturns_tail hv' hclose (by decide)⟩)
        fun _ => .refused
  · have hnext := any_head?_eq (p := fun c => c = ',' || c = '\x7d' || c = '(') hbs (by decide)
    exact .ite (by rw [isValueless, isValueless, hnext]) (fun _ => .refused) fun _ => .refused

theorem alike_chain (hreads : ReadsOperands policy n f) (halike : AlikeOperands policy n f)
    (hleft : left.value = left'.value) (h : WithReturns s t)
    (hline : OneLine policy n (.more left.value.kind) s) :
    Alike (Leaves Parsed.value) (chainOutcome f start left s) (chainOutcome f start' left' t) := by
  induction hl : s.length using Nat.strongRecOn generalizing s t left left' with
  | _ l ih =>
  subst hl
  rw [chainOutcome_eq, chainOutcome_eq]
  refine (alike_skipTrivia h).bind fun u u' hs hu => ?_
  refine .ite (head?_eq_some_iff hu (by decide)) (fun hplus => ?_) fun _ => ?_
  · have hrest := withReturns_tail hu hplus (by decide)
    obtain ⟨rest, rfl⟩ := List.head?_eq_some_iff.1 hplus
    have hmark : Trivia anything s ('+' :: rest) := trivia_of_skipTrivia hs
    have hoperand : ∀ w, Trivia anything rest w → OneLine policy n .operand w :=
      fun w hw => hline.mono (.next hmark hw)
    refine (halike hrest hoperand).bind fun (p, m) (p', m') hp hleaves => ?_
    obtain ⟨hvalue, hm⟩ : p.value = p'.value ∧ WithReturns m m' := hleaves
    simp only [← hleft, ← hvalue]
    split
    · next a b ha hb =>
      obtain ⟨d, w, hd, hw, hder⟩ := hreads hp
      rw [ha] at hline
      have hmore : OneLine policy n (.more .string) m :=
        hline.mono (.further hmark hw hder hd (by rw [hb]; rfl))
      exact ih _ (length_lt_of_operand hs hp) rfl hm hmore rfl
    · exact .refused
  · simp only [← hleft]
    split
    · exact alike_resolve.map fun _ _ htext => ⟨congrArg Value.string htext, hu⟩
    · exact .ok ⟨rfl, hu⟩

theorem alikeLiterals_expression (hreads : ReadsOperands policy n f)
    (halike : AlikeOperands policy n f) : AlikeLiterals policy n (expression f) := by
  intro s t h hline
  rw [outcome_expression, outcome_expression]
  refine (halike h fun u hu => hline.mono (.first hu)).bind fun (p, m) (p', m') hp hleaves => ?_
  obtain ⟨d, u, hd, hu, hder⟩ := hreads hp
  exact alike_chain hreads halike hleaves.1 hleaves.2 (hline.mono (.later hu hder hd))

theorem alike_parenthesised (halike : AlikeLiterals policy n value) (h : WithReturns s t)
    (hline : OneLine policy n .literal s) :
    Alike (Leaves Parsed.value) (outcome (parenthesised value) s)
      (outcome (parenthesised value) t) := by
  rw [outcome_parenthesised, outcome_parenthesised]
  refine (halike h hline).bind fun (p, m) (p', m') _ hleaves => ?_
  refine (alike_skipTrivia hleaves.2).bind fun u u' _ hu => ?_
  exact .ite (head?_eq_some_iff hu (by decide))
    (fun hclose => .ok ⟨hleaves.1, withReturns_tail hu hclose (by decide)⟩) fun _ => .refused

theorem value_ofMembers {ms ms' : List Member} (h : ms.map entry = ms'.map entry) :
    (Parsed.ofMembers ms).value = (Parsed.ofMembers ms').value :=
  congrArg (fun entries => Value.object (Mapping.ofEntries entries)) h

theorem alike_bracketed (hc : isOpening c = true) (hreads : ReadsLiterals policy n value)
    (halike : AlikeLiterals policy n value) (h : WithReturns s t)
    (hline : OneLine policy (n + 1) .operand (c :: s)) :
    Alike (Leaves Parsed.value) (outcome (bracketed value c) s)
      (outcome (bracketed value c) t) := by
  rw [outcome_bracketed, outcome_bracketed]
  refine .ite .rfl (fun hbrace => ?_) fun hbrace => ?_
  · subst hbrace
    exact (alike_members hreads halike h (hline.mono .object)).map
      fun _ _ hleaves => ⟨value_ofMembers hleaves.1, hleaves.2⟩
  refine .ite .rfl (fun hbracket => ?_) fun hbracket => ?_
  · subst hbracket
    exact (alike_items hreads halike h (hline.mono .array)).map
      fun _ _ hleaves => ⟨congrArg Value.array hleaves.1, hleaves.2⟩
  · obtain rfl : c = '(' := by simpa [isOpening, hbrace, hbracket] using hc
    exact alike_parenthesised halike h (hline.mono .parentheses)

/-- An operand begins with a bracket, behind which `inner` reads, or with a token. -/
theorem alike_operand {inner : Option (Reader Char Failure Parsed)}
    (hinner : ∀ c rest rest' value, inner = some value → isOpening c = true →
      WithReturns rest rest' → OneLine policy n .operand (c :: rest) →
      Alike (Leaves Parsed.value) (outcome (bracketed value c) rest)
        (outcome (bracketed value c) rest'))
    (h : WithReturns s t) (hline : ∀ u, Trivia anything s u → OneLine policy n .operand u) :
    Alike (Leaves Parsed.value) (outcome (operand policy inner) s)
      (outcome (operand policy inner) t) := by
  rw [outcome_operand, outcome_operand]
  refine (alike_skipTrivia h).bind fun u u' hs hu => ?_
  have hreached := hline u (trivia_of_skipTrivia hs)
  cases hu with
  | nil => exact .refused
  | @char c rest rest' hc hrest =>
    refine .ite .rfl (fun hopening => ?_) fun _ => ?_
    · cases inner with
      | none => exact .refused
      | some value => exact hinner c rest rest' value rfl hopening hrest hreached
    · have htemplate : ∀ body, c :: rest = '\x60' :: body → OneLineSpans policy body :=
        fun body hbody => hreached (hbody ▸ .here)
      exact (alike_scalar (.char hc hrest) htemplate).bind
        fun _ _ _ hleaves => .ok ⟨hleaves.1, hleaves.2⟩
  | feed _ => exact .refused
  | pair _ => exact .refused

theorem alikeOperands_operandWithin (policy : Interpolation) (n : Nat) :
    AlikeOperands policy n (operandWithin policy n) := by
  induction n with
  | zero => exact fun s t h hline => alike_operand (fun _ _ _ _ hnone => by simp at hnone) h hline
  | succ n ih =>
    intro s t h hline
    have hreads := derives_of_reads_operand policy n
    refine alike_operand (fun c rest rest' value hvalue hc hrest hreached => ?_) h hline
    obtain rfl := Option.some.inj hvalue
    exact alike_bracketed hc (derives_of_reads_expression hreads)
      (alikeLiterals_expression hreads ih) hrest hreached

/-- **The parser gives the same value, or fails in the same class, whatever the line endings.** -/
theorem alike_parseWithin (h : WithReturns s t) (hline : OneLine policy n .literal s) :
    Alike (fun p p' => p.value = p'.value) (parseWithin n policy s) (parseWithin n policy t) := by
  have hreads := derives_of_reads_operand policy n
  have halike := alikeOperands_operandWithin policy n
  rw [parseWithin_eq, parseWithin_eq]
  refine (alikeLiterals_expression hreads halike h hline).bind fun (p, m) (p', m') _ hleaves => ?_
  refine (alike_skipTrivia hleaves.2).bind fun u u' _ hu => ?_
  exact .ite (eq_nil_iff hu) (fun _ => .ok hleaves.1) fun _ => .refused

end PromptLibrary.Proofs.Literal.LineEndings

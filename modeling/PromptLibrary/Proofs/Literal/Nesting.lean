import PromptLibrary.Proofs.Literal.Levels
import PromptLibrary.Proofs.Literal.Reached
import PromptLibrary.Proofs.Literal.Suffix
import PromptLibrary.Proofs.Literal.Unlimited
/-!
# The limit on nesting

The limit counts the brackets that are open at once, and no others.  A text that is accepted when
there is room for all its brackets is read in the same way under any limit that its levels keep to;
under a lower limit it is refused behind the first bracket that goes beyond.

* `nests_of_derives` — a derivation goes as deep as its levels do, and a reader with less room stops
  behind the first bracket that it has no room for;
* `parseWithin_of_unlimited` — what a limit does to a text that is accepted without one;
* `nesting_limited`.
-/

namespace PromptLibrary.Proofs.Literal.Nesting

open PromptLibrary.Literal
open PromptLibrary.Proofs.Literal.Trivia
open PromptLibrary.Proofs.Literal.Token
open PromptLibrary.Proofs.Literal.Grammar
open PromptLibrary.Proofs.Literal.Readers
open PromptLibrary.Proofs.Literal.Recognition
open PromptLibrary.Proofs.Literal.Steps
open PromptLibrary.Proofs.Literal.Suffix
open PromptLibrary.Proofs.Literal.Reached
open PromptLibrary.Proofs.Literal.Levels
open PromptLibrary.Proofs.Literal.Unlimited

/-- The text after the first bracket that more than `n` brackets are open from. -/
def beyond (n : Nat) (ls : List (Nat × List Char)) : Option (List Char) :=
  (ls.find? (n < ·.1)).map (·.2)

/-- The number of open brackets that a phrase closes: members and items end with their object. -/
def closes : Phrase → Nat
  | .members _ => 1
  | .items _ => 1
  | _ => 0

/-- The reader of a phrase fails on a text; the one of more operands does if they are strings that
follow a string. -/
def Halts (policy : Interpolation) (n : Nat) (e : Failure) : Phrase → List Char → Prop
  | .operand _, s => Stops policy n e .operand s
  | .more ps, s => ps ≠ [] ∧
      ((∀ p ∈ ps, p.value.kind = .string) → Stops policy n e (.more .string) s)
  | .literal _, s => Stops policy n e .literal s
  | .members _, s => Stops policy n e .members s
  | .items _, s => Stops policy n e .items s

/-- What the opening brackets `ls` of a phrase tell: how deep it goes, and where a reader with less
room stops. -/
structure Nests (policy : Interpolation) (ls : List (Nat × List Char)) (d : Nat) (ph : Phrase)
    (s r : List Char) : Prop where
  counts : Counts (closes ph) ls s r
  depth : ∀ n, beyond n ls = none → d ≤ n
  halts : ∀ n rest, beyond n ls = some rest → Halts policy n (.refused .tooDeep rest) ph s

variable {policy : Interpolation} {d e k n level limit : Nat} {s t u m r rest text : List Char}
  {c : Char} {p v : Parsed} {ps : List Parsed} {ph : Phrase} {ls ls' : List (Nat × List Char)}

/-! ## The first bracket that goes beyond -/

theorem beyond_append : beyond n (ls ++ ls') = (beyond n ls).or (beyond n ls') := by
  rw [beyond, List.find?_append]
  cases h : ls.find? (n < ·.1) <;> simp [beyond, h]

theorem beyond_eq_none : beyond n ls = none ↔ ∀ x ∈ ls, x.1 ≤ n := by
  simp [beyond]

theorem beyond_zero : beyond 0 ((1, s) :: ls) = some s :=
  rfl

theorem beyond_succ : beyond (n + 1) ((1, s) :: raise 1 ls) = beyond n ls := by
  have hsame : (fun x : Nat × List Char => decide (n + 1 < x.1)) ∘
      (fun x : Nat × List Char => (1 + x.1, x.2)) = fun x => decide (n < x.1) := by
    funext x
    simp only [Function.comp, decide_eq_decide]
    omega
  rw [beyond, List.find?_cons_of_neg (by simp), raise, List.find?_map, hsame, beyond,
    Option.map_map]
  rfl

/-! ## One rule of the grammar -/

/-- Brackets that the parts of a phrase have one after the other. -/
theorem depth_append (h : ∀ n, beyond n ls = none → d ≤ n) (h' : ∀ n, beyond n ls' = none → e ≤ n)
    (hn : beyond n (ls ++ ls') = none) : max d e ≤ n := by
  rw [beyond_append, Option.or_eq_none_iff] at hn
  exact Nat.max_le.2 ⟨h n hn.1, h' n hn.2⟩

/-- A reader that has no room for a bracket in two parts stops in the first one, or has read it and
stops in the second one. -/
theorem halts_append (h : ∀ n, beyond n ls = none → d ≤ n)
    (hn : beyond n (ls ++ ls') = some rest) :
    beyond n ls = some rest ∨ d ≤ n ∧ beyond n ls' = some rest := by
  rw [beyond_append, Option.or_eq_some_iff] at hn
  exact hn.imp_right fun hn => ⟨h n hn.1, hn.2⟩

theorem stops_opening (hc : isOpening c = true) :
    Stops policy 0 (.refused .tooDeep s) .operand (c :: s) := by
  have hmark : isBlank c = false ∧ c ≠ '/' := by
    simp only [isOpening, Bool.or_eq_true, decide_eq_true_eq] at hc
    rcases hc with (rfl | rfl) | rfl <;> decide
  rw [Stops, operandWithin, outcome_operand, skipTrivia_token hmark.1 hmark.2]
  simp [bind, Except.bind, hc]

theorem nests_opening (hc : isOpening c = true) (hcounts : Counts 1 ls s r)
    (hdepth : ∀ n, beyond n ls = none → d ≤ n)
    (hstops : ∀ n rest, beyond n ls = some rest →
      Stops policy (n + 1) (.refused .tooDeep rest) .operand (c :: s)) :
    Nests policy ((1, s) :: raise 1 ls) (d + 1) (.operand p) (c :: s) r := by
  refine ⟨counts_opening hc hcounts, fun n hn => ?_, fun n rest hn => ?_⟩
  · cases n with
    | zero => simp [beyond_zero] at hn
    | succ n =>
      rw [beyond_succ] at hn
      exact Nat.succ_le_succ (hdepth n hn)
  · cases n with
    | zero =>
      rw [beyond_zero, Option.some.injEq] at hn
      subst hn
      exact stops_opening hc
    | succ n =>
      rw [beyond_succ] at hn
      exact hstops n rest hn

theorem nests_nothing (h : Counts (closes ph) [] s r) : Nests policy [] 0 ph s r :=
  ⟨h, fun n _ => Nat.zero_le n, fun _ _ hn => nomatch hn⟩

/-- More than one operand are strings. -/
theorem strings_of_joined (h : Joined (p :: ps) v) (hps : ps ≠ []) :
    p.value.kind = .string ∧ ∀ q ∈ ps, q.value.kind = .string := by
  cases h with
  | value => exact absurd rfl hps
  | @text _ ts _ hs _ =>
    have hall : ∀ q ∈ p :: ps, q.value.kind = .string := fun q hq => by
      obtain ⟨t, _, ht⟩ := List.mem_map.1 (hs ▸ List.mem_map_of_mem hq)
      rw [← ht]
      rfl
    exact List.forall_mem_cons.1 hall

theorem counts_mark {b : Nat} (ht : Trivia anything s (c :: t)) (hc : Idle c)
    (h : Counts b ls t r) : Counts b ls s r :=
  counts_of_trivia ht (counts_idle hc h)

theorem counts_close (h : Counts 0 ls s m) (hm : Trivia anything m (c :: r))
    (hc : isClosing c = true) : Counts 1 ls s r := by
  have hboth := counts_trans h (counts_of_trivia hm (counts_closing hc))
  rwa [List.append_nil] at hboth

theorem counts_key {key : Text} {k a : List Char} (ht : Trivia anything s k) (hk : Key k key a)
    (hcolon : Trivia anything a (':' :: t)) (h : Counts b ls t r) : Counts b ls s r :=
  counts_of_trivia ht (counts_trans (counts_of_eq fun _ => levels_of_key hk)
    (counts_mark hcolon (by decide) h))

/-! ## Derivations -/

/-- **A derivation goes as deep as its levels do.** -/
theorem nests_of_derives (h : Derives .free policy d ph s r) :
    ∃ ls, Nests policy ls d ph s r := by
  induction h with
  | token h => exact ⟨[], nests_nothing (counts_of_eq fun _ => levels_of_token h)⟩
  | parentheses _ hc ih =>
    obtain ⟨ls, hcounts, hdepth, hhalts⟩ := ih
    exact ⟨_, nests_opening (by decide) (counts_close hcounts hc (by decide)) hdepth
      fun n rest hn => stops_parentheses (hhalts n rest hn)⟩
  | object _ ih =>
    obtain ⟨ls, hcounts, hdepth, hhalts⟩ := ih
    exact ⟨_, nests_opening (by decide) hcounts hdepth
      fun n rest hn => stops_object (hhalts n rest hn)⟩
  | array _ ih =>
    obtain ⟨ls, hcounts, hdepth, hhalts⟩ := ih
    exact ⟨_, nests_opening (by decide) hcounts hdepth
      fun n rest hn => stops_array (hhalts n rest hn)⟩
  | noMore => exact ⟨[], nests_nothing (counts_of_eq fun _ => rfl)⟩
  | plus hplus hu hp hmore ih ihmore =>
    obtain ⟨ls, hcounts, hdepth, hhalts⟩ := ih
    obtain ⟨ls', hcounts', hdepth', hhalts'⟩ := ihmore
    refine ⟨ls ++ ls', ?_, fun n => depth_append hdepth hdepth',
      fun n rest hn => ⟨List.cons_ne_nil _ _, fun hs => ?_⟩⟩
    · exact counts_mark hplus (by decide) (counts_of_trivia hu (counts_trans hcounts hcounts'))
    · obtain ⟨hk, hks⟩ := List.forall_mem_cons.1 hs
      rcases halts_append hdepth hn with hn | ⟨hd, hn⟩
      · exact stops_next hplus hu (hhalts n rest hn)
      · exact stops_further hplus hu hp hd hk ((hhalts' n rest hn).2 hks)
  | literal hu hp hmore hsum ih ihmore =>
    obtain ⟨ls, hcounts, hdepth, hhalts⟩ := ih
    obtain ⟨ls', hcounts', hdepth', hhalts'⟩ := ihmore
    refine ⟨ls ++ ls', ?_, fun n => depth_append hdepth hdepth', fun n rest hn => ?_⟩
    · exact counts_of_trivia hu (counts_trans hcounts hcounts')
    · rcases halts_append hdepth hn with hn | ⟨hd, hn⟩
      · exact stops_first hu (hhalts n rest hn)
      · obtain ⟨hps, hmore⟩ := hhalts' n rest hn
        obtain ⟨hk, hks⟩ := strings_of_joined hsum hps
        exact stops_later hu hp hd (hk ▸ hmore hks)
  | noMembers hc =>
    exact ⟨[], nests_nothing (counts_close (counts_of_eq fun _ => rfl) hc (by decide))⟩
  | lastMember ht hk hcolon _ hc ih =>
    obtain ⟨ls, hcounts, hdepth, hhalts⟩ := ih
    exact ⟨ls, counts_key ht hk hcolon (counts_close hcounts hc (by decide)), hdepth,
      fun n rest hn => stops_value ht hk hcolon (hhalts n rest hn)⟩
  | member ht hk hcolon hp hc _ ih ihmore =>
    obtain ⟨ls, hcounts, hdepth, hhalts⟩ := ih
    obtain ⟨ls', hcounts', hdepth', hhalts'⟩ := ihmore
    refine ⟨ls ++ ls', ?_, fun n => depth_append hdepth hdepth', fun n rest hn => ?_⟩
    · exact counts_key ht hk hcolon (counts_trans hcounts (counts_mark hc (by decide) hcounts'))
    · rcases halts_append hdepth hn with hn | ⟨hd, hn⟩
      · exact stops_value ht hk hcolon (hhalts n rest hn)
      · exact stops_member ht hk hcolon hp hd hc (hhalts' n rest hn)
  | noItems hc =>
    exact ⟨[], nests_nothing (counts_close (counts_of_eq fun _ => rfl) hc (by decide))⟩
  | lastItem hp hc ih =>
    obtain ⟨ls, hcounts, hdepth, hhalts⟩ := ih
    obtain ⟨c, t, hs, hclose, hcomma⟩ := skipTrivia_of_literal hp
    exact ⟨ls, counts_close hcounts hc (by decide), hdepth,
      fun n rest hn => stops_item hs hclose hcomma (hhalts n rest hn)⟩
  | item hp hc _ ih ihmore =>
    obtain ⟨ls, hcounts, hdepth, hhalts⟩ := ih
    obtain ⟨ls', hcounts', hdepth', hhalts'⟩ := ihmore
    obtain ⟨c, t, hs, hclose, hcomma⟩ := skipTrivia_of_literal hp
    refine ⟨ls ++ ls', counts_trans hcounts (counts_mark hc (by decide) hcounts'),
      fun n => depth_append hdepth hdepth', fun n rest hn => ?_⟩
    rcases halts_append hdepth hn with hn | ⟨hd, hn⟩
    · exact stops_item hs hclose hcomma (hhalts n rest hn)
    · exact stops_items hp hd hc (hhalts' n rest hn)

/-! ## Whole texts -/

/-- Brackets are opened one at a time. -/
theorem level_of_find (hk : k ≤ n) (h : (levels k s).find? (n < ·.1) = some (level, rest)) :
    level = n + 1 := by
  fun_induction levels k s with
  | case1 => simp at h
  | case2 _ _ _ ih => exact ih hk h
  | case3 => simp at h
  | case4 => rename_i ih; exact ih hk h
  | case5 => simp at h
  | case6 => rename_i ih; exact ih hk h
  | case7 => simp at h
  | case8 => rename_i ih; exact ih hk h
  | case9 k c s _ _ _ _ _ ih =>
    by_cases hlt : n < k + 1
    · rw [List.find?_cons_of_pos (by simpa using hlt), Option.some.injEq, Prod.mk.injEq] at h
      omega
    · rw [List.find?_cons_of_neg (by simpa using hlt)] at h
      exact ih (by omega) h
  | case10 => rename_i ih; exact ih (by omega) h
  | case11 => rename_i ih; exact ih hk h

/-- **What a limit does to a text that is accepted without one.** -/
theorem parseWithin_of_unlimited (h : parseUnlimited policy text = .ok p) :
    parseWithin limit policy text = match beyond limit (levels 0 text) with
      | none => .ok p
      | some rest => .error (.refused .tooDeep rest) := by
  obtain ⟨d, _, m, hder, hm⟩ := parseWithin_eq_ok_iff.1 h
  obtain ⟨ls, hcounts, hdepth, hhalts⟩ := nests_of_derives hder
  have hlevels : levels 0 text = raise 0 ls := by
    have hall := hcounts 0
    rwa [levels_of_trivia hm, levels_nil, List.append_nil] at hall
  have hraise : raise 0 ls = ls := by
    simp [raise]
  rw [hlevels, hraise]
  cases hn : beyond limit ls with
  | none => exact parseWithin_eq_ok_iff.2 ⟨d, hdepth limit hn, m, hder, hm⟩
  | some rest =>
    rw [parseWithin_eq, hhalts limit rest hn text rfl]
    rfl

/-- A literal that has been read leaves as many brackets open as it found. -/
theorem counts_of_reads (h : Reads (expression (operandWithin policy n)) s p r) :
    ∃ ls, Counts 0 ls s r := by
  obtain ⟨d, m, _, hder, hm⟩ := derives_of_reads_expression (derives_of_reads_operand policy n) h
  obtain ⟨ls, hcounts, _, _⟩ := nests_of_derives hder
  have hafter : Counts 0 [] m r := counts_of_eq fun _ => levels_of_trivia hm
  exact ⟨ls ++ [], counts_trans hcounts hafter⟩

/-- **The limit on nesting counts only the brackets that are open at once.**  Take a text that is
accepted without a limit.  If at most as many brackets as the limit allows are open at any place of
it, then it has the same value and the same warnings under the limit; otherwise it is refused, with
the offset behind the first bracket that opens a level beyond.  What has been closed does not count,
since between the ends of a literal the number of open brackets comes back to what it was, whatever
that was. -/
theorem nesting_limited (policy : Interpolation) (text : List Char) (p : Parsed)
    (h : parseUnlimited policy text = .ok p) :
    ((∀ x ∈ levels 0 text, x.1 ≤ depthLimit) → parseValue policy text =
      .ok ⟨p.value, p.duplicates.map fun d => ⟨d.key, text.length - d.rest.length⟩⟩) ∧
    (∀ level rest, (levels 0 text).find? (depthLimit < ·.1) = some (level, rest) →
      level = depthLimit + 1 ∧ parseValue policy text =
        .error (.refused .tooDeep (some (text.length - rest.length)))) ∧
    ∀ n s q r, Reads (expression (operandWithin policy n)) s q r →
      ∃ inside, ∀ k, levels k s = raise k inside ++ levels k r := by
  have hparse : parseWithin depthLimit policy text = _ := parseWithin_of_unlimited h
  refine ⟨fun hall => ?_, fun level rest hfind => ?_, fun n s q r hread => counts_of_reads hread⟩
  · rw [beyond_eq_none.2 hall] at hparse
    rw [parseValue, hparse]
  · refine ⟨level_of_find (Nat.zero_le _) hfind, ?_⟩
    rw [beyond, hfind] at hparse
    rw [parseValue, hparse]
    rfl

/-! ## Brackets inside of brackets -/

/-- Arrays inside of each other. -/
def nested (k : Nat) : List Char :=
  List.replicate k '[' ++ List.replicate k ']'

theorem length_nested : (nested k).length = k + k := by
  rw [nested, List.length_append, List.length_replicate, List.length_replicate]

theorem nested_succ : nested (k + 1) ++ r = '[' :: (nested k ++ ']' :: r) := by
  have hclose : List.replicate (k + 1) ']' = List.replicate k ']' ++ [']'] :=
    List.replicate_succ'
  rw [nested, nested, List.replicate_succ, hclose]
  simp

theorem find_replicate {j : Nat} (hk : k ≤ n) (hn : n < k + j) :
    (levels k (List.replicate j '[' ++ s)).find? (n < ·.1) =
      some (n + 1, List.replicate (k + j - (n + 1)) '[' ++ s) := by
  induction j generalizing k with
  | zero => omega
  | succ j ih =>
    rw [List.replicate_succ, List.cons_append, levels_opening (by decide)]
    by_cases hlt : n < k + 1
    · have hlength : k + (j + 1) - (n + 1) = j := by omega
      have hlevel : k = n := by omega
      rw [List.find?_cons_of_pos (by simpa using hlt), hlength, hlevel]
    · have hlength : k + (j + 1) - (n + 1) = k + 1 + j - (n + 1) := by omega
      rw [List.find?_cons_of_neg (by simpa using hlt), ih (by omega) (by omega), hlength]

theorem derives_nested (policy : Interpolation) (k : Nat) (r : List Char) :
    ∃ p, Derives .free policy (k + 1) (.operand p) (nested (k + 1) ++ r) r ∧
      p.value.kind ≠ .string := by
  induction k generalizing r with
  | zero => exact ⟨_, .array (.noItems .none), Kind.noConfusion⟩
  | succ k ih =>
    obtain ⟨p, hp, hk⟩ := ih (']' :: r)
    rw [nested_succ]
    exact ⟨_, .array (.lastItem (.literal .none hp .noMore (.value hk)) .none), Kind.noConfusion⟩

/-- One bracket more than the limit allows is accepted without it. -/
theorem nesting_limited_nested :
    ∃ p, parseUnlimited .strict (nested (depthLimit + 1)) = .ok p ∧
      parseValue .strict (nested (depthLimit + 1)) = .error (.refused .tooDeep (some 201)) := by
  obtain ⟨p, hp, hk⟩ := derives_nested .strict depthLimit []
  rw [List.append_nil] at hp
  have hroom : max (depthLimit + 1) 0 ≤ (nested (depthLimit + 1)).length := by
    rw [length_nested]
    omega
  have haccept : parseUnlimited .strict (nested (depthLimit + 1)) = .ok p :=
    parseWithin_eq_ok_iff.2 ⟨_, hroom, [], .literal .none hp .noMore (.value hk), .none⟩
  have hfind := @find_replicate 0 depthLimit (List.replicate (depthLimit + 1) ']')
    (depthLimit + 1) (Nat.zero_le _) (by omega)
  obtain ⟨_, hrefused⟩ := (nesting_limited _ _ _ haccept).2.1 _ _ hfind
  have hrest : 0 + (depthLimit + 1) - (depthLimit + 1) = 0 := by omega
  rw [length_nested, hrest, List.replicate_zero, List.nil_append, List.length_replicate] at hrefused
  exact ⟨p, haccept, hrefused⟩

end PromptLibrary.Proofs.Literal.Nesting

import PromptLibrary.Proofs.Source.Extraction
import Mathlib.Data.List.Induction
/-!
# Unbalanced literals

A scan that comes to the end of its text has stopped in a state, and what is missing can be read off
that state: a character for a backslash at the end, the quote that is still open and a closing brace
for each open one.

* `run_append` — a scan that stopped goes on from its state when more text comes;
* `escaped_foldl` — whether the next character is escaped is the parity of the last backslashes;
* `extract_completed` — the literal that the missing text completes.
-/

namespace PromptLibrary.Proofs.Source.Unbalanced

open PromptLibrary.Source
open PromptLibrary.Proofs.Source.Place
open PromptLibrary.Proofs.Source.Balanced
open PromptLibrary.Proofs.Source.Extraction

variable {source marker t more : List Char} {s state : Scan} {c x : Char} {k n start : Nat}
  {mode : QuoteMode}

/-! ## States at the end of a text -/

theorem run_append (h : Scan.run s t = .error state) :
    Scan.run s (t ++ more) = Scan.run state more := by
  induction t generalizing s with
  | nil => rw [List.nil_append, Except.error.inj h]
  | cons c t ih =>
    simp only [List.cons_append, Scan.run] at h ⊢
    by_cases hd : (s.step c).depth = 0
    · simp [hd] at h
    · rw [if_neg hd] at h ⊢
      exact ih h

theorem eq_foldl_of_run (h : Scan.run s t = .error state) : state = t.foldl Scan.step s := by
  induction t generalizing s with
  | nil => exact (Except.error.inj h).symm
  | cons c t ih =>
    simp only [Scan.run] at h
    by_cases hd : (s.step c).depth = 0
    · simp [hd] at h
    · rw [if_neg hd] at h
      exact ih h

theorem depth_pos_of_run (hs : 0 < s.depth) (h : Scan.run s t = .error state) :
    0 < state.depth := by
  induction t generalizing s with
  | nil => rwa [← Except.error.inj h]
  | cons c t ih =>
    simp only [Scan.run] at h
    by_cases hd : (s.step c).depth = 0
    · simp [hd] at h
    · rw [if_neg hd] at h
      exact ih (Nat.pos_of_ne_zero hd) h

/-! ## Backslashes at the end -/

/-- How many backslashes a text ends in. -/
def lastBackslashes (t : List Char) : Nat :=
  (t.reverse.takeWhile (· = '\\')).length

theorem lastBackslashes_concat :
    lastBackslashes (t ++ [c]) = if c = '\\' then lastBackslashes t + 1 else 0 := by
  unfold lastBackslashes
  rw [List.reverse_append, List.reverse_singleton, List.singleton_append, List.takeWhile_cons]
  by_cases hc : c = '\\'
  · simp [hc]
  · simp [hc]

theorem escaped_step : (s.step c).escaped = (!s.escaped && decide (c = '\\')) := by
  unfold Scan.step
  by_cases he : s.escaped = true
  · simp [he]
  · by_cases hc : c = '\\'
    · simp [he, hc]
    · simp only [he, hc]
      grind

theorem escaped_foldl (hs : s.escaped = false) :
    (t.foldl Scan.step s).escaped = decide (lastBackslashes t % 2 = 1) := by
  induction t using List.reverseRecOn with
  | nil => exact hs
  | append_singleton t c ih =>
    rw [List.foldl_append, List.foldl_cons, List.foldl_nil, escaped_step, ih,
      lastBackslashes_concat]
    by_cases hc : c = '\\'
    · rw [if_pos hc]
      grind
    · simp [hc]

/-! ## What is missing -/

/-- The quote that closes a quoted stretch. -/
def closer : QuoteMode → List Char
  | .none => []
  | .single => ['\'']
  | .double => ['"']
  | .backtick => ['\x60']

/-- What is missing behind a text `t` that ends between these quotes, up to the first `count` of its
closing braces.  A last backslash may escape any character. -/
def completion (t : List Char) (mode : QuoteMode) (x : Char) (count : Nat) : List Char :=
  (if lastBackslashes t % 2 = 1 then [x] else []) ++ closer mode ++ List.replicate count '\x7d'

theorem run_escape (hk : 0 < k) :
    Scan.run ⟨k, n, mode, true⟩ (x :: t) = Scan.run ⟨k, n, mode, false⟩ t := by
  simp [Scan.run, Scan.step, Nat.ne_of_gt hk]

theorem run_closer (hk : 0 < k) :
    Scan.run (within mode k n) (closer mode ++ t) = Scan.run (outside k n) t := by
  cases mode with
  | none => rfl
  | single | double | backtick => exact run_unquote hk (by decide) rfl

theorem run_braces_lt {count : Nat} (hcount : count < k) :
    Scan.run (outside k n) (List.replicate count '\x7d') = .error (outside (k - count) n) := by
  induction count generalizing k with
  | zero => rfl
  | succ count ih =>
    obtain ⟨j, rfl⟩ : ∃ j, k = j + 1 := ⟨k - 1, by omega⟩
    rw [List.replicate_succ, run_close (by omega), ih (by omega)]
    congr 2
    omega

theorem run_braces_eq : Scan.run (outside (k + 1) n) (List.replicate (k + 1) '\x7d') =
    .ok (outside 0 n, []) := by
  induction k with
  | zero => exact run_last
  | succ k ih => rw [List.replicate_succ, run_close (Nat.succ_pos k), ih]

/-- The missing text takes a scan that stopped out of its quotes, with nothing left but braces. -/
theorem run_completion {count : Nat} (h : Scan.run s t = .error state) (hs : s.escaped = false)
    (hdepth : 0 < state.depth) :
    Scan.run s (t ++ completion t state.quote x count) =
      Scan.run (outside state.depth state.deepest) (List.replicate count '\x7d') := by
  have hescaped : state.escaped = decide (lastBackslashes t % 2 = 1) := by
    rw [eq_foldl_of_run h, escaped_foldl hs]
  obtain ⟨depth, deepest, quote, escaped⟩ := state
  simp only at hescaped hdepth
  rw [run_append h, completion, List.append_assoc]
  by_cases hodd : lastBackslashes t % 2 = 1
  · rw [hescaped, decide_eq_true hodd, if_pos hodd, List.singleton_append, run_escape hdepth]
    exact run_closer hdepth
  · rw [hescaped, decide_eq_false hodd, if_neg hodd, List.nil_append]
    exact run_closer hdepth

/-! ## Extraction -/

theorem located_of_unbalanced {offset depth : Nat}
    (h : extract source marker = .error (.unbalanced offset depth mode)) :
    Located source marker (.ok offset) ∧ ∃ state,
      Scan.run {} (source.drop offset) = .error state ∧ state.depth = depth ∧
        state.quote = mode := by
  obtain ⟨r, hr⟩ := exists_located source marker
  cases r with
  | error e =>
    rw [extract_of_missing hr, Except.error.injEq] at h
    subst h
    exact nomatch hr
  | ok start =>
    cases hrun : Scan.run {} (source.drop start) with
    | ok x =>
      rw [extract_of_run hr hrun] at h
      exact nomatch h
    | error state =>
      rw [extract_of_stuck hr hrun, Except.error.injEq, ExtractError.unbalanced.injEq] at h
      obtain ⟨rfl, hdepth, hmode⟩ := h
      exact ⟨hr, state, hrun, hdepth, hmode⟩

/-- Text that is put after the source does not move the literal. -/
theorem located_append (h : Located source marker (.ok start)) :
    Located (source ++ more) marker (.ok start) := by
  cases h with
  | brace hm he hb => exact .brace (firstAt_append hm) (firstAt_append he) (firstAt_append hb)

/-- A source with what is missing behind its literal, which begins at the offset. -/
def completed (source : List Char) (offset : Nat) (mode : QuoteMode) (x : Char) (count : Nat) :
    List Char :=
  source ++ completion (source.drop offset) mode x count

/-- **An unbalanced literal is diagnosed exactly.**  At least one brace is open.  The character that
a last backslash escapes, the quote that is open and as many closing braces as are told make the
source extractable, with a literal that goes to its end; with fewer braces the rest of them is told
to be missing. -/
theorem extract_completed (source marker : List Char) (offset depth : Nat) (mode : QuoteMode)
    (h : extract source marker = .error (.unbalanced offset depth mode)) :
    1 ≤ depth ∧
    (∀ x, ∃ deepest, extract (completed source offset mode x depth) marker =
      .ok ⟨(completed source offset mode x depth).drop offset, offset,
        (completed source offset mode x depth).length, deepest⟩) ∧
    ∀ x, ∀ count < depth, extract (completed source offset mode x count) marker =
      .error (.unbalanced offset (depth - count) .none) := by
  obtain ⟨hlocated, state, hrun, rfl, rfl⟩ := located_of_unbalanced h
  obtain ⟨_, hle, rest, hrest⟩ := fromLiteral_of_located hlocated
  have hopen : Scan.run {} ('\x7b' :: rest) = Scan.run (outside 1 1) rest := run_open
  have hdepth : 0 < state.depth := by
    rw [hrest, hopen] at hrun
    exact depth_pos_of_run (Nat.lt_succ_self 0) hrun
  have hstart : ∀ x count, Located (completed source offset state.quote x count) marker
      (.ok offset) := fun _ _ => located_append hlocated
  have hscan : ∀ x count, Scan.run {} ((completed source offset state.quote x count).drop offset) =
      Scan.run (outside state.depth state.deepest) (List.replicate count '\x7d') := by
    intro x count
    rw [completed, List.drop_append_of_le_length hle]
    exact run_completion hrun rfl hdepth
  refine ⟨hdepth, fun x => ?_, fun x count hcount => ?_⟩
  · obtain ⟨k, hk⟩ : ∃ k, state.depth = k + 1 := ⟨state.depth - 1, by omega⟩
    have hend := hscan x state.depth
    rw [hk, run_braces_eq, ← hk] at hend
    have hlength :
        offset + ((completed source offset state.quote x state.depth).drop offset).length =
          (completed source offset state.quote x state.depth).length := by
      rw [List.length_drop, completed, List.length_append]
      omega
    refine ⟨state.deepest, ?_⟩
    rw [extract_of_run (hstart x state.depth) hend, List.length_nil, Nat.sub_zero,
      List.take_length, hlength]
    rfl
  · have hstuck := hscan x count
    rw [run_braces_lt hcount] at hstuck
    exact extract_of_stuck (hstart x count) hstuck

/-- A source that ends behind a backslash, in a string of an object inside another one. -/
def cutOff : List Char :=
  ['M', '=', '\x7b', 'a', ':', '\x7b', 'b', ':', '"', '\x7d', '\\']

/-- A quote that is escaped does not close the string, and two braces are missing behind it. -/
theorem extract_completed_cutOff :
    extract cutOff ['M'] = .error (.unbalanced 2 2 .double) ∧
      (∃ deepest, extract (cutOff ++ ['"', '"', '\x7d', '\x7d']) ['M'] =
        .ok ⟨cutOff.drop 2 ++ ['"', '"', '\x7d', '\x7d'], 2, 15, deepest⟩) ∧
      extract (cutOff ++ ['"', '"', '\x7d']) ['M'] = .error (.unbalanced 2 1 .none) := by
  have h : extract cutOff ['M'] = .error (.unbalanced 2 2 .double) := by decide
  obtain ⟨_, hclosed, hopen⟩ := extract_completed cutOff ['M'] 2 2 .double h
  exact ⟨h, hclosed '"', hopen '"' 1 (by decide)⟩

end PromptLibrary.Proofs.Source.Unbalanced

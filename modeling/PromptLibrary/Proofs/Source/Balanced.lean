import PromptLibrary.Proofs.Source.Place
/-!
# Balanced literals

The scan keeps a depth, a kind of quotes and a mark for a backslash.  The texts it accepts have a
grammar without any of these: a literal is a pair of braces around items, and an item is a literal,
a quoted stretch, a character after a backslash, or one character without meaning.

* `run_body` — the scan crosses items and comes out as it went in, but for the greatest depth;
* `exists_closing_of_run` — a scan that ends has read the items up to the last closing brace.

Together they say that the scan finds a literal exactly when one stands there.
-/

namespace PromptLibrary.Proofs.Source.Balanced

open PromptLibrary.Source
open PromptLibrary.Proofs.Source.Place

/-! ## The grammar -/

/-- The characters that open and close quotes. -/
def quotes : List Char := ['\'', '"', '\x60']

/-- The characters with a meaning of their own. -/
def delimiters : List Char := quotes ++ ['\x7b', '\x7d', '\\']

/-- The rest of a quoted stretch after its opening quote, with the closing one. -/
inductive Quoted (quote : Char) : List Char → Prop where
  | close : Quoted quote [quote]
  | plain {c : Char} {s : List Char} (hc : c ≠ quote ∧ c ≠ '\\') (h : Quoted quote s) :
      Quoted quote (c :: s)
  | escaped {c : Char} {s : List Char} (h : Quoted quote s) : Quoted quote ('\\' :: c :: s)

/-- Items one after the other, in which literals nest `depth` deep. -/
inductive Body : (depth : Nat) → List Char → Prop where
  | nil : Body 0 []
  | plain {d : Nat} {c : Char} {s : List Char} (hc : c ∉ delimiters) (h : Body d s) :
      Body d (c :: s)
  | escaped {d : Nat} {c : Char} {s : List Char} (h : Body d s) : Body d ('\\' :: c :: s)
  | quoted {d : Nat} {q : Char} {t s : List Char} (hq : q ∈ quotes) (ht : Quoted q t)
      (h : Body d s) : Body d (q :: t ++ s)
  | literal {e d : Nat} {t s : List Char} (ht : Body e t) (h : Body d s) :
      Body (max (e + 1) d) ('\x7b' :: t ++ '\x7d' :: s)

/-- Items between braces; `depth` counts the braces around the innermost ones. -/
inductive Literal : (depth : Nat) → List Char → Prop where
  | mk {d : Nat} {s : List Char} (h : Body d s) : Literal (d + 1) ('\x7b' :: s ++ ['\x7d'])

/-! ## One character -/

variable {k n d : Nat} {c q : Char} {s t r rest : List Char} {mode : QuoteMode}

/-- The scan inside `k` braces and outside of quotes, `n` being the greatest depth so far. -/
def outside (k n : Nat) : Scan := ⟨k, n, .none, false⟩

/-- The scan between quotes. -/
def within (mode : QuoteMode) (k n : Nat) : Scan := ⟨k, n, mode, false⟩

theorem exists_mode_of_mem_quotes (hq : q ∈ quotes) :
    ∃ mode, QuoteMode.of? q = some mode ∧ mode ≠ .none ∧
      ∀ c, QuoteMode.of? c = some mode → c = q := by
  simp only [quotes, List.mem_cons, List.not_mem_nil, or_false] at hq
  rcases hq with rfl | rfl | rfl
  · refine ⟨.single, rfl, by decide, fun c hc => ?_⟩
    unfold QuoteMode.of? at hc
    split at hc <;> simp_all
  · refine ⟨.double, rfl, by decide, fun c hc => ?_⟩
    unfold QuoteMode.of? at hc
    split at hc <;> simp_all
  · refine ⟨.backtick, rfl, by decide, fun c hc => ?_⟩
    unfold QuoteMode.of? at hc
    split at hc <;> simp_all

theorem quoteMode_eq_none (hc : c ∉ quotes) : QuoteMode.of? c = none := by
  simp only [quotes, List.mem_cons, List.not_mem_nil, or_false, not_or] at hc
  unfold QuoteMode.of?
  split <;> simp_all

theorem not_mem_quotes (hc : c ∉ delimiters) : c ∉ quotes :=
  fun h => hc (List.mem_append_left _ h)

theorem run_escaped (hk : 0 < k) :
    Scan.run ⟨k, n, mode, false⟩ ('\\' :: c :: r) = Scan.run ⟨k, n, mode, false⟩ r := by
  simp [Scan.run, Scan.step, Nat.ne_of_gt hk]

theorem run_plain (hk : 0 < k) (hc : c ∉ delimiters) :
    Scan.run (outside k n) (c :: r) = Scan.run (outside k n) r := by
  have hq := quoteMode_eq_none (not_mem_quotes hc)
  simp only [delimiters, List.mem_append, List.mem_cons, List.not_mem_nil, or_false, not_or] at hc
  simp [Scan.run, Scan.step, outside, hq, hc, Nat.ne_of_gt hk]

theorem run_quote (hk : 0 < k) (hq : QuoteMode.of? q = some mode) :
    Scan.run (outside k n) (q :: r) = Scan.run (within mode k n) r := by
  have hb : q ≠ '\\' := by rintro rfl; simp [QuoteMode.of?] at hq
  simp [Scan.run, Scan.step, outside, within, hq, hb, Nat.ne_of_gt hk]

theorem run_unquote (hk : 0 < k) (hm : mode ≠ .none) (hq : QuoteMode.of? q = some mode) :
    Scan.run (within mode k n) (q :: r) = Scan.run (outside k n) r := by
  have hb : q ≠ '\\' := by rintro rfl; simp [QuoteMode.of?] at hq
  simp [Scan.run, Scan.step, outside, within, hq, hb, hm, Nat.ne_of_gt hk]

theorem run_inert (hk : 0 < k) (hm : mode ≠ .none) (hb : c ≠ '\\')
    (hc : QuoteMode.of? c ≠ some mode) :
    Scan.run (within mode k n) (c :: r) = Scan.run (within mode k n) r := by
  simp [Scan.run, Scan.step, within, hb, hc, hm, Nat.ne_of_gt hk]

theorem run_open :
    Scan.run (outside k n) ('\x7b' :: r) = Scan.run (outside (k + 1) (max n (k + 1))) r := by
  simp [Scan.run, Scan.step, outside, QuoteMode.of?]

theorem run_close (hk : 0 < k) :
    Scan.run (outside (k + 1) n) ('\x7d' :: r) = Scan.run (outside k n) r := by
  simp [Scan.run, Scan.step, outside, QuoteMode.of?, Nat.ne_of_gt hk]

theorem run_last : Scan.run (outside 1 n) ('\x7d' :: r) = .ok (outside 0 n, r) := by
  simp [Scan.run, Scan.step, outside, QuoteMode.of?]

/-! ## Crossing what the grammar derives -/

theorem run_quoted (hk : 0 < k) (hq : q ∈ quotes) (ht : Quoted q t) :
    Scan.run (outside k n) (q :: t ++ r) = Scan.run (outside k n) r := by
  obtain ⟨mode, hmode, hne, hinj⟩ := exists_mode_of_mem_quotes hq
  rw [List.cons_append, run_quote hk hmode]
  induction ht with
  | close => exact run_unquote hk hne hmode
  | plain hc _ ih => rw [List.cons_append, run_inert hk hne hc.2 (fun h => hc.1 (hinj _ h)), ih]
  | escaped _ ih =>
    rw [List.cons_append, List.cons_append, within, run_escaped hk]
    exact ih

/-- Items leave the scan as it was, but for the greatest depth. -/
theorem run_body (hk : 0 < k) (h : Body d s) (hn : k ≤ n) :
    Scan.run (outside k n) (s ++ r) = Scan.run (outside k (max n (k + d))) r := by
  induction h generalizing k n r with
  | nil => rw [List.nil_append, Nat.add_zero, Nat.max_eq_left hn]
  | plain hc _ ih => rw [List.cons_append, run_plain hk hc, ih hk hn]
  | escaped _ ih =>
    rw [List.cons_append, List.cons_append, outside, run_escaped hk]
    exact ih hk hn
  | quoted hq ht _ ih => rw [List.append_assoc, run_quoted hk hq ht, ih hk hn]
  | @literal e d t s _ _ iht ihs =>
    rw [List.append_assoc, List.cons_append, run_open, iht (by omega) (by omega), List.cons_append,
      run_close hk, ihs hk (by omega)]
    congr 2
    omega

/-- The scan accepts every literal, with its depth, whatever comes after it. -/
theorem run_literal (h : Literal d s) : Scan.run {} (s ++ r) = .ok (outside 0 d, r) := by
  cases h with
  | @mk d s h =>
    have hopen : Scan.run {} ('\x7b' :: s ++ ['\x7d'] ++ r) =
        Scan.run (outside 1 1) (s ++ '\x7d' :: r) := by
      rw [List.append_assoc, List.cons_append]
      exact run_open
    rw [hopen, run_body (Nat.lt_succ_self 0) h (Nat.le_refl 1), run_last]
    congr 3
    omega

/-! ## What a scan that ends has read -/

theorem body_append {e : Nat} (hs : Body d s) (ht : Body e t) : Body (max d e) (s ++ t) := by
  induction hs with
  | nil => rwa [Nat.zero_max]
  | plain hc _ ih => exact .plain hc ih
  | escaped _ ih => exact .escaped ih
  | quoted hq hr _ ih =>
    rw [List.append_assoc]
    exact .quoted hq hr ih
  | literal hr _ _ ih =>
    have h := Body.literal hr ih
    rw [← Nat.max_assoc] at h
    simpa using h

theorem body_plain (hc : c ∉ delimiters) : Body 0 [c] :=
  .plain hc .nil

theorem body_escaped : Body 0 ['\\', c] :=
  .escaped .nil

theorem body_quoted (hq : q ∈ quotes) (ht : Quoted q t) : Body 0 (q :: t) := by
  have h := Body.quoted hq ht .nil
  rwa [List.append_nil] at h

theorem body_literal (h : Literal d s) : Body d s := by
  cases h with
  | mk h => exact Body.literal h .nil

/-- Items up to the brace that closes the outermost of `k` open braces; `deepest` is the greatest
depth on the way. -/
inductive Closing : (k deepest : Nat) → List Char → Prop where
  | last {d : Nat} {s : List Char} (h : Body d s) : Closing 1 (1 + d) (s ++ ['\x7d'])
  | outer {k d e : Nat} {s t : List Char} (h : Body d s) (ht : Closing k e t) :
      Closing (k + 1) (max (k + 1 + d) e) (s ++ '\x7d' :: t)

theorem closing_pos {e : Nat} (h : Closing k e t) : 0 < k := by
  cases h <;> omega

theorem closing_append {e : Nat} (hs : Body d s) (ht : Closing k e t) :
    Closing k (max (k + d) e) (s ++ t) := by
  cases ht with
  | last h =>
    rw [← List.append_assoc, Nat.add_max_add_left]
    exact .last (body_append hs h)
  | outer h ht =>
    rw [← List.append_assoc, ← Nat.max_assoc, Nat.add_max_add_left]
    exact .outer (body_append hs h) ht

/-- One more open brace, with items and its closing brace in front. -/
theorem closing_open {e : Nat} (hk : 0 < k) (h : Closing (k + 1) e t) :
    Closing k e ('\x7b' :: t) ∧ k + 1 ≤ e := by
  cases h with
  | last h => exact absurd hk (Nat.lt_irrefl 0)
  | @outer _ d e s t h ht =>
    have hc := closing_append (body_literal (.mk h)) ht
    rw [List.append_assoc, List.singleton_append, List.cons_append] at hc
    have hd : k + (d + 1) = k + 1 + d := by omega
    rw [hd] at hc
    exact ⟨hc, by omega⟩

theorem exists_quoted_of_run {x : Scan × List Char} (hk : 0 < k)
    (hq : QuoteMode.of? q = some mode) (hm : mode ≠ .none)
    (hinj : ∀ c, QuoteMode.of? c = some mode → c = q)
    (h : Scan.run (within mode k n) rest = .ok x) :
    ∃ t r, Quoted q t ∧ rest = t ++ r ∧ Scan.run (outside k n) r = .ok x := by
  induction hl : rest.length using Nat.strongRecOn generalizing rest with
  | _ l ih =>
  subst hl
  cases rest with
  | nil => simp [Scan.run] at h
  | cons c r =>
    by_cases hc : c = q
    · rw [hc, run_unquote hk hm hq] at h
      exact ⟨[c], r, hc ▸ .close, rfl, h⟩
    by_cases hb : c = '\\'
    · subst hb
      cases r with
      | nil => simp [Scan.run, Scan.step, within, Nat.ne_of_gt hk] at h
      | cons c r =>
        rw [within, run_escaped hk] at h
        obtain ⟨t, r', ht, rfl, hr⟩ := ih _ (by simp only [List.length_cons]; omega) h rfl
        exact ⟨'\\' :: c :: t, r', .escaped ht, rfl, hr⟩
    · rw [run_inert hk hm hb (fun hc' => hc (hinj c hc'))] at h
      obtain ⟨t, r', ht, rfl, hr⟩ := ih _ (by simp only [List.length_cons]; omega) h rfl
      exact ⟨c :: t, r', .plain ⟨hc, hb⟩ ht, rfl, hr⟩

/-- A scan that ends has read items up to the brace that closes the outermost open one. -/
theorem exists_closing_of_run {state : Scan} (hk : 0 < k) (hn : k ≤ n)
    (h : Scan.run (outside k n) rest = .ok (state, r)) :
    ∃ e t, Closing k e t ∧ rest = t ++ r ∧ state = outside 0 (max n e) := by
  induction hl : rest.length using Nat.strongRecOn generalizing rest k n with
  | _ l ih =>
  subst hl
  -- Items that leave the depth alone go in front of what the rest of the scan has read.
  have front : ∀ {p u : List Char}, Body 0 p → u.length < rest.length →
      Scan.run (outside k n) u = .ok (state, r) → rest = p ++ u →
      ∃ e t, Closing k e t ∧ rest = t ++ r ∧ state = outside 0 (max n e) := by
    intro p u hp hlt hu heq
    obtain ⟨e, t, ht, hur, hs⟩ := ih _ hlt hk hn hu rfl
    refine ⟨_, _, closing_append hp ht, by rw [heq, hur, List.append_assoc], ?_⟩
    rw [← Nat.max_assoc, Nat.add_zero, Nat.max_eq_left hn, hs]
  cases rest with
  | nil => simp [Scan.run] at h
  | cons c u =>
    have hlt : u.length < (c :: u).length := Nat.lt_succ_self _
    by_cases hc : c ∉ delimiters
    · rw [run_plain hk hc] at h
      exact front (body_plain hc) hlt h rfl
    simp only [delimiters, Decidable.not_not, List.mem_append, List.mem_cons, List.not_mem_nil,
      or_false] at hc
    rcases hc with hq | rfl | rfl | rfl
    · obtain ⟨mode, hmode, hne, hinj⟩ := exists_mode_of_mem_quotes hq
      rw [run_quote hk hmode] at h
      obtain ⟨p, v, hp, rfl, hv⟩ := exists_quoted_of_run hk hmode hne hinj h
      refine front (body_quoted hq hp) ?_ hv rfl
      simp only [List.length_cons, List.length_append]
      omega
    · rw [run_open] at h
      obtain ⟨e, t, ht, rfl, rfl⟩ := ih _ hlt (Nat.succ_pos k) (by omega) h rfl
      obtain ⟨hc, he⟩ := closing_open hk ht
      refine ⟨e, '\x7b' :: t, hc, rfl, ?_⟩
      rw [Nat.max_assoc, Nat.max_eq_right he]
    · obtain ⟨j, rfl⟩ : ∃ j, k = j + 1 := ⟨k - 1, by omega⟩
      cases j with
      | zero =>
        rw [run_last] at h
        obtain ⟨rfl, rfl⟩ : outside 0 n = state ∧ u = r := by simpa using h
        refine ⟨1, ['\x7d'], Closing.last .nil, rfl, ?_⟩
        rw [Nat.max_eq_left hn]
      | succ j =>
        rw [run_close (Nat.succ_pos j)] at h
        obtain ⟨e, t, ht, rfl, rfl⟩ := ih _ hlt (Nat.succ_pos j) (by omega) h rfl
        refine ⟨_, _, Closing.outer .nil ht, rfl, ?_⟩
        rw [← Nat.max_assoc, Nat.add_zero, Nat.max_eq_left hn]
    · cases u with
      | nil => simp [Scan.run, Scan.step, outside, Nat.ne_of_gt hk] at h
      | cons c u =>
        rw [outside, run_escaped hk] at h
        refine front body_escaped ?_ h rfl
        simp only [List.length_cons]
        omega

/-- What the scan accepts is a literal, and it tells the depth of it. -/
theorem exists_literal_of_run {state : Scan}
    (h : Scan.run {} ('\x7b' :: rest) = .ok (state, r)) :
    ∃ d p, Literal d p ∧ '\x7b' :: rest = p ++ r ∧ state = outside 0 d := by
  have hopen : Scan.run {} ('\x7b' :: rest) = Scan.run (outside 1 1) rest := run_open
  rw [hopen] at h
  obtain ⟨e, t, ht, rfl, rfl⟩ := exists_closing_of_run (Nat.lt_succ_self 0) (Nat.le_refl 1) h
  cases ht with
  | @last d s hs =>
    refine ⟨d + 1, _, .mk hs, by simp, ?_⟩
    congr 1
    omega
  | outer _ ht => exact absurd (closing_pos ht) (Nat.lt_irrefl 0)

/-- A literal neither begins with another one nor is the beginning of one. -/
theorem literal_prefix_unique {e : Nat} {p : List Char} (hp : Literal d p) (hq : Literal e s)
    (h : p <+: s) : p = s ∧ d = e := by
  obtain ⟨r, rfl⟩ := h
  have h₁ := run_literal (r := r) hp
  have h₂ := run_literal (r := []) hq
  rw [List.append_nil, h₁] at h₂
  simp only [Except.ok.injEq, Prod.mk.injEq, outside, Scan.mk.injEq] at h₂
  obtain ⟨⟨_, rfl, _, _⟩, rfl⟩ := h₂
  exact ⟨(List.append_nil p).symm, rfl⟩

end PromptLibrary.Proofs.Source.Balanced

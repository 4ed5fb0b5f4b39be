import PromptLibrary.Proofs.Literal.Places
import PromptLibrary.Proofs.Source.Extraction
/-!
# Interpolations are balanced literals

Two scanners look for the brace that closes another one: the search for the end of an interpolation,
which takes a character after a backslash together with it and gives the text that it has crossed,
and the scan for a literal in source text, which goes one character at a time and keeps its greatest
depth.  They are the same machine.

* `run_step` — one character takes both to corresponding states;
* `run_eq_closingBrace` — from corresponding states they stop at the same place, or not at all;
* `closingBrace_eq_some_iff_literal` — so the search gives what is a balanced literal;
* `scanners_agree`.
-/

namespace PromptLibrary.Proofs.Source.Braces

open PromptLibrary.Source
open PromptLibrary.Literal
open PromptLibrary.Proofs.Source.Place
open PromptLibrary.Proofs.Source.Balanced
open PromptLibrary.Proofs.Source.Extraction
open PromptLibrary.Proofs.Literal.Quote
open PromptLibrary.Proofs.Literal.Faults
open PromptLibrary.Proofs.Literal.Suffix
open PromptLibrary.Proofs.Literal.Cursor
open PromptLibrary.Proofs.Literal.Places

/-- The quotes that the scan is inside of, when the search is inside of these. -/
def modeOf : Option Char → QuoteMode
  | none => .none
  | some q => (QuoteMode.of? q).getD .none

/-- The state of the scan that corresponds to a state of the search, `n` being the greatest depth so
far. -/
def scanOf (depth n : Nat) (quote : Option Char) : Scan := ⟨depth + 1, n, modeOf quote, false⟩

/-- The offset behind the brace that closes the one in front of `pos`. -/
def closingOffset? (text : List Char) (pos : Nat) : Option Nat :=
  (closingBrace? 0 none (text.drop pos)).map fun (span, _) => pos + span.length

variable {policy : Interpolation} {depth n k d e : Nat} {quote : Option Char} {c q : Char}
  {s t r rest inside after opening text : List Char} {meaning : Text}

/-! ## One character -/

theorem modeOf_of_mem (hq : q ∈ quotes) :
    QuoteMode.of? q = some (modeOf (some q)) ∧ modeOf (some q) ≠ .none ∧
      ∀ c, QuoteMode.of? c = some (modeOf (some q)) → c = q := by
  obtain ⟨mode, hmode, hne, hinj⟩ := exists_mode_of_mem_quotes hq
  have heq : modeOf (some q) = mode := by rw [modeOf, hmode, Option.getD_some]
  rw [heq]
  exact ⟨hmode, hne, hinj⟩

theorem mem_quotes_of_insideQuote (hquote : ∀ p ∈ quote, p ∈ quotes) :
    ∀ p ∈ insideQuote quote c, p ∈ quotes := by
  intro p hp
  unfold insideQuote at hp
  split at hp
  · split at hp
    · simp at hp
    · exact hquote p hp
  · split at hp
    · next hc =>
      obtain rfl : c = p := by simpa using hp
      simpa [quotes] using hc
    · simp at hp

/-- A character that opens no quotes leaves the search outside of them. -/
theorem insideQuote_none (hc : c ∉ quotes) : insideQuote none c = none := by
  have hne : ¬ (c = '\'' ∨ c = '"' ∨ c = '\x60') := by simpa [quotes] using hc
  rw [insideQuote, if_neg hne]

theorem insideQuote_opening (hc : c ∈ quotes) : insideQuote none c = some c := by
  have hquote : c = '\'' ∨ c = '"' ∨ c = '\x60' := by simpa [quotes] using hc
  rw [insideQuote, if_pos hquote]

/-- **One character takes the search and the scan to corresponding states**, if it is no backslash
and closes no brace. -/
theorem run_step (hquote : ∀ p ∈ quote, p ∈ quotes) (hc : c ≠ '\\')
    (hbrace : ¬ (quote = none ∧ c = '\x7d')) :
    ∃ m, Scan.run (scanOf depth n quote) (c :: rest) =
      Scan.run (scanOf (if quote = none ∧ c = '\x7b' then depth + 1 else depth) m
        (insideQuote quote c)) rest := by
  have hpos : 0 < depth + 1 := Nat.succ_pos depth
  cases quote with
  | none =>
    simp only [true_and] at hbrace ⊢
    by_cases hq : c ∈ quotes
    · have hopen : c ≠ '\x7b' := by
        rintro rfl
        exact absurd hq (by decide)
      rw [insideQuote_opening hq, if_neg hopen]
      exact ⟨n, run_quote hpos (modeOf_of_mem hq).1⟩
    rw [insideQuote_none hq]
    by_cases hopen : c = '\x7b'
    · rw [if_pos hopen, hopen]
      exact ⟨_, run_open⟩
    · rw [if_neg hopen]
      exact ⟨n, run_plain hpos (by simp [delimiters, hq, hopen, hbrace, hc])⟩
  | some q =>
    obtain ⟨hmode, hne, hinj⟩ := modeOf_of_mem (hquote q rfl)
    rw [if_neg (by simp), insideQuote]
    by_cases hq : c = q
    · rw [if_pos hq, hq]
      exact ⟨n, run_unquote hpos hne hmode⟩
    · rw [if_neg hq]
      exact ⟨n, run_inert hpos hne hc fun h => hq (hinj c h)⟩

/-! ## Whole runs -/

/-- Where a scan stops, if it does. -/
def stopsAt (x : Except Scan (Scan × List Char)) : Option (List Char) := x.toOption.map (·.2)

/-- **From corresponding states the search and the scan stop at the same place**, or both come to
the end of the text. -/
theorem run_eq_closingBrace (hquote : ∀ p ∈ quote, p ∈ quotes) :
    stopsAt (Scan.run (scanOf depth n quote) s) = (closingBrace? depth quote s).map (·.2) := by
  fun_induction closingBrace? depth quote s generalizing n with
  | case1 => rfl
  | case2 => simp [scanOf, Scan.run, Scan.step, stopsAt, Except.toOption]
  | case3 depth quote c rest ih =>
    rw [scanOf, run_escaped (Nat.succ_pos depth), Option.map_map]
    exact ih hquote
  | case4 quote c rest _ _ hclose =>
    obtain ⟨rfl, rfl⟩ := hclose
    have hlast := run_last (n := n) (r := rest)
    exact congrArg stopsAt hlast
  | case5 quote c rest _ _ hclose outer ih =>
    obtain ⟨rfl, rfl⟩ := hclose
    have hinner := run_close (n := n) (r := rest) (Nat.succ_pos outer)
    rw [Option.map_map]
    exact (congrArg stopsAt hinner).trans (ih (by simp))
  | case6 depth quote c rest hend hmore hclose =>
    rename_i ih
    have hc : c ≠ '\\' := by
      intro hc
      cases rest with
      | nil => exact hend hc rfl
      | cons d more => exact hmore d more hc rfl
    obtain ⟨m, hstep⟩ : ∃ m, Scan.run (scanOf depth n quote) (c :: rest) =
        Scan.run (scanOf (if quote = none ∧ c = '\x7b' then depth + 1 else depth) m
          (insideQuote quote c)) rest := run_step hquote hc hclose
    rw [hstep, Option.map_map]
    exact ih (mem_quotes_of_insideQuote hquote)

theorem stopsAt_brace :
    stopsAt (Scan.run {} ('\x7b' :: s)) = (closingBrace? 0 none s).map (·.2) := by
  have hopen : Scan.run {} ('\x7b' :: s) = Scan.run (scanOf 0 1 none) s := run_open
  rw [hopen, run_eq_closingBrace (by simp)]

/-- **What the search crosses is the rest of a balanced literal**, and it finds every such
literal. -/
theorem closingBrace_eq_some_iff_literal :
    closingBrace? 0 none s = some (inside, after) ↔
      s = inside ++ after ∧ ∃ d, Literal d ('\x7b' :: inside) := by
  constructor
  · intro h
    have hs : s = inside ++ after := eq_append_of_spanBody (spanBody_of_closingBrace h)
    have hstop : stopsAt (Scan.run {} ('\x7b' :: s)) = some after := by
      rw [stopsAt_brace, h]
      rfl
    cases hrun : Scan.run {} ('\x7b' :: s) with
    | error state => simp [hrun, stopsAt, Except.toOption] at hstop
    | ok x =>
      obtain ⟨state, r⟩ := x
      obtain rfl : r = after := by simpa [hrun, stopsAt, Except.toOption] using hstop
      obtain ⟨d, p, hp, heq, _⟩ := exists_literal_of_run hrun
      obtain rfl : '\x7b' :: inside = p := by
        rw [hs, ← List.cons_append] at heq
        exact List.append_cancel_right heq
      exact ⟨hs, d, hp⟩
  · rintro ⟨rfl, d, hd⟩
    have hstop := stopsAt_brace (s := inside ++ after)
    rw [← List.cons_append, run_literal hd] at hstop
    obtain ⟨⟨span, r⟩, hspan, rfl⟩ := Option.map_eq_some_iff.1 hstop.symm
    have heq : inside ++ r = span ++ r := eq_append_of_spanBody (spanBody_of_closingBrace hspan)
    rw [hspan, List.append_cancel_right heq]

/-! ## Extraction from the brace on -/

theorem located_brace : Located ('=' :: '\x7b' :: s) ['='] (.ok 1) := by
  have hequals : FirstAt ['='] ('=' :: '\x7b' :: s) 0 0 := firstAt_zero (List.prefix_append _ _)
  have hbrace : FirstAt ['\x7b'] ([] ++ (['='] ++ '\x7b' :: s)) 0 (0 + 1) :=
    firstAt_symbol (t := []) (by decide)
  exact .brace hequals hequals hbrace

/-- What is extracted from a brace on is the literal that the search crosses. -/
theorem extract_brace_eq_ok_iff {found : Extracted} :
    extract ('=' :: '\x7b' :: s) ['='] = .ok found ↔
      ∃ d inside after, closingBrace? 0 none s = some (inside, after) ∧
        Literal d ('\x7b' :: inside) ∧
        found = ⟨'\x7b' :: inside, 1, 1 + (inside.length + 1), d⟩ := by
  rw [extract_eq_ok_iff located_brace, List.drop_succ_cons, List.drop_zero]
  constructor
  · rintro ⟨d, p, hp, ⟨after, hafter⟩, rfl⟩
    cases hp with
    | @mk d body hbody =>
      have hs : s = (body ++ ['\x7d']) ++ after := (List.cons.inj hafter).2.symm
      exact ⟨_, _, after, closingBrace_eq_some_iff_literal.2 ⟨hs, _, .mk hbody⟩, .mk hbody, rfl⟩
  · rintro ⟨d, inside, after, h, hd, rfl⟩
    obtain ⟨rfl, _⟩ := closingBrace_eq_some_iff_literal.1 h
    exact ⟨d, _, hd, List.prefix_append ('\x7b' :: inside) after, rfl⟩

theorem extract_brace_unbalanced_iff :
    (∃ offset depth mode,
        extract ('=' :: '\x7b' :: s) ['='] = .error (.unbalanced offset depth mode)) ↔
      closingBrace? 0 none s = none := by
  constructor
  · rintro ⟨offset, depth, mode, h⟩
    cases hclose : closingBrace? 0 none s with
    | none => rfl
    | some x =>
      obtain ⟨_, d, hd⟩ := closingBrace_eq_some_iff_literal.1 hclose
      have hfound := extract_brace_eq_ok_iff.2 ⟨d, _, _, hclose, hd, rfl⟩
      simp [h] at hfound
  · intro hclose
    obtain ⟨depth, mode, h⟩ := (extract_unbalanced_iff (located_brace (s := s))).2 (by
      rintro ⟨d, p, hp, hpre⟩
      have hfound := (extract_eq_ok_iff located_brace).2 ⟨d, p, hp, hpre, rfl⟩
      obtain ⟨_, _, _, hsome, _⟩ := extract_brace_eq_ok_iff.1 hfound
      simp [hclose] at hsome)
    exact ⟨1, depth, mode, h⟩

/-! ## Interpolations of templates -/

/-- What is read behind a piece is read behind it in the whole. -/
theorem exists_of_prepend {u w : List Char} {piece : Text}
    (ih : ∀ {meaning : Text}, templateBody policy opening u = .ok (meaning, r) →
      ∃ front back, templateBody policy opening w = .ok (back, r) ∧ meaning = front ++ back)
    (h : prepend piece (templateBody policy opening u) = .ok (meaning, r)) :
    ∃ front back, templateBody policy opening w = .ok (back, r) ∧ meaning = front ++ back := by
  obtain ⟨more, hmore, rfl⟩ := prepend_eq_ok.1 h
  obtain ⟨front, back, hback, rfl⟩ := ih hmore
  exact ⟨piece ++ front, back, hback, (List.append_assoc piece front back).symm⟩

/-- A template whose reader comes to a place means what it has read so far, followed by what is read
from that place on. -/
theorem exists_of_templateReaches (h : TemplateReaches policy s t)
    (hread : templateBody policy opening s = .ok (meaning, r)) :
    ∃ front back, templateBody policy opening t = .ok (back, r) ∧ meaning = front ++ back := by
  induction h generalizing meaning with
  | here => exact ⟨[], meaning, hread, rfl⟩
  | escaped h _ ih =>
    rw [templateBody_of_escape h] at hread
    exact exists_of_prepend ih hread
  | crlf _ ih =>
    rw [templateBody] at hread
    exact exists_of_prepend ih hread
  | cr hs _ ih =>
    rw [templateBody] at hread
    · exact exists_of_prepend ih hread
    · rintro rest rfl
      exact hs rfl
  | interpolation hpolicy h _ ih =>
    rw [templateBody_of_interpolation hpolicy (closingBrace_of_spanBody h)] at hread
    exact exists_of_prepend ih hread
  | plain hc hs _ ih =>
    rw [templateBody_of_plain hc hs] at hread
    exact exists_of_prepend ih hread

/-- A template is refused for the interpolation that begins it exactly if the search fails. -/
theorem templateBody_unterminated_iff :
    templateBody policy opening ('$' :: '\x7b' :: s) =
        .error (.refused .unterminatedInterpolation ('\x7b' :: s)) ↔
      closingBrace? 0 none s = none := by
  constructor
  · intro h
    cases hclose : closingBrace? 0 none s with
    | none => rfl
    | some x =>
      obtain ⟨inside, after⟩ := x
      cases policy with
      | strict => simp [templateBody_of_refused hclose] at h
      | literal =>
        -- Behind the interpolation no refusal points back at it.
        rw [templateBody_of_interpolation rfl hclose, prepend_eq_error] at h
        rcases points_of_templateBody h with hopening | hpoints
        · simp at hopening
        · obtain ⟨b, hb, hvisits, _⟩ := hpoints.exists_of_refused
          have hle : ('\x7b' :: s).length ≤ after.length :=
            hb ▸ (suffix_of_visits hvisits).length_le
          have hlt := length_closingBrace_lt hclose
          rw [List.length_cons] at hle
          omega
  · exact templateBody_of_unclosed

/-! ## Offsets -/

theorem drop_eq_cons (h : text[k]? = some c) : text.drop k = c :: text.drop (k + 1) := by
  obtain ⟨hk, rfl⟩ := List.getElem?_eq_some_iff.1 h
  exact List.drop_eq_getElem_cons hk

theorem closingOffset_eq_some_iff (h : text[k]? = some '\x7b') :
    closingOffset? text (k + 1) = some e ↔
      ∃ found, extract ('=' :: text.drop k) ['='] = .ok found ∧ e = k + found.text.length := by
  rw [closingOffset?, drop_eq_cons h, Option.map_eq_some_iff]
  constructor
  · rintro ⟨⟨inside, after⟩, hclose, rfl⟩
    obtain ⟨_, d, hd⟩ := closingBrace_eq_some_iff_literal.1 hclose
    refine ⟨_, extract_brace_eq_ok_iff.2 ⟨d, inside, after, hclose, hd, rfl⟩, ?_⟩
    show k + 1 + inside.length = k + (inside.length + 1)
    omega
  · rintro ⟨found, hfound, rfl⟩
    obtain ⟨d, inside, after, hclose, _, rfl⟩ := extract_brace_eq_ok_iff.1 hfound
    refine ⟨_, hclose, ?_⟩
    show k + 1 + inside.length = k + (inside.length + 1)
    omega

theorem closingOffset_eq_none_iff :
    closingOffset? text k = none ↔ closingBrace? 0 none (text.drop k) = none :=
  Option.map_eq_none_iff

/-- **The two scanners are the same machine.**  At an opening brace, the search for the end of an
interpolation ends where the literal ends that is extracted from there, and it fails, so that the
template is refused, if the extraction meets the end of its text.  What a template keeps of an
interpolation is therefore a balanced literal, as it stands in the text. -/
theorem scanners_agree (text : List Char) (k : Nat) (h : text[k]? = some '\x7b') :
    (∀ e, closingOffset? text (k + 1) = some e ↔
      ∃ found, extract ('=' :: text.drop k) ['='] = .ok found ∧ e = k + found.text.length) ∧
    (closingOffset? text (k + 1) = none ↔ ∃ offset depth quote,
      extract ('=' :: text.drop k) ['='] = .error (.unbalanced offset depth quote)) ∧
    (∀ policy opening, templateBody policy opening ('$' :: text.drop k) =
        .error (.refused .unterminatedInterpolation (text.drop k)) ↔
      ∃ offset depth quote,
        extract ('=' :: text.drop k) ['='] = .error (.unbalanced offset depth quote)) ∧
    ∀ opening j meaning r, templateBody .literal opening (text.drop j) = .ok (meaning, r) →
      TemplateReaches .literal (text.drop j) ('$' :: text.drop k) →
      ∃ found front back, extract ('=' :: text.drop k) ['='] = .ok found ∧
        closingOffset? text (k + 1) = some (k + found.text.length) ∧
        found.text <+: text.drop k ∧ Literal found.deepest found.text ∧
        meaning = front ++ Text.ofChars ('$' :: found.text) ++ back := by
  have hdrop := drop_eq_cons h
  refine ⟨fun e => closingOffset_eq_some_iff h, ?_, fun policy opening => ?_,
    fun opening j meaning r hread hreaches => ?_⟩
  · rw [closingOffset_eq_none_iff, hdrop, extract_brace_unbalanced_iff]
  · rw [hdrop, templateBody_unterminated_iff, extract_brace_unbalanced_iff]
  obtain ⟨front, more, hmore, rfl⟩ := exists_of_templateReaches hreaches hread
  rw [hdrop] at hmore
  cases hclose : closingBrace? 0 none (text.drop (k + 1)) with
  | none => simp [templateBody_of_unclosed hclose] at hmore
  | some x =>
    obtain ⟨inside, after⟩ := x
    obtain ⟨hinside, d, hd⟩ := closingBrace_eq_some_iff_literal.1 hclose
    rw [templateBody_of_interpolation rfl hclose, prepend_eq_ok] at hmore
    obtain ⟨back, _, rfl⟩ := hmore
    have hfound : extract ('=' :: text.drop k) ['='] =
        .ok ⟨'\x7b' :: inside, 1, 1 + (inside.length + 1), d⟩ := by
      rw [hdrop]
      exact extract_brace_eq_ok_iff.2 ⟨d, inside, after, hclose, hd, rfl⟩
    refine ⟨_, front, back, hfound, (closingOffset_eq_some_iff h).2 ⟨_, hfound, rfl⟩, ?_, hd,
      (List.append_assoc front _ back).symm⟩
    rw [hdrop, hinside]
    exact List.prefix_append ('\x7b' :: inside) after

theorem scanners_agree_quoted :
    let text := ['\x60', 'a', '$', '\x7b', '\'', '\x7d', '\'', '\x7b', '\x7d', '\x7d', '\x60']
    text[3]? = some '\x7b' ∧ closingOffset? text 4 = some 10 ∧
      (closingOffset? text 4 = some 10 ↔
        ∃ found, extract ('=' :: text.drop 3) ['='] = .ok found ∧ 10 = 3 + found.text.length) ∧
      templateBody .literal text (text.drop 1) =
        .ok (Text.ofChars ('a' :: '$' :: (text.drop 3).take 7), []) ∧
      TemplateReaches .literal (text.drop 1) ('$' :: text.drop 3) ∧
      ∃ found front back, extract ('=' :: text.drop 3) ['='] = .ok found ∧
        closingOffset? text 4 = some (3 + found.text.length) ∧
        found.text <+: text.drop 3 ∧ Literal found.deepest found.text ∧
        Text.ofChars ('a' :: '$' :: (text.drop 3).take 7) =
          front ++ Text.ofChars ('$' :: found.text) ++ back := by
  intro text
  have hbrace : text[3]? = some '\x7b' := rfl
  have hread : templateBody .literal text (text.drop 1) =
      .ok (Text.ofChars ('a' :: '$' :: (text.drop 3).take 7), []) := by with_unfolding_all rfl
  have hreaches : TemplateReaches .literal (text.drop 1) ('$' :: text.drop 3) :=
    .plain (by decide) (by simp) .here
  obtain ⟨hoffset, _, _, hkept⟩ := scanners_agree text 3 hbrace
  exact ⟨hbrace, rfl, hoffset 10, hread, hreaches, hkept text 1 _ _ hread hreaches⟩

end PromptLibrary.Proofs.Source.Braces

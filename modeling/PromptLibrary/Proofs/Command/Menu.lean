import PromptLibrary.Command.Run
import PromptLibrary.Proofs.Command.Console
import PromptLibrary.Proofs.Number.Decimals
/-!
# Choosing from a menu

A line chooses a key by its number in the list, or else by its name.  Lines are read up to the first
that chooses, and each one before it is answered by the question again.  Only a line of digits that
are no decimal number breaks this off, and only a key that cannot be printed keeps the menu from
being shown.

* `choose_of_readable` — which key a line chooses, if any;
* `settles_ask` — lines are refused up to one that settles what comes of asking;
* `askTemplate_exact` — what is shown, read and answered, for all keys and all lines.
-/

namespace PromptLibrary.Proofs.Command.Menu

open PromptLibrary.Command
open PromptLibrary.Command.Menu
open PromptLibrary.Literal (NumberBody.ofDecimals)
open PromptLibrary.Proofs.Command.Console
open PromptLibrary.Proofs.Files.Action
open PromptLibrary.Proofs.Number.Decimals
open PromptLibrary.Proofs.Text.Classes (isDigit_of_isDecimal)
open PromptLibrary.Proofs.Text.Points

variable {keys : List Text} {key : Text} {line s : List Char} {lines rest : List (List Char)}
  {n : Nat} {world : World}

/-! ## What lines choose -/

/-- A line without the blanks around it. -/
def stripped (line : List Char) : List Char :=
  Search.trim Text.isWhiteSpace line

/-- Whether a text is a number in decimals, and which one. -/
structure IsNumber (s : List Char) (n : Nat) : Prop where
  nonempty : s ≠ []
  decimal : ∀ c ∈ s, Text.isDecimal c = true
  value : NumberBody.ofDecimals s = n

/-- A line chooses the key of its number, if that is in the list, or else the key it names. -/
inductive Chooses (keys : List Text) (line : List Char) : Text → Prop where
  | number {n : Nat} {key : Text} (h : IsNumber (stripped line) n) (hn : 1 ≤ n)
      (hkey : keys[n - 1]? = some key) : Chooses keys line key
  | name (h : ∀ n, IsNumber (stripped line) n → n = 0 ∨ keys.length < n)
      (hkey : Text.ofChars (stripped line) ∈ keys) :
      Chooses keys line (Text.ofChars (stripped line))

/-- A line of digits that cannot be read as a number: one of them belongs to no positional system,
or there are too many of them. -/
structure Unreadable (line : List Char) : Prop where
  digit : ∀ c ∈ stripped line, Text.isDigit c = true
  cause : (∃ c ∈ stripped line, Text.isDecimal c = false) ∨
    Integer.digitLimit < (stripped line).length

/-- A line that can be read and chooses no key. -/
structure Refused (keys : List Text) (line : List Char) : Prop where
  readable : ¬ Unreadable line
  none : ∀ key, ¬ Chooses keys line key

theorem keyAt_eq_some_iff :
    keyAt? keys n = some key ↔ 1 ≤ n ∧ keys[n - 1]? = some key := by
  unfold keyAt?
  split
  · next hn =>
    have hpos : 1 ≤ n := by omega
    simp [hpos]
  · next hn =>
    have hzero : ¬ 1 ≤ n := by omega
    simp [hzero]

theorem keyNamed_eq_some_iff :
    keyNamed? keys s = some key ↔ key = Text.ofChars s ∧ Text.ofChars s ∈ keys := by
  have hsome : ∀ {found}, keyNamed? keys s = some found → found = Text.ofChars s := by
    intro found h
    simpa using List.find?_some h
  constructor
  · intro h
    obtain rfl := hsome h
    exact ⟨rfl, List.mem_of_find?_eq_some h⟩
  · rintro ⟨rfl, hmem⟩
    obtain ⟨found, hfound⟩ : ∃ found, keyNamed? keys s = some found :=
      Option.isSome_iff_exists.1 (List.find?_isSome.2 ⟨_, hmem, by simp⟩)
    rwa [hsome hfound] at hfound

theorem keyAt_eq_none_iff : keyAt? keys n = none ↔ n = 0 ∨ keys.length < n := by
  unfold keyAt?
  split
  · rw [List.getElem?_eq_none_iff]
    omega
  · simp only [true_iff]
    omega

/-- What a line of a number chooses. -/
theorem chooses_number_iff (h : IsNumber (stripped line) n) : Chooses keys line key ↔
    keyAt? keys n = some key ∨
      keyAt? keys n = none ∧ keyNamed? keys (stripped line) = some key := by
  rw [keyAt_eq_some_iff, keyAt_eq_none_iff, keyNamed_eq_some_iff]
  constructor
  · rintro (⟨hm, hpos, hkey⟩ | ⟨hbeyond, hkey⟩)
    · obtain rfl := h.value.symm.trans hm.value
      exact .inl ⟨hpos, hkey⟩
    · exact .inr ⟨hbeyond n h, rfl, hkey⟩
  · rintro (⟨hpos, hkey⟩ | ⟨hbeyond, rfl, hkey⟩)
    · exact .number h hpos hkey
    · refine .name (fun m hm => ?_) hkey
      rwa [← hm.value.symm.trans h.value] at hbeyond

/-- What any other line chooses. -/
theorem chooses_name_iff (h : ∀ n, ¬ IsNumber (stripped line) n) :
    Chooses keys line key ↔ keyNamed? keys (stripped line) = some key := by
  rw [keyNamed_eq_some_iff]
  constructor
  · rintro (⟨hm, _, _⟩ | ⟨_, hkey⟩)
    · exact absurd hm (h _)
    · exact ⟨rfl, hkey⟩
  · rintro ⟨rfl, hkey⟩
    exact .name (fun m hm => absurd hm (h m)) hkey

theorem choose_eq : choose keys line =
    if stripped line ≠ [] ∧ (stripped line).all Text.isDigit then
      match Integer.read 10 (stripped line) with
      | .error cause => .error ⟨stripped line, cause⟩
      | .ok n =>
        match keyAt? keys n with
        | some key => .ok (some key)
        | none => .ok (keyNamed? keys (stripped line))
    else .ok (keyNamed? keys (stripped line)) :=
  rfl

theorem choose_of_number (h : IsNumber (stripped line) n)
    (hshort : (stripped line).length ≤ Integer.digitLimit) :
    choose keys line = .ok ((keyAt? keys n).or (keyNamed? keys (stripped line))) := by
  have hdigits : stripped line ≠ [] ∧ (stripped line).all Text.isDigit = true :=
    ⟨h.nonempty, List.all_eq_true.2 fun c hc => isDigit_of_isDecimal (h.decimal c hc)⟩
  have hread : Integer.read 10 (stripped line) = .ok n := by
    rw [read_of_isDecimal h.nonempty h.decimal, if_neg (Nat.not_lt.2 hshort), h.value]
  rw [choose_eq, if_pos hdigits, hread]
  cases hkey : keyAt? keys n <;> simp [hkey]

theorem choose_of_not_digits
    (h : ¬ (stripped line ≠ [] ∧ (stripped line).all Text.isDigit = true)) :
    choose keys line = .ok (keyNamed? keys (stripped line)) :=
  if_neg h

theorem choose_of_unreadable (h : Unreadable line) :
    ∃ cause, Integer.read 10 (stripped line) = .error cause ∧
      choose keys line = .error ⟨stripped line, cause⟩ := by
  have hdigits : stripped line ≠ [] ∧ (stripped line).all Text.isDigit = true := by
    refine ⟨?_, List.all_eq_true.2 h.digit⟩
    rintro hnil
    simpa [hnil] using h.cause
  have hread : ∀ i, Integer.read 10 (stripped line) ≠ .ok i := by
    by_cases hloose : ∃ c ∈ stripped line, Text.isDecimal c = false
    · obtain ⟨c, hc, hdecimal⟩ := hloose
      exact fun i => read_ne_ok_of_looseDigit hc (h.digit c hc) hdecimal
    · have hdecimal : ∀ c ∈ stripped line, Text.isDecimal c = true := by
        simpa using hloose
      rw [read_of_isDecimal hdigits.1 hdecimal, if_pos (h.cause.resolve_left hloose)]
      simp
  cases hr : Integer.read 10 (stripped line) with
  | ok i => exact absurd hr (hread i)
  | error cause =>
    refine ⟨cause, rfl, ?_⟩
    rw [choose_eq, if_pos hdigits, hr]

/-- **A line chooses by number or else by name.** -/
theorem choose_of_readable (h : ¬ Unreadable line) :
    ∃ chosen, choose keys line = .ok chosen ∧ ∀ key, chosen = some key ↔ Chooses keys line key := by
  by_cases hdigits : stripped line ≠ [] ∧ (stripped line).all Text.isDigit = true
  · have hall : ∀ c ∈ stripped line, Text.isDigit c = true := List.all_eq_true.1 hdigits.2
    have hnumber : IsNumber (stripped line) (NumberBody.ofDecimals (stripped line)) := by
      refine ⟨hdigits.1, fun c hc => ?_, rfl⟩
      by_contra hdecimal
      exact h ⟨hall, .inl ⟨c, hc, Bool.eq_false_iff.2 hdecimal⟩⟩
    have hshort : (stripped line).length ≤ Integer.digitLimit :=
      Nat.not_lt.1 fun hlong => h ⟨hall, .inr hlong⟩
    refine ⟨_, choose_of_number hnumber hshort, fun key => ?_⟩
    rw [chooses_number_iff hnumber, Option.or_eq_some_iff]
  · refine ⟨_, choose_of_not_digits hdigits, fun key => ?_⟩
    have hnone : ∀ n, ¬ IsNumber (stripped line) n := fun n hn =>
      hdigits ⟨hn.nonempty, List.all_eq_true.2 fun c hc => isDigit_of_isDecimal (hn.decimal c hc)⟩
    rw [chooses_name_iff hnone]

/-! ## Asking -/

/-- What settles the asking: the first line that chooses or cannot be read, or that there is none.
The lines behind it are left. -/
inductive Settles (keys : List Text) :
    List (List Char) → Except BadNumber (Option Text) → List (List Char) → Prop where
  | ended : Settles keys [] (.ok none) []
  | chosen {line : List Char} {key : Text} {more : List (List Char)} (h : ¬ Unreadable line)
      (hkey : Chooses keys line key) : Settles keys (line :: more) (.ok (some key)) more
  | broken {line : List Char} {cause : Integer.ReadError} {more : List (List Char)}
      (h : Unreadable line) (hcause : Integer.read 10 (stripped line) = .error cause) :
      Settles keys (line :: more) (.error ⟨stripped line, cause⟩) more

theorem settles_ask : ∃ refused rest, lines = refused ++ rest ∧
    (∀ line ∈ refused, Refused keys line) ∧ (ask keys lines).refused = refused.length ∧
    Settles keys rest (ask keys lines).key (ask keys lines).rest := by
  induction lines with
  | nil => exact ⟨[], [], rfl, by simp, rfl, .ended⟩
  | cons line lines ih =>
    by_cases hline : Unreadable line
    · obtain ⟨cause, hread, hchoose⟩ := @choose_of_unreadable keys _ hline
      refine ⟨[], line :: lines, rfl, by simp, ?_, ?_⟩
      · simp [ask, hchoose]
      · simpa [ask, hchoose] using .broken hline hread
    · obtain ⟨chosen, hchoose, hkey⟩ := @choose_of_readable keys _ hline
      cases chosen with
      | none =>
        obtain ⟨refused, rest, rfl, hrefused, hcount, hrest⟩ := ih
        have hhead : Refused keys line := ⟨hline, fun key h => by simpa using (hkey key).2 h⟩
        refine ⟨line :: refused, rest, rfl, ?_, ?_, ?_⟩
        · simpa [hhead] using hrefused
        · simp [ask, hchoose, hcount]
        · simpa [ask, hchoose] using hrest
      | some key =>
        refine ⟨[], line :: lines, rfl, by simp, ?_, ?_⟩
        · simp [ask, hchoose]
        · simpa [ask, hchoose] using .chosen hline ((hkey key).1 rfl)

/-- Once every line is refused, none is left to settle anything. -/
theorem ended_iff {answer : Except BadNumber (Option Text)} {more refused : List (List Char)}
    (hrefused : ∀ line ∈ refused, Refused keys line) (h : Settles keys rest answer more) :
    answer = .ok none ↔ ∀ line ∈ refused ++ rest, Refused keys line := by
  cases h with
  | ended => simpa using hrefused
  | chosen hreadable hkey =>
    refine iff_of_false (by simp) fun hall => ?_
    exact (hall _ (by simp)).none _ hkey
  | broken hunreadable hcause =>
    refine iff_of_false (by simp) fun hall => ?_
    exact (hall _ (by simp)).readable hunreadable

/-! ## Showing the menu -/

/-- What is written up to an answer, if some lines are refused before it. -/
def shown (keys : List Text) (refused : Nat) : Text :=
  printed (Menu.lines keys ++ List.replicate refused (question ++ advice keys)) ++ question

/-- The end of the lines is noted when it is met. -/
def noted (answer : Except BadNumber (Option Text)) (world : World) : World :=
  match answer with
  | .ok none => { world with pause := world.pause.or (some world.output) }
  | _ => world

theorem wellFormed_entriesFrom :
    (∀ line ∈ entriesFrom n keys, line.WellFormed) ↔ ∀ key ∈ keys, key.WellFormed := by
  induction keys generalizing n with
  | nil => simp [entriesFrom]
  | cons key keys ih =>
    simp [entriesFrom, ih, wellFormed_ofChars, wellFormed_ofString]

/-- A menu can be printed exactly if its keys can. -/
theorem wellFormed_lines :
    (∀ line ∈ Menu.lines keys, line.WellFormed) ↔ ∀ key ∈ keys, key.WellFormed := by
  simp [Menu.lines, wellFormed_entriesFrom, wellFormed_ofString]

theorem wellFormed_advice : Text.WellFormed (question ++ advice keys) := by
  simp [question, advice, wellFormed_ofString]

theorem mapError_eq_ok_iff {ε ε' α : Type} {x : Except ε α} {f : ε → ε'} {a : α} :
    x.mapError f = .ok a ↔ x = .ok a := by
  cases x <;> simp [Except.mapError]

theorem result_askTemplate (hkeys : ∀ key ∈ keys, key.WellFormed) :
    result (askTemplate keys) world =
      ((ask keys world.lines).key.mapError .choice,
        noted (ask keys world.lines).key
          { wrote world (shown keys (ask keys world.lines).refused) with
            lines := (ask keys world.lines).rest }) := by
  have hquestion : question.WellFormed := wellFormed_ofString _
  have hrefusals (n : Nat) : printed ((List.range n).map fun _ => question ++ advice keys) =
      printed (List.replicate n (question ++ advice keys)) := by
    rw [List.map_const', List.length_range]
  unfold askTemplate
  simp only [result_bind, result_printEach, List.map_id', if_pos (wellFormed_lines.2 hkeys),
    result_get, result_modify, wellFormed_advice, implies_true, if_true, hrefusals,
    result_write hquestion]
  have hlines : (wrote world (printed (Menu.lines keys))).lines = world.lines := rfl
  rw [hlines]
  generalize ask keys world.lines = answer
  obtain ⟨key, refused, rest⟩ := answer
  rcases key with e | _ | key <;>
    simp [shown, wrote, printed_append, noted, noteEnd, Except.map, Except.mapError]

theorem result_askTemplate_of_unprintable (hkeys : ¬ ∀ key ∈ keys, key.WellFormed) :
    result (askTemplate keys) world =
      (.error .unprintable,
        wrote world (printed ((Menu.lines keys).takeWhile (·.WellFormed)))) := by
  unfold askTemplate
  rw [result_bind, result_printEach, List.map_id', if_neg (mt wellFormed_lines.1 hkeys)]

/-- **The menu is total but for lines of digits that are no decimal number.**  If all keys can be
printed, every line before the one that settles the answer is refused and answered by the question
again, and no key comes of it exactly if all lines are refused.  Else the lines of the menu are
written up to the first that cannot be. -/
theorem askTemplate_exact (keys : List Text) (world : World) :
    if ∀ key ∈ keys, key.WellFormed then
      (∃ refused rest answer more, world.lines = refused ++ rest ∧
        (∀ line ∈ refused, Refused keys line) ∧ Settles keys rest answer more ∧
        result (askTemplate keys) world = (answer.mapError .choice,
          noted answer { wrote world (shown keys refused.length) with lines := more })) ∧
      ((result (askTemplate keys) world).1 = .ok none ↔
        ∀ line ∈ world.lines, Refused keys line)
    else result (askTemplate keys) world =
      (.error .unprintable,
        wrote world (printed ((Menu.lines keys).takeWhile (·.WellFormed)))) := by
  split
  · next hkeys =>
    obtain ⟨refused, rest, hlines, hrefused, hcount, hsettles⟩ :=
      @settles_ask keys world.lines
    have hresult := @result_askTemplate keys world hkeys
    rw [hcount] at hresult
    refine ⟨⟨refused, rest, _, _, hlines, hrefused, hsettles, hresult⟩, ?_⟩
    rw [hresult, mapError_eq_ok_iff, ended_iff hrefused hsettles, hlines]
  · next hkeys => exact result_askTemplate_of_unprintable hkeys

/-- A raised two is a digit, but in no positional system. -/
theorem askTemplate_superscript :
    result (askTemplate [[.char 'a']]) { lines := [['²']] } =
      (.error (.choice ⟨['²'], .malformed⟩),
        { output := shown [[.char 'a']] 0 }) := by
  have hask : ask [[.char 'a']] [['²']] = ⟨.error ⟨['²'], .malformed⟩, 0, []⟩ := by
    cbv
  rw [result_askTemplate (by decide)]
  simp only [hask]
  rfl

end PromptLibrary.Proofs.Command.Menu

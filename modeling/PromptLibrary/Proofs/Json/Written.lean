import PromptLibrary.Conversion
import PromptLibrary.Proofs.Json.Tokens
import PromptLibrary.Proofs.Literal.Evaluate
/-!
# Written documents

The document of a mapping is derived by the grammar of documents, with the members of the mapping as
its value: each escape that the writer makes is read back as the code point it was made from
(`stringAfter_writeString`), and a code point that is left as it is stands for itself.  No carriage
return is left, so that reading the document as a text file does not change it.
-/

namespace PromptLibrary.Proofs.Json.Written

open PromptLibrary.Json
open PromptLibrary.Conversion (document)
open PromptLibrary.Proofs.Json.Grammar
open PromptLibrary.Proofs.Json.Tokens
open PromptLibrary.Proofs.Literal.Evaluate (asMembers)
open PromptLibrary.Proofs.Text.Points

variable {m : Mapping Text} {t key body : Text} {opening r : Text} {c : Char}
  {p : CodePoint}

/-! ## Strings -/

theorem stringBody_plain (hquote : c ≠ '"') (hbackslash : c ≠ '\\') (hc : ¬ c.toNat < 0x20) :
    stringBody opening (.char c :: r) =
      (stringBody opening r).map fun x => (⟨.char c, false⟩ :: x.1, x.2) := by
  have hpoint : ¬ (CodePoint.char c).toNat < 0x20 := hc
  rw [stringBody, if_neg hpoint]
  all_goals simp [hquote, hbackslash]

theorem stringBody_simple {e : Char} (h : simpleEscape? (.char e) = some c) :
    stringBody opening (.char '\\' :: .char e :: r) =
      (stringBody opening r).map fun x => (⟨.char c, false⟩ :: x.1, x.2) := by
  have he : e ≠ 'u' := by
    rintro rfl
    simp [simpleEscape?] at h
  rw [stringBody]
  · rw [h]
  all_goals simp [he]

/-- Control characters are written by their numbers, with four digits. -/
theorem fourDigits_hexDigits (hc : c.toNat < 0x20) : (Text.hexDigits 4 c.toNat).length = 4 ∧
    fourDigits? (Text.ofChars (Text.hexDigits 4 c.toNat)) = some (.char c) := by
  have hall : ∀ n < 0x20, (Text.hexDigits 4 n).length = 4 ∧
      fourDigits? (Text.ofChars (Text.hexDigits 4 n)) = some (.char (Char.ofNat n)) := by
    decide
  have h := hall c.toNat hc
  rwa [Char.ofNat_toNat] at h

theorem stringBody_number (hc : c.toNat < 0x20) (hr : r ≠ []) :
    stringBody opening (Text.ofChars ('\\' :: 'u' :: Text.hexDigits 4 c.toNat) ++ r) =
      (stringBody opening r).map fun x => (⟨.char c, true⟩ :: x.1, x.2) := by
  obtain ⟨hlength, hdigits⟩ := fourDigits_hexDigits hc
  obtain ⟨d₁, d₂, d₃, d₄, h⟩ := List.length_eq_four.1 hlength
  rw [h] at hdigits ⊢
  simp only [Text.ofChars, List.map_cons, List.map_nil] at hdigits
  simp only [Text.ofChars, List.map_cons, List.map_nil, List.cons_append, List.nil_append]
  rw [stringBody, hdigits]
  simp only [if_neg hr]

/-- How a character is written: by the letter of an escape, by its number, or as it is. -/
inductive Escapes (c : Char) : Text → Prop where
  | letter {e : Char} (h : simpleEscape? (.char e) = some c) : Escapes c [.char '\\', .char e]
  | number (h : c.toNat < 0x20) :
      Escapes c (Text.ofChars ('\\' :: 'u' :: Text.hexDigits 4 c.toNat))
  | plain (hquote : c ≠ '"') (hbackslash : c ≠ '\\') (h : ¬ c.toNat < 0x20) : Escapes c [.char c]

theorem escapes_escaped (c : Char) : Escapes c (escaped (.char c)) := by
  by_cases hletter : c ∈ ['"', '\\', '\n', '\r', '\t', '\x08', '\x0c']
  · simp only [List.mem_cons, List.not_mem_nil, or_false] at hletter
    rcases hletter with rfl | rfl | rfl | rfl | rfl | rfl | rfl <;> exact .letter rfl
  · simp only [List.mem_cons, List.not_mem_nil, or_false, not_or] at hletter
    by_cases hc : c.toNat < 0x20
    · have hescaped : escaped (.char c) =
          Text.ofChars ('\\' :: 'u' :: Text.hexDigits 4 c.toNat) := by
        simp [escaped, hletter, hc]
      rw [hescaped]
      exact .number hc
    · have hescaped : escaped (.char c) = [.char c] := by
        simp [escaped, hletter, hc, Text.ofChars]
      rw [hescaped]
      exact .plain hletter.1 hletter.2.1 hc

/-- What the writer makes of a code point is read back as that code point. -/
theorem stringBody_escaped (c : Char) (hr : r ≠ []) : ∃ byNumber,
    stringBody opening (escaped (.char c) ++ r) =
      (stringBody opening r).map fun x => (⟨.char c, byNumber⟩ :: x.1, x.2) := by
  have hw := escapes_escaped c
  generalize escaped (.char c) = w at hw ⊢
  cases hw with
  | letter h => exact ⟨false, stringBody_simple h⟩
  | number h => exact ⟨true, stringBody_number h hr⟩
  | plain hquote hbackslash h => exact ⟨false, stringBody_plain hquote hbackslash h⟩

theorem stringBody_of_escaped (ht : t.WellFormed) : ∃ ps,
    stringBody opening (t.flatMap escaped ++ .char '"' :: r) = .ok (ps, r) ∧
      ps.map Spelled.point = t := by
  induction t with
  | nil => exact ⟨[], rfl, rfl⟩
  | cons p t ih =>
    obtain ⟨c, rfl⟩ := ht p List.mem_cons_self
    obtain ⟨ps, hps, rfl⟩ := ih fun q hq => ht q (List.mem_cons_of_mem _ hq)
    have hne : (ps.map Spelled.point).flatMap escaped ++ .char '"' :: r ≠ [] := by simp
    obtain ⟨byNumber, h⟩ := @stringBody_escaped opening _ c hne
    refine ⟨⟨.char c, byNumber⟩ :: ps, ?_, rfl⟩
    rw [List.flatMap_cons, List.append_assoc, h, hps]
    rfl

/-- **A string is read back as it was written.** -/
theorem stringAfter_writeString (ht : t.WellFormed) :
    stringAfter opening (t.flatMap escaped ++ .char '"' :: r) = .ok (t, r) := by
  obtain ⟨ps, hps, rfl⟩ := @stringBody_of_escaped t opening r ht
  have hnumber : ByNumber ps := fun q hq => .inr (ht q.point (List.mem_map_of_mem hq))
  rw [stringAfter, hps]
  simp only [Except.map, joinSpelled_eq_join hnumber, join_of_wellFormed ht]

/-! ## Documents -/

/-- What the document of a mapping holds: whole strings, and no key twice. -/
def storedLexis : Lexis := ⟨False, Text.WellFormed, List.Nodup⟩

/-- All keys and all bodies are free of surrogate halves. -/
def AllWellFormed (m : Mapping Text) : Prop :=
  ∀ entry ∈ m, entry.1.WellFormed ∧ entry.2.WellFormed

instance : Decidable (AllWellFormed m) :=
  inferInstanceAs (Decidable (∀ entry ∈ m, _ ∧ _))

theorem blanks_newLine (level : Nat) : Blanks (newLine level ++ r) r := by
  refine ⟨newLine level, rfl, fun p hp => ?_⟩
  obtain ⟨c, hc, rfl⟩ := List.mem_map.1 hp
  rcases List.mem_cons.1 hc with rfl | hc
  · rfl
  · rw [List.eq_of_mem_replicate hc]
    rfl

theorem writeString_append :
    writeString t ++ r = .char '"' :: (t.flatMap escaped ++ .char '"' :: r) := by
  simp [writeString]

theorem derives_writeString (ht : t.WellFormed) :
    Derives storedLexis 0 (.value (.string t)) (writeString t ++ r) r := by
  rw [writeString_append]
  exact .token (.string (stringAfter_writeString ht) ht)

/-- Members from the first key on, up to the brace behind the last one. -/
theorem derives_writeMembers (hm : AllWellFormed ((key, body) :: m)) :
    Derives storedLexis 0 (.members (asMembers ((key, body) :: m)))
      (writeString key ++ (Text.ofString ": " ++ (writeString body ++
        (writeMembers 1 (asMembers m) ++ (newLine 0 ++ .char '\x7d' :: r))))) r := by
  have hspace : ∀ s, Blanks (.char ' ' :: s) s := fun s => ⟨[.char ' '], rfl, by simp [isBlank]⟩
  induction m generalizing key body with
  | nil =>
    obtain ⟨hkey, hbody⟩ := hm _ List.mem_cons_self
    rw [writeString_append]
    exact .lastMember (stringAfter_writeString hkey) hkey blanks_refl (hspace _)
      (derives_writeString hbody) (blanks_newLine 0)
  | cons entry m ih =>
    obtain ⟨hkey, hbody⟩ := hm _ List.mem_cons_self
    obtain ⟨key', body'⟩ := entry
    have hrest := @ih key' body' fun x hx => hm x (List.mem_cons_of_mem _ hx)
    have hnext : writeMembers 1 (asMembers ((key', body') :: m)) ++
        (newLine 0 ++ .char '\x7d' :: r) = .char ',' :: (newLine 1 ++ (writeString key' ++
          (Text.ofString ": " ++ (writeString body' ++
            (writeMembers 1 (asMembers m) ++ (newLine 0 ++ .char '\x7d' :: r)))))) := by
      simp [asMembers, writeMembers, writeAt]
    rw [writeString_append, hnext]
    exact .member (stringAfter_writeString hkey) hkey blanks_refl (hspace _)
      (derives_writeString hbody) blanks_refl (blanks_newLine 1) hrest

theorem document_cons : document ((key, body) :: m) = .char '\x7b' :: (newLine 1 ++
    (writeString key ++ (Text.ofString ": " ++ (writeString body ++
      (writeMembers 1 (asMembers m) ++ (newLine 0 ++ [.char '\x7d'])))))) := by
  simp [document, write, writeAt, asMembers]

/-- **The document of a mapping is derived**, and its value has the members of the mapping. -/
theorem document_of_mapping (hkeys : m.keys.Nodup) (hm : AllWellFormed m) :
    ∃ d ≤ 1, Document storedLexis d (document m) (.object (asMembers m)) := by
  cases m with
  | nil => exact ⟨1, by omega, _, [], blanks_refl, .emptyObject blanks_refl List.nodup_nil,
      blanks_refl⟩
  | cons entry m =>
    obtain ⟨key, body⟩ := entry
    have hnames : (asMembers ((key, body) :: m)).map (·.1) = Mapping.keys ((key, body) :: m) := by
      simp [asMembers, Mapping.keys]
    have hmembers := @derives_writeMembers m key body [] hm
    have hobject := Derives.object (blanks_newLine 1) hmembers (hnames ▸ hkeys)
    rw [Mapping.ofEntries_of_nodup (hnames ▸ hkeys), ← document_cons] at hobject
    exact ⟨1, by omega, _, [], blanks_refl, hobject, blanks_refl⟩

/-! ## No carriage returns -/

theorem not_mem_escaped : CodePoint.char '\r' ∉ escaped p := by
  cases p with
  | lead i => simp [escaped]
  | trail i => simp [escaped]
  | char c =>
    have hw := escapes_escaped c
    generalize escaped (.char c) = w at hw ⊢
    cases hw with
    | @letter e h =>
      have he : e ≠ '\r' := by
        rintro rfl
        simp [simpleEscape?] at h
      simp [he.symm]
    | number h =>
      have hall : ∀ n < 0x20, '\r' ∉ '\\' :: 'u' :: Text.hexDigits 4 n := by decide
      exact not_mem_ofChars (hall c.toNat h)
    | plain _ _ h =>
      have hc : c ≠ '\r' := by
        rintro rfl
        exact h (by decide)
      simp [hc.symm]

theorem not_mem_writeString : CodePoint.char '\r' ∉ writeString t := by
  simp [writeString, not_mem_escaped]

theorem not_mem_newLine {level : Nat} : CodePoint.char '\r' ∉ newLine level :=
  not_mem_ofChars (by simp)

theorem not_mem_writeMembers : CodePoint.char '\r' ∉ writeMembers 1 (asMembers m) := by
  have hcolon : CodePoint.char '\r' ∉ Text.ofString ": " := by decide
  induction m with
  | nil => simp [asMembers, writeMembers]
  | cons entry m ih =>
    unfold asMembers at ih ⊢
    simp [writeMembers, writeAt, not_mem_newLine, not_mem_writeString, hcolon, ih]

theorem not_mem_document : CodePoint.char '\r' ∉ document m := by
  have hcolon : CodePoint.char '\r' ∉ Text.ofString ": " := by decide
  cases m with
  | nil => decide
  | cons entry m =>
    rw [document_cons]
    simp [not_mem_newLine, not_mem_writeString, hcolon, not_mem_writeMembers]

end PromptLibrary.Proofs.Json.Written

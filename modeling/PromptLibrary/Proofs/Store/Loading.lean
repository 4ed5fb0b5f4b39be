import PromptLibrary.Proofs.Analysis.Failures
import PromptLibrary.Proofs.Conversion.Stored
import PromptLibrary.Proofs.Json.Lines
/-!
# Loading a file

What a store that is not loaded makes of the bytes of its file.  They spell a mapping, they go
beyond a limit of the reader of documents, or they are corrupt.  A limit is let through as the
reader tells it, and not called a fault of the file.

* `readTemplates_of_spells`, `readTemplates_of_exceeding` — the first two kinds;
* `readTemplates_cases` — there is no other one but corrupt bytes;
* `load_of_file` — the load, and what is kept of it.
-/

namespace PromptLibrary.Proofs.Store.Loading

open PromptLibrary.Encoding (plainLines)
open PromptLibrary.Encoding.Utf8 (encode)
open PromptLibrary.Proofs.Encoding.Utf8 (readText_eq_ok_iff)
open PromptLibrary.Proofs.Json.Grammar (Blanks Derives Document blanks_refl)
open PromptLibrary.Proofs.Json.LongInteger (LongInteger not_continues_iff)
open PromptLibrary.Proofs.Json.Limits
open PromptLibrary.Proofs.Json.Lines (document_plainLines_iff oversize_plainLines_iff)
open PromptLibrary.Proofs.Json.Recognition (read_eq_ok_iff)
open PromptLibrary.Proofs.Analysis.Failures (Holds readTemplates_of_holds
  readTemplates_of_undecodable)
open PromptLibrary.Proofs.Conversion.Stored (storedTemplates_asMembers)
open PromptLibrary.Proofs.Literal.Evaluate (asMembers)
open PromptLibrary.Proofs.Store.Cache (load_of_unloaded)

variable {tree : Tree} {path : Path} {bytes : List UInt8} {m : Mapping Text} {e : LoadError}
  {cs : List Char} {members : List (Text × Value)}

/-! ## What bytes come to -/

/-- The bytes spell a mapping: they are the UTF-8 of a document that is an object of strings, the
last value of each key being taken. -/
def Spells (bytes : List UInt8) (m : Mapping Text) : Prop :=
  ∃ cs d, bytes = encode cs ∧ d ≤ Json.depthLimit ∧
    Document .free d (Text.ofChars cs) (.object (asMembers m))

/-- The bytes are the UTF-8 of a text that goes beyond a limit of the reader of documents. -/
inductive Exceeding (bytes : List UInt8) : LoadError → Prop where
  | tooManyDigits {cs : List Char} {count : Nat} (hcs : bytes = encode cs)
      (h : Oversize Json.depthLimit (Text.ofChars cs) (.tooManyDigits count)) :
      Exceeding bytes (.tooManyDigits count)
  | tooDeep {cs : List Char} {kind : Kind} (hcs : bytes = encode cs)
      (h : Oversize Json.depthLimit (Text.ofChars cs) (.tooDeep kind)) :
      Exceeding bytes (.tooDeep kind)

/-! ## Reading the file -/

theorem holds_of_encode (h : tree.find path = .ok (.file (encode cs))) :
    Holds tree path (plainLines cs) :=
  ⟨_, h, readText_eq_ok_iff.2 ⟨cs, rfl, rfl⟩⟩

theorem readTemplates_of_spells (hfile : tree.find path = .ok (.file bytes))
    (h : Spells bytes m) : readTemplates tree path = .ok m := by
  obtain ⟨cs, d, rfl, hd, hdocument⟩ := h
  have hread : Json.read (Text.ofChars (plainLines cs)) = .ok (.object (asMembers m)) :=
    read_eq_ok_iff.2 ⟨d, hd, document_plainLines_iff.2 hdocument⟩
  rw [readTemplates_of_holds (holds_of_encode hfile), hread]
  simp only [storedTemplates_asMembers]
  rfl

theorem readTemplates_of_exceeding (hfile : tree.find path = .ok (.file bytes))
    (h : Exceeding bytes e) : readTemplates tree path = .error e := by
  cases h with
  | tooManyDigits hcs h | tooDeep hcs h =>
    subst hcs
    have hread := (read_eq_error_iff (by trivial)).2 (oversize_plainLines_iff.2 h)
    rw [readTemplates_of_holds (holds_of_encode hfile), hread]

theorem eq_asMembers_of_storedTemplates (h : storedTemplates members = .ok m) :
    members = asMembers m := by
  fun_induction storedTemplates members generalizing m with
  | case1 =>
    obtain rfl := Except.ok.inj h
    rfl
  | case2 key body rest ih =>
    obtain ⟨m, hm, rfl⟩ := map_eq_ok.1 h
    rw [ih hm]
    rfl
  | case3 => simp at h

/-- Bytes that neither spell a mapping nor go beyond a limit are corrupt. -/
theorem readTemplates_cases (hfile : tree.find path = .ok (.file bytes)) :
    (∃ m, Spells bytes m) ∨ (∃ e, Exceeding bytes e) ∨
      ∃ what, readTemplates tree path = .error (.corrupt path what) := by
  cases htext : Encoding.utf8.readText bytes with
  | error fault => exact .inr (.inr ⟨_, readTemplates_of_undecodable hfile htext⟩)
  | ok text =>
    obtain ⟨cs, rfl, rfl⟩ := readText_eq_ok_iff.1 htext
    rw [readTemplates_of_holds (holds_of_encode hfile)]
    cases hread : Json.read (Text.ofChars (plainLines cs)) with
    | error failure =>
      cases failure with
      | malformed fault rest => exact .inr (.inr ⟨_, rfl⟩)
      | tooManyDigits count =>
        have h := oversize_plainLines_iff.1 ((read_eq_error_iff (by trivial)).1 hread)
        exact .inr (.inl ⟨_, .tooManyDigits rfl h⟩)
      | tooDeep kind =>
        have h := oversize_plainLines_iff.1 ((read_eq_error_iff (by trivial)).1 hread)
        exact .inr (.inl ⟨_, .tooDeep rfl h⟩)
    | ok v =>
      cases v with
      | object members =>
        cases hm : storedTemplates members with
        | error what => exact .inr (.inr ⟨what, by simp only [hm]; rfl⟩)
        | ok m =>
          obtain rfl := eq_asMembers_of_storedTemplates hm
          obtain ⟨d, hd, hdocument⟩ := read_eq_ok_iff.1 hread
          exact .inl ⟨m, cs, d, rfl, hd, document_plainLines_iff.1 hdocument⟩
      | _ => exact .inr (.inr ⟨_, rfl⟩)

theorem readTemplates_eq_ok_iff (hfile : tree.find path = .ok (.file bytes)) :
    readTemplates tree path = .ok m ↔ Spells bytes m := by
  refine ⟨fun h => ?_, readTemplates_of_spells hfile⟩
  rcases readTemplates_cases hfile with ⟨m', hm⟩ | ⟨e, he⟩ | ⟨what, hwhat⟩
  · obtain rfl := Except.ok.inj (h.symm.trans (readTemplates_of_spells hfile hm))
    exact hm
  · exact nomatch h.symm.trans (readTemplates_of_exceeding hfile he)
  · exact nomatch h.symm.trans hwhat

theorem readTemplates_eq_corrupt_iff (hfile : tree.find path = .ok (.file bytes)) :
    (∃ what, readTemplates tree path = .error (.corrupt path what)) ↔
      (∀ m, ¬ Spells bytes m) ∧ ∀ e, ¬ Exceeding bytes e := by
  constructor
  · rintro ⟨what, hwhat⟩
    refine ⟨fun m hm => ?_, fun e he => ?_⟩
    · exact nomatch hwhat.symm.trans (readTemplates_of_spells hfile hm)
    · have herror := Except.error.inj (hwhat.symm.trans (readTemplates_of_exceeding hfile he))
      subst herror
      exact nomatch he
  · rintro ⟨hspells, hexceeding⟩
    rcases readTemplates_cases hfile with ⟨m, hm⟩ | ⟨e, he⟩ | hwhat
    · exact absurd hm (hspells m)
    · exact absurd he (hexceeding e)
    · exact hwhat

/-! ## Loading -/

/-- The working directory with one file. -/
def singleFile (content : List UInt8) : Tree :=
  ⟨[(["t.json"], .file content)]⟩

theorem find_singleFile (content : List UInt8) :
    (singleFile content).find (.ofString "t.json") = .ok (.file content) := by
  with_unfolding_all rfl

/-- An object with a key that comes again, on a line of its own; its first value is no string. -/
def overwritten : List Char :=
  "\x7b\"a\":1,\r\n\"a\":\"b\"\x7d".toList

theorem spells_overwritten :
    Spells (encode overwritten) [(Text.ofString "a", Text.ofString "b")] := by
  have hlines : Blanks (Text.ofString "\r\n\"a\":\"b\"\x7d") (Text.ofString "\"a\":\"b\"\x7d") :=
    ⟨Text.ofString "\r\n", rfl, by decide⟩
  have hone : Derives .free 0 (.value (.int 1)) (Text.ofString "1,\r\n\"a\":\"b\"\x7d")
      (Text.ofString ",\r\n\"a\":\"b\"\x7d") := .token (.number rfl)
  have hstring : Derives .free 0 (.value (.string (Text.ofString "b")))
      (Text.ofString "\"b\"\x7d") (Text.ofString "\x7d") := .token (.string rfl trivial)
  have hlast : Derives .free 0 (.members [(Text.ofString "a", .string (Text.ofString "b"))])
      (Text.ofString "\"a\":\"b\"\x7d") [] :=
    .lastMember rfl trivial blanks_refl blanks_refl hstring blanks_refl
  have hmembers : Derives .free 0
      (.members [(Text.ofString "a", .int 1), (Text.ofString "a", .string (Text.ofString "b"))])
      (Text.ofString "\"a\":1,\r\n\"a\":\"b\"\x7d") [] :=
    .member rfl trivial blanks_refl blanks_refl hone blanks_refl hlines hlast
  refine ⟨overwritten, 1, rfl, by decide, ?_⟩
  exact ⟨_, _, blanks_refl, .object blanks_refl hmembers trivial, blanks_refl⟩

/-- An object with one number, of `count` digits. -/
def ones (count : Nat) : List Char :=
  "\x7b\"a\":".toList ++ (List.replicate count '1' ++ ['\x7d'])

theorem exceeding_ones {count : Nat} (h : Integer.digitLimit < count) :
    Exceeding (encode (ones count)) (.tooManyDigits count) := by
  have hdigits : ∀ c ∈ List.replicate count '1', c.isDigit = true := fun c hc =>
    (List.eq_of_mem_replicate hc).symm ▸ by decide
  have hzero : (List.replicate count '1').head? ≠ some '0' := by
    cases count <;> simp [List.replicate_succ]
  have hlong : LongInteger (Text.ofChars (List.replicate count '1') ++ [.char '\x7d']) count :=
    ⟨_, _, rfl, List.length_replicate, h, hdigits, hzero, not_continues_iff.2 (by decide)⟩
  have hmember : Exceeds 984 .members
      (.char '"' :: .char 'a' :: .char '"' :: .char ':' ::
        (Text.ofChars (List.replicate count '1') ++ [.char '\x7d'])) (.tooManyDigits count) :=
    .member rfl blanks_refl blanks_refl (.digits hlong)
  refine .tooManyDigits rfl ⟨_, blanks_refl, ?_⟩
  have htext : Text.ofChars (ones count) = .char '\x7b' :: .char '"' :: .char 'a' :: .char '"' ::
      .char ':' :: (Text.ofChars (List.replicate count '1') ++ [.char '\x7d']) := by
    simp [ones, Text.ofChars]
  rw [htext]
  exact .object blanks_refl hmember

end PromptLibrary.Proofs.Store.Loading

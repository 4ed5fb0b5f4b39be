import PromptLibrary.Encoding.Basic
import PromptLibrary.Proofs.Text.Points
import PromptLibrary.Text.Reader
import Mathlib.Data.List.Basic
import Mathlib.Data.List.TakeWhile
/-!
# UTF-8 back and forth

The bytes of a text are decoded to the text and no other bytes are, and a text file of it is read as
it was written as long as no carriage return stands in it, which would be read as a line feed.
-/

namespace PromptLibrary.Proofs.Encoding.Utf8

open PromptLibrary.Encoding
open PromptLibrary.Encoding.Utf8

variable {cs : List Char} {c : Char} {first second position : Nat} {later rest : List Nat}

/-! ## One sequence of bytes -/

theorem tail_eq (hsecond : isSecond first second = true) (hlater : ∀ b ∈ later, isLater b = true) :
    tail first (later.length + 1) (second :: (later ++ rest)) = second :: later := by
  rw [tail, if_pos ⟨Nat.succ_pos _, hsecond⟩, Nat.add_sub_cancel, List.take_left,
    List.takeWhile_eq_self_iff.2 hlater]

/-- A sequence is decoded to the character of its number, and the rest as if it stood alone. -/
theorem decodeFrom_sequence (hfirst : 0x80 ≤ first)
    (hcount : tailCount? first = some (later.length + 1)) (hsecond : isSecond first second = true)
    (hlater : ∀ b ∈ later, isLater b = true) :
    decodeFrom position (first :: second :: (later ++ rest)) =
      (decodeFrom (position + 1 + (later.length + 1)) rest).map
        (Char.ofNat (combine first (second :: later)) :: ·) := by
  have hdrop : (second :: (later ++ rest)).drop (later.length + 1) = rest := by simp
  rw [decodeFrom, if_neg (by omega)]
  simp only [hcount, tail_eq hsecond hlater, List.length_cons, if_true, hdrop]

theorem toNat_ofNat {n : Nat} (h : n < 256) : (UInt8.ofNat n).toNat = n := by
  rw [UInt8.toNat_ofNat']
  exact Nat.mod_eq_of_lt h

theorem utf8EncodeChar_eq (c : Char) : String.utf8EncodeChar c =
    if c.toNat ≤ 127 then [UInt8.ofNat c.toNat]
    else if c.toNat ≤ 2047 then
      [UInt8.ofNat (c.toNat / 64 % 32 + 192), UInt8.ofNat (c.toNat % 64 + 128)]
    else if c.toNat ≤ 65535 then
      [UInt8.ofNat (c.toNat / 4096 % 16 + 224), UInt8.ofNat (c.toNat / 64 % 64 + 128),
        UInt8.ofNat (c.toNat % 64 + 128)]
    else
      [UInt8.ofNat (c.toNat / 262144 % 8 + 240), UInt8.ofNat (c.toNat / 4096 % 64 + 128),
        UInt8.ofNat (c.toNat / 64 % 64 + 128), UInt8.ofNat (c.toNat % 64 + 128)] :=
  rfl

theorem isSecond_iff {b : Nat} : isSecond first b = true ↔ 0x80 ≤ b ∧ b ≤ 0xBF ∧
    (first = 0xE0 → 0xA0 ≤ b) ∧ (first = 0xF0 → 0x90 ≤ b) ∧ (first = 0xED → b ≤ 0x9F) ∧
    (first = 0xF4 → b ≤ 0x8F) := by
  simp only [isSecond, Bool.and_eq_true, decide_eq_true_eq]
  split <;> split <;> (try split) <;> (try split) <;> omega

theorem isLater_iff {b : Nat} : isLater b = true ↔ 0x80 ≤ b ∧ b ≤ 0xBF := by
  simp [isLater]

theorem tailCount_eq {n : Nat} (hn : n < 0x110000) :
    (0x80 ≤ n → n ≤ 0x7FF → tailCount? (n / 64 % 32 + 192) = some 1) ∧
    (0x800 ≤ n → n ≤ 0xFFFF → tailCount? (n / 4096 % 16 + 224) = some 2) ∧
    (0x10000 ≤ n → tailCount? (n / 262144 % 8 + 240) = some 3) := by
  unfold tailCount?
  refine ⟨fun _ _ => ?_, fun _ _ => ?_, fun _ => ?_⟩
  · rw [if_pos (by omega)]
  · rw [if_neg (by omega), if_pos (by omega)]
  · rw [if_neg (by omega), if_neg (by omega), if_pos (by omega)]

/-- The parts of a number that its bytes carry make the number again. -/
theorem combine_eq {n : Nat} (hn : n < 0x110000) :
    (n ≤ 0x7FF → combine (n / 64 % 32 + 192) [n % 64 + 128] = n) ∧
    (n ≤ 0xFFFF → combine (n / 4096 % 16 + 224) [n / 64 % 64 + 128, n % 64 + 128] = n) ∧
    combine (n / 262144 % 8 + 240)
      [n / 4096 % 64 + 128, n / 64 % 64 + 128, n % 64 + 128] = n := by
  have hone {first a : Nat} : combine first [a] = first % 32 * 64 + a % 64 := rfl
  have htwo {first a b : Nat} : combine first [a, b] =
      (first % 16 * 64 + a % 64) * 64 + b % 64 := rfl
  have hthree {first a b d : Nat} : combine first [a, b, d] =
      ((first % 8 * 64 + a % 64) * 64 + b % 64) * 64 + d % 64 := rfl
  rw [hone, htwo, hthree]
  omega

/-- The bytes of a character are decoded to it. -/
theorem decodeFrom_char (c : Char) (position : Nat) (rest : List Nat) :
    ∃ next, decodeFrom position ((String.utf8EncodeChar c).map UInt8.toNat ++ rest) =
      (decodeFrom next rest).map (c :: ·) := by
  have hvalid : c.toNat < 0xD800 ∨ 0xDFFF < c.toNat ∧ c.toNat < 0x110000 := c.valid
  have hc : Char.ofNat c.toNat = c := Char.ofNat_toNat c
  rw [utf8EncodeChar_eq]
  generalize c.toNat = n at hvalid hc ⊢
  obtain ⟨hcount₁, hcount₂, hcount₃⟩ := @tailCount_eq n (by omega)
  obtain ⟨hcombine₁, hcombine₂, hcombine₃⟩ := @combine_eq n (by omega)
  have hlater : isLater (n % 64 + 128) = true := isLater_iff.2 (by omega)
  have hlater' : isLater (n / 64 % 64 + 128) = true := isLater_iff.2 (by omega)
  split
  · rw [List.map_singleton, toNat_ofNat (by omega), List.singleton_append, decodeFrom,
      if_pos (by omega), hc]
    exact ⟨_, rfl⟩
  split
  · have h := @decodeFrom_sequence (n / 64 % 32 + 192) (n % 64 + 128) position [] rest (by omega)
      (hcount₁ (by omega) (by omega)) (isSecond_iff.2 (by omega)) (by simp)
    rw [hcombine₁ (by omega), hc] at h
    simp (disch := omega) only [List.map_cons, List.map_nil, toNat_ofNat]
    exact ⟨_, h⟩
  split
  · have h := @decodeFrom_sequence (n / 4096 % 16 + 224) (n / 64 % 64 + 128) position
      [n % 64 + 128] rest (by omega) (hcount₂ (by omega) (by omega)) (isSecond_iff.2 (by omega))
      (by simpa using hlater)
    rw [hcombine₂ (by omega), hc] at h
    simp (disch := omega) only [List.map_cons, List.map_nil, toNat_ofNat]
    exact ⟨_, h⟩
  · have h := @decodeFrom_sequence (n / 262144 % 8 + 240) (n / 4096 % 64 + 128) position
      [n / 64 % 64 + 128, n % 64 + 128] rest (by omega) (hcount₃ (by omega))
      (isSecond_iff.2 (by omega)) (by simpa using ⟨hlater', hlater⟩)
    rw [hcombine₃, hc] at h
    simp (disch := omega) only [List.map_cons, List.map_nil, toNat_ofNat]
    exact ⟨_, h⟩

/-! ## Texts -/

theorem decodeFrom_encode (cs : List Char) (position : Nat) :
    decodeFrom position ((encode cs).map UInt8.toNat) = .ok cs := by
  induction cs generalizing position with
  | nil =>
    rw [encode, List.flatMap_nil, List.map_nil, decodeFrom]
  | cons c cs ih =>
    rw [encode, List.flatMap_cons, List.map_append, ← encode]
    obtain ⟨next, h⟩ := decodeFrom_char c position ((encode cs).map UInt8.toNat)
    rw [h, ih next]
    rfl

/-- **What is encoded is decoded to itself.** -/
theorem decode_encode (cs : List Char) : decode (encode cs) = .ok cs :=
  decodeFrom_encode cs 0

theorem plainLines_eq (h : '\r' ∉ cs) : Encoding.plainLines cs = cs := by
  fun_induction Encoding.plainLines cs with
  | case1 => rfl
  | case2 => simp at h
  | case3 => simp at h
  | case4 c rest _ _ ih => rw [ih (List.not_mem_of_not_mem_cons h)]

/-- A text file is read as it was written, unless line endings change. -/
theorem readText_encode (h : '\r' ∉ cs) : Encoding.utf8.readText (encode cs) = .ok cs := by
  unfold Encoding.readText Encoding.decode
  simp only [decode_encode, Except.mapError, Except.map, plainLines_eq h]

/-! ## Bytes of characters -/

/-- A whole tail is a second byte and later ones, and the text after it is the rest. -/
theorem exists_of_tail {count : Nat} (h : (tail first count rest).length = count)
    (hcount : 0 < count) :
    ∃ second later, tail first count rest = second :: later ∧ isSecond first second = true ∧
      (∀ b ∈ later, isLater b = true) ∧ rest = second :: (later ++ rest.drop count) := by
  cases rest with
  | nil => simp [tail] at h; omega
  | cons b rest =>
    obtain ⟨k, rfl⟩ : ∃ k, count = k + 1 := ⟨count - 1, by omega⟩
    rw [tail, Nat.add_sub_cancel] at h ⊢
    split at h
    · next hsecond =>
      rw [if_pos hsecond]
      refine ⟨b, _, rfl, hsecond.2, List.all_eq_true.1 List.all_takeWhile, ?_⟩
      have hwhole : (rest.take k).takeWhile isLater = rest.take k := by
        have hle := List.length_take_le k rest
        rw [List.length_cons] at h
        refine (List.takeWhile_prefix isLater).eq_of_length_le ?_
        omega
      rw [hwhole, List.drop_succ_cons, List.take_append_drop]
    · simp at h

theorem map_toNat_encodeChar {n : Nat} (hn : n.isValidChar) :
    (String.utf8EncodeChar (Char.ofNat n)).map UInt8.toNat =
      if n ≤ 127 then [n]
      else if n ≤ 2047 then [n / 64 % 32 + 192, n % 64 + 128]
      else if n ≤ 65535 then [n / 4096 % 16 + 224, n / 64 % 64 + 128, n % 64 + 128]
      else [n / 262144 % 8 + 240, n / 4096 % 64 + 128, n / 64 % 64 + 128, n % 64 + 128] := by
  rw [utf8EncodeChar_eq, Text.Points.toNat_ofNat_of_isValidChar hn]
  split
  · rw [List.map_singleton, toNat_ofNat (by omega)]
  · split
    · simp (disch := omega) only [List.map_cons, List.map_nil, toNat_ofNat]
    · split <;> simp (disch := omega) only [List.map_cons, List.map_nil, toNat_ofNat]

/-- A sequence is what its number is encoded to. -/
theorem encodeChar_combine (hcount : tailCount? first = some (later.length + 1))
    (hsecond : isSecond first second = true) (hlater : ∀ b ∈ later, isLater b = true) :
    (String.utf8EncodeChar (Char.ofNat (combine first (second :: later)))).map UInt8.toNat =
      first :: second :: later := by
  have hs := isSecond_iff.1 hsecond
  unfold tailCount? at hcount
  split at hcount
  · next hfirst =>
    obtain rfl : later = [] := by simpa using hcount.symm
    have hn : combine first [second] = first % 32 * 64 + second % 64 := rfl
    have hvalid : (combine first [second]).isValidChar := by
      unfold Nat.isValidChar
      omega
    rw [map_toNat_encodeChar hvalid, if_neg (by omega), if_pos (by omega), hn]
    simp only [List.cons.injEq, and_true]
    omega
  split at hcount
  · next hfirst =>
    obtain ⟨y, rfl⟩ : ∃ y, later = [y] := List.length_eq_one_iff.1 (by simpa using hcount.symm)
    have hy := isLater_iff.1 (hlater y (by simp))
    have hn : combine first [second, y] = (first % 16 * 64 + second % 64) * 64 + y % 64 := rfl
    have hvalid : (combine first [second, y]).isValidChar := by
      unfold Nat.isValidChar
      omega
    rw [map_toNat_encodeChar hvalid, if_neg (by omega), if_neg (by omega), if_pos (by omega), hn]
    simp only [List.cons.injEq, and_true]
    omega
  split at hcount
  · next hfirst =>
    obtain ⟨y, z, rfl⟩ : ∃ y z, later = [y, z] :=
      List.length_eq_two.1 (by simpa using hcount.symm)
    have hy := isLater_iff.1 (hlater y (by simp))
    have hz := isLater_iff.1 (hlater z (by simp))
    have hn : combine first [second, y, z] =
      ((first % 8 * 64 + second % 64) * 64 + y % 64) * 64 + z % 64 := rfl
    have hvalid : (combine first [second, y, z]).isValidChar := by
      unfold Nat.isValidChar
      omega
    rw [map_toNat_encodeChar hvalid, if_neg (by omega), if_neg (by omega), if_neg (by omega), hn]
    simp only [List.cons.injEq, and_true]
    omega
  · simp at hcount

theorem encode_of_decodeFrom {bytes : List Nat} (h : decodeFrom position bytes = .ok cs) :
    bytes = (encode cs).map UInt8.toNat := by
  fun_induction decodeFrom position bytes generalizing cs with
  | case1 =>
    obtain rfl := Except.ok.inj h
    rfl
  | case2 position b rest hb ih =>
    obtain ⟨more, hmore, rfl⟩ := map_eq_ok.1 h
    have hvalid : b.isValidChar := .inl (by omega)
    rw [encode, List.flatMap_cons, List.map_append, map_toNat_encodeChar hvalid, if_pos (by omega),
      ← encode, ← ih hmore]
    rfl
  | case3 => simp at h
  | case4 position b rest hb count hcount found hfound =>
    rename_i ih
    obtain ⟨more, hmore, rfl⟩ := map_eq_ok.1 h
    have hpos : 0 < count := by
      unfold tailCount? at hcount
      grind
    obtain ⟨second, later, htail, hsecond, hlater, hrest⟩ := exists_of_tail hfound hpos
    change found = second :: later at htail
    have hlength : count = later.length + 1 := by rw [← hfound, htail, List.length_cons]
    rw [hlength] at hcount
    have hchar := encodeChar_combine hcount hsecond hlater
    rw [← htail] at hchar
    rw [encode, List.flatMap_cons, List.map_append, hchar, ← encode, ← ih hmore, htail,
      List.cons_append, List.cons_append, ← hrest]
  | case5 => simp at h
  | case6 => simp at h

/-- **The bytes that are decoded to a text are those of the text.** -/
theorem decode_eq_ok_iff {bytes : List UInt8} : decode bytes = .ok cs ↔ bytes = encode cs := by
  constructor
  · intro h
    have htoNat : Function.Injective UInt8.toNat := fun _ _ => UInt8.toNat_inj.1
    exact htoNat.list_map (encode_of_decodeFrom h)
  · rintro rfl
    exact decode_encode cs

theorem readText_eq_ok_iff {bytes : List UInt8} {text : List Char} :
    Encoding.utf8.readText bytes = .ok text ↔
      ∃ cs, bytes = encode cs ∧ Encoding.plainLines cs = text := by
  have hdecode : ∀ cs, Encoding.utf8.decode bytes = .ok cs ↔ bytes = encode cs := by
    intro cs
    rw [← decode_eq_ok_iff, Encoding.decode]
    cases decode bytes <;> simp [Except.mapError]
  simp only [Encoding.readText, map_eq_ok, hdecode]

end PromptLibrary.Proofs.Encoding.Utf8

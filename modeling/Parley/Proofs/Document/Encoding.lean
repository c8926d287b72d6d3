/-
# Text as bytes and back

The bytes that encode a text are read as that text. A character that is encoded stands at
the front of the bytes and is read by its first byte, which tells its length, and the bytes
that continue it. Only the characters of ASCII are encoded with bytes below 128, and these are
the only bytes that the syntax of documents is made of.
-/

import Parley.Text.Utf8

namespace Parley.Text.Utf8

/-! ## Encoding -/

@[simp] theorem encode_append (s t : String) : encode (s ++ t) = encode s ++ encode t := by
  simp [encode, String.toList_append]

@[simp] theorem encode_ofList (chars : List Char) :
    encode (String.ofList chars) = chars.flatMap String.utf8EncodeChar := by
  simp [encode]

theorem utf8EncodeChar_of_lt {c : Char} (ascii : c.toNat < 128) :
    String.utf8EncodeChar c = [UInt8.ofNat c.toNat] := by
  have small : c.val.toNat ≤ 127 := Nat.le_of_lt_succ ascii
  simp only [String.utf8EncodeChar, if_pos small]
  rfl

/-- Outside of ASCII every byte of a character is at least 128. -/
theorem le_of_mem_utf8EncodeChar {c : Char} (foreign : 128 ≤ c.toNat) {b : UInt8}
    (listed : b ∈ String.utf8EncodeChar c) : 128 ≤ b.toNat := by
  have large : ¬ c.val.toNat ≤ 127 := Nat.not_le.mpr foreign
  simp only [String.utf8EncodeChar, if_neg large] at listed
  split at listed
  · simp only [List.mem_cons, List.not_mem_nil, or_false] at listed
    rcases listed with rfl | rfl <;> rw [UInt8.toNat_ofNat'] <;> omega
  · split at listed
    · simp only [List.mem_cons, List.not_mem_nil, or_false] at listed
      rcases listed with rfl | rfl | rfl <;> rw [UInt8.toNat_ofNat'] <;> omega
    · simp only [List.mem_cons, List.not_mem_nil, or_false] at listed
      rcases listed with rfl | rfl | rfl | rfl <;> rw [UInt8.toNat_ofNat'] <;> omega

/-! ## Decoding -/

theorem decodeFrom_of_one {index : Nat} {a : UInt8} {rest : List UInt8} {chars : List Char}
    (long : lengthOf? a = some 1) (later : decodeFrom (index + 1) rest = .ok chars) :
    decodeFrom index (a :: rest) = .ok (Char.ofNat a.toNat :: chars) := by
  rw [decodeFrom.eq_def]
  simp only [long]
  rw [later]
  rfl

theorem decodeFrom_of_two {index : Nat} {a b : UInt8} {rest : List UInt8} {chars : List Char}
    (long : lengthOf? a = some 2) (second : isContinuation b = true)
    (later : decodeFrom (index + 2) rest = .ok chars) :
    decodeFrom index (a :: b :: rest) = .ok (codePoint (a.toNat % 32) [b] :: chars) := by
  rw [decodeFrom.eq_def]
  simp only [long, second, ↓reduceIte]
  rw [later]
  rfl

theorem decodeFrom_of_three {index : Nat} {a b c : UInt8} {rest : List UInt8}
    {chars : List Char} (long : lengthOf? a = some 3) (second : mayFollow a b = true)
    (third : isContinuation c = true) (later : decodeFrom (index + 3) rest = .ok chars) :
    decodeFrom index (a :: b :: c :: rest) =
      .ok (codePoint (a.toNat % 16) [b, c] :: chars) := by
  rw [decodeFrom.eq_def]
  simp only [long, second, third, ↓reduceIte]
  rw [later]
  rfl

theorem decodeFrom_of_four {index : Nat} {a b c d : UInt8} {rest : List UInt8}
    {chars : List Char} (long : lengthOf? a = some 4) (second : mayFollow a b = true)
    (third : isContinuation c = true) (fourth : isContinuation d = true)
    (later : decodeFrom (index + 4) rest = .ok chars) :
    decodeFrom index (a :: b :: c :: d :: rest) =
      .ok (codePoint (a.toNat % 8) [b, c, d] :: chars) := by
  rw [decodeFrom.eq_def]
  simp only [long, second, third, fourth, ↓reduceIte]
  rw [later]
  rfl

theorem toNat_ofNat {n : Nat} (small : n < 256) : (UInt8.ofNat n).toNat = n := by
  rw [UInt8.toNat_ofNat', Nat.mod_eq_of_lt small]

theorem isContinuation_iff {b : UInt8} :
    isContinuation b = true ↔ 0x80 ≤ b.toNat ∧ b.toNat ≤ 0xBF := by
  simp [isContinuation, UInt8.le_iff_toNat_le]

theorem lengthOf?_eq_one {b : UInt8} (le : b.toNat ≤ 0x7F) : lengthOf? b = some 1 := by
  simp [lengthOf?, UInt8.le_iff_toNat_le, le]

theorem lengthOf?_eq_two {b : UInt8} (ge : 0xC2 ≤ b.toNat) (le : b.toNat ≤ 0xDF) :
    lengthOf? b = some 2 := by
  have one : ¬ b.toNat ≤ 0x7F := by omega
  simp [lengthOf?, UInt8.le_iff_toNat_le, one, ge, le]

theorem lengthOf?_eq_three {b : UInt8} (ge : 0xE0 ≤ b.toNat) (le : b.toNat ≤ 0xEF) :
    lengthOf? b = some 3 := by
  have one : ¬ b.toNat ≤ 0x7F := by omega
  have two : ¬ b.toNat ≤ 0xDF := by omega
  simp [lengthOf?, UInt8.le_iff_toNat_le, one, two, ge, le]

theorem lengthOf?_eq_four {b : UInt8} (ge : 0xF0 ≤ b.toNat) (le : b.toNat ≤ 0xF4) :
    lengthOf? b = some 4 := by
  have one : ¬ b.toNat ≤ 0x7F := by omega
  have two : ¬ b.toNat ≤ 0xDF := by omega
  have three : ¬ b.toNat ≤ 0xEF := by omega
  simp [lengthOf?, UInt8.le_iff_toNat_le, one, two, three, ge, le]

/-- A second byte may follow a first one if together they begin no form that is too long, no
surrogate and nothing beyond the last code point. -/
theorem mayFollow_of {a b : UInt8} (continues : isContinuation b = true)
    (short : a.toNat = 0xE0 → 0xA0 ≤ b.toNat) (surrogate : a.toNat = 0xED → b.toNat ≤ 0x9F)
    (short' : a.toNat = 0xF0 → 0x90 ≤ b.toNat) (last : a.toNat = 0xF4 → b.toNat ≤ 0x8F) :
    mayFollow a b = true := by
  rw [isContinuation_iff] at continues
  simp only [mayFollow, isContinuation, UInt8.le_iff_toNat_le, ← UInt8.toNat_inj]
  simp
  grind

theorem codePoint_eq {c : Char} {lead : Nat} {continuations : List UInt8}
    (value : continuations.foldl (fun n b => n * 64 + b.toNat % 64) lead = c.toNat) :
    codePoint lead continuations = c := by
  rw [codePoint, value, Char.ofNat_toNat]

/-- An encoded character at the front of bytes is read as that character. -/
theorem decodeFrom_utf8EncodeChar_append (c : Char) {rest : List UInt8} {chars : List Char}
    (later : ∀ index, decodeFrom index rest = .ok chars) (index : Nat) :
    decodeFrom index (String.utf8EncodeChar c ++ rest) = .ok (c :: chars) := by
  have valid : c.toNat < 0xD800 ∨ 0xDFFF < c.toNat ∧ c.toNat < 0x110000 := c.valid
  have value : c.val.toNat = c.toNat := rfl
  simp only [String.utf8EncodeChar, value]
  generalize known : c.toNat = v at *
  -- The bytes are named and known by their numbers only.
  split
  · have first : (UInt8.ofNat v).toNat = v := toNat_ofNat (by omega)
    generalize UInt8.ofNat v = a at *
    rw [List.singleton_append, decodeFrom_of_one (lengthOf?_eq_one (by omega)) (later _), first,
      ← known, Char.ofNat_toNat]
  split
  · have first : (UInt8.ofNat (v / 64 % 32 + 192)).toNat = v / 64 % 32 + 192 :=
      toNat_ofNat (by omega)
    have second : (UInt8.ofNat (v % 64 + 128)).toNat = v % 64 + 128 := toNat_ofNat (by omega)
    generalize UInt8.ofNat (v / 64 % 32 + 192) = a, UInt8.ofNat (v % 64 + 128) = b at *
    have read : codePoint (a.toNat % 32) [b] = c := by
      apply codePoint_eq
      simp only [List.foldl_cons, List.foldl_nil]
      omega
    have long : lengthOf? a = some 2 := lengthOf?_eq_two (by omega) (by omega)
    have goesOn : isContinuation b = true := isContinuation_iff.mpr (by omega)
    rw [List.cons_append, List.singleton_append, decodeFrom_of_two long goesOn (later _), read]
  split
  · have first : (UInt8.ofNat (v / 4096 % 16 + 224)).toNat = v / 4096 % 16 + 224 :=
      toNat_ofNat (by omega)
    have second : (UInt8.ofNat (v / 64 % 64 + 128)).toNat = v / 64 % 64 + 128 :=
      toNat_ofNat (by omega)
    have third : (UInt8.ofNat (v % 64 + 128)).toNat = v % 64 + 128 := toNat_ofNat (by omega)
    generalize UInt8.ofNat (v / 4096 % 16 + 224) = a, UInt8.ofNat (v / 64 % 64 + 128) = b,
      UInt8.ofNat (v % 64 + 128) = d at *
    have read : codePoint (a.toNat % 16) [b, d] = c := by
      apply codePoint_eq
      simp only [List.foldl_cons, List.foldl_nil]
      omega
    have long : lengthOf? a = some 3 := lengthOf?_eq_three (by omega) (by omega)
    have follows : mayFollow a b = true :=
      mayFollow_of (isContinuation_iff.mpr (by omega)) (by omega) (by omega) (by omega) (by omega)
    have goesOn : isContinuation d = true := isContinuation_iff.mpr (by omega)
    rw [List.cons_append, List.cons_append, List.singleton_append,
      decodeFrom_of_three long follows goesOn (later _), read]
  · have first : (UInt8.ofNat (v / 262144 % 8 + 240)).toNat = v / 262144 % 8 + 240 :=
      toNat_ofNat (by omega)
    have second : (UInt8.ofNat (v / 4096 % 64 + 128)).toNat = v / 4096 % 64 + 128 :=
      toNat_ofNat (by omega)
    have third : (UInt8.ofNat (v / 64 % 64 + 128)).toNat = v / 64 % 64 + 128 :=
      toNat_ofNat (by omega)
    have fourth : (UInt8.ofNat (v % 64 + 128)).toNat = v % 64 + 128 := toNat_ofNat (by omega)
    generalize UInt8.ofNat (v / 262144 % 8 + 240) = a, UInt8.ofNat (v / 4096 % 64 + 128) = b,
      UInt8.ofNat (v / 64 % 64 + 128) = d, UInt8.ofNat (v % 64 + 128) = e at *
    have read : codePoint (a.toNat % 8) [b, d, e] = c := by
      apply codePoint_eq
      simp only [List.foldl_cons, List.foldl_nil]
      omega
    have long : lengthOf? a = some 4 := lengthOf?_eq_four (by omega) (by omega)
    have follows : mayFollow a b = true :=
      mayFollow_of (isContinuation_iff.mpr (by omega)) (by omega) (by omega) (by omega) (by omega)
    have goesOn : isContinuation d = true := isContinuation_iff.mpr (by omega)
    have ends : isContinuation e = true := isContinuation_iff.mpr (by omega)
    rw [List.cons_append, List.cons_append, List.cons_append, List.singleton_append,
      decodeFrom_of_four long follows goesOn ends (later _), read]

theorem decodeFrom_flatMap (chars : List Char) (index : Nat) :
    decodeFrom index (chars.flatMap String.utf8EncodeChar) = .ok chars := by
  induction chars generalizing index with
  | nil => simp [decodeFrom]
  | cons c rest ih => exact decodeFrom_utf8EncodeChar_append c ih index

/-- The bytes that encode a text are read as that text. -/
theorem decode_encode (text : String) : decode (encode text) = .ok text := by
  unfold decode encode
  rw [decodeFrom_flatMap]
  show Except.ok (String.ofList text.toList) = _
  rw [String.ofList_toList]

end Parley.Text.Utf8

/-
# Quoted texts in documents

A quoted text is read as it was before it was quoted. The reader goes from one backslash to
the next: between them stand characters that are written as themselves, and none of their bytes
is a quote or a backslash. Behind each backslash stands what one character is written as.
-/

import Parley.Proofs.Document.Numbers

namespace Parley.Ron

open Text.Utf8 (encode)

/-- How a character is written between quotes. -/
def inQuotes : Char → List Char := Text.escape ['\'', '"']

/-- How characters are written between quotes, as bytes. -/
def written (chars : List Char) : List UInt8 :=
  (chars.flatMap inQuotes).flatMap String.utf8EncodeChar

theorem written_append (chars others : List Char) :
    written (chars ++ others) = written chars ++ written others := by
  rw [written, List.flatMap_append, List.flatMap_append]
  rfl

theorem encode_quote (text : String) :
    encode (quote text) = '"'.toUInt8 :: (written text.toList ++ ['"'.toUInt8]) := by
  have inner := Text.Utf8.encode_ofList (text.toList.flatMap inQuotes)
  show encode ("\"" ++ String.ofList (text.toList.flatMap inQuotes) ++ "\"") = _
  rw [Text.Utf8.encode_append, Text.Utf8.encode_append, inner]
  rfl

/-! ## Hexadecimal digits -/

/-- The digits of a number to the base 16 are few, are digits, and form the number. -/
theorem exists_toDigits_sixteen {places n : Nat} (small : n < 16 ^ (places + 1)) :
    ∃ digits : List Nat, Nat.toDigits 16 n = digits.map Nat.digitChar ∧ digits ≠ [] ∧
      digits.length ≤ places + 1 ∧ (∀ digit ∈ digits, digit < 16) ∧
      digits.foldl (fun number digit => number * 16 + digit) 0 = n := by
  induction places generalizing n with
  | zero =>
      have small : n < 16 := by simpa using small
      refine ⟨[n], Nat.toDigits_of_lt_base small, by simp, by simp, by simpa using small, ?_⟩
      simp
  | succ places ih =>
      by_cases short : n < 16
      · refine ⟨[n], Nat.toDigits_of_lt_base short, by simp, by simp, by simpa using short, ?_⟩
        simp
      · obtain ⟨digits, same, -, few, each, value⟩ := ih (n := n / 16) (by
          rw [Nat.div_lt_iff_lt_mul (by decide)]
          rwa [Nat.pow_succ] at small)
        refine ⟨digits ++ [n % 16], ?_, by simp, ?_, ?_, ?_⟩
        · rw [Nat.toDigits_of_base_le (by decide) (Nat.not_lt.mp short), same]
          simp
        · rw [List.length_append, List.length_singleton]
          omega
        · intro digit listed
          rcases List.mem_append.mp listed with front | last
          · exact each digit front
          · obtain rfl := List.mem_singleton.mp last
            exact Nat.mod_lt n (by decide)
        · rw [List.foldl_append, value, List.foldl_cons, List.foldl_nil]
          omega

theorem exists_hexByte {digit : Nat} (small : digit < 16) :
    ∃ b, String.utf8EncodeChar digit.digitChar = [b] ∧ hexValue? b = some digit := by
  refine ⟨UInt8.ofNat (Nat.digitChar digit).toNat, ?_, ?_⟩
  · revert digit
    decide
  · revert digit
    decide

namespace Reader

variable {depth : Nat} {rest : List UInt8}

theorem takes_hexDigit {b : UInt8} {digit : Nat} (value : hexValue? b = some digit) :
    hexDigit.Takes depth (b :: rest) digit rest := by
  refine (takes_byte b).bind ?_
  rw [value]
  exact takes_pure digit

theorem takes_hexDigits {digits : List Nat} (small : ∀ digit ∈ digits, digit < 16) {more : Nat}
    (few : digits.length ≤ more) (count number : Nat) :
    (hexDigits more count number).Takes depth
      ((digits.map Nat.digitChar).flatMap String.utf8EncodeChar ++ '}'.toUInt8 :: rest)
      (count + digits.length, digits.foldl (fun number digit => number * 16 + digit) number)
      ('}'.toUInt8 :: rest) := by
  induction digits generalizing more count number with
  | nil =>
      cases more with
      | zero => exact takes_pure _
      | succ more =>
          refine (takes_peek '}'.toUInt8).bind ?_
          rw [if_pos rfl]
          exact takes_pure _
  | cons digit digits ih =>
      rw [List.forall_mem_cons] at small
      cases more with
      | zero => cases few
      | succ more =>
          obtain ⟨b, one, value⟩ := exists_hexByte small.1
          have other : b ≠ '}'.toUInt8 := by
            rintro rfl
            exact absurd value (by simp [show hexValue? '}'.toUInt8 = none from rfl])
          have later := ih small.2 (Nat.le_of_succ_le_succ few) (count + 1) (number * 16 + digit)
          rw [Nat.add_assoc, Nat.add_comm 1 digits.length] at later
          rw [List.map_cons, List.flatMap_cons, one, List.append_assoc]
          refine (takes_peek b).bind ?_
          rw [if_neg other]
          exact (takes_hexDigit value).bind later

/-! ## Escapes -/

theorem takes_escape_of_letter {letter c : Char} (ascii : letter.toNat < 128)
    (stands : ofEscapeLetter? letter = some c) :
    escape.Takes depth (String.utf8EncodeChar letter ++ rest) c rest := by
  rw [Text.Utf8.utf8EncodeChar_of_lt ascii, List.singleton_append]
  refine (takes_byte _).bind ?_
  rw [Text.Utf8.toNat_ofNat (by omega), Char.ofNat_toNat]
  simp only [stands]
  exact takes_pure c

theorem takes_escape_of_codePoint (c : Char) :
    escape.Takes depth
      ((['u', '{'] ++ Nat.toDigits 16 c.toNat ++ ['}']).flatMap String.utf8EncodeChar ++ rest)
      c rest := by
  have bound : c.toNat < 16 ^ (5 + 1) := by
    have valid : c.toNat < 0xD800 ∨ 0xDFFF < c.toNat ∧ c.toNat < 0x110000 := c.valid
    omega
  obtain ⟨digits, same, nonempty, few, small, value⟩ := exists_toDigits_sixteen bound
  have count : ¬ 0 + digits.length = 0 := by simpa using nonempty
  have valid : c.toNat.isValidChar := c.valid
  have bytes : (['u', '{'] ++ digits.map Nat.digitChar ++ ['}']).flatMap String.utf8EncodeChar ++
      rest = 'u'.toUInt8 :: '{'.toUInt8 ::
        ((digits.map Nat.digitChar).flatMap String.utf8EncodeChar ++ '}'.toUInt8 :: rest) := by
    rw [List.flatMap_append, List.flatMap_append, List.append_assoc, List.append_assoc]
    rfl
  rw [same, bytes]
  refine (takes_byte 'u'.toUInt8).bind ?_
  refine (takes_byte '{'.toUInt8).bind ?_
  refine (takes_hexDigits small few 0 0).bind ?_
  simp only [count, value, ↓reduceIte]
  refine (takes_byte '}'.toUInt8).bind ?_
  rw [if_pos rfl, if_pos valid, Char.ofNat_toNat]
  exact takes_pure c

/-- What a character is written as behind a backslash is read as that character. -/
theorem takes_escape {c : Char} {tail : List Char} (escaped : inQuotes c = '\\' :: tail) :
    escape.Takes depth (tail.flatMap String.utf8EncodeChar ++ rest) c rest := by
  unfold inQuotes Text.escape at escaped
  cases stands : Text.escapeLetter? c with
  | some letter =>
      rw [stands] at escaped
      cases escaped
      have each : letter.toNat < 128 ∧ ofEscapeLetter? letter = some c := by
        unfold Text.escapeLetter? at stands
        split at stands <;> cases stands <;> exact ⟨by decide, rfl⟩
      rw [List.flatMap_singleton]
      exact takes_escape_of_letter each.1 each.2
  | none =>
      rw [stands] at escaped
      simp only at escaped
      split at escaped
      · rename_i quote
        cases escaped
        have each : c.toNat < 128 ∧ ofEscapeLetter? c = some c := by
          rcases List.mem_cons.mp quote with rfl | quote
          · exact ⟨by decide, rfl⟩
          · obtain rfl := List.mem_singleton.mp quote
            exact ⟨by decide, rfl⟩
        rw [List.flatMap_singleton]
        exact takes_escape_of_letter each.1 each.2
      · split at escaped
        · cases escaped
          cases stands
        · cases escaped
          exact takes_escape_of_codePoint c

end Reader

/-! ## The parts of a quoted text -/

/-- A character that is written as itself. -/
def IsPlain (c : Char) : Prop := inQuotes c = [c]

instance : DecidablePred IsPlain := fun c => inferInstanceAs (Decidable (inQuotes c = [c]))

/-- A character is written as itself or behind a backslash. -/
theorem isPlain_or_escaped (c : Char) : IsPlain c ∨ ∃ tail, inQuotes c = '\\' :: tail := by
  unfold IsPlain inQuotes Text.escape
  cases Text.escapeLetter? c with
  | some letter => exact Or.inr ⟨_, rfl⟩
  | none =>
      dsimp only
      split
      · exact Or.inr ⟨_, rfl⟩
      · split
        · exact Or.inl rfl
        · exact Or.inr ⟨_, rfl⟩

/-- No byte of a character that is written as itself is a quote or a backslash. -/
theorem ne_of_isPlain {c : Char} (plain : IsPlain c) {b : UInt8}
    (listed : b ∈ String.utf8EncodeChar c) : b ≠ '"'.toUInt8 ∧ b ≠ '\\'.toUInt8 := by
  by_cases ascii : c.toNat < 128
  · rw [Text.Utf8.utf8EncodeChar_of_lt ascii, List.mem_singleton] at listed
    have number : b.toNat = c.toNat := by rw [listed, Text.Utf8.toNat_ofNat (by omega)]
    have here : Char.ofNat b.toNat = c := by rw [number, Char.ofNat_toNat]
    constructor <;> rintro rfl <;> rw [← here] at plain <;> exact absurd plain (by decide)
  · have large := Text.Utf8.le_of_mem_utf8EncodeChar (Nat.not_lt.mp ascii) listed
    constructor <;> rintro rfl <;> exact absurd large (by decide)

theorem written_of_isPlain {chars : List Char} (plain : ∀ c ∈ chars, IsPlain c) :
    written chars = chars.flatMap String.utf8EncodeChar := by
  have same : chars.flatMap inQuotes = chars := by
    induction chars with
    | nil => rfl
    | cons c rest ih =>
        rw [List.forall_mem_cons] at plain
        have first : inQuotes c = [c] := plain.1
        rw [List.flatMap_cons, first, ih plain.2, List.singleton_append]
  rw [written, same]

/-- Characters are all written as themselves, or some of them are and then one is escaped. -/
theorem plain_or_split (chars : List Char) :
    (∀ c ∈ chars, IsPlain c) ∨ ∃ front c tail back, chars = front ++ c :: back ∧
      (∀ c ∈ front, IsPlain c) ∧ inQuotes c = '\\' :: tail := by
  induction chars with
  | nil => exact Or.inl (by simp)
  | cons c rest ih =>
      rcases isPlain_or_escaped c with plain | ⟨tail, escaped⟩
      · rcases ih with all | ⟨front, d, tail, back, rfl, plains, escaped⟩
        · exact Or.inl (List.forall_mem_cons.mpr ⟨plain, all⟩)
        · exact Or.inr ⟨c :: front, d, tail, back, rfl,
            List.forall_mem_cons.mpr ⟨plain, plains⟩, escaped⟩
      · exact Or.inr ⟨[], c, tail, rest, rfl, by simp, escaped⟩

theorem plainPart?_append {chars : List Char} (plain : ∀ c ∈ chars, IsPlain c) {stop : UInt8}
    (stops : stop = '"'.toUInt8 ∨ stop = '\\'.toUInt8) (rest : List UInt8) :
    plainPart? (chars.flatMap String.utf8EncodeChar ++ stop :: rest) =
      some (chars.flatMap String.utf8EncodeChar, stop) := by
  have away : ∀ b ∈ chars.flatMap String.utf8EncodeChar,
      ¬ (b = '"'.toUInt8 ∨ b = '\\'.toUInt8) := by
    intro b listed
    obtain ⟨c, there, listed⟩ := List.mem_flatMap.mp listed
    have other := ne_of_isPlain (plain c there) listed
    rintro (rfl | rfl)
    · exact other.1 rfl
    · exact other.2 rfl
  generalize chars.flatMap String.utf8EncodeChar = bytes at away
  induction bytes with
  | nil => rw [List.nil_append, plainPart?, if_pos stops]
  | cons b bytes ih =>
      rw [List.forall_mem_cons] at away
      rw [List.cons_append, plainPart?, if_neg away.1, ih away.2]
      rfl

theorem written_split {front : List Char} (plain : ∀ c ∈ front, IsPlain c) {c : Char}
    {tail : List Char} (escaped : inQuotes c = '\\' :: tail) (back : List Char) :
    written (front ++ c :: back) = front.flatMap String.utf8EncodeChar ++
      '\\'.toUInt8 :: (tail.flatMap String.utf8EncodeChar ++ written back) := by
  have first : written (c :: back) =
      '\\'.toUInt8 :: (tail.flatMap String.utf8EncodeChar ++ written back) := by
    rw [written, List.flatMap_cons, escaped, List.flatMap_append, List.flatMap_cons]
    rfl
  rw [written_append, written_of_isPlain plain, first]

/-- Every character takes at least one byte. -/
theorem length_le_length_written (chars : List Char) : chars.length ≤ (written chars).length := by
  induction chars with
  | nil => exact Nat.zero_le _
  | cons c rest ih =>
      have one : 1 ≤ (written [c]).length := by
        rcases isPlain_or_escaped c with plain | ⟨tail, escaped⟩
        · rw [written_of_isPlain (by simpa using plain), List.flatMap_singleton]
          exact List.length_pos_iff.mpr String.utf8EncodeChar_ne_nil
        · rw [← List.nil_append [c], written_split (by simp) escaped]
          exact Nat.le_add_left 1 _
      rw [← List.singleton_append, written_append, List.length_append, List.length_append,
        List.length_singleton]
      omega

namespace Reader

variable {depth : Nat} {rest : List UInt8}

/-! ## Quoted texts -/

theorem takes_skip_past (bytes : List UInt8) (stop : UInt8) (rest : List UInt8) :
    (skip (bytes.length + 1)).Takes depth (bytes ++ stop :: rest) () rest := by
  apply takes_skip
  rw [List.drop_length_add_append, List.drop_one, List.tail_cons]

theorem takes_decoded {bytes : List UInt8} {text : String}
    (same : bytes = encode text) : (decoded bytes).Takes depth rest text rest := by
  rw [decoded, same, Text.Utf8.decode_encode]
  exact takes_pure text

/-- The rest of a text from an escape on, with one repetition for each of its escapes. -/
theorem takes_escapedTail {c : Char} {tail more : List Char} (escaped : inQuotes c = '\\' :: tail)
    {fuel : Nat} (enough : more.length < fuel) :
    (escapedTail fuel).Takes depth
      (tail.flatMap String.utf8EncodeChar ++ (written more ++ '"'.toUInt8 :: rest))
      ((c :: more).flatMap String.utf8EncodeChar) rest := by
  induction fuel generalizing c tail more with
  | zero => cases enough
  | succ fuel ih =>
      -- Behind the escape the text ends, or its next escape begins.
      refine (takes_escape escaped).bind (takes_ahead.bind ?_)
      rcases plain_or_split more with plain | ⟨front, d, tail', back, rfl, plain, escaped'⟩
      · rw [written_of_isPlain plain, plainPart?_append plain (Or.inl rfl)]
        refine (takes_skip_past _ _ rest).bind ?_
        rw [if_pos rfl]
        exact takes_pure _
      · have fewer : back.length < fuel := by
          rw [List.length_append, List.length_cons] at enough
          omega
        rw [written_split plain escaped', List.append_assoc, List.cons_append, List.append_assoc,
          plainPart?_append plain (Or.inr rfl)]
        refine (takes_skip_past _ _ _).bind ?_
        rw [if_neg (by decide)]
        have same : (c :: (front ++ d :: back)).flatMap String.utf8EncodeChar =
            String.utf8EncodeChar c ++ front.flatMap String.utf8EncodeChar ++
              (d :: back).flatMap String.utf8EncodeChar := by
          rw [← List.flatMap_cons, ← List.flatMap_append, List.cons_append]
        rw [same]
        exact (ih escaped' fewer).bind (takes_pure _)

theorem takes_quotedTail (chars : List Char) :
    quotedTail.Takes depth (written chars ++ '"'.toUInt8 :: rest) (String.ofList chars) rest := by
  refine takes_ahead.bind ?_
  rcases plain_or_split chars with plain | ⟨front, c, tail, back, rfl, plain, escaped⟩
  · rw [written_of_isPlain plain, plainPart?_append plain (Or.inl rfl)]
    dsimp only
    rw [if_pos rfl]
    exact (takes_decoded (Text.Utf8.encode_ofList chars).symm).bind
      ((takes_skip_past _ _ rest).bind (takes_pure _))
  · rw [written_split plain escaped, List.append_assoc, List.cons_append, List.append_assoc,
      plainPart?_append plain (Or.inr rfl)]
    dsimp only
    rw [if_neg (by decide)]
    refine (takes_skip_past _ _ _).bind ?_
    have enough := length_le_length_written back
    refine (takes_escapedTail escaped ?_).repeating.bind (takes_decoded ?_)
    · simp only [List.length_append]
      omega
    · rw [Text.Utf8.encode_ofList, List.flatMap_append]

/-- A quoted text is read as it was. -/
theorem takes_text (content : String) :
    text.Takes depth (encode (quote content) ++ rest) content rest := by
  have bytes : encode (quote content) ++ rest =
      encode "\"" ++ (written content.toList ++ '"'.toUInt8 :: rest) := by
    rw [encode_quote, List.cons_append, List.append_assoc]
    rfl
  have taken : quotedTail.Takes depth (written content.toList ++ '"'.toUInt8 :: rest)
      (String.ofList content.toList) rest := takes_quotedTail content.toList
  rw [String.ofList_toList] at taken
  rw [bytes]
  exact (takes_accept "\"" _).bind taken

end Reader

end Parley.Ron

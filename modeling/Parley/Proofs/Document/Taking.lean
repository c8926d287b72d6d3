/-
# What readers take

A reader takes bytes when it moves behind them and returns what they stand for. Places matter
only to the problems that are reported, so `Reader.Takes` leaves them out. It speaks of
documents that switch nothing on, and of a depth that the document may still nest.

The lemmas follow the readers: what each of them takes when the bytes it looks for come next,
and for sequences, that one reader goes on where the other has stopped.
-/

import Parley.Proofs.Document.Encoding
import Parley.Ron.Structure

namespace Parley.Ron

open Text.Utf8 (encode)

/-! ## Bytes between values -/

/-- Whether a byte stands behind a value or between two. -/
def isDelimiter (b : UInt8) : Bool :=
  b == ','.toUInt8 || b == ':'.toUInt8 || b == ')'.toUInt8 || b == ']'.toUInt8
    || b == '}'.toUInt8

/-- What comes next ends the value before it: a delimiter, or the end. -/
def Delimited (bytes : List UInt8) : Prop := ∀ b ∈ bytes.head?, isDelimiter b = true

/-- No blank and no comment comes next. -/
def Solid (bytes : List UInt8) : Prop :=
  ∀ b ∈ bytes.head?, isBlank b = false ∧ b ≠ '/'.toUInt8

/-- A value or a key begins here: no blank, comment, delimiter or attribute. -/
def Opens (bytes : List UInt8) : Prop :=
  ∃ b rest, bytes = b :: rest ∧ isBlank b = false ∧ b ≠ '/'.toUInt8 ∧ isDelimiter b = false ∧
    b ≠ '#'.toUInt8

theorem Opens.solid {bytes : List UInt8} (opens : Opens bytes) : Solid bytes := by
  obtain ⟨b, rest, rfl, blank, slash, -⟩ := opens
  rintro first ⟨⟩
  exact ⟨blank, slash⟩

theorem Opens.append {bytes : List UInt8} (opens : Opens bytes) (more : List UInt8) :
    Opens (bytes ++ more) := by
  obtain ⟨b, rest, rfl, solid⟩ := opens
  exact ⟨b, rest ++ more, rfl, solid⟩

theorem delimited_cons {b : UInt8} (delimiter : isDelimiter b = true) (rest : List UInt8) :
    Delimited (b :: rest) := by
  rintro first ⟨⟩
  exact delimiter

theorem delimited_nil : Delimited [] := by
  rintro b ⟨⟩

theorem solid_parenthesis (rest : List UInt8) : Solid ('('.toUInt8 :: rest) := by
  rintro first ⟨⟩
  decide

/-- The delimiters are five. -/
theorem eq_of_isDelimiter {b : UInt8} (delimiter : isDelimiter b = true) :
    b = ','.toUInt8 ∨ b = ':'.toUInt8 ∨ b = ')'.toUInt8 ∨ b = ']'.toUInt8 ∨ b = '}'.toUInt8 := by
  simpa [isDelimiter, or_assoc] using delimiter

/-- What can be said of every delimiter can be said of what comes next. -/
theorem Delimited.imp {bytes : List UInt8} (delimited : Delimited bytes) {p : UInt8 → Prop}
    (each : p ','.toUInt8 ∧ p ':'.toUInt8 ∧ p ')'.toUInt8 ∧ p ']'.toUInt8 ∧ p '}'.toUInt8) :
    ∀ b ∈ bytes.head?, p b := by
  obtain ⟨comma, colon, parenthesis, bracket, brace⟩ := each
  intro b next
  rcases eq_of_isDelimiter (delimited b next) with rfl | rfl | rfl | rfl | rfl
  · exact comma
  · exact colon
  · exact parenthesis
  · exact bracket
  · exact brace

theorem Delimited.solid {bytes : List UInt8} (delimited : Delimited bytes) : Solid bytes :=
  delimited.imp (by decide)

/-! ## Names -/

/-- A text that is read as an identifier, unless what comes behind it makes it longer. -/
structure IsName (name : String) : Prop where
  /-- It consists of letters, digits and underscores. -/
  plain : ∀ b ∈ encode name, isIdentifierRest b = true
  /-- Its bytes are its characters. -/
  ascii : asciiText (encode name) = name
  starts : ∀ first ∈ (encode name).head?, isIdentifierStart first = true
  /-- It is not the letter alone that may announce a raw identifier or a text. -/
  long : 2 ≤ (encode name).length

instance (name : String) : Decidable (IsName name) :=
  decidable_of_iff
    ((encode name).all isIdentifierRest = true ∧ asciiText (encode name) = name ∧
      (encode name).head?.all isIdentifierStart = true ∧ 2 ≤ (encode name).length)
    (by
      rw [List.all_eq_true, Option.all_eq_true]
      exact ⟨fun ⟨plain, ascii, starts, long⟩ => ⟨plain, ascii, starts, long⟩,
        fun ⟨plain, ascii, starts, long⟩ => ⟨plain, ascii, starts, long⟩⟩)

theorem isRawIdentifier_of_isIdentifierRest {b : UInt8} (plain : isIdentifierRest b = true) :
    isRawIdentifier b = true := by
  simp [isRawIdentifier, plain]

theorem opens_of_isIdentifierRest {first : UInt8} (plain : isIdentifierRest first = true)
    (rest : List UInt8) : Opens (first :: rest) := by
  refine ⟨first, rest, rfl, Bool.eq_false_iff.mpr fun blank => ?_, ?_,
    Bool.eq_false_iff.mpr fun delimiter => ?_, ?_⟩
  · simp only [isBlank, Bool.or_eq_true, beq_iff_eq] at blank
    rcases blank with ((rfl | rfl) | rfl) | rfl <;> exact absurd plain (by decide)
  · rintro rfl
    exact absurd plain (by decide)
  · rcases eq_of_isDelimiter delimiter with rfl | rfl | rfl | rfl | rfl <;>
      exact absurd plain (by decide)
  · rintro rfl
    exact absurd plain (by decide)

theorem IsName.opens {name : String} (isName : IsName name) : Opens (encode name) := by
  obtain ⟨plain, -, -, long⟩ := isName
  generalize encode name = bytes at *
  match bytes, long with
  | first :: rest, _ => exact opens_of_isIdentifierRest (plain first (.head _)) rest

namespace Reader

variable {α β : Type}

/-- A reader moves from an input to what is left of it and returns a value. -/
def Takes (reader : Reader α) (depth : Nat) (input : List UInt8) (value : α)
    (rest : List UInt8) : Prop :=
  ∀ p, ∃ q, reader ⟨[], depth, none⟩ ⟨input, p⟩ = .done value ⟨rest, q⟩

variable {depth : Nat} {input middle rest : List UInt8} {a : α} {b : β}

/-! ## Sequences -/

theorem takes_pure (a : α) : (pure a : Reader α).Takes depth input a input :=
  fun p => ⟨p, rfl⟩

theorem Takes.bind {reader : Reader α} {next : α → Reader β}
    (first : reader.Takes depth input a middle) (goesOn : (next a).Takes depth middle b rest) :
    (reader >>= next).Takes depth input b rest := by
  intro p
  obtain ⟨q, here⟩ := first p
  obtain ⟨r, there⟩ := goesOn q
  refine ⟨r, ?_⟩
  show Reader.bind reader next _ _ = _
  rw [Reader.bind, here]
  exact there

theorem Takes.map {reader : Reader α} (taken : reader.Takes depth input a rest) (f : α → β) :
    (f <$> reader).Takes depth input (f a) rest :=
  taken.bind (takes_pure (f a))

theorem takes_rules : rules.Takes depth input ⟨[], depth, none⟩ input := fun p => ⟨p, rfl⟩

theorem takes_ahead : ahead.Takes depth input input input := fun p => ⟨p, rfl⟩

theorem takes_skip {count : Nat} (left : input.drop count = rest) :
    (skip count).Takes depth input () rest :=
  fun p => ⟨(input.take count).foldl Position.after p, by rw [← left]; rfl⟩

theorem takes_skip_one (b : UInt8) (rest : List UInt8) :
    (skip 1).Takes depth (b :: rest) () rest :=
  takes_skip rfl

theorem takes_skip_append (bytes rest : List UInt8) :
    (skip bytes.length).Takes depth (bytes ++ rest) () rest :=
  takes_skip List.drop_left

theorem takes_peek (b : UInt8) : peek.Takes depth (b :: rest) b (b :: rest) :=
  takes_ahead.bind (takes_pure b)

theorem takes_byte (b : UInt8) : byte.Takes depth (b :: rest) b rest :=
  (takes_peek b).bind ((takes_skip_one b rest).bind (takes_pure b))

theorem Takes.nested {reader : Reader α} (deep : 0 < depth)
    (taken : reader.Takes (depth - 1) input a rest) : (nested reader).Takes depth input a rest := by
  cases depth with
  | zero => cases deep
  | succ depth => exact taken

theorem Takes.repeating {loop : Nat → Reader α}
    (taken : (loop (input.length + 1)).Takes depth input a rest) :
    (repeating loop).Takes depth input a rest := taken

/-- A run ends where a byte of another class comes next. -/
theorem takes_run {isIn : UInt8 → Bool} {bytes : List UInt8}
    (inside : ∀ b ∈ bytes, isIn b = true) (outside : ∀ b ∈ rest.head?, isIn b = false) :
    (run isIn).Takes depth (bytes ++ rest) bytes (bytes ++ rest) := by
  have longest : (bytes ++ rest).takeWhile isIn = bytes := by
    rw [List.takeWhile_append_of_pos inside]
    cases rest with
    | nil => simp
    | cons b more => simp [outside b rfl]
  have taken : (run isIn).Takes depth (bytes ++ rest) ((bytes ++ rest).takeWhile isIn)
      (bytes ++ rest) := takes_ahead.bind (takes_pure _)
  rwa [longest] at taken

/-! ## Words and blanks -/

theorem takes_accept (text : String) (rest : List UInt8) :
    (accept text).Takes depth (encode text ++ rest) true rest := by
  refine takes_ahead.bind ?_
  rw [if_pos (List.isPrefixOf_iff_prefix.mpr (List.prefix_append _ _))]
  exact (takes_skip_append _ rest).bind (takes_pure true)

theorem takes_accept_false {text : String} (absent : ¬ encode text <+: input) :
    (accept text).Takes depth input false input := by
  refine takes_ahead.bind ?_
  rw [if_neg (mt List.isPrefixOf_iff_prefix.mp absent)]
  exact takes_pure false

theorem takes_expect (text : String) (problem : Problem) (rest : List UInt8) :
    (expect text problem).Takes depth (encode text ++ rest) () rest :=
  (takes_accept text rest).bind (takes_pure ())

theorem takes_blanks (solid : Solid input) : blanks.Takes depth input () input := by
  intro p
  refine ⟨p, ?_⟩
  show skipBlanksFrom .between input p = _
  cases input with
  | nil => rw [skipBlanksFrom]
  | cons b rest =>
      obtain ⟨blank, slash⟩ := solid b rfl
      rw [skipBlanksFrom.eq_def]
      simp [blank, slash]

/-- Where no comma comes next, none is taken. -/
theorem takes_comma_false {b : UInt8} (solid : Solid (b :: rest)) (other : b ≠ ','.toUInt8) :
    comma.Takes depth (b :: rest) false (b :: rest) := by
  have absent : ¬ encode "," <+: b :: rest := by
    rintro ⟨more, same⟩
    exact other (List.cons.inj same).1.symm
  exact (takes_blanks solid).bind ((takes_accept_false absent).bind (takes_pure false))

theorem takes_comma_true (solid : Solid rest) :
    comma.Takes depth (','.toUInt8 :: rest) true rest := by
  have comma : Solid (','.toUInt8 :: rest) := by
    rintro b ⟨⟩
    decide
  exact (takes_blanks comma).bind
    ((takes_accept "," rest).bind ((takes_blanks solid).bind (takes_pure true)))

/-! ## Identifiers -/

theorem takes_identifier {name : String} (isName : IsName name)
    (ends : ∀ b ∈ rest.head?, isRawIdentifier b = false) :
    identifier.Takes depth (encode name ++ rest) name rest := by
  obtain ⟨plain, ascii, starts, long⟩ := isName
  generalize encode name = bytes at *
  obtain ⟨first, second, tail, rfl⟩ : ∃ first second tail, bytes = first :: second :: tail := by
    match bytes, long with
    | first :: second :: tail, _ => exact ⟨first, second, tail, rfl⟩
  have ends' : ∀ b ∈ rest.head?, isIdentifierRest b = false := by
    intro b next
    refine Bool.eq_false_iff.mpr fun goesOn => ?_
    exact absurd (ends b next) (by simp [isRawIdentifier_of_isIdentifierRest goesOn])
  have raw : ∀ b ∈ first :: second :: tail, isRawIdentifier b = true :=
    fun b listed => isRawIdentifier_of_isIdentifierRest (plain b listed)
  have follows : isIdentifierRest second = true := plain second (.tail _ (.head _))
  have quote : second ≠ '"'.toUInt8 := by
    rintro rfl
    exact absurd follows (by decide)
  have hash : second ≠ '#'.toUInt8 := by
    rintro rfl
    exact absurd follows (by decide)
  -- The second byte shows that the first announces nothing.
  refine (takes_peek first).bind ((takes_run plain ends').bind ((takes_run raw ends).bind ?_))
  rw [starts first rfl, if_neg (by simp)]
  refine takes_ahead.bind ?_
  simp only [List.cons_append, List.drop_succ_cons, List.drop_zero, List.isEmpty_cons,
    List.head?_cons, Option.some.injEq, quote, hash, decide_false, Bool.and_false,
    Bool.false_eq_true, Nat.lt_irrefl, ↓reduceIte]
  rw [ascii]
  exact (takes_skip_append (first :: second :: tail) rest).bind (takes_pure name)

end Reader

end Parley.Ron

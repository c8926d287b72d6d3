/-
# Integers in documents

An integer is written in decimal, with a minus if it is negative, and read digit by digit
against the bounds of its type. The digits of an integer that lies within the bounds never
leave them on the way, because every part of it lies between it and zero. What comes behind an
integer could make it longer or give it another base, but no delimiter does.
-/

import Parley.Proofs.Document.Taking
import Mathlib.Data.Nat.Digits.Defs

namespace Parley.Ron

open Text.Utf8 (encode)

/-! ## Decimal digits -/

theorem utf8EncodeChar_digitChar {digit : Nat} (small : digit < 10) :
    String.utf8EncodeChar digit.digitChar = [UInt8.ofNat (48 + digit)] := by
  have each : ∀ digit < 10,
      String.utf8EncodeChar (Nat.digitChar digit) = [UInt8.ofNat (48 + digit)] := by
    decide
  exact each digit small

theorem encode_repr (n : Nat) :
    encode n.repr = (Nat.toDigits 10 n).flatMap String.utf8EncodeChar := by
  rw [encode, Nat.toList_repr]

theorem encode_repr_of_lt {n : Nat} (small : n < 10) :
    encode n.repr = [UInt8.ofNat (48 + n)] := by
  rw [encode_repr, Nat.toDigits_of_lt_base small, List.flatMap_singleton,
    utf8EncodeChar_digitChar small]

theorem encode_repr_of_le {n : Nat} (large : 10 ≤ n) :
    encode n.repr = encode (n / 10).repr ++ [UInt8.ofNat (48 + n % 10)] := by
  rw [encode_repr, encode_repr, Nat.toDigits_of_base_le (by decide) large, List.flatMap_append,
    List.flatMap_singleton, utf8EncodeChar_digitChar (Nat.mod_lt n (by decide))]

/-- Numbers in decimal, built up from their first digit. -/
theorem decimal_induction {p : Nat → Prop} (one : ∀ n < 10, p n)
    (more : ∀ n, 10 ≤ n → p (n / 10) → p n) (n : Nat) : p n := by
  induction n using Nat.strongRecOn with
  | ind n ih =>
      by_cases small : n < 10
      · exact one n small
      · exact more n (Nat.not_lt.mp small) (ih (n / 10) (by omega))

theorem isDigit_ofNat {digit : Nat} (small : digit < 10) :
    isDigit (UInt8.ofNat (48 + digit)) = true := by
  have each : ∀ digit < 10, isDigit (UInt8.ofNat (48 + digit)) = true := by decide
  exact each digit small

theorem isDigit_of_mem_encode_repr (n : Nat) : ∀ b ∈ encode n.repr, isDigit b = true := by
  induction n using decimal_induction with
  | one n small =>
      rw [encode_repr_of_lt small]
      simpa using isDigit_ofNat small
  | more n large ih =>
      rw [encode_repr_of_le large]
      intro b listed
      rcases List.mem_append.mp listed with front | last
      · exact ih b front
      · obtain rfl := List.mem_singleton.mp last
        exact isDigit_ofNat (Nat.mod_lt n (by decide))

theorem encode_repr_ne_nil (n : Nat) : encode n.repr ≠ [] := by
  rcases Nat.lt_or_ge n 10 with small | large
  · simp [encode_repr_of_lt small]
  · simp [encode_repr_of_le large]

theorem isIntegerByte_of_isDigit {b : UInt8} (digit : isDigit b = true) :
    isIntegerByte b = true := by
  simp [isIntegerByte, hexValue?, digit]

theorem toString_eq_append (n : Int) :
    toString n = (if n < 0 then "-" else "") ++ n.natAbs.repr := by
  cases n with
  | ofNat n =>
      have nonneg : ¬ Int.ofNat n < 0 := Int.not_lt.mpr (Int.natCast_nonneg n)
      rw [if_neg nonneg, String.empty_append]
      rfl
  | negSucc n =>
      rw [if_pos (Int.negSucc_lt_zero n)]
      rfl

theorem opens_integer (n : Int) : Opens (encode (toString n)) := by
  rw [toString_eq_append]
  by_cases negative : n < 0
  · rw [if_pos negative, Text.Utf8.encode_append]
    exact ⟨'-'.toUInt8, _, rfl, by decide⟩
  · have digits := isDigit_of_mem_encode_repr n.natAbs
    have nonempty := encode_repr_ne_nil n.natAbs
    rw [if_neg negative, String.empty_append]
    generalize encode n.natAbs.repr = bytes at *
    match bytes, nonempty with
    | b :: more, _ =>
        apply opens_of_isIdentifierRest
        rw [isIdentifierRest, digits b (.head _), Bool.or_true]

/-! ## Reading digits -/

theorem Bounds.check_eq_ok {bounds : Bounds} {n : Int} (least : bounds.least ≤ n)
    (greatest : n ≤ bounds.greatest) : bounds.check n = .ok n :=
  if_pos ⟨least, greatest⟩

theorem appendDigit_eq_ok {bounds : Bounds} {negative : Bool} {read : Int} {digit : Nat}
    (small : digit < 10) (shifted : bounds.check (read * 10) = .ok (read * 10)) :
    appendDigit bounds negative 10 read (UInt8.ofNat (48 + digit)) =
      bounds.check (if negative then read * 10 - digit else read * 10 + digit) := by
  have mark : ∀ digit < 10, UInt8.ofNat (48 + digit) ≠ '_'.toUInt8 := by decide
  have value : ∀ digit < 10, hexValue? (UInt8.ofNat (48 + digit)) = some digit := by decide
  have shifted' : bounds.check (read * ((10 : Nat) : Int)) = .ok (read * 10) := shifted
  rw [appendDigit, if_neg (mark digit small), shifted', value digit small]
  show (if 10 ≤ digit then _ else _) = _
  rw [if_neg (Nat.not_le.mpr small)]

/-- A natural number with a sign. -/
def signed (negative : Bool) (n : Nat) : Int := if negative then -(n : Int) else n

/-- The digits of a number are read to the number with its sign, if it lies within the bounds
and zero does as well. -/
theorem foldlM_appendDigit {bounds : Bounds} (least : bounds.least ≤ 0)
    (greatest : 0 ≤ bounds.greatest) {negative : Bool} {n : Nat}
    (above : bounds.least ≤ signed negative n) (below : signed negative n ≤ bounds.greatest) :
    (encode n.repr).foldlM (appendDigit bounds negative 10) 0 = .ok (signed negative n) := by
  induction n using decimal_induction with
  | one n small =>
      have start : bounds.check (0 * 10) = .ok (0 * 10) := Bounds.check_eq_ok least greatest
      have appended :
          (if negative then 0 * 10 - (n : Int) else 0 * 10 + n) = signed negative n := by
        simp [signed]
      rw [encode_repr_of_lt small, List.foldlM_cons, appendDigit_eq_ok small start, appended,
        Bounds.check_eq_ok above below]
      rfl
  | more n large ih =>
      -- The shorter number and its tenfold lie between the number and zero.
      have shorter : bounds.least ≤ signed negative (n / 10) ∧
          signed negative (n / 10) ≤ bounds.greatest ∧
          bounds.least ≤ signed negative (n / 10) * 10 ∧
          signed negative (n / 10) * 10 ≤ bounds.greatest := by
        cases negative <;> simp only [signed, Bool.false_eq_true, ↓reduceIte] at * <;> omega
      obtain ⟨above', below', above'', below''⟩ := shorter
      have appended : (if negative then signed negative (n / 10) * 10 - ((n % 10 : Nat) : Int)
          else signed negative (n / 10) * 10 + (n % 10 : Nat)) = signed negative n := by
        cases negative <;> simp only [signed, Bool.false_eq_true, ↓reduceIte] <;> omega
      rw [encode_repr_of_le large, List.foldlM_append, ih above' below']
      show [UInt8.ofNat (48 + n % 10)].foldlM (appendDigit bounds negative 10) _ = _
      rw [List.foldlM_cons, appendDigit_eq_ok (Nat.mod_lt n (by decide))
        (Bounds.check_eq_ok above'' below''), appended, Bounds.check_eq_ok above below]
      rfl

namespace Reader

variable {depth : Nat} {rest : List UInt8}

/-- No delimiter goes on with an integer. -/
theorem not_isIntegerByte_of_delimited (delimited : Delimited rest) :
    ∀ b ∈ rest.head?, isIntegerByte b = false :=
  delimited.imp (by decide)

theorem announcedBase?_eq_none (n : Nat) (delimited : Delimited rest) :
    announcedBase? (encode n.repr ++ rest) = none := by
  have second : ∀ (first b : UInt8) (more : List UInt8),
      b ≠ 'x'.toUInt8 → b ≠ 'b'.toUInt8 → b ≠ 'o'.toUInt8 →
        announcedBase? (first :: b :: more) = none := by
    intro first b more x bin oct
    simp [announcedBase?, x, bin, oct]
  have digits := isDigit_of_mem_encode_repr n
  have nonempty := encode_repr_ne_nil n
  generalize encode n.repr = bytes at digits nonempty
  match bytes, nonempty with
  | [first], _ =>
      cases rest with
      | nil => rfl
      | cons b more =>
          have marks := delimited.imp (p := fun b =>
            b ≠ 'x'.toUInt8 ∧ b ≠ 'b'.toUInt8 ∧ b ≠ 'o'.toUInt8) (by decide) b rfl
          exact second first b more marks.1 marks.2.1 marks.2.2
  | first :: b :: more, _ =>
      have digit : isDigit b = true := digits b (.tail _ (.head _))
      apply second first b (more ++ rest) <;> rintro rfl <;> exact absurd digit (by decide)

theorem takes_digits {bounds : Bounds} (least : bounds.least ≤ 0) (greatest : 0 ≤ bounds.greatest)
    {negative : Bool} {n : Nat} {value : Int} (known : signed negative n = value)
    (above : bounds.least ≤ value) (below : value ≤ bounds.greatest)
    (delimited : Delimited rest) :
    (digits bounds negative).Takes depth (encode n.repr ++ rest) value rest := by
  subst known
  have inside : ∀ b ∈ encode n.repr, isIntegerByte b = true :=
    fun b listed => isIntegerByte_of_isDigit (isDigit_of_mem_encode_repr n b listed)
  have read := foldlM_appendDigit least greatest above below
  refine takes_ahead.bind ?_
  rw [announcedBase?_eq_none n delimited]
  simp only [Option.isSome_none, Bool.false_eq_true, ↓reduceIte]
  refine (takes_run inside (not_isIntegerByte_of_delimited delimited)).bind ?_
  have digits := isDigit_of_mem_encode_repr n
  have nonempty := encode_repr_ne_nil n
  generalize encode n.repr = bytes at *
  match bytes, nonempty with
  | first :: more, _ =>
      have mark : first ≠ '_'.toUInt8 := by
        rintro rfl
        exact absurd (digits _ (.head _)) (by decide)
      simp only [mark, ↓reduceIte]
      refine (takes_skip_append (first :: more) rest).bind ?_
      rw [Option.getD_none, read]
      exact takes_pure _

/-- An integer of a type is read as itself. -/
theorem takes_integer {bounds : Bounds} (least : bounds.least ≤ 0) (greatest : 0 ≤ bounds.greatest)
    {n : Int} (above : bounds.least ≤ n) (below : n ≤ bounds.greatest)
    (delimited : Delimited rest) :
    (integer bounds).Takes depth (encode (toString n) ++ rest) n rest := by
  rw [toString_eq_append]
  by_cases negative : n < 0
  · have value : signed true n.natAbs = n := by
      simp only [signed, ↓reduceIte]
      omega
    rw [if_pos negative, Text.Utf8.encode_append, List.append_assoc]
    refine (takes_peek '-'.toUInt8).bind ?_
    rw [if_neg (by decide), if_pos rfl]
    exact (takes_skip rfl).bind (takes_digits least greatest value above below delimited)
  · have value : signed false n.natAbs = n := by
      simp only [signed, Bool.false_eq_true, ↓reduceIte]
      omega
    have digits : (digits bounds false).Takes depth (encode n.natAbs.repr ++ rest) n rest :=
      takes_digits least greatest value above below delimited
    have first := isDigit_of_mem_encode_repr n.natAbs
    have nonempty := encode_repr_ne_nil n.natAbs
    rw [if_neg negative, String.empty_append]
    generalize encode n.natAbs.repr = bytes at *
    match bytes, nonempty with
    | b :: more, _ =>
        have digit : isDigit b = true := first b (.head _)
        have plus : b ≠ '+'.toUInt8 := by
          rintro rfl
          exact absurd digit (by decide)
        have minus : b ≠ '-'.toUInt8 := by
          rintro rfl
          exact absurd digit (by decide)
        refine (takes_peek b).bind ?_
        rw [if_neg plus, if_neg minus]
        exact digits

end Reader

end Parley.Ron

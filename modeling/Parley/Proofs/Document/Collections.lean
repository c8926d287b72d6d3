/-
# Collections in documents

A reader reads back a value if it takes the bytes of the value whenever a delimiter comes
behind them, down to a number of levels that depends on the type alone. Options, lists and maps
of such values are read back by the readers of their parts, one or two levels deeper.

The entries of lists, of maps and of structures are read by loops of one form: as long as an
entry comes, read it and the comma behind it. Each of the loops is followed by induction on its
entries, and what comes behind an entry is said once.
-/

import Parley.Proofs.Document.Quoting

namespace Parley.Ron

open Text.Utf8 (encode)

namespace Reader

variable {α β : Type}

/-- A reader reads bytes as a value, given so many levels to nest and whatever stands behind
them. -/
structure Reads (reader : Reader α) (levels : Nat) (bytes : List UInt8) (value : α) : Prop where
  opens : Opens bytes
  takes : ∀ {depth : Nat} {rest : List UInt8}, levels ≤ depth → Delimited rest →
    reader.Takes depth (bytes ++ rest) value rest

variable {reader inner : Reader α} {levels depth : Nat} {bytes rest : List UInt8} {value : α}

theorem Reads.map (reads : reader.Reads levels bytes value) (f : α → β) :
    (f <$> reader).Reads levels bytes (f value) :=
  ⟨reads.opens, fun enough delimited => (reads.takes enough delimited).map f⟩

theorem Reads.nested (reads : reader.Reads levels bytes value) :
    (nested reader).Reads (levels + 1) bytes value := by
  refine ⟨reads.opens, fun enough delimited => Takes.nested ?_ (reads.takes ?_ delimited)⟩
  · omega
  · omega

/-! ## Entries -/

/-- Entries behind another one, each with a comma before it. -/
def behind (others : List (List UInt8)) : List UInt8 := others.flatMap (','.toUInt8 :: ·)

/-- Entries with commas between them. -/
def joined : List (List UInt8) → List UInt8
  | [] => []
  | entry :: others => entry ++ behind others

theorem behind_cons (next : List UInt8) (others : List (List UInt8)) :
    behind (next :: others) = ','.toUInt8 :: joined (next :: others) := rfl

theorem encode_intercalate (entries : List String) :
    encode (",".intercalate entries) = joined (entries.map encode) := by
  induction entries with
  | nil => rfl
  | cons entry others ih =>
      rw [List.map_cons, joined]
      cases others with
      | nil => rw [String.intercalate_singleton, List.map_nil, behind, List.flatMap_nil,
          List.append_nil]
      | cons next others =>
          rw [String.intercalate_cons_of_ne_nil (List.cons_ne_nil _ _), Text.Utf8.encode_append,
            Text.Utf8.encode_append, ih, List.append_assoc, List.map_cons, behind_cons]
          rfl

/-- Every entry takes at least one byte. -/
theorem length_le_length_joined {entries : List (List UInt8)}
    (opens : ∀ entry ∈ entries, Opens entry) : entries.length ≤ (joined entries).length := by
  have commas (others : List (List UInt8)) : others.length ≤ (behind others).length := by
    induction others with
    | nil => exact Nat.zero_le _
    | cons next others ih =>
        rw [behind_cons, joined, List.length_cons, List.length_cons, List.length_append]
        omega
  cases entries with
  | nil => exact Nat.zero_le _
  | cons entry others =>
      obtain ⟨b, tail, rfl, -⟩ := opens entry (.head _)
      have later := commas others
      rw [joined, List.length_append, List.length_cons, List.length_cons]
      omega

/-- The bytes of entries pay for as many repetitions as there are entries, and for one more. -/
theorem length_lt_length_joined_append {entries : List (List UInt8)}
    (opens : ∀ entry ∈ entries, Opens entry) (rest : List UInt8) :
    entries.length < (joined entries ++ rest).length + 1 := by
  have short := length_le_length_joined opens
  rw [List.length_append]
  omega

theorem delimited_behind {closing : UInt8} (closes : isDelimiter closing = true)
    (others : List (List UInt8)) (rest : List UInt8) :
    Delimited (behind others ++ closing :: rest) := by
  cases others with
  | nil => exact delimited_cons closes rest
  | cons next others => exact delimited_cons (by decide) _

theorem solid_joined {closing : UInt8} (closes : isDelimiter closing = true)
    {entries : List (List UInt8)} (opens : ∀ entry ∈ entries, Opens entry) (rest : List UInt8) :
    Solid (joined entries ++ closing :: rest) := by
  cases entries with
  | nil => exact (delimited_cons closes rest).solid
  | cons entry others =>
      rw [joined, List.append_assoc]
      exact ((opens entry (.head _)).append _).solid

theorem takes_hasEntry_false {closing : UInt8} (closes : isDelimiter closing = true)
    (separated : Bool) (rest : List UInt8) :
    (hasEntry separated closing).Takes depth (closing :: rest) false (closing :: rest) := by
  refine (takes_blanks (delimited_cons closes rest).solid).bind ?_
  refine (takes_peek closing).bind ?_
  rw [if_pos rfl]
  exact takes_pure false

theorem takes_hasEntry_true {closing : UInt8} (closes : isDelimiter closing = true)
    (opens : Opens bytes) : (hasEntry true closing).Takes depth bytes true bytes := by
  obtain ⟨b, tail, rfl, blank, slash, other, -⟩ := id opens
  refine (takes_blanks opens.solid).bind ((takes_peek b).bind ?_)
  have differs : b ≠ closing := by
    rintro rfl
    rw [closes] at other
    cases other
  rw [if_neg differs, if_pos rfl]
  exact takes_pure true

/-- Behind an entry there is a comma unless it is the last one. -/
theorem takes_comma_behind {closing : UInt8} (closes : isDelimiter closing = true)
    (other : closing ≠ ','.toUInt8) {others : List (List UInt8)}
    (opens : ∀ entry ∈ others, Opens entry) (rest : List UInt8) :
    comma.Takes depth (behind others ++ closing :: rest) (!others.isEmpty)
      (joined others ++ closing :: rest) := by
  cases others with
  | nil => exact takes_comma_false (delimited_cons closes rest).solid other
  | cons next others => exact takes_comma_true (solid_joined closes opens rest)

/-! ## Options and what stands in parentheses -/

theorem takes_parenthesized (reads : inner.Reads levels bytes value) (enough : levels ≤ depth)
    (rest : List UInt8) :
    (parenthesized inner).Takes depth (bytes ++ ')'.toUInt8 :: rest) value rest := by
  have closes : isDelimiter ')'.toUInt8 = true := by decide
  refine (reads.takes enough (delimited_cons closes rest)).bind ?_
  refine (takes_comma_false (delimited_cons closes rest).solid (by decide)).bind ?_
  exact (takes_expect ")" _ rest).bind (takes_pure value)

theorem reads_none : (option inner).Reads levels (encode "None") none :=
  ⟨(by decide : IsName "None").opens, fun _ _ => by
    unfold option
    exact (takes_accept "None" _).bind (takes_pure none)⟩

theorem reads_some (reads : inner.Reads levels bytes value) :
    (option inner).Reads (levels + 1) (encode "Some" ++ '('.toUInt8 :: (bytes ++ [')'.toUInt8]))
      (some value) := by
  refine ⟨(by decide : IsName "Some").opens.append _, fun {depth rest} enough _ => ?_⟩
  have absent : ¬ encode "None" <+:
      encode "Some" ++ '('.toUInt8 :: (bytes ++ [')'.toUInt8]) ++ rest := by
    rintro ⟨more, same⟩
    exact absurd (List.cons.inj same).1 (by decide)
  have present : acceptSome.Takes depth
      (encode "Some" ++ '('.toUInt8 :: (bytes ++ ')'.toUInt8 :: rest)) true
      (bytes ++ ')'.toUInt8 :: rest) := by
    refine (takes_accept "Some" _).bind ?_
    exact (takes_blanks (solid_parenthesis _)).bind (takes_accept "(" _)
  refine (takes_accept_false absent).bind ?_
  rw [if_neg Bool.false_ne_true, List.append_assoc, List.cons_append, List.append_assoc]
  refine present.bind ?_
  rw [if_pos rfl]
  exact (takes_blanks (reads.opens.append _).solid).bind
    (takes_parenthesized (reads.nested.map some) enough rest)

/-! ## Lists -/

theorem takes_elements {bytes : α → List UInt8} {values : List α}
    (each : ∀ value ∈ values, inner.Reads levels (bytes value) value) (enough : levels < depth)
    {closing : UInt8} (closes : isDelimiter closing = true) (other : closing ≠ ','.toUInt8)
    (rest : List UInt8) {fuel : Nat} (longEnough : values.length < fuel) {separated : Bool}
    (apart : values ≠ [] → separated = true) :
    (elements inner closing fuel separated).Takes depth
      (joined (values.map bytes) ++ closing :: rest) values (closing :: rest) := by
  induction values generalizing fuel separated with
  | nil =>
      cases fuel with
      | zero => cases longEnough
      | succ fuel =>
          refine (takes_hasEntry_false closes separated rest).bind ?_
          exact takes_pure []
  | cons value others ih =>
      cases fuel with
      | zero => cases longEnough
      | succ fuel =>
          obtain rfl := apart (List.cons_ne_nil _ _)
          obtain ⟨first, each⟩ := List.forall_mem_cons.mp each
          have opens : ∀ entry ∈ others.map bytes, Opens entry :=
            List.forall_mem_map.mpr fun value listed => (each value listed).opens
          rw [List.map_cons, joined, List.append_assoc]
          -- An entry comes, and behind it a comma exactly if others do.
          refine (takes_hasEntry_true closes (first.opens.append _)).bind ?_
          rw [if_pos rfl]
          refine (first.nested.takes enough (delimited_behind closes _ rest)).bind ?_
          refine (takes_comma_behind closes other opens rest).bind ?_
          refine (ih each (Nat.lt_of_succ_lt_succ longEnough) ?_).bind (takes_pure _)
          simp

/-- A list is read back, with its elements in order. -/
theorem reads_list {bytes : α → List UInt8} {values : List α}
    (each : ∀ value ∈ values, inner.Reads levels (bytes value) value) :
    (list inner).Reads (levels + 2) ('['.toUInt8 :: (joined (values.map bytes) ++ [']'.toUInt8]))
      values := by
  refine ⟨⟨_, _, rfl, by decide⟩, fun {depth rest} enough _ => ?_⟩
  have opens : ∀ entry ∈ values.map bytes, Opens entry :=
    List.forall_mem_map.mpr fun value listed => (each value listed).opens
  have deep : levels < depth - 1 := by omega
  have longEnough := length_lt_length_joined_append opens (']'.toUInt8 :: rest)
  rw [List.length_map] at longEnough
  have closes : isDelimiter ']'.toUInt8 = true ∧ ']'.toUInt8 ≠ ','.toUInt8 := by decide
  have body := takes_elements each deep closes.1 closes.2 rest longEnough fun _ => rfl
  rw [List.cons_append, List.append_assoc]
  refine (takes_expect "[" _ (joined (values.map bytes) ++ ']'.toUInt8 :: rest)).bind ?_
  refine (Takes.nested (by omega) body.repeating).bind ?_
  exact (takes_skip_one ']'.toUInt8 rest).bind (takes_pure values)

theorem takes_assigned (reads : inner.Reads levels bytes value) (enough : levels < depth)
    (delimited : Delimited rest) :
    (assigned inner).Takes depth (':'.toUInt8 :: (bytes ++ rest)) value rest := by
  refine (takes_blanks (delimited_cons (by decide) _).solid).bind ?_
  refine (takes_expect ":" _ _).bind ?_
  refine (takes_blanks (reads.opens.append _).solid).bind ?_
  exact reads.nested.takes enough delimited

/-! ## Maps -/

variable {key : Reader α} {inside : Reader β}

theorem takes_entries {keyBytes : α → List UInt8} {bytes : β → List UInt8}
    {found : List (α × β)}
    (keys : ∀ entry ∈ found, key.Reads levels (keyBytes entry.1) entry.1)
    (values : ∀ entry ∈ found, inside.Reads levels (bytes entry.2) entry.2)
    (enough : levels < depth) {closing : UInt8} (closes : isDelimiter closing = true)
    (other : closing ≠ ','.toUInt8) (rest : List UInt8) {fuel : Nat}
    (longEnough : found.length < fuel) {separated : Bool} (apart : found ≠ [] → separated = true) :
    (entries key inside closing fuel separated).Takes depth
      (joined (found.map fun entry => keyBytes entry.1 ++ ':'.toUInt8 :: bytes entry.2) ++
        closing :: rest) found (closing :: rest) := by
  induction found generalizing fuel separated with
  | nil =>
      cases fuel with
      | zero => cases longEnough
      | succ fuel =>
          refine (takes_hasEntry_false closes separated rest).bind ?_
          exact takes_pure []
  | cons entry others ih =>
      cases fuel with
      | zero => cases longEnough
      | succ fuel =>
          obtain rfl := apart (List.cons_ne_nil _ _)
          obtain ⟨firstKey, keys⟩ := List.forall_mem_cons.mp keys
          obtain ⟨firstValue, values⟩ := List.forall_mem_cons.mp values
          have opens : ∀ part ∈ others.map fun entry =>
              keyBytes entry.1 ++ ':'.toUInt8 :: bytes entry.2, Opens part :=
            List.forall_mem_map.mpr fun entry listed => (keys entry listed).opens.append _
          rw [List.map_cons, joined, List.append_assoc, List.append_assoc, List.cons_append]
          refine (takes_hasEntry_true closes (firstKey.opens.append _)).bind ?_
          rw [if_pos rfl]
          refine (firstKey.nested.takes enough (delimited_cons (by decide) _)).bind ?_
          refine (takes_assigned firstValue enough (delimited_behind closes _ rest)).bind ?_
          refine (takes_comma_behind closes other opens rest).bind ?_
          refine (ih keys values (Nat.lt_of_succ_lt_succ longEnough) ?_).bind (takes_pure _)
          simp

/-- A map is read back as its entries, in order. -/
theorem reads_map (keyBytes : α → List UInt8) (bytes : β → List UInt8) {found : List (α × β)}
    (keys : ∀ entry ∈ found, key.Reads levels (keyBytes entry.1) entry.1)
    (values : ∀ entry ∈ found, inside.Reads levels (bytes entry.2) entry.2) :
    (map key inside).Reads (levels + 2) ('\x7b'.toUInt8 ::
      (joined (found.map fun entry => keyBytes entry.1 ++ ':'.toUInt8 :: bytes entry.2) ++
        ['\x7d'.toUInt8])) found := by
  refine ⟨⟨_, _, rfl, by decide⟩, fun {depth rest} enough _ => ?_⟩
  let parts := found.map fun entry => keyBytes entry.1 ++ ':'.toUInt8 :: bytes entry.2
  have opens : ∀ part ∈ parts, Opens part :=
    List.forall_mem_map.mpr fun entry listed => (keys entry listed).opens.append _
  have deep : levels < depth - 1 := by omega
  have longEnough := length_lt_length_joined_append opens ('\x7d'.toUInt8 :: rest)
  rw [List.length_map] at longEnough
  have closes : isDelimiter '\x7d'.toUInt8 = true ∧ '\x7d'.toUInt8 ≠ ','.toUInt8 := by decide
  have body := takes_entries keys values deep closes.1 closes.2 rest longEnough fun _ => rfl
  rw [List.cons_append, List.append_assoc]
  refine (takes_expect "\x7b" _ (joined parts ++ '\x7d'.toUInt8 :: rest)).bind ?_
  refine (Takes.nested (by omega) body.repeating).bind ?_
  exact (takes_skip_one '\x7d'.toUInt8 rest).bind (takes_pure found)

end Reader

end Parley.Ron

/-
# Structures and enumerations in documents

What is written for a value is read back as that value. For a structure this follows from its
fields: each of them reads what it writes as a change, and the changes of all fields make the
blank value into the one that was written. For an enumeration it follows from what its variants
carry. The lemmas at the end do the same for the types that structures are built from.
-/

import Parley.Proofs.Document.Collections

namespace Parley

namespace OrderedMap

variable {κ α : Type} [DecidableEq κ]

/-- Entries with new and distinct keys go to the end, in order. -/
theorem entries_foldl_insert {later : List (κ × α)} {m : OrderedMap κ α}
    (nodup : ((m.entries ++ later).map Prod.fst).Nodup) :
    (later.foldl (fun m entry => m.insert entry.1 entry.2) m).entries = m.entries ++ later := by
  induction later generalizing m with
  | nil => exact (List.append_nil _).symm
  | cons entry later ih =>
      have fresh : entry.1 ∉ m := by
        rw [List.map_append, List.map_cons, List.nodup_append] at nodup
        exact fun listed => nodup.2.2 _ listed _ (.head _) rfl
      have next : (m.insert entry.1 entry.2).entries = m.entries ++ [entry] := by
        rw [insert, dif_neg fresh]
        rfl
      rw [List.append_cons, ← next] at nodup ⊢
      exact ih nodup

/-- The entries of a map make that map. -/
theorem ofList_entries (m : OrderedMap κ α) : ofList m.entries = m :=
  OrderedMap.ext (entries_foldl_insert m.nodup)

end OrderedMap

namespace Ron

open Text.Utf8 (encode)

variable {α β : Type} {levels : Nat}

/-- What is written for a value is read back, given so many levels to nest. -/
def ReadsBack [Codec α] (levels : Nat) (value : α) : Prop :=
  (Codec.read : Reader α).Reads levels (encode (Codec.write value)) value

/-! ## Structures -/

/-- A field as it is written for a structure. -/
def Field.bytes (field : Field α) (value : α) : List UInt8 :=
  encode field.name ++ ':'.toUInt8 :: encode (field.write value)

/-- A field reads what it writes for a structure as a change. -/
def Field.Restores (field : Field α) (levels : Nat) (value : α) (change : α → α) : Prop :=
  field.read.Reads levels (encode (field.write value)) change

theorem Field.restores_optional [Codec β] {name : String} {get : α → β} {set : β → α → α}
    {value : α} (back : ReadsBack levels (get value)) :
    (Field.optional name get set).Restores levels value (set (get value)) :=
  Reader.Reads.map back set

theorem Field.restores_required [Codec β] {name : String} {get : α → β} {set : β → α → α}
    {value : α} (back : ReadsBack levels (get value)) :
    (Field.required name get set).Restores levels value (set (get value)) :=
  Reader.Reads.map back set

namespace Layout

/-- The names of a structure's fields can be read, and each is the name of one field. -/
structure IsSound (layout : Layout α) : Prop where
  names : ∀ name ∈ layout.fields.map Field.name, IsName name
  nodup : (layout.fields.map Field.name).Nodup

variable {layout : Layout α} {value : α} {depth : Nat}

theorem IsSound.isName (sound : layout.IsSound) {field : Field α}
    (listed : field ∈ layout.fields) : IsName field.name :=
  sound.names _ (List.mem_map_of_mem listed)

theorem not_mem_earlier (sound : layout.IsSound) {earlier later : List (Field α)}
    {field : Field α} (split : layout.fields = earlier ++ field :: later) :
    field.name ∉ earlier.map Field.name := by
  have nodup := sound.nodup
  rw [split, List.map_append, List.map_cons, List.nodup_append] at nodup
  exact fun listed => nodup.2.2 _ listed _ (.head _) rfl

theorem field?_eq_some (sound : layout.IsSound) {earlier later : List (Field α)}
    {field : Field α} (split : layout.fields = earlier ++ field :: later) :
    layout.field? field.name = some field := by
  have others : earlier.find? (fun other => other.name == field.name) = none := by
    rw [List.find?_eq_none]
    intro other listed same
    refine not_mem_earlier sound split ?_
    rw [← beq_iff_eq.mp same]
    exact List.mem_map_of_mem listed
  rw [field?, split, List.find?_append, others, Option.none_or, List.find?_cons,
    beq_self_eq_true]

theorem encode_write (layout : Layout α) (value : α) :
    encode (layout.write value) = '('.toUInt8 ::
      (Reader.joined (layout.fields.map fun field => field.bytes value) ++ [')'.toUInt8]) := by
  have bytes (field : Field α) :
      encode (field.name ++ ":" ++ field.write value) = field.bytes value := by
    rw [Text.Utf8.encode_append, Text.Utf8.encode_append, List.append_assoc]
    rfl
  have entries := Reader.encode_intercalate
    (layout.fields.map fun field => field.name ++ ":" ++ field.write value)
  rw [List.map_map, Function.comp_def, funext bytes] at entries
  show encode ("(" ++ ",".intercalate _ ++ ")") = _
  rw [Text.Utf8.encode_append, Text.Utf8.encode_append, entries]
  rfl

theorem opens_bytes (sound : layout.IsSound) (value : α) :
    ∀ field ∈ layout.fields, Opens (field.bytes value) :=
  fun _ listed => (sound.isName listed).opens.append _

theorem missing?_eq_none (layout : Layout α) :
    layout.missing? (layout.fields.map Field.name).reverse = none := by
  rw [missing?, List.find?_eq_none]
  intro field listed
  simpa using fun _ => ⟨field, listed, rfl⟩

section Loop

variable {owner : String} {fuel : Nat} {earlier later : List (Field α)} {rest : List UInt8}

/-- The next field is read as a change, and from then on it is seen. -/
theorem takes_field (sound : layout.IsSound) {field : Field α} {change : α → α}
    (split : layout.fields = earlier ++ field :: later)
    (restores : field.Restores levels value change) (enough : levels < depth) {read result : α}
    (goesOn : (layout.readFields owner fuel (!later.isEmpty)
      ((earlier ++ [field]).map Field.name).reverse (change read)).Takes depth
        (Reader.joined (later.map fun field => field.bytes value) ++ ')'.toUInt8 :: rest) result
        (')'.toUInt8 :: rest)) :
    (layout.readFields owner (fuel + 1) true (earlier.map Field.name).reverse read).Takes depth
      (Reader.joined ((field :: later).map fun field => field.bytes value) ++ ')'.toUInt8 :: rest)
      result (')'.toUInt8 :: rest) := by
  have closes : isDelimiter ')'.toUInt8 = true := by decide
  have isName : IsName field.name :=
    sound.isName (split ▸ List.mem_append_right _ (.head _))
  have opens : ∀ part ∈ later.map fun field => field.bytes value, Opens part := by
    refine List.forall_mem_map.mpr fun other here => opens_bytes sound value other ?_
    exact split ▸ List.mem_append_right _ (.tail _ here)
  have unseen : (earlier.map Field.name).reverse.contains field.name = false := by
    simpa using not_mem_earlier sound split
  have seen : ((earlier ++ [field]).map Field.name).reverse =
      field.name :: (earlier.map Field.name).reverse := by
    rw [List.map_append, List.reverse_append, List.map_singleton, List.reverse_singleton,
      List.singleton_append]
  rw [seen] at goesOn
  rw [List.map_cons, Reader.joined, Field.bytes, List.append_assoc, List.append_assoc,
    List.cons_append]
  refine (Reader.takes_hasEntry_true closes (isName.opens.append _)).bind ?_
  rw [if_pos rfl]
  refine (Reader.Takes.nested (by omega) (Reader.takes_identifier isName ?_)).bind ?_
  · exact (delimited_cons (by decide) _).imp (by decide)
  simp only [field?_eq_some sound split, unseen, Bool.false_eq_true, ↓reduceIte]
  refine (Reader.takes_assigned restores enough (Reader.delimited_behind closes _ rest)).bind ?_
  refine (Reader.takes_comma_behind closes (by decide) opens rest).bind ?_
  rwa [List.isEmpty_map]

/-- The fields that are left are read in order, up to the closing parenthesis. -/
theorem takes_readFields (sound : layout.IsSound) {changes : List (α → α)}
    (split : layout.fields = earlier ++ later)
    (restores : List.Forall₂ (fun field change => field.Restores levels value change) later changes)
    (enough : levels < depth) (longEnough : later.length < fuel) {separated : Bool}
    (apart : later ≠ [] → separated = true) (read : α) :
    (layout.readFields owner fuel separated (earlier.map Field.name).reverse read).Takes depth
      (Reader.joined (later.map fun field => field.bytes value) ++ ')'.toUInt8 :: rest)
      (changes.foldl (fun read change => change read) read) (')'.toUInt8 :: rest) := by
  -- What was read is a first part of the layout, and its names are what was seen.
  induction restores generalizing earlier fuel separated read with
  | nil =>
      cases fuel with
      | zero => cases longEnough
      | succ fuel =>
          rw [List.append_nil] at split
          refine (Reader.takes_hasEntry_false (by decide) separated rest).bind ?_
          rw [if_neg Bool.false_ne_true, ← split, missing?_eq_none]
          exact Reader.takes_pure read
  | @cons field change later changes first others ih =>
      cases fuel with
      | zero => cases longEnough
      | succ fuel =>
          obtain rfl := apart (List.cons_ne_nil _ _)
          have shorter : later.length < fuel := Nat.lt_of_succ_lt_succ longEnough
          have split' : layout.fields = earlier ++ [field] ++ later := by
            rw [split, List.append_cons]
          exact takes_field sound split first enough (ih split' shorter (by simp) (change read))

end Loop

/-- A structure is read back if its fields are and their changes make it of the blank one. -/
theorem reads (sound : layout.IsSound) {changes : List (α → α)}
    (restores : List.Forall₂ (fun field change => field.Restores levels value change)
      layout.fields changes)
    (whole : changes.foldl (fun read change => change read) layout.blank = value) :
    layout.read.Reads (levels + 2) (encode (layout.write value)) value := by
  let parts := layout.fields.map fun field => field.bytes value
  have opens : ∀ part ∈ parts, Opens part := List.forall_mem_map.mpr (opens_bytes sound value)
  rw [encode_write]
  refine ⟨⟨_, _, rfl, by decide⟩, fun {depth rest} enough _ => ?_⟩
  have unnamed : layout.readName.Takes depth
      ('('.toUInt8 :: (Reader.joined parts ++ ')'.toUInt8 :: rest)) ()
      ('('.toUInt8 :: (Reader.joined parts ++ ')'.toUInt8 :: rest)) := by
    refine Reader.takes_ahead.bind ?_
    rw [if_neg (by simp only [List.head?_cons, Option.any_some]; decide)]
    exact Reader.takes_pure ()
  have deep : levels < depth - 1 := by omega
  have longEnough := Reader.length_lt_length_joined_append opens (')'.toUInt8 :: rest)
  rw [List.length_map] at longEnough
  have body : (layout.readFields layout.name _ true [] layout.blank).Takes (depth - 1)
      (Reader.joined parts ++ ')'.toUInt8 :: rest) _ (')'.toUInt8 :: rest) :=
    takes_readFields sound (List.nil_append _).symm restores deep longEnough (fun _ => rfl) _
  rw [whole] at body
  rw [List.cons_append, List.append_assoc]
  refine Reader.takes_rules.bind (unnamed.bind ?_)
  refine (Reader.takes_blanks (solid_parenthesis _)).bind ?_
  refine (Reader.takes_expect "(" _ (Reader.joined parts ++ ')'.toUInt8 :: rest)).bind ?_
  refine (Reader.Takes.nested (by omega) body.repeating).bind ?_
  exact (Reader.takes_skip_one ')'.toUInt8 rest).bind (Reader.takes_pure value)

end Layout

/-! ## Enumerations -/

theorem encode_writeCarried [Codec α] (variant : String) (value : α) :
    encode (writeCarried variant value) =
      encode variant ++ '('.toUInt8 :: (encode (Codec.write value) ++ [')'.toUInt8]) := by
  rw [writeCarried, Text.Utf8.encode_append, Text.Utf8.encode_append, Text.Utf8.encode_append,
    List.append_assoc, List.append_assoc]
  rfl

namespace Reader

variable {name found : String} {variants : List (Variant α)} {value : α}

/-- A variant that is its name is read back. -/
theorem reads_unit (isName : IsName found)
    (listed : variants.find? (fun variant => variant.name == found) = some (.unit found value)) :
    (enumeration name variants).Reads (levels + 2) (encode found) value := by
  refine ⟨isName.opens, fun {depth rest} enough delimited => ?_⟩
  refine Takes.nested (by omega) ((takes_blanks (isName.opens.append rest).solid).bind ?_)
  refine (Takes.nested (by omega) (takes_identifier isName ?_)).bind ?_
  · exact delimited.imp (by decide)
  rw [listed]
  exact takes_pure value

/-- A variant that carries a value is read back if the value is. -/
theorem reads_carried [Codec β] {carries : β} {wrap : β → α} (isName : IsName found)
    (listed : variants.find? (fun variant => variant.name == found) = some (.carrying found wrap))
    (back : ReadsBack levels carries) :
    (enumeration name variants).Reads (levels + 2) (encode (writeCarried found carries))
      (wrap carries) := by
  rw [encode_writeCarried]
  refine ⟨isName.opens.append _, fun {depth rest} enough delimited => ?_⟩
  rw [List.append_assoc, List.cons_append, List.append_assoc]
  refine Takes.nested (by omega) ((takes_blanks (isName.opens.append _).solid).bind ?_)
  refine (Takes.nested (by omega) (takes_identifier isName ?_)).bind ?_
  · rintro b ⟨⟩
    decide
  rw [listed]
  refine (takes_blanks (solid_parenthesis _)).bind ?_
  refine (takes_expect "(" _ (encode (Codec.write carries) ++ ')'.toUInt8 :: rest)).bind ?_
  refine (takes_blanks (back.opens.append _).solid).bind ?_
  refine takes_rules.bind ?_
  have inside := (Reads.map back wrap).nested
  exact takes_parenthesized inside (by omega) rest

end Reader

/-! ## Base types -/

theorem readsBack_bool (value : Bool) : ReadsBack levels value := by
  cases value with
  | true =>
      refine ⟨(by decide : IsName "true").opens, fun {depth rest} _ _ => ?_⟩
      exact (Reader.takes_accept "true" rest).bind (Reader.takes_pure true)
  | false =>
      refine ⟨(by decide : IsName "false").opens, fun {depth rest} _ _ => ?_⟩
      have other : ¬ encode "true" <+: encode "false" ++ rest := by
        rintro ⟨more, same⟩
        exact absurd (List.cons.inj same).1 (by decide)
      refine (Reader.takes_accept_false other).bind ?_
      exact (Reader.takes_accept "false" rest).bind (Reader.takes_pure false)

theorem readsBack_int32 (value : Int32) : ReadsBack levels value := by
  have number : (Reader.integer .int32).Reads levels (encode (toString value.toInt)) value.toInt :=
    ⟨opens_integer _, fun _ delimited => Reader.takes_integer (by decide) (by decide)
      value.minValue_le_toInt value.toInt_le delimited⟩
  have back := number.map Int32.ofInt
  rwa [Int32.ofInt_toInt] at back

theorem readsBack_int64 (value : Int64) : ReadsBack levels value := by
  have number : (Reader.integer .int64).Reads levels (encode (toString value.toInt)) value.toInt :=
    ⟨opens_integer _, fun _ delimited => Reader.takes_integer (by decide) (by decide)
      value.minValue_le_toInt value.toInt_le delimited⟩
  have back := number.map Int64.ofInt
  rwa [Int64.ofInt_toInt] at back

theorem readsBack_string (value : String) : ReadsBack levels value := by
  refine ⟨?_, fun {depth rest} _ _ => Reader.takes_text value⟩
  show Opens (encode (quote value))
  rw [encode_quote]
  exact ⟨_, _, rfl, by decide⟩

theorem readsBack_option [Codec α] {value : Option α}
    (each : ∀ present ∈ value, ReadsBack levels present) : ReadsBack (levels + 1) value := by
  cases value with
  | none => exact Reader.reads_none
  | some present =>
      have bytes : encode (Codec.write (some present)) =
          encode "Some" ++ '('.toUInt8 :: (encode (Codec.write present) ++ [')'.toUInt8]) :=
        encode_writeCarried "Some" present
      rw [ReadsBack, bytes]
      exact Reader.reads_some (each present rfl)

theorem readsBack_list [Codec α] {values : List α}
    (each : ∀ value ∈ values, ReadsBack levels value) : ReadsBack (levels + 2) values := by
  have bytes : encode (Codec.write values) = '['.toUInt8 ::
      (Reader.joined (values.map fun value => encode (Codec.write value)) ++ [']'.toUInt8]) := by
    show encode ("[" ++ ",".intercalate (values.map Codec.write) ++ "]") = _
    rw [Text.Utf8.encode_append, Text.Utf8.encode_append, Reader.encode_intercalate, List.map_map]
    rfl
  rw [ReadsBack, bytes]
  exact Reader.reads_list each

theorem readsBack_orderedMap [DecidableEq α] [Codec α] [Codec β] {m : OrderedMap α β}
    (keys : ∀ entry ∈ m.entries, ReadsBack levels entry.1)
    (values : ∀ entry ∈ m.entries, ReadsBack levels entry.2) : ReadsBack (levels + 2) m := by
  have part (entry : α × β) : encode (Codec.write entry.1 ++ ":" ++ Codec.write entry.2) =
      encode (Codec.write entry.1) ++ ':'.toUInt8 :: encode (Codec.write entry.2) := by
    rw [Text.Utf8.encode_append, Text.Utf8.encode_append, List.append_assoc]
    rfl
  have bytes : encode (Codec.write m) = '\x7b'.toUInt8 :: (Reader.joined (m.entries.map fun entry =>
      encode (Codec.write entry.1) ++ ':'.toUInt8 :: encode (Codec.write entry.2)) ++
        ['\x7d'.toUInt8]) := by
    show encode ("\x7b" ++ ",".intercalate (m.entries.map _) ++ "\x7d") = _
    rw [Text.Utf8.encode_append, Text.Utf8.encode_append, Reader.encode_intercalate, List.map_map,
      Function.comp_def, funext part]
    rfl
  have back := (Reader.reads_map (fun key => encode (Codec.write key))
    (fun value => encode (Codec.write value)) keys values).map OrderedMap.ofList
  rw [OrderedMap.ofList_entries] at back
  rw [ReadsBack, bytes]
  exact back

end Ron

end Parley

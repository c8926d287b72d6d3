/-
# When two stories are the same

Two stories are compared down to the payloads of their requirements and notifications. Dialogs are
looked up by id and strings by language, so that their order does not matter, and everything else
is compared in order.

Payloads are where equality falls short: what is no number is not equal to itself. A story is
equal to itself exactly if none of its payloads fails to be a number. Apart from that its equality
is as good as any. It can be turned round and chained, because this holds of each test that it is
made of.
-/

import Mathlib
import Parley.Graph.Basic
import Parley.Proofs.Comparison

namespace Parley

open IsComparison (Agree)

namespace Floating

variable {f : Format} {x y : Floating f}

/-- A word is its sign and the rest. -/
theorem toNat_bits (x : Floating f) :
    x.bits.toNat = (if x.isNegative then 2 ^ (f.width - 1) else 0) + x.magnitude := by
  have doubled (width : Nat) : 2 ^ width ≤ 2 ^ (width - 1) + 2 ^ (width - 1) := by
    cases width with
    | zero => decide
    | succ n =>
        rw [pow_succ, Nat.add_sub_cancel]
        omega
  have bound := Nat.lt_of_lt_of_le x.bits.isLt (doubled f.width)
  unfold isNegative
  rw [BitVec.msb_eq_decide]
  show _ = _ + x.bits.toNat % 2 ^ (f.width - 1)
  by_cases high : 2 ^ (f.width - 1) ≤ x.bits.toNat
  · rw [Nat.mod_eq_sub_mod high, Nat.mod_eq_of_lt (by omega)]
    simp [high]
  · rw [Nat.mod_eq_of_lt (by omega)]
    simp [high]

theorem eq_iff : x = y ↔ x.isNegative = y.isNegative ∧ x.magnitude = y.magnitude := by
  constructor
  · rintro rfl
    exact ⟨rfl, rfl⟩
  · rintro ⟨sign, size⟩
    have words : x.bits.toNat = y.bits.toNat := by rw [toNat_bits, toNat_bits, sign, size]
    cases x
    cases y
    exact congrArg _ (BitVec.eq_of_toNat_eq words)

/-- Two words have one rank if they are the same, or the two zeros. -/
theorem rank_eq_iff : x.rank = y.rank ↔ x = y ∨ x.magnitude = 0 ∧ y.magnitude = 0 := by
  rw [eq_iff, rank, rank]
  cases x.isNegative <;> cases y.isNegative <;> simp <;> omega

/-- Numbers are equal as numbers: neither is missing, and they are the same word or both zero. -/
theorem isEqv_iff :
    x.isEqv y = true ↔ x.isNaN = false ∧ y.isNaN = false ∧
      (x = y ∨ x.magnitude = 0 ∧ y.magnitude = 0) := by
  rw [← rank_eq_iff]
  simp [isEqv, and_assoc]

theorem isComparison_isEqv :
    IsComparison (fun x y : Floating f => x.isEqv y) fun x => x.isNaN = false where
  symm same := by
    simp only [isEqv, Bool.and_eq_true, Bool.not_eq_true', beq_iff_eq] at same ⊢
    exact ⟨⟨same.1.2, same.1.1⟩, same.2.symm⟩
  trans first second := by
    simp only [isEqv, Bool.and_eq_true, Bool.not_eq_true', beq_iff_eq] at first second ⊢
    exact ⟨⟨first.1.1, second.1.2⟩, first.2.trans second.2⟩
  refl_iff x := by simp [isEqv]

end Floating

/-! ## From payloads to stories -/

namespace Payload

/-- Whether the payload should be a number and is none. -/
def isNaN : Payload → Bool
  | float value => value.isNaN
  | seconds value => value.isNaN
  | _ => false

theorem isEqv_symm : ∀ {a b : Payload}, a.isEqv b = true → b.isEqv a = true
  | none, none, _ => rfl
  | bool _, bool _, same => beq_iff_eq.mpr (eq_of_beq same).symm
  | int _, int _, same => beq_iff_eq.mpr (eq_of_beq same).symm
  | float _, float _, same => Floating.isComparison_isEqv.symm same
  | text _, text _, same => beq_iff_eq.mpr (eq_of_beq same).symm
  | seconds _, seconds _, same => Floating.isComparison_isEqv.symm same

theorem isEqv_trans :
    ∀ {a b c : Payload}, a.isEqv b = true → b.isEqv c = true → a.isEqv c = true
  | none, none, none, _, _ => rfl
  | bool _, bool _, bool _, first, second =>
    beq_iff_eq.mpr ((eq_of_beq first).trans (eq_of_beq second))
  | int _, int _, int _, first, second =>
    beq_iff_eq.mpr ((eq_of_beq first).trans (eq_of_beq second))
  | float _, float _, float _, first, second => Floating.isComparison_isEqv.trans first second
  | text _, text _, text _, first, second =>
    beq_iff_eq.mpr ((eq_of_beq first).trans (eq_of_beq second))
  | seconds _, seconds _, seconds _, first, second =>
    Floating.isComparison_isEqv.trans first second

theorem isComparison_isEqv : IsComparison isEqv fun payload => payload.isNaN = false where
  symm := isEqv_symm
  trans := isEqv_trans
  refl_iff payload := by
    cases payload <;> simp [isEqv, isNaN, Floating.isComparison_isEqv.refl_iff]

end Payload

theorem Condition.isComparison_isEqv :
    IsComparison isEqv fun condition => condition.value.isNaN = false :=
  (((IsComparison.of_beq kind).and (.of_beq key)).and
    (Payload.isComparison_isEqv.comap value)).congr (by simp)

theorem Requirement.isComparison_isEqv :
    IsComparison isEqv fun requirement => requirement.condition.value.isNaN = false :=
  ((IsComparison.of_beq side).and (Condition.isComparison_isEqv.comap condition)).congr (by simp)

theorem Effect.isComparison_isEqv : IsComparison isEqv fun effect => effect.value.isNaN = false :=
  (((IsComparison.of_beq kind).and (.of_beq key)).and
    (Payload.isComparison_isEqv.comap value)).congr (by simp)

theorem Notification.isComparison_isEqv :
    IsComparison isEqv fun notification => notification.effect.value.isNaN = false :=
  ((IsComparison.of_beq recipient).and (Effect.isComparison_isEqv.comap effect)).congr (by simp)

namespace LocalizedText

theorem isComparison_isEqv : IsComparison isEqv fun _ => True :=
  ((IsComparison.of_beq description).and
    ((IsComparison.of_beq id).orderedMap.comap strings)).congr (by simp)

/-- Two texts are equal exactly if they have one description and the same string in each
language. -/
theorem isEqv_iff {a b : LocalizedText} :
    a.isEqv b = true ↔
      a.description = b.description ∧ ∀ language, a.get? language = b.get? language := by
  have agree (o p : Option String) : Agree (· == ·) o p ↔ o = p := by
    cases o <;> cases p <;> simp
  rw [isEqv, Bool.and_eq_true, beq_iff_eq, OrderedMap.isEqv_iff]
  simp only [agree]
  rfl

end LocalizedText

namespace DialogOption

/-- The payloads of the notifications. -/
def payloads (option : DialogOption) : List Payload :=
  option.notifications.map fun notification => notification.effect.value

theorem isComparison_isEqv :
    IsComparison isEqv fun option => ∀ payload ∈ option.payloads, payload.isNaN = false :=
  ((((LocalizedText.isComparison_isEqv.comap text).and (.of_beq tag)).and
    (Notification.isComparison_isEqv.list.comap notifications)).and
      (.of_beq destination)).congr (by simp [payloads])

end DialogOption

namespace Dialog

/-- The payloads of the requirements and of the notifications of the options. -/
def payloads (d : Dialog) : List Payload :=
  (d.requirements.map fun requirement => requirement.condition.value) ++
    d.options.flatMap DialogOption.payloads

theorem isComparison_isEqv :
    IsComparison isEqv fun d => ∀ payload ∈ d.payloads, payload.isNaN = false := by
  have compares := ((((((IsComparison.of_beq id).and
    (LocalizedText.isComparison_isEqv.comap title)).and
    (LocalizedText.isComparison_isEqv.comap text)).and (.of_beq tag)).and (.of_beq mode)).and
    (Requirement.isComparison_isEqv.list.comap requirements)).and
    (DialogOption.isComparison_isEqv.list.comap options)
  refine compares.congr fun d => ?_
  simp only [payloads, List.forall_mem_append, List.forall_mem_map, List.forall_mem_flatMap,
    true_and]

end Dialog

namespace Graph

/-- The payloads of all dialogs. -/
def payloads (g : Graph) : List Payload := g.toList.flatMap Dialog.payloads

theorem isComparison_isEqv :
    IsComparison isEqv fun g => ∀ payload ∈ g.payloads, payload.isNaN = false := by
  have compares := (Dialog.isComparison_isEqv.orderedMap.comap dialogs).and (.of_beq roots)
  refine compares.congr fun g => ?_
  simp only [payloads, List.forall_mem_flatMap, and_true]
  rfl

/-- Two stories are equal exactly if they have the same roots in the same order and under each id
dialogs that are equal, or none. -/
theorem isEqv_iff {g h : Graph} :
    g.isEqv h = true ↔ g.roots = h.roots ∧ ∀ id, Agree Dialog.isEqv (g.get? id) (h.get? id) := by
  rw [isEqv, Bool.and_eq_true, beq_iff_eq, OrderedMap.isEqv_iff, and_comm]
  rfl

/-- Equality of stories can be turned round and chained, and a story is equal to itself exactly if
each of its payloads that should be a number is one. -/
theorem isEqv_symm_trans_refl_iff :
    (∀ g h : Graph, g.isEqv h = true → h.isEqv g = true) ∧
      (∀ g h k : Graph, g.isEqv h = true → h.isEqv k = true → g.isEqv k = true) ∧
      (∀ g : Graph, g.isEqv g = true ↔ ∀ payload ∈ g.payloads, payload.isNaN = false) ∧
      -- Dialogs are compared by id, strings by language, and numbers as numbers.
      (∀ g h : Graph, g.isEqv h = true ↔
        g.roots = h.roots ∧ ∀ id, Agree Dialog.isEqv (g.get? id) (h.get? id)) ∧
      (∀ a b : LocalizedText, a.isEqv b = true ↔
        a.description = b.description ∧ ∀ language, a.get? language = b.get? language) ∧
      ∀ (f : Floating.Format) (x y : Floating f), x.isEqv y = true ↔
        x.isNaN = false ∧ y.isNaN = false ∧ (x = y ∨ x.magnitude = 0 ∧ y.magnitude = 0) := by
  refine ⟨?_, ?_, isComparison_isEqv.refl_iff, ?_, ?_, ?_⟩
  · exact fun _ _ => isComparison_isEqv.symm
  · exact fun _ _ _ => isComparison_isEqv.trans
  · exact fun _ _ => isEqv_iff
  · exact fun _ _ => LocalizedText.isEqv_iff
  · exact fun _ _ _ => Floating.isEqv_iff

/-- A dialog that opens to players who have the toll. -/
def tollGate (text : LocalizedText) (toll : Floating Floating.binary64) : Dialog :=
  { (default : Dialog) with
    text
    requirements := [⟨.player, ⟨"at_least", some "gold", .float toll⟩⟩] }

/-- A bridge with a toll, in two languages, and its other side. -/
def bridge (toll : Floating Floating.binary64) : Graph where
  dialogs :=
    { entries :=
        [(0, tollGate (((default : LocalizedText).set .english "Bridge").set .german "Brücke") toll),
          (1, { (default : Dialog) with id := 1 })]
      nodup := by simp }
  roots := [0]

/-- The same bridge, with its dialogs and its languages in the other order. -/
def bridgeFacing (toll : Floating Floating.binary64) : Graph where
  dialogs :=
    { entries :=
        [(1, { (default : Dialog) with id := 1 }),
          (0, tollGate (((default : LocalizedText).set .german "Brücke").set .english "Bridge") toll)]
      nodup := by simp }
  roots := [0]

/-- A toll of zero is a toll of minus zero, whatever the order. A toll that is no number makes the
bridge another than itself. -/
theorem isEqv_symm_trans_refl_iff_of_bridge :
    bridge .zero ≠ bridgeFacing (-.zero) ∧
      (bridge .zero).isEqv (bridgeFacing (-.zero)) = true ∧
      (bridgeFacing (-.zero)).isEqv (bridge .zero) = true ∧
      (bridge .zero).isEqv (bridge .zero) = true ∧ (bridge .nan).isEqv (bridge .nan) ≠ true := by
  obtain ⟨symm, trans, refl_iff, -⟩ := isEqv_symm_trans_refl_iff
  have same : (bridge .zero).isEqv (bridgeFacing (-.zero)) = true := by decide
  have back := symm _ _ same
  refine ⟨by decide, same, back, trans _ _ _ same back, fun whole => ?_⟩
  have number := (refl_iff (bridge .nan)).mp whole (.float .nan) (by decide)
  exact absurd number (by decide)

end Graph

end Parley

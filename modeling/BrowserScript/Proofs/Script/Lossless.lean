/-
# BrowserScript.Proofs.Script.Lossless -- the written form of a script loses no step

What is written out for a script is the text of a value that is made of the values of its
steps. No part of this loses anything: a selector can be read back from its value, the name of
a kind belongs to no other kind, a command without a selector has nothing in its place, which
is no selector's value, and a value is known by its text. So **two scripts are written alike
exactly when they have the same steps**; the errors are not written.
-/
import Mathlib
import BrowserScript.Proofs.Selector.Encodings
import BrowserScript.Proofs.Value.JsonText

namespace BrowserScript

/-! ## The parts of a command -/

theorem Selector.toValue_injective : Function.Injective Selector.toValue := by
  intro s t h
  have hread : ofValue? s.toValue = ofValue? t.toValue := congrArg ofValue? h
  rw [ofValue?_toValue, ofValue?_toValue] at hread
  exact Option.some.inj hread

/-- A selector is a record, so it is not nothing. -/
theorem Selector.toValue_ne_null (s : Selector) : s.toValue ≠ .null := by
  obtain ⟨l, fallbacks⟩ := s
  rw [toValue]
  exact Value.noConfusion

theorem CommandKind.name_injective : Function.Injective CommandKind.name := by
  intro k l h
  have hfound : ofName? k.name = ofName? l.name := congrArg ofName? h
  rw [ofName?_name, ofName?_name] at hfound
  exact Option.some.inj hfound

theorem Params.toValue_injective : Function.Injective Params.toValue := by
  rintro ⟨es, _⟩ ⟨es', _⟩ h
  have hentry : Function.Injective fun p : String × String => (p.1, Value.text p.2) := by
    rintro ⟨key, value⟩ ⟨key', value'⟩ heq
    simpa using heq
  obtain rfl := List.map_injective_iff.2 hentry (Value.record.inj h)
  rfl

/-- What is written where a selector may be tells whether there is one, and which. -/
theorem Selector.optionValue_injective :
    Function.Injective fun s : Option Selector => (s.map Selector.toValue).getD .null := by
  intro s t h
  cases s with
  | none =>
      cases t with
      | none => rfl
      | some t => exact absurd h.symm t.toValue_ne_null
  | some s =>
      cases t with
      | none => exact absurd h s.toValue_ne_null
      | some t => exact congrArg some (Selector.toValue_injective h)

/-! ## Commands, steps and scripts -/

theorem Command.toValue_injective : Function.Injective Command.toValue := by
  rintro ⟨kind, params, selector⟩ ⟨kind', params', selector'⟩ h
  simp only [toValue, members, Value.record.injEq, List.cons.injEq, Prod.mk.injEq, true_and,
    and_true, Value.text.injEq] at h
  obtain ⟨hkind, hparams, hselector⟩ := h
  obtain rfl := CommandKind.name_injective hkind
  obtain rfl := Params.toValue_injective hparams
  obtain rfl := Selector.optionValue_injective hselector
  rfl

theorem Step.toValue_injective : Function.Injective Step.toValue := by
  rintro ⟨line, command⟩ ⟨line', command'⟩ h
  simp only [toValue, Value.record.injEq, List.cons.injEq, Prod.mk.injEq, true_and, and_true,
    Value.natural, Value.number.injEq, Decimal.ofNat, Decimal.mk.injEq] at h
  obtain ⟨rfl, hcommand⟩ := h
  obtain rfl := Command.toValue_injective hcommand
  rfl

namespace Script

/-- The value of a script has all of its steps, and nothing else. -/
theorem toValue_eq_iff {s t : Script} : s.toValue = t.toValue ↔ s.steps = t.steps := by
  simp only [toValue, Value.record.injEq, List.cons.injEq, Prod.mk.injEq, true_and, and_true,
    Value.list.injEq, (List.map_injective_iff.2 Step.toValue_injective).eq_iff]

/-- **Two scripts have the same text exactly when they have the same steps**, whatever errors
were passed over and whatever characters stand in the steps. -/
theorem same_text_iff_same_steps (s t : Script) :
    s.toValue.toJson = t.toValue.toJson ↔ s.steps = t.steps :=
  Value.toJson_inj.trans toValue_eq_iff

end Script

end BrowserScript

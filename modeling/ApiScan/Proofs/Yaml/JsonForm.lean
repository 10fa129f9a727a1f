import ApiScan.Proofs.Json.Reread
import ApiScan.Yaml.Value

set_option autoImplicit false

/-! # JSON forms can be read back

A YAML value with whole numbers that are too long to be written has no JSON form, so that the JSON
form of a value holds none that are too long to be read. -/

namespace ApiScan.Yaml.Value

open Json

theorem isShort_of_written {n m : Int} (h : written n = .ok m) : IsShort m := by
  unfold written at h
  split at h
  · exact nomatch h
  · next hlength =>
      obtain rfl := Except.ok.inj h
      exact Nat.not_lt.1 hlength

theorem map_eq_ok {ε α β : Type} {f : α → β} {result : Except ε α} {b : β}
    (h : result.map f = .ok b) : ∃ a, result = .ok a ∧ f a = b := by
  cases result with
  | error fault => exact nomatch h
  | ok a => exact ⟨a, rfl, Except.ok.inj h⟩

theorem bind_eq_ok {ε α β : Type} {next : α → Except ε β} {result : Except ε α} {b : β}
    (h : result >>= next = .ok b) : ∃ a, result = .ok a ∧ next a = .ok b := by
  cases result with
  | error fault => exact nomatch h
  | ok a => exact ⟨a, rfl, h⟩

mutual

/-- **The whole numbers of a JSON form are short enough to be read.** -/
theorem allShort_of_toJson? : ∀ {value : Value} {doc : Json}, toJson? value = .ok doc → AllShort doc
  | .null, _, h => Except.ok.inj h ▸ trivial
  | .bool _, _, h => Except.ok.inj h ▸ trivial
  | .int _, _, h => by
      obtain ⟨n, hn, rfl⟩ := map_eq_ok h
      exact isShort_of_written hn
  | .float _, _, h => Except.ok.inj h ▸ trivial
  | .notANumber, _, h => Except.ok.inj h ▸ trivial
  | .str _, _, h => Except.ok.inj h ▸ trivial
  | .list items, _, h => by
      obtain ⟨forms, hforms, rfl⟩ := map_eq_ok h
      exact allShort_of_itemForms hforms
  | .map entries, _, h => by
      obtain ⟨fields, hfields, rfl⟩ := map_eq_ok h
      exact allShort_of_entryForms hfields
  | .outer _, _, h => nomatch h
  | .date _, _, h => nomatch h
  | .dateTime .., _, h => nomatch h
  | .bytes _, _, h => nomatch h
  | .set _, _, h => nomatch h

theorem allShort_of_itemForms : ∀ {items : List Value} {forms : List Json},
    itemForms items = .ok forms → AllShortItems forms
  | [], _, h => Except.ok.inj h ▸ trivial
  | _ :: _, _, h => by
      obtain ⟨form, hform, h⟩ := bind_eq_ok h
      obtain ⟨forms, hforms, h⟩ := bind_eq_ok h
      obtain rfl := Except.ok.inj h
      exact ⟨allShort_of_toJson? hform, allShort_of_itemForms hforms⟩

theorem allShort_of_entryForms : ∀ {entries : List (Value × Value)} {fields : Json.Fields},
    entryForms entries = .ok fields → AllShortFields fields
  | [], _, h => Except.ok.inj h ▸ trivial
  | _ :: _, _, h => by
      obtain ⟨name, -, h⟩ := bind_eq_ok h
      obtain ⟨form, hform, h⟩ := bind_eq_ok h
      obtain ⟨fields, hfields, h⟩ := bind_eq_ok h
      obtain rfl := Except.ok.inj h
      exact ⟨allShort_of_toJson? hform, allShort_of_entryForms hfields⟩

end

end ApiScan.Yaml.Value

import SpanExport.Proofs.Number.Digits
import SpanExport.Value.Field

/-!
# Values that can be written

Only an integer of too many digits has no text, and of all values only a mapping is written out
with everything that is in it. So a value can be made a field unless such an integer stands in a
mapping.
-/

namespace SpanExport

theorem integerText_isOk {n : Int} (h : n.natAbs < 10 ^ Numeral.digitLimit) :
    ∃ s, integerText n = .ok s := by
  have hlength : (Digits.ofNat 10 n.natAbs).length ≤ Numeral.digitLimit :=
    Digits.length_ofNat_le (by decide) (by decide) h
  unfold integerText
  rw [if_neg (by omega)]
  exact ⟨_, rfl⟩

namespace Value

/-- A value is part of itself, of what it stands in, and of all that this is part of. -/
inductive IsPartOf (part : Value) : Value → Prop
  | self : IsPartOf part part
  | item {whole : Value} {items : List Value} (hmem : whole ∈ items) (h : IsPartOf part whole) :
    IsPartOf part (.list items)
  | tupleItem {whole : Value} {items : List Value} (hmem : whole ∈ items)
    (h : IsPartOf part whole) : IsPartOf part (.tuple items)
  | key {whole value : Value} {entries : List (Value × Value)} (hmem : (whole, value) ∈ entries)
    (h : IsPartOf part whole) : IsPartOf part (.mapping entries)
  | value {key whole : Value} {entries : List (Value × Value)} (hmem : (key, whole) ∈ entries)
    (h : IsPartOf part whole) : IsPartOf part (.mapping entries)
  | bound {start stop step n : Int} (hmem : n ∈ [start, stop, step])
    (h : IsPartOf part (.int n)) : IsPartOf part (.range start stop step)

/-- No integer in it, at whatever depth, has more digits than are written. -/
def HasShortIntegers (v : Value) : Prop :=
  ∀ n : Int, IsPartOf (.int n) v → n.natAbs < 10 ^ Numeral.digitLimit

/-- No mapping in it holds an integer of more digits than are written. -/
def HasShortMappings (v : Value) : Prop :=
  ∀ entries, IsPartOf (.mapping entries) v → HasShortIntegers (.mapping entries)

/-! ## Literals -/

theorem rangeText_isOk {start stop step : Int}
    (h : (Value.range start stop step).HasShortIntegers) :
    ∃ s, rangeText start stop step = .ok s := by
  have hbound : ∀ n ∈ [start, stop, step], ∃ s, integerText n = .ok s := fun n hn =>
    integerText_isOk (h n (.bound hn .self))
  obtain ⟨first, hfirst⟩ := hbound start (by simp)
  obtain ⟨last, hlast⟩ := hbound stop (by simp)
  obtain ⟨width, hwidth⟩ := hbound step (by simp)
  unfold rangeText
  rw [hfirst, hlast, hwidth]
  simp only [Bind.bind, Except.bind, Pure.pure, Except.pure]
  split <;> exact ⟨_, rfl⟩

mutual

theorem literal_isOk : ∀ v : Value, v.HasShortIntegers → ∃ s, v.literal = .ok s
  | .int n, h => integerText_isOk (h n .self)
  | .range _ _ _, h => rangeText_isOk h
  | .list items, h => by
    obtain ⟨texts, htexts⟩ := literals_isOk items fun item hitem n hn => h n (.item hitem hn)
    exact ⟨_, by rw [literal, htexts]; rfl⟩
  | .tuple items, h => by
    obtain ⟨texts, htexts⟩ := literals_isOk items fun item hitem n hn => h n (.tupleItem hitem hn)
    exact ⟨_, by rw [literal, htexts]; rfl⟩
  | .mapping entries, h => by
    obtain ⟨texts, htexts⟩ := entryTexts_isOk entries fun key value hentry =>
      ⟨fun n hn => h n (.key hentry hn), fun n hn => h n (.value hentry hn)⟩
    exact ⟨_, by rw [literal, htexts]; rfl⟩
  | .null, _ | .bool _, _ | .float _, _ | .text _, _ | .timestamp _, _ | .date _, _
  | .status _, _ | .bytes _, _ | .buffer _, _ | .view _, _ | .object _, _ => ⟨_, by rw [literal]⟩

theorem literals_isOk : ∀ items : List Value, (∀ item ∈ items, item.HasShortIntegers) →
    ∃ texts, literals items = .ok texts
  | [], _ => ⟨[], by rw [literals]⟩
  | item :: items, h => by
    obtain ⟨text, htext⟩ := literal_isOk item (h item List.mem_cons_self)
    obtain ⟨texts, htexts⟩ := literals_isOk items fun other hother =>
      h other (List.mem_cons_of_mem _ hother)
    exact ⟨_, by rw [literals, htext, htexts]; rfl⟩

theorem entryTexts_isOk : ∀ entries : List (Value × Value),
    (∀ key value, (key, value) ∈ entries → key.HasShortIntegers ∧ value.HasShortIntegers) →
    ∃ texts, entryTexts entries = .ok texts
  | [], _ => ⟨[], by rw [entryTexts]⟩
  | (key, value) :: entries, h => by
    obtain ⟨hkey, hvalue⟩ := h key value List.mem_cons_self
    obtain ⟨first, hfirst⟩ := literal_isOk key hkey
    obtain ⟨second, hsecond⟩ := literal_isOk value hvalue
    obtain ⟨texts, htexts⟩ := entryTexts_isOk entries fun key value hentry =>
      h key value (List.mem_cons_of_mem _ hentry)
    exact ⟨_, by rw [entryTexts, hfirst, hsecond, htexts]; rfl⟩

end

/-! ## Fields -/

mutual

theorem toField_isOk : ∀ v : Value, v.HasShortMappings → ∃ field, v.toField = .ok field
  | .list items, h => by
    obtain ⟨fields, hfields⟩ := toFields_isOk items fun item hitem entries hentries =>
      h entries (.item hitem hentries)
    exact ⟨_, by rw [toField, hfields]; rfl⟩
  | .tuple items, h => by
    obtain ⟨fields, hfields⟩ := toFields_isOk items fun item hitem entries hentries =>
      h entries (.tupleItem hitem hentries)
    exact ⟨_, by rw [toField, hfields]; rfl⟩
  | .mapping entries, h => by
    obtain ⟨text, htext⟩ := literal_isOk (.mapping entries) (h entries .self)
    have hplain : (Value.mapping entries).plainText = .ok text := htext
    exact ⟨_, by rw [toField, hplain]; rfl⟩
  | .null, _ | .bool _, _ | .int _, _ | .float _, _ | .text _, _ | .timestamp _, _ | .bytes _, _
  | .buffer _, _ | .view _, _ | .range _ _ _, _ => ⟨_, by rw [toField]⟩
  | .date _, _ | .status _, _ | .object _, _ => ⟨_, by rw [toField, plainText]; rfl⟩

theorem toFields_isOk : ∀ items : List Value, (∀ item ∈ items, item.HasShortMappings) →
    ∃ fields, toFields items = .ok fields
  | [], _ => ⟨[], by rw [toFields]⟩
  | item :: items, h => by
    obtain ⟨field, hfield⟩ := toField_isOk item (h item List.mem_cons_self)
    obtain ⟨fields, hfields⟩ := toFields_isOk items fun other hother =>
      h other (List.mem_cons_of_mem _ hother)
    exact ⟨_, by rw [toFields, hfield, hfields]; rfl⟩

end

end Value

end SpanExport

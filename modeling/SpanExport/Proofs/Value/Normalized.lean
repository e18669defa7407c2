import SpanExport.Proofs.Traversal
import SpanExport.Proofs.Value.Writable

/-!
# Values as fields

Every value that can be written becomes one that a field holds, at whatever depth it has parts. What
a field holds stays as it is and nothing else does, and a sequence becomes the list of the fields of
its items.
-/

namespace SpanExport

namespace Value

/-! ## Items -/

/-- The values that are sequences. Texts and bytes are none. -/
def isSequence : Value → Bool
  | .list _ | .tuple _ | .view _ | .range .. => true
  | _ => false

/-- The item at a place in a sequence. A range begins with its start and ends before its stop. -/
def item? : Value → Nat → Option Value
  | .list items, i | .tuple items, i => items[i]?
  | .view data, i => data[i]?.map fun b => .int b.toNat
  | .range start stop step, i =>
    if 0 < step ∧ start + i * step < stop ∨ step < 0 ∧ stop < start + i * step then
      some (.int (start + i * step))
    else none
  | _, _ => none

theorem lt_rangeLength_iff {start stop step : Int} {i : Nat} :
    i < rangeLength start stop step ↔
      0 < step ∧ start + i * step < stop ∨ step < 0 ∧ stop < start + i * step := by
  have hnext : ∀ n : Int, ((i : Int) + 1) * n = i * n + n := fun n => by rw [Int.add_mul, Int.one_mul]
  unfold rangeLength
  split
  · rename_i hstep
    rw [Int.lt_toNat, Int.lt_iff_add_one_le, Int.le_ediv_iff_mul_le hstep, hnext]
    omega
  · rename_i hstep
    rcases Int.lt_or_eq_of_le (Int.not_lt.1 hstep) with hnegative | rfl
    · rw [Int.lt_toNat, Int.lt_iff_add_one_le, Int.le_ediv_iff_mul_le (by omega), hnext,
        Int.mul_neg]
      omega
    · simp

theorem getElem?_rangeItems (start stop step : Int) (i : Nat) :
    ((rangeItems start stop step).map Value.int)[i]? = (Value.range start stop step).item? i := by
  rw [item?, rangeItems, List.map_map, List.getElem?_map]
  by_cases hi : i < rangeLength start stop step
  · rw [List.getElem?_range hi, if_pos (lt_rangeLength_iff.1 hi)]
    rfl
  · rw [List.getElem?_eq_none (by simpa using hi), if_neg (mt lt_rangeLength_iff.2 hi)]
    rfl

theorem toFields_cons_eq_ok_iff {item : Value} {items fields : List Value} :
    toFields (item :: items) = .ok fields ↔
      ∃ field rest, item.toField = .ok field ∧ toFields items = .ok rest ∧
        fields = field :: rest := by
  rw [toFields]
  cases item.toField with
  | error cause => simp [Bind.bind, Except.bind]
  | ok field =>
    cases toFields items with
    | error cause => simp [Bind.bind, Except.bind]
    | ok rest => simp [Bind.bind, Except.bind, Pure.pure, Except.pure, eq_comm]

theorem toFields_eq_ok_iff {items fields : List Value} : toFields items = .ok fields ↔
    List.Forall₂ (fun item field => item.toField = .ok field) items fields := by
  induction items generalizing fields with
  | nil => simp [toFields, eq_comm]
  | cons item items ih => simp only [toFields_cons_eq_ok_iff, List.forall₂_cons_left_iff, ih]

theorem toFields_ints (ns : List Int) : toFields (ns.map .int) = .ok (ns.map .int) := by
  rw [toFields_eq_ok_iff, List.forall₂_same]
  exact List.forall_mem_map.2 fun n _ => by rw [toField]

theorem byteInts_eq (data : List UInt8) :
    byteInts data = .list ((data.map fun b => (b.toNat : Int)).map .int) := by
  rw [byteInts, List.map_map]
  rfl

theorem toField_of_isSequence {v field : Value} (hsequence : v.isSequence = true)
    (h : v.toField = .ok field) :
    ∃ items fields, (∀ i, items[i]? = v.item? i) ∧ field = .list fields ∧
      toFields items = .ok fields := by
  cases v with
  | list items | tuple items =>
    rw [toField] at h
    obtain ⟨fields, hfields, rfl⟩ := map_eq_ok.1 h
    exact ⟨items, fields, fun _ => rfl, rfl, hfields⟩
  | view data =>
    rw [toField, byteInts_eq] at h
    cases h
    refine ⟨_, _, fun i => ?_, rfl, toFields_ints _⟩
    rw [List.map_map, List.getElem?_map]
    rfl
  | range start stop step =>
    rw [toField] at h
    cases h
    exact ⟨_, _, getElem?_rangeItems start stop step, rfl, toFields_ints _⟩
  | _ => cases hsequence

/-! ## The grammar of fields -/

theorem areFields_ints (ns : List Int) : areFields (ns.map .int) = true := by
  induction ns with
  | nil => rfl
  | cons n ns ih => rw [List.map_cons, areFields, isField, ih]; rfl

mutual

theorem isField_of_toField : ∀ v field : Value, v.toField = .ok field → field.isField = true
  | .list items, field, h | .tuple items, field, h => by
    rw [toField] at h
    obtain ⟨fields, hfields, rfl⟩ := map_eq_ok.1 h
    exact areFields_of_toFields items fields hfields
  | .null, field, h | .bool _, field, h | .int _, field, h | .float _, field, h
  | .text _, field, h | .timestamp _, field, h | .bytes _, field, h | .buffer _, field, h => by
    rw [toField] at h
    cases h
    rw [isField]
  | .view data, field, h => by
    rw [toField, byteInts_eq] at h
    cases h
    rw [isField, areFields_ints]
  | .range start stop step, field, h => by
    rw [toField] at h
    cases h
    rw [isField, areFields_ints]
  | .date _, field, h | .status _, field, h | .mapping _, field, h | .object _, field, h => by
    rw [toField] at h
    obtain ⟨s, -, rfl⟩ := map_eq_ok.1 h
    rw [isField]

theorem areFields_of_toFields : ∀ items fields : List Value, toFields items = .ok fields →
    areFields fields = true
  | [], fields, h => by
    rw [toFields] at h
    cases h
    rw [areFields]
  | item :: items, fields, h => by
    obtain ⟨field, rest, hfield, hrest, rfl⟩ := toFields_cons_eq_ok_iff.1 h
    rw [areFields, isField_of_toField item field hfield, areFields_of_toFields items rest hrest]
    rfl

end

mutual

theorem toField_of_isField : ∀ v : Value, v.isField = true → v.toField = .ok v
  | .list items, h => by rw [toField, toFields_of_areFields items h]; rfl
  | .null, _ | .bool _, _ | .int _, _ | .float _, _ | .text _, _ | .timestamp _, _ => by
    rw [toField]
  | .date _, h | .status _, h | .bytes _, h | .buffer _, h | .view _, h | .tuple _, h
  | .range _ _ _, h | .mapping _, h | .object _, h => by cases h

theorem toFields_of_areFields : ∀ items : List Value, areFields items = true →
    toFields items = .ok items
  | [], _ => by rw [toFields]
  | item :: items, h => by
    rw [areFields, Bool.and_eq_true] at h
    exact toFields_cons_eq_ok_iff.2 ⟨item, items, toField_of_isField item h.1,
      toFields_of_areFields items h.2, rfl⟩

end

/-! ## Fields of values -/

theorem toField_eq_bool_iff {v : Value} {b : Bool} : v.toField = .ok (.bool b) ↔ v = .bool b := by
  refine ⟨fun h => ?_, fun h => by rw [h, toField]⟩
  cases v with
  | list items | tuple items =>
    rw [toField] at h
    obtain ⟨fields, -, hfield⟩ := map_eq_ok.1 h
    cases hfield
  | date d | status code | mapping entries | object s =>
    rw [toField] at h
    obtain ⟨s, -, hfield⟩ := map_eq_ok.1 h
    cases hfield
  | bool c =>
    rw [toField] at h
    cases h
    rfl
  | _ =>
    rw [toField] at h
    cases h

/-- What a field holds for a value. -/
structure IsFieldOf (field v : Value) : Prop where
  isField : field.isField = true
  eq_iff : field = v ↔ v.isField = true
  toField_eq : field.toField = .ok field
  bool_iff : ∀ b, field = .bool b ↔ v = .bool b
  items : v.isSequence = true → ∃ items fields, (∀ i, items[i]? = v.item? i) ∧
    field = .list fields ∧
    List.Forall₂ (fun item field => item.toField = .ok field) items fields

/-- Every value with mappings that can be written has a field. It stays as it is just when it is one
already, truth values come of truth values alone, and a sequence becomes the list of the fields of
its items. -/
theorem toField_isFieldOf (v : Value) (h : v.HasShortMappings) :
    ∃ field, v.toField = .ok field ∧ IsFieldOf field v := by
  obtain ⟨field, hfield⟩ := toField_isOk v h
  have hgrammar := isField_of_toField v field hfield
  refine ⟨field, hfield, hgrammar, ?_, toField_of_isField field hgrammar, fun b => ?_, ?_⟩
  · constructor
    · rintro rfl
      exact hgrammar
    · intro hv
      exact Except.ok.inj (hfield.symm.trans (toField_of_isField v hv))
  · have hbool : v.toField = .ok (.bool b) ↔ v = .bool b := toField_eq_bool_iff
    rwa [hfield, Except.ok.injEq] at hbool
  · intro hsequence
    obtain ⟨items, fields, hitems, hlist, hfields⟩ := toField_of_isSequence hsequence hfield
    exact ⟨items, fields, hitems, hlist, toFields_eq_ok_iff.1 hfields⟩

/-- Bytes that break off, a list of a window on bytes, a range that counts down, and a mapping. -/
def nested : Value :=
  .tuple [.bytes [0xC3, 0xA9, 0xC3], .list [.view [0, 255]], .range 7 0 (-3),
    .mapping [(.int (-5), .bool true)]]

def nestedField : Value :=
  .list [.text "é\uFFFD", .list [.list [.int 0, .int 255]], .list [.int 7, .int 4, .int 1],
    .text "\x7b-5: True\x7d"]

theorem nested_hasShortMappings : nested.HasShortMappings := by
  have hshort : (Value.mapping [(.int (-5), .bool true)]).HasShortIntegers := by
    intro n hn
    cases hn with
    | key hmem h =>
      cases List.mem_singleton.1 hmem
      cases h
      exact Nat.lt_of_lt_of_le (by decide : 5 < 10 ^ 1)
        (Nat.pow_le_pow_right (by decide) (by decide))
    | value hmem h =>
      cases List.mem_singleton.1 hmem
      cases h
  intro entries hentries
  cases hentries with
  | tupleItem hmem h =>
    simp only [List.mem_cons, List.not_mem_nil, or_false] at hmem
    rcases hmem with rfl | rfl | rfl | rfl
    · cases h
    · cases h with
      | item hmem h =>
        cases List.mem_singleton.1 hmem
        cases h
    · cases h with
      | bound _ h => cases h
    · cases h with
      | self => exact hshort
      | key hmem h =>
        cases List.mem_singleton.1 hmem
        cases h
      | value hmem h =>
        cases List.mem_singleton.1 hmem
        cases h

theorem toField_isFieldOf_nested : nested.HasShortMappings ∧
    nested.toField = .ok nestedField ∧ IsFieldOf nestedField nested := by
  have hfield : nested.toField = .ok nestedField := by with_unfolding_all rfl
  obtain ⟨field, hsame, h⟩ := toField_isFieldOf nested nested_hasShortMappings
  obtain rfl := Except.ok.inj (hfield.symm.trans hsame)
  exact ⟨nested_hasShortMappings, hfield, h⟩

end Value

end SpanExport

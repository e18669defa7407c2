import Mathlib.Data.List.Induction
import SpanExport.Proofs.Delivery.LastWriter

/-!
# Fields as a mapping

Fields are determined by the order of their names and the value of each. Writing pairs one after the
other leaves each name where it occurred first, with the value that it was written with last, and
so writing a list of pairs is the same as writing what the list comes to.
-/

namespace SpanExport

/-! ## First occurrences -/

section

variable {α : Type} [BEq α] [LawfulBEq α]

theorem eraseDups_concat (xs : List α) (a : α) :
    (xs ++ [a]).eraseDups = if a ∈ xs then xs.eraseDups else xs.eraseDups ++ [a] := by
  rw [List.eraseDups_append]
  by_cases h : a ∈ xs
  · simp [List.removeAll, h]
  · simp [List.removeAll, h, List.eraseDups_cons]

theorem eraseDups_append_eraseDups (xs ys : List α) :
    (xs ++ ys.eraseDups).eraseDups = (xs ++ ys).eraseDups := by
  induction ys using List.reverseRecOn with
  | nil => rfl
  | append_singleton ys a ih =>
    rw [eraseDups_concat, ← List.append_assoc, eraseDups_concat, ← ih]
    by_cases h : a ∈ ys
    · rw [if_pos h, if_pos (List.mem_append_right _ h)]
    · rw [if_neg h, ← List.append_assoc, eraseDups_concat]
      simp only [List.mem_append, List.mem_eraseDups]

theorem eraseDups_of_nodup {xs : List α} (h : xs.Nodup) : xs.eraseDups = xs := by
  induction xs using List.reverseRecOn with
  | nil => rfl
  | append_singleton xs a ih =>
    obtain ⟨hxs, -, hdisjoint⟩ := List.nodup_append.1 h
    have hfresh : a ∉ xs := fun ha => hdisjoint a ha a (List.mem_singleton_self a) rfl
    rw [eraseDups_concat, if_neg hfresh, ih hxs]

end

/-! ## Entries -/

theorem Pairs.mem_put {name : String} {value : Value} {pairs : List (String × Value)}
    {entry : String × Value} (h : entry ∈ put name value pairs) :
    entry = (name, value) ∨ entry ∈ pairs := by
  induction pairs with
  | nil => exact .inl (List.mem_singleton.1 h)
  | cons p rest ih =>
    obtain ⟨n, v⟩ := p
    unfold put at h
    split at h
    · rcases List.mem_cons.1 h with rfl | h
      · exact .inl rfl
      · exact .inr (List.mem_cons_of_mem _ h)
    · rcases List.mem_cons.1 h with rfl | h
      · exact .inr List.mem_cons_self
      · exact (ih h).imp_right (List.mem_cons_of_mem _)

theorem Fields.mem_putAll {fields : Fields} {pairs : List (String × Value)}
    {entry : String × Value} (h : entry ∈ (fields.putAll pairs).entries) :
    entry ∈ fields.entries ∨ entry ∈ pairs := by
  induction pairs generalizing fields with
  | nil => exact .inl h
  | cons p rest ih =>
    obtain ⟨n, v⟩ := p
    rcases @ih (fields.put n v) h with h | h
    · rcases Pairs.mem_put h with rfl | h
      · exact .inr List.mem_cons_self
      · exact .inl h
    · exact .inr (List.mem_cons_of_mem _ h)

theorem Pairs.erase_of_notMem {name : String} {pairs : List (String × Value)}
    (h : name ∉ names pairs) : erase name pairs = pairs := by
  apply List.filter_eq_self.2
  intro entry hentry
  have hne : entry.1 ≠ name := fun he => h (List.mem_map.2 ⟨entry, hentry, he⟩)
  simp [hne]

/-! ## Fields -/

theorem Pairs.eq_map_get? {pairs : List (String × Value)} (h : (names pairs).Nodup) :
    pairs.map (fun entry => (entry.1, some entry.2)) =
      (names pairs).map fun name => (name, get? name pairs) := by
  rw [names, List.map_map]
  refine List.map_congr_left fun entry hentry => ?_
  obtain ⟨before, after, rfl⟩ := List.append_of_mem hentry
  have hfresh : entry.1 ∉ names after := by
    rw [names, List.map_append, List.map_cons, List.nodup_append, List.nodup_cons] at h
    exact h.2.1.1
  have hlast : last? entry.1 (before ++ entry :: after) = some entry.2 := by
    rw [List.append_cons, last?_append, last?_eq_none.2 hfresh, last?_append, Option.none_or,
      last?_singleton entry.1 entry.1 entry.2, if_pos rfl, Option.some_or]
  simp only [Function.comp_apply]
  rw [get?_eq_last? h, hlast]

namespace Fields

theorem ext_get? {a b : Fields} (hnames : a.names = b.names)
    (hvalue : ∀ name, a.get? name = b.get? name) : a = b := by
  have horder : Pairs.names a.entries = Pairs.names b.entries := hnames
  have hget : ∀ name, Pairs.get? name a.entries = Pairs.get? name b.entries := hvalue
  have hmap : a.entries.map (fun entry => (entry.1, some entry.2)) =
      b.entries.map fun entry => (entry.1, some entry.2) := by
    rw [Pairs.eq_map_get? a.distinct, Pairs.eq_map_get? b.distinct, horder]
    simp only [hget]
  have hinjective : Function.Injective fun entry : String × Value => (entry.1, some entry.2) := by
    rintro ⟨n, v⟩ ⟨m, w⟩ heq
    simpa using heq
  have hentries := List.map_injective_iff.2 hinjective hmap
  cases a
  cases b
  cases hentries
  rfl

variable (fields : Fields) (pairs : List (String × Value))

theorem names_putAll :
    (fields.putAll pairs).names = (fields.names ++ Pairs.names pairs).eraseDups := by
  induction pairs using List.reverseRecOn with
  | nil =>
    rw [Pairs.names, List.map_nil, List.append_nil]
    exact (eraseDups_of_nodup fields.distinct).symm
  | append_singleton pairs entry ih =>
    have hconcat : Pairs.names (pairs ++ [entry]) = Pairs.names pairs ++ [entry.1] :=
      List.map_append
    have hput : (fields.putAll pairs).putAll [entry] =
        (fields.putAll pairs).put entry.1 entry.2 := rfl
    rw [putAll_append, hput, names_put, ih, hconcat, ← List.append_assoc, eraseDups_concat]
    simp only [List.mem_eraseDups]

theorem names_ofList : (ofList pairs).names = (Pairs.names pairs).eraseDups :=
  names_putAll empty pairs

theorem get?_ofList (name : String) : (ofList pairs).get? name = Pairs.last? name pairs :=
  get?_putAll empty pairs name

theorem putAll_ofList : fields.putAll (ofList pairs).entries = fields.putAll pairs := by
  refine ext_get? ?_ fun name => ?_
  · have hnames : Pairs.names (ofList pairs).entries = (Pairs.names pairs).eraseDups :=
      names_ofList pairs
    rw [names_putAll, names_putAll, hnames, eraseDups_append_eraseDups]
  · have hlast : Pairs.last? name (ofList pairs).entries = Pairs.last? name pairs := by
      rw [← Pairs.get?_eq_last? (ofList pairs).distinct]
      exact get?_ofList pairs name
    rw [get?_putAll, get?_putAll, Pairs.last?_append, Pairs.last?_append, hlast]

theorem ofList_append (xs ys : List (String × Value)) :
    ofList (xs ++ ys) = (ofList xs).putAll (ofList ys).entries := by
  rw [putAll_ofList]
  exact putAll_append empty xs ys

theorem ofList_entries : ofList fields.entries = fields := by
  refine ext_get? ?_ fun name => ?_
  · rw [names_ofList]
    exact eraseDups_of_nodup fields.distinct
  · rw [get?_ofList, ← Pairs.get?_eq_last? fields.distinct]
    rfl

end Fields

end SpanExport

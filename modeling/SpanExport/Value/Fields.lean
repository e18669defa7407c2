import SpanExport.Value.Basic

/-!
# Named fields

Fields have distinct names in the order in which they were first written. `get?_put` and
`names_put` say what a write changes: the value of its own name, and the order only when the
name is new.
-/

namespace SpanExport

/-! ## Lists of pairs -/

namespace Pairs

/-- Replaces the value of a known name where it stands, or adds a new name at the end. -/
def put (name : String) (value : Value) : List (String × Value) → List (String × Value)
  | [] => [(name, value)]
  | (n, v) :: rest => if n = name then (name, value) :: rest else (n, v) :: put name value rest

def get? (name : String) : List (String × Value) → Option Value
  | [] => none
  | (n, v) :: rest => if n = name then some v else get? name rest

def names (pairs : List (String × Value)) : List String := pairs.map Prod.fst

def erase (name : String) (pairs : List (String × Value)) : List (String × Value) :=
  pairs.filter fun p => p.1 ≠ name

theorem get?_put (name other : String) (value : Value) (pairs : List (String × Value)) :
    get? other (put name value pairs) = if other = name then some value else get? other pairs := by
  induction pairs with
  | nil => simp [put, get?, eq_comm]
  | cons p rest ih =>
    obtain ⟨n, v⟩ := p
    by_cases h : n = name
    · subst h
      by_cases ho : n = other
      · simp [put, get?, ho]
      · simp [put, get?, ho, Ne.symm ho]
    · by_cases ho : n = other
      · subst ho; simp [put, get?, h]
      · simp [put, get?, h, ho, ih]

theorem names_put (name : String) (value : Value) (pairs : List (String × Value)) :
    names (put name value pairs) =
      if name ∈ names pairs then names pairs else names pairs ++ [name] := by
  induction pairs with
  | nil => simp [put, names]
  | cons p rest ih =>
    obtain ⟨n, v⟩ := p
    by_cases h : n = name
    · subst h; simp [put, names]
    · have hn : ¬name = n := fun e => h e.symm
      simp only [names] at ih
      simp only [put, names, h, if_false, List.map_cons, List.mem_cons, hn, false_or, ih]
      split <;> rename_i hm <;> simp [hm]

theorem nodup_put (name : String) (value : Value) {pairs : List (String × Value)}
    (h : (names pairs).Nodup) : (names (put name value pairs)).Nodup := by
  rw [names_put]
  split
  · exact h
  · rename_i hn
    exact List.nodup_append.2 ⟨h, by simp, by simp; intro a ha e; exact hn (e ▸ ha)⟩

theorem nodup_erase (name : String) {pairs : List (String × Value)} (h : (names pairs).Nodup) :
    (names (erase name pairs)).Nodup :=
  h.sublist (List.filter_sublist.map Prod.fst)

theorem not_mem_names_erase (name : String) (pairs : List (String × Value)) :
    name ∉ names (erase name pairs) := by
  simp [names, erase]

end Pairs

/-! ## Fields -/

structure Fields where
  entries : List (String × Value)
  distinct : (Pairs.names entries).Nodup

namespace Fields

def empty : Fields := ⟨[], by simp [Pairs.names]⟩

instance : Inhabited Fields := ⟨empty⟩

def names (fields : Fields) : List String := Pairs.names fields.entries

def size (fields : Fields) : Nat := fields.entries.length

def get? (fields : Fields) (name : String) : Option Value := Pairs.get? name fields.entries

/-- Writes a field. A name already there keeps its place. -/
def put (fields : Fields) (name : String) (value : Value) : Fields :=
  ⟨Pairs.put name value fields.entries, Pairs.nodup_put name value fields.distinct⟩

theorem get?_put (fields : Fields) (name other : String) (value : Value) :
    (fields.put name value).get? other = if other = name then some value else fields.get? other :=
  Pairs.get?_put name other value fields.entries

theorem names_put (fields : Fields) (name : String) (value : Value) :
    (fields.put name value).names =
      if name ∈ fields.names then fields.names else fields.names ++ [name] :=
  Pairs.names_put name value fields.entries

def erase (fields : Fields) (name : String) : Fields :=
  ⟨Pairs.erase name fields.entries, Pairs.nodup_erase name fields.distinct⟩

/-- Writes a field at the end, also when the name is already there. -/
def putLast (fields : Fields) (name : String) (value : Value) : Fields :=
  ⟨Pairs.erase name fields.entries ++ [(name, value)], by
    simp only [Pairs.names, List.map_append, List.map_cons, List.map_nil]
    refine List.nodup_append.2 ⟨Pairs.nodup_erase name fields.distinct, by simp, ?_⟩
    intro a ha b hb e
    rw [e, List.mem_singleton.1 hb] at ha
    exact Pairs.not_mem_names_erase name fields.entries ha⟩

def dropFirst (fields : Fields) : Fields :=
  ⟨fields.entries.drop 1, fields.distinct.sublist ((List.drop_sublist 1 _).map Prod.fst)⟩

def putAll (fields : Fields) (pairs : List (String × Value)) : Fields :=
  pairs.foldl (fun written (name, value) => written.put name value) fields

def ofList (pairs : List (String × Value)) : Fields := empty.putAll pairs

theorem putAll_append (fields : Fields) (xs ys : List (String × Value)) :
    fields.putAll (xs ++ ys) = (fields.putAll xs).putAll ys := by
  simp [putAll, List.foldl_append]

end Fields

end SpanExport

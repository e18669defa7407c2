import Mathlib.Data.List.Forall2

/-!
# Walking through lists

A list is walked through with a step that may fail at any of its items, or changed at one of them.
-/

namespace SpanExport

variable {ε α β : Type}

theorem isError_iff (x : Except ε α) : (∃ cause, x = .error cause) ↔ ¬ ∃ a, x = .ok a := by
  cases x <;> simp

theorem map_eq_ok {f : α → β} {x : Except ε α} {b : β} :
    f <$> x = .ok b ↔ ∃ a, x = .ok a ∧ f a = b := by
  cases x <;> simp [Functor.map, Except.map]

theorem bind_eq_ok {f : α → Except ε β} {x : Except ε α} {b : β} :
    x >>= f = .ok b ↔ ∃ a, x = .ok a ∧ f a = .ok b := by
  cases x <;> simp [Bind.bind, Except.bind]

theorem mapError_eq_ok {δ : Type} {f : ε → δ} {x : Except ε α} {a : α} :
    x.mapError f = .ok a ↔ x = .ok a := by
  cases x <;> simp [Except.mapError]

/-! ## Every item -/

section

variable {f : α → Except ε β} {l : List α}

theorem mapM_eq_ok {ys : List β} :
    l.mapM f = .ok ys ↔ List.Forall₂ (fun a b => f a = .ok b) l ys := by
  induction l generalizing ys with
  | nil => cases ys <;> simp [Pure.pure, Except.pure]
  | cons a l ih =>
    rw [List.mapM_cons]
    cases ha : f a with
    | error cause => cases ys <;> simp [ha, Bind.bind, Except.bind]
    | ok b =>
      cases hl : l.mapM f <;> cases ys <;>
        simp [ha, hl, ← ih, Bind.bind, Except.bind, Pure.pure, Except.pure]

theorem mapM_isOk_iff (f : α → Except ε β) (l : List α) :
    (∃ ys, l.mapM f = .ok ys) ↔ ∀ a ∈ l, ∃ b, f a = .ok b := by
  induction l with
  | nil => simp [Pure.pure, Except.pure]
  | cons a l ih =>
    rw [List.mapM_cons, List.forall_mem_cons, ← ih]
    cases f a <;> cases l.mapM f <;> simp [Bind.bind, Except.bind, Pure.pure, Except.pure]

theorem mem_of_mapM {ys : List β} (h : l.mapM f = .ok ys) {b : β} (hb : b ∈ ys) :
    ∃ a ∈ l, f a = .ok b := by
  induction mapM_eq_ok.1 h with
  | nil => cases hb
  | cons hab _ ih =>
    rcases List.mem_cons.1 hb with rfl | hb
    · exact ⟨_, List.mem_cons_self, hab⟩
    · obtain ⟨a, ha, hf⟩ := ih (mapM_eq_ok.2 ‹_›) hb
      exact ⟨a, List.mem_cons_of_mem _ ha, hf⟩

theorem exists_of_mapM_error {cause : ε} (h : l.mapM f = .error cause) :
    ∃ a ∈ l, f a = .error cause := by
  induction l with
  | nil => cases h
  | cons a l ih =>
    rw [List.mapM_cons] at h
    cases ha : f a with
    | error e =>
      rw [ha] at h
      cases h
      exact ⟨a, List.mem_cons_self, ha⟩
    | ok b =>
      cases hl : l.mapM f with
      | error e =>
        rw [ha, hl] at h
        cases h
        obtain ⟨a', ha', hf⟩ := ih hl
        exact ⟨a', List.mem_cons_of_mem _ ha', hf⟩
      | ok bs =>
        rw [ha, hl] at h
        cases h

end

/-! ## One item after the other -/

theorem foldlM_of_ok {f : β → α → Except ε β} {l : List α}
    (h : ∀ a ∈ l, ∀ b, ∃ c, f b a = .ok c) (b : β) : ∃ c, l.foldlM f b = .ok c := by
  induction l generalizing b with
  | nil => exact ⟨b, rfl⟩
  | cons a l ih =>
    rw [List.forall_mem_cons] at h
    obtain ⟨next, hnext⟩ := h.1 b
    rw [List.foldlM_cons, hnext]
    exact ih h.2 next

/-! ## One item alone -/

theorem modify_getD (f : α → α) (items : List α) (i : Nat) (default : α) :
    items.modify i (fun _ => f ((items[i]?).getD default)) = items.modify i f := by
  apply List.ext_getElem?
  intro k
  rw [List.getElem?_modify, List.getElem?_modify]
  by_cases hi : i = k
  · subst hi
    cases items[i]? <;> simp
  · simp [hi]

end SpanExport

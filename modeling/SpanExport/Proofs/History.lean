import SpanExport.Delivery.Call

/-!
# Histories

Calls made one after the other, each in the state that the one before left, whether or not that
one failed. What every call preserves, the history of them does. What a call may fail at and what
it may put into the journal is known from its parts.
-/

namespace SpanExport.Call

/-! ## What a call preserves -/

section

variable {σ α β : Type} {I : σ → Prop}

/-- The call leaves what holds before it, also where it fails. -/
def Preserves (I : σ → Prop) (x : Call σ α) : Prop := ∀ s, I s → I (x s).state

theorem preserves_pure (a : α) : Preserves I (Pure.pure a : Call σ α) := fun _ h => h

theorem Preserves.bind {x : Call σ α} {f : α → Call σ β} (hx : Preserves I x)
    (hf : ∀ a, Preserves I (f a)) : Preserves I (x >>= f) := by
  intro s hs
  have ht := hx s hs
  rcases bind_cases x f s with ⟨t, journal, failure, ho, hb⟩ | ⟨t, journal, a, ho, hb⟩
  · rw [ho] at ht
    rw [hb]
    exact ht
  · rw [ho] at ht
    rw [hb]
    exact hf a t ht

theorem Preserves.map (f : α → β) {x : Call σ α} (hx : Preserves I x) :
    Preserves I (f <$> x) := by
  intro s hs
  rw [map_apply]
  exact hx s hs

theorem ensuring_state (x : Call σ α) (after : Call σ Unit) (s : σ) :
    (ensuring x after s).state = (after (x s).state).state := by
  rw [ensuring_apply]

end

/-! ## Calls that never fail -/

section

variable {σ τ α β : Type}

def Succeeds (x : Call σ α) : Prop := ∀ s, ∃ a, (x s).result = .ok a

theorem Succeeds.bind {x : Call σ α} {f : α → Call σ β} (hx : Succeeds x)
    (hf : ∀ a, Succeeds (f a)) : Succeeds (x >>= f) := by
  intro s
  obtain ⟨a, ha⟩ := hx s
  rcases bind_cases x f s with ⟨t, journal, failure, ho, -⟩ | ⟨t, journal, b, -, hb⟩
  · simp [ho] at ha
  · obtain ⟨c, hc⟩ := hf b t
    exact ⟨c, by simp [hb, hc]⟩

theorem Succeeds.each {x : Call τ Unit} (hx : Succeeds x) : Succeeds (each x) := by
  intro ts
  induction ts with
  | nil => exact ⟨(), rfl⟩
  | cons t rest ih =>
    obtain ⟨u, hu⟩ := hx t
    rw [each_cons_of_ok hu]
    exact ih

end

/-! ## What a call puts into the journal -/

section

variable {σ τ α β : Type} {P : Entry → Prop}

/-- All that the call puts into the journal is of one kind, also where it fails. -/
def Emits (P : Entry → Prop) (x : Call σ α) : Prop := ∀ s, ∀ entry ∈ (x s).journal, P entry

theorem emits_nothing {x : Call σ α} (h : ∀ s, (x s).journal = []) : Emits P x := by
  intro s entry hentry
  rw [h] at hentry
  cases hentry

theorem emits_record {journal : Journal} (h : ∀ entry ∈ journal, P entry) :
    Emits P (record journal : Call σ Unit) := fun _ => h

theorem Emits.bind {x : Call σ α} {f : α → Call σ β} (hx : Emits P x)
    (hf : ∀ a, Emits P (f a)) : Emits P (x >>= f) := by
  intro s entry hentry
  have hfirst := hx s entry
  rcases bind_cases x f s with ⟨t, journal, failure, ho, hb⟩ | ⟨t, journal, a, ho, hb⟩
  · rw [hb] at hentry
    rw [ho] at hfirst
    exact hfirst hentry
  · rw [hb, Outcome.after_journal] at hentry
    rw [ho] at hfirst
    rcases List.mem_append.1 hentry with h | h
    · exact hfirst h
    · exact hf a t entry h

theorem Emits.attempt {x : Call σ α} (hx : Emits P x) : Emits P (attempt x) := hx

theorem Emits.within {x : Call τ α} (hx : Emits P x) (part : σ → τ) (put : τ → σ → σ) :
    Emits P (within part put x) := fun s => hx (part s)

theorem Emits.each {x : Call τ Unit} (hx : Emits P x) : Emits P (each x) := by
  intro ts
  induction ts with
  | nil => exact fun _ h => nomatch h
  | cons t rest ih =>
    cases hresult : (x t).result with
    | error failure =>
      rw [each_cons_of_error hresult]
      exact hx t
    | ok u =>
      rw [each_cons_of_ok hresult]
      exact List.forall_mem_append.2 ⟨hx t, ih⟩

theorem Emits.forM {items : List β} {f : β → Call σ Unit} (hf : ∀ item, Emits P (f item)) :
    Emits P (items.forM f) := by
  induction items with
  | nil => exact emits_nothing fun _ => rfl
  | cons item rest ih => exact (hf item).bind fun _ => ih

end

/-! ## Lists of calls -/

variable {σ α ι : Type} (make : ι → Call σ α)

def history : List ι → σ → List (Outcome σ α)
  | [], _ => []
  | call :: rest, s => make call s :: history rest (make call s).state

def stateAfter (calls : List ι) (s : σ) : σ :=
  calls.foldl (fun t call => (make call t).state) s

/-- All that the calls did. -/
def journalOf (calls : List ι) (s : σ) : Journal :=
  (history make calls s).flatMap Outcome.journal

/-- Each call is made in a state that it fits. -/
def Throughout (fits : σ → ι → Prop) : List ι → σ → Prop
  | [], _ => True
  | call :: rest, s => fits s call ∧ Throughout fits rest (make call s).state

instance throughoutDecidable {fits : σ → ι → Prop} [∀ s call, Decidable (fits s call)] :
    ∀ (calls : List ι) (s : σ), Decidable (Throughout make fits calls s)
  | [], _ => inferInstanceAs (Decidable True)
  | call :: rest, s =>
    have : Decidable (Throughout make fits rest (make call s).state) := throughoutDecidable rest _
    inferInstanceAs (Decidable (fits s call ∧ Throughout make fits rest (make call s).state))

theorem stateAfter_cons (call : ι) (calls : List ι) (s : σ) :
    stateAfter make (call :: calls) s = stateAfter make calls (make call s).state := rfl

theorem stateAfter_append (xs ys : List ι) (s : σ) :
    stateAfter make (xs ++ ys) s = stateAfter make ys (stateAfter make xs s) :=
  List.foldl_append

theorem stateAfter_preserves {I : σ → Prop} {calls : List ι}
    (h : ∀ call ∈ calls, Preserves I (make call)) {s : σ} (hs : I s) :
    I (stateAfter make calls s) := by
  induction calls generalizing s with
  | nil => exact hs
  | cons call rest ih =>
    rw [List.forall_mem_cons] at h
    exact ih h.2 (h.1 s hs)

theorem throughout_append {fits : σ → ι → Prop} {xs ys : List ι} {s : σ} :
    Throughout make fits (xs ++ ys) s ↔
      Throughout make fits xs s ∧ Throughout make fits ys (stateAfter make xs s) := by
  induction xs generalizing s with
  | nil => simp [Throughout, stateAfter]
  | cons call rest ih =>
    simp only [List.cons_append, Throughout, stateAfter_cons, ih, and_assoc]

theorem journalOf_cons (call : ι) (calls : List ι) (s : σ) :
    journalOf make (call :: calls) s =
      (make call s).journal ++ journalOf make calls (make call s).state := rfl

end SpanExport.Call

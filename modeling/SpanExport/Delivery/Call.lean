import SpanExport.Delivery.Failure
import SpanExport.Delivery.Journal

/-!
# Calls

A call changes a state, adds to the journal and ends with a result or a failure. What was done
before a failure stays done: `bind_of_ok` and `bind_of_error` say how two calls follow each
other, and `ensuring_apply` that the second one is made in any case.
-/

namespace SpanExport

structure Outcome (σ α : Type) where
  state : σ
  journal : Journal
  result : Except Failure α

namespace Outcome

variable {σ α : Type}

def after (journal : Journal) (o : Outcome σ α) : Outcome σ α :=
  { o with journal := journal ++ o.journal }

@[simp] theorem after_state (journal : Journal) (o : Outcome σ α) :
    (o.after journal).state = o.state := rfl

@[simp] theorem after_journal (journal : Journal) (o : Outcome σ α) :
    (o.after journal).journal = journal ++ o.journal := rfl

@[simp] theorem after_result (journal : Journal) (o : Outcome σ α) :
    (o.after journal).result = o.result := rfl

theorem after_nil (o : Outcome σ α) : o.after [] = o := rfl

end Outcome

def Call (σ α : Type) := σ → Outcome σ α

namespace Call

variable {σ τ α β : Type}

def pure (a : α) : Call σ α := fun s => ⟨s, [], .ok a⟩

/-- The second call takes up the state of the first, unless that failed. -/
def bind (x : Call σ α) (f : α → Call σ β) : Call σ β := fun s =>
  match x s with
  | ⟨s, journal, .ok a⟩ =>
    let next := f a s
    ⟨next.state, journal ++ next.journal, next.result⟩
  | ⟨s, journal, .error e⟩ => ⟨s, journal, .error e⟩

instance : Monad (Call σ) where
  pure := Call.pure
  bind := Call.bind

def get : Call σ σ := fun s => ⟨s, [], .ok s⟩

def modify (f : σ → σ) : Call σ Unit := fun s => ⟨f s, [], .ok ()⟩

def record (journal : Journal) : Call σ Unit := fun s => ⟨s, journal, .ok ()⟩

def log (level : LogLevel) (message : String) : Call σ Unit := record [.logged level message]

def ofExcept (result : Except Failure α) : Call σ α := fun s => ⟨s, [], result⟩

/-- The call as one that does not fail, with the way it ended as its result. -/
def attempt (x : Call σ α) : Call σ (Except Failure α) := fun s =>
  let outcome := x s
  ⟨outcome.state, outcome.journal, .ok outcome.result⟩

/-- The second call is made whether or not the first one fails; its own failure comes first. -/
def ensuring (x : Call σ α) (after : Call σ Unit) : Call σ α := do
  let result ← attempt x
  after
  ofExcept result

def within (part : σ → τ) (put : τ → σ → σ) (x : Call τ α) : Call σ α := fun s =>
  let outcome := x (part s)
  ⟨put outcome.state s, outcome.journal, outcome.result⟩

/-! ## Calls that were made -/

theorem pure_apply (a : α) (s : σ) : (Pure.pure a : Call σ α) s = ⟨s, [], .ok a⟩ := rfl

theorem bind_of_ok {x : Call σ α} {s t : σ} {journal : Journal} {a : α} (f : α → Call σ β)
    (h : x s = ⟨t, journal, .ok a⟩) : (x >>= f) s = (f a t).after journal := by
  simp [Bind.bind, Call.bind, h, Outcome.after]

theorem bind_of_error {x : Call σ α} {s t : σ} {journal : Journal} {e : Failure}
    (f : α → Call σ β) (h : x s = ⟨t, journal, .error e⟩) :
    (x >>= f) s = ⟨t, journal, .error e⟩ := by
  simp [Bind.bind, Call.bind, h]

theorem bind_cases (x : Call σ α) (f : α → Call σ β) (s : σ) :
    (∃ t journal e, x s = ⟨t, journal, .error e⟩ ∧ (x >>= f) s = ⟨t, journal, .error e⟩) ∨
      ∃ t journal a, x s = ⟨t, journal, .ok a⟩ ∧ (x >>= f) s = (f a t).after journal := by
  cases hx : x s with
  | mk t journal result =>
    cases result with
    | error e => exact .inl ⟨t, journal, e, rfl, bind_of_error f hx⟩
    | ok a => exact .inr ⟨t, journal, a, rfl, bind_of_ok f hx⟩

theorem attempt_apply (x : Call σ α) (s : σ) :
    attempt x s = ⟨(x s).state, (x s).journal, .ok (x s).result⟩ := rfl

theorem within_apply (part : σ → τ) (put : τ → σ → σ) (x : Call τ α) (s : σ) :
    within part put x s =
      ⟨put (x (part s)).state s, (x (part s)).journal, (x (part s)).result⟩ := rfl

theorem map_apply (f : α → β) (x : Call σ α) (s : σ) :
    (f <$> x) s = ⟨(x s).state, (x s).journal, (x s).result.map f⟩ := by
  cases hx : x s with
  | mk t journal result =>
    cases result <;> simp [Functor.map, Call.bind, Call.pure, hx, Except.map]

theorem pure_bind_apply (a : α) (f : α → Call σ β) (s : σ) :
    ((Pure.pure a : Call σ α) >>= f) s = f a s := by
  rw [bind_of_ok f (pure_apply a s), Outcome.after_nil]

theorem get_bind_apply (f : σ → Call σ β) (s : σ) : (get >>= f) s = f s s :=
  (bind_of_ok f rfl).trans (Outcome.after_nil _)

theorem modify_bind_apply (g : σ → σ) (f : Unit → Call σ β) (s : σ) :
    (modify g >>= f) s = f () (g s) :=
  (bind_of_ok f rfl).trans (Outcome.after_nil _)

theorem record_bind_apply (journal : Journal) (f : Unit → Call σ β) (s : σ) :
    (record journal >>= f) s = (f () s).after journal :=
  bind_of_ok f rfl

theorem log_bind_apply (level : LogLevel) (message : String) (f : Unit → Call σ β) (s : σ) :
    (log level message >>= f) s = (f () s).after [.logged level message] :=
  bind_of_ok f rfl

theorem attempt_bind_apply (x : Call σ α) (f : Except Failure α → Call σ β) (s : σ) :
    (attempt x >>= f) s = (f (x s).result (x s).state).after (x s).journal :=
  bind_of_ok f rfl

theorem ofExcept_ok_bind_apply (a : α) (f : α → Call σ β) (s : σ) :
    (ofExcept (.ok a) >>= f) s = f a s :=
  pure_bind_apply a f s

theorem ofExcept_error_bind_apply (e : Failure) (f : α → Call σ β) (s : σ) :
    (ofExcept (.error e) >>= f) s = ⟨s, [], .error e⟩ := rfl

theorem bind_assoc_apply {γ : Type} (x : Call σ α) (f : α → Call σ β) (g : β → Call σ γ) (s : σ) :
    (x >>= f >>= g) s = (x >>= fun a => f a >>= g) s := by
  cases hx : x s with
  | mk t journal result =>
    cases result with
    | error e => rw [bind_of_error _ (bind_of_error _ hx), bind_of_error _ hx]
    | ok a =>
      rw [bind_of_ok _ hx]
      cases hf : f a t with
      | mk u more result =>
        have hxf := bind_of_ok f hx
        rw [hf] at hxf
        cases result with
        | error e => rw [bind_of_error _ hxf, bind_of_error _ hf]; rfl
        | ok b => rw [bind_of_ok _ hxf, bind_of_ok _ hf]; simp [Outcome.after]

instance : LawfulMonad (Call σ) :=
  .mk' _
    (fun x => by
      funext s
      cases hx : x s with
      | mk t journal result =>
        rw [map_apply, hx]
        cases result <;> rfl)
    (fun a f => by funext s; exact pure_bind_apply a f s)
    (fun x f g => by funext s; exact bind_assoc_apply x f g s)

theorem ensuring_apply (x : Call σ α) (after : Call σ Unit) (s : σ) :
    ensuring x after s =
      ⟨(after (x s).state).state, (x s).journal ++ (after (x s).state).journal,
        match (after (x s).state).result with
        | .ok _ => (x s).result
        | .error e => .error e⟩ := by
  rw [ensuring, bind_of_ok _ (attempt_apply x s)]
  cases h : after (x s).state with
  | mk t journal result =>
    cases result with
    | ok u => simp [bind_of_ok _ h, ofExcept, Outcome.after]
    | error e => simp [bind_of_error _ h, Outcome.after]

/-! ## Several states -/

/-- The call on each of the states in turn, up to the first that fails. -/
def each (x : Call τ Unit) : Call (List τ) Unit
  | [] => ⟨[], [], .ok ()⟩
  | t :: ts =>
    let first := x t
    match first.result with
    | .error e => ⟨first.state :: ts, first.journal, .error e⟩
    | .ok () =>
      let rest := each x ts
      ⟨first.state :: rest.state, first.journal ++ rest.journal, rest.result⟩

theorem each_cons_of_error {x : Call τ Unit} {t : τ} {e : Failure} (h : (x t).result = .error e)
    (ts : List τ) : each x (t :: ts) = ⟨(x t).state :: ts, (x t).journal, .error e⟩ := by
  rw [each]
  simp only [h]

theorem each_cons_of_ok {x : Call τ Unit} {t : τ} {u : Unit} (h : (x t).result = .ok u)
    (ts : List τ) :
    each x (t :: ts) = ⟨(x t).state :: (each x ts).state, (x t).journal ++ (each x ts).journal,
      (each x ts).result⟩ := by
  rw [each]
  simp only [h]

end Call

end SpanExport

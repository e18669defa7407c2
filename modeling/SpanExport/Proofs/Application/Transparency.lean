import Mathlib.Logic.Function.Iterate
import SpanExport.Application.Lifespan
import SpanExport.Proofs.Tracing.Sessions

/-!
# Wrapped lifespans

A lifespan may be made to shut tracing down any number of times over. It then runs as it would
without that, and only after it has finished come the shutdowns, one for each time. To count them
the application is watched: a mark is left at each phase of its life.
-/

namespace SpanExport

/-- What is seen of the life of an application. -/
inductive Phase (σ : Type) where
  | entering
  | serving (state : σ)
  | exiting (failure : Option Failure)
  | shuttingDown

variable {α β σ : Type}

namespace Host

def watched (host : Host α) (phases : List (Phase σ)) : Host (α × List (Phase σ)) :=
  ⟨host.session, (host.app, phases)⟩

def unwatched (host : Host (α × List (Phase σ))) : Host α := ⟨host.session, host.app.1⟩

def phases (host : Host (α × List (Phase σ))) : List (Phase σ) := host.app.2

end Host

/-- The same outcome, with what was seen until then. -/
def Outcome.watched (o : Outcome (Host α) β) (phases : List (Phase σ)) :
    Outcome (Host (α × List (Phase σ))) β :=
  ⟨o.state.watched phases, o.journal, o.result⟩

/-- The call is made as a whole and seen as one phase. -/
def Call.seen (phase : Phase σ) (x : Call (Host α) β) : Call (Host (α × List (Phase σ))) β :=
  fun host => (x host.unwatched).watched (host.phases ++ [phase])

/-- The first call does what the second one does, and these phases are seen of it. -/
def Call.Shows (x : Call (Host (α × List (Phase σ))) β) (y : Call (Host α) β)
    (phases : Host α → List (Phase σ)) : Prop :=
  ∀ host, x host = (y host.unwatched).watched (host.phases ++ phases host.unwatched)

namespace Call

theorem Shows.ensuring {x : Call (Host (α × List (Phase σ))) β} {y : Call (Host α) β}
    {phases : Host α → List (Phase σ)} (h : x.Shows y phases) (phase : Phase σ)
    (after : Call (Host α) Unit) :
    (Call.ensuring x (seen phase after)).Shows (Call.ensuring y after)
      fun host => phases host ++ [phase] := by
  intro host
  rw [ensuring_apply, ensuring_apply, h host, ← List.append_assoc]
  rfl

end Call

namespace Lifespan

open Call

def watched (l : Lifespan α σ) : Lifespan (α × List (Phase σ)) σ where
  enter := seen .entering l.enter
  exit failure := seen (.exiting failure) (l.exit failure)

def watchedBody (body : σ → Call (Host α) Unit) (state : σ) :
    Call (Host (α × List (Phase σ))) Unit :=
  seen (.serving state) (body state)

/-- What the end is told of how serving went. -/
def failure? : Except Failure Unit → Option Failure
  | .ok _ => none
  | .error failure => some failure

/-- The phases of a run. Nothing comes after a start that fails. -/
def phases (l : Lifespan α σ) (body : σ → Call (Host α) Unit) (host : Host α) : List (Phase σ) :=
  match l.enter host with
  | ⟨_, _, .error _⟩ => [.entering]
  | ⟨started, _, .ok state⟩ =>
    [.entering, .serving state, .exiting (failure? (body state started).result)]

variable {l : Lifespan α σ} {body : σ → Call (Host α) Unit} {host started : Host α}
  {journal : Journal}

theorem run_of_error {failure : Failure} (h : l.enter host = ⟨started, journal, .error failure⟩) :
    l.run body host = ⟨started, journal, .error failure⟩ :=
  bind_of_error _ h

theorem run_of_ok {state : σ} (h : l.enter host = ⟨started, journal, .ok state⟩) :
    l.run body host =
      ((l.exit (failure? (body state started).result) (body state started).state).after
        (body state started).journal).after journal := by
  unfold run
  rw [bind_of_ok _ h, attempt_bind_apply]
  cases (body state started).result <;> rfl

theorem run_watched (l : Lifespan α σ) (body : σ → Call (Host α) Unit) :
    (l.watched.run (watchedBody body)).Shows (l.run body) (l.phases body) := by
  intro host
  have hseen : l.watched.enter host =
      (l.enter host.unwatched).watched (host.phases ++ [.entering]) := rfl
  unfold phases
  cases henter : l.enter host.unwatched with
  | mk started journal result =>
    rw [henter] at hseen
    cases result with
    | error failure =>
      rw [run_of_error henter, run_of_error hseen]
      rfl
    | ok state =>
      rw [run_of_ok henter, run_of_ok hseen]
      have hmarks : host.phases ++
          [.entering, .serving state, .exiting (failure? (body state started).result)] =
          ((host.phases ++ [.entering]) ++ [.serving state]) ++
            [.exiting (failure? (body state started).result)] := by simp
      rw [hmarks]
      rfl

/-! ## What comes after -/

theorem enter_followedBy_of_ok {state : σ} (h : l.enter host = ⟨started, journal, .ok state⟩)
    (after : Call (Host α) Unit) :
    (l.followedBy after).enter host = ⟨started, journal, .ok state⟩ := by
  unfold followedBy
  simp only
  rw [attempt_bind_apply, h]
  simp [Outcome.after, pure_apply]

theorem enter_followedBy_of_error {failure : Failure}
    (h : l.enter host = ⟨started, journal, .error failure⟩) (after : Call (Host α) Unit) :
    (l.followedBy after).enter host =
      ⟨(after started).state, journal ++ (after started).journal,
        .error ((failure? (after started).result).getD failure)⟩ := by
  unfold followedBy
  simp only
  rw [attempt_bind_apply, h]
  simp only [ensuring_apply, Call.ofExcept, Outcome.after, List.nil_append]
  cases (after started).result <;> rfl

theorem run_followedBy (l : Lifespan α σ) (body : σ → Call (Host α) Unit)
    (after : Call (Host α) Unit) :
    (l.followedBy after).run body = ensuring (l.run body) after := by
  funext host
  cases henter : l.enter host with
  | mk started journal result =>
    cases result with
    | error failure =>
      rw [run_of_error (enter_followedBy_of_error henter after), ensuring_apply,
        run_of_error henter]
      cases (after started).result <;> rfl
    | ok state =>
      rw [run_of_ok (enter_followedBy_of_ok henter after), ensuring_apply, run_of_ok henter]
      unfold followedBy
      simp only [ensuring_apply, Outcome.after, List.append_assoc]

theorem run_iterate (l : Lifespan α σ) (body : σ → Call (Host α) Unit) (after : Call (Host α) Unit) (n : Nat) :
    ((followedBy · after)^[n] l).run body = (Call.ensuring · after)^[n] (l.run body) := by
  induction n with
  | zero => rfl
  | succ n ih => rw [Function.iterate_succ_apply', run_followedBy, ih, Function.iterate_succ_apply']

theorem iterate_ensuring_shows {x : Call (Host (α × List (Phase σ))) β} {y : Call (Host α) β}
    {phases : Host α → List (Phase σ)} (h : x.Shows y phases) (phase : Phase σ)
    (after : Call (Host α) Unit) (n : Nat) :
    ((ensuring · (seen phase after))^[n] x).Shows ((ensuring · after)^[n] y)
      fun host => phases host ++ List.replicate n phase := by
  induction n with
  | zero => simpa using h
  | succ n ih =>
    rw [Function.iterate_succ_apply', Function.iterate_succ_apply']
    simp only [List.replicate_succ', ← List.append_assoc]
    exact ih.ensuring phase after

/-! ## Shutdowns -/

theorem endTracing_of_ok (h : (Session.shutdown host.session).result = .ok ()) :
    endTracing host = ⟨{ host with session := (Session.shutdown host.session).state },
      (Session.shutdown host.session).journal ++
        [.logged .info "Honeycomb tracing shut down with the application"], .ok ()⟩ := by
  have htracing : Host.tracing Session.shutdown host =
      ⟨{ host with session := (Session.shutdown host.session).state },
        (Session.shutdown host.session).journal, .ok ()⟩ := by
    rw [← h]
    rfl
  unfold endTracing
  rw [bind_of_ok _ htracing]
  rfl

theorem iterate_endTracing {x : Call (Host α) β}
    (h : (Session.shutdown (x host).state.session).result = .ok ()) (n : Nat) :
    let closed := Session.shutdown (x host).state.session
    (ensuring · endTracing)^[n + 1] x host =
      ⟨{ (x host).state with session := closed.state }, (x host).journal ++ closed.journal ++
        List.replicate (n + 1) (.logged .info "Honeycomb tracing shut down with the application"),
        (x host).result⟩ := by
  intro closed
  have hcurrent : closed.state.current = none := Session.shutdown_current h
  induction n with
  | zero =>
    rw [Function.iterate_one, ensuring_apply, endTracing_of_ok h]
    simp [closed]
  | succ n ih =>
    have hidle := Session.shutdown_of_none hcurrent
    rw [Function.iterate_succ_apply', ensuring_apply, ih]
    rw [endTracing_of_ok (by rw [hidle]), hidle]
    simp [List.replicate_succ']

/-! ## The wrapped lifespan -/

/-- However often a lifespan is made to shut tracing down, it starts, serves and ends as it did,
and then comes one shutdown for each time, also when something failed. Unless the shutdown fails
itself, the run ends as it did, tracing is ended, and nothing else is changed. -/
theorem withShutdown_transparent (l : Lifespan α σ) (body : σ → Call (Host α) Unit) (n : Nat)
    (host : Host α) :
    let inner := l.run body host
    let wrapped := (withShutdown^[n] l).run body host
    let closed := Session.shutdown inner.state.session
    ((followedBy · (seen .shuttingDown endTracing))^[n] l.watched).run (watchedBody body)
        (host.watched []) =
      wrapped.watched (l.phases body host ++ List.replicate n .shuttingDown) ∧
    (closed.result = .ok () → 0 < n →
      wrapped = ⟨{ inner.state with session := closed.state }, inner.journal ++ closed.journal ++
        List.replicate n (.logged .info "Honeycomb tracing shut down with the application"),
        inner.result⟩ ∧
      wrapped.state.session.isConfigured = false) := by
  intro inner wrapped closed
  have hwrapped : wrapped = (ensuring · endTracing)^[n] (l.run body) host :=
    congrFun (run_iterate l body endTracing n) host
  constructor
  · rw [run_iterate, hwrapped]
    exact iterate_ensuring_shows (run_watched l body) .shuttingDown endTracing n (host.watched [])
  · intro hclosed hn
    obtain ⟨m, rfl⟩ := Nat.exists_eq_succ_of_ne_zero (Nat.ne_of_gt hn)
    have hdone := hwrapped.trans (iterate_endTracing hclosed m)
    refine ⟨hdone, ?_⟩
    rw [hdone, Session.isConfigured, Session.shutdown_current hclosed]
    rfl

def crash : Failure := .application "RuntimeError" "the worker is gone"

/-- A lifespan that counts its ends and swallows every failure. -/
def forgiving : Lifespan Nat String where
  enter := Pure.pure "ready"
  exit _ := .modify fun host => { host with app := host.app + 1 }

def tracedHost : Host Nat where
  session := { Session.blankSession with
    providers := [{
      sampler := Sampling.Sampler.always.policy, limits := {}, isDisabled := false
      serviceName := none, processors := [{ kind := .simple, sink := .memory 1 [] false }] }]
    current := some 0 }
  app := 0

/-- The failure of the body is swallowed once, and the three shutdowns come after that. -/
theorem withShutdown_forgiving :
    let body : String → Call (Host Nat) Unit := fun _ => .ofExcept (.error crash)
    let wrapped := (withShutdown^[3] forgiving).run body tracedHost
    let seen := ((followedBy · (seen .shuttingDown endTracing))^[3] forgiving.watched).run
      (watchedBody body) (tracedHost.watched [])
    (wrapped.result = .ok () ∧ wrapped.state.app = 1 ∧
      wrapped.state.session.isConfigured = false) ∧
    seen.state.phases = [.entering, .serving "ready", .exiting (some crash), .shuttingDown,
      .shuttingDown, .shuttingDown] := by
  intro body wrapped seen
  obtain ⟨hseen, hwrapped⟩ := withShutdown_transparent forgiving body 3 tracedHost
  obtain ⟨hdone, hended⟩ := hwrapped rfl (by decide)
  have hresult : wrapped.result = .ok () := congrArg Outcome.result hdone
  have happ : wrapped.state.app = 1 := congrArg (fun o => o.state.app) hdone
  exact ⟨⟨hresult, happ, hended⟩, congrArg (fun o => o.state.phases) hseen⟩

end Lifespan

end SpanExport

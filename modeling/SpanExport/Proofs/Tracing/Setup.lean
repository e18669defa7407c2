import SpanExport.Proofs.Tracing.Settings
import SpanExport.Tracing.Session

/-!
# Setting up

Making a client or an exporter changes no state, and what is asked of clients on the way depends
on the backend alone. So a setup comes to one of three things: the configuration or the environment
is refused and nothing was done, no exporter can be made, or there is a new current provider.
-/

namespace SpanExport

/-! ## Clients and exporters -/

namespace Backend

/-- What a call leaves that makes something and changes no state. -/
structure Makes {σ α : Type} (requests : List ClientRequest) (calls : List (Nat × ClientCall))
    (result : Except Failure α) (s : σ) (o : Outcome σ α) : Prop where
  state : o.state = s
  requests : o.journal.requests = requests
  clientCalls : o.journal.clientCalls = calls
  sent : o.journal.sent = []
  result : o.result = result

variable {σ : Type}

theorem Makes.bind {α β : Type} {requests : List ClientRequest} {calls : List (Nat × ClientCall)}
    {made : Except Failure α} {s : σ} {x : Call σ α} {f : α → Call σ β} {g : α → β}
    (hx : Makes requests calls made s (x s)) (hf : ∀ a, Makes [] [] (.ok (g a)) s (f a s)) :
    Makes requests calls (made.map g) s ((x >>= f) s) := by
  obtain ⟨hstate, hrequests, hcalls, hsent, hresult⟩ := hx
  rcases Call.bind_cases x f s with ⟨t, journal, failure, ho, hb⟩ | ⟨t, journal, a, ho, hb⟩
  · rw [ho] at hstate hrequests hcalls hsent hresult
    rw [hb, ← hresult]
    exact ⟨hstate, hrequests, hcalls, hsent, rfl⟩
  · rw [ho] at hstate hrequests hcalls hsent hresult
    have ht : t = s := hstate
    rw [hb, ← hresult, ht]
    refine ⟨(hf a).state, ?_, ?_, ?_, (hf a).result⟩
    · rw [Outcome.after_journal, Journal.requests_append, (hf a).requests, hrequests,
        List.append_nil]
    · rw [Outcome.after_journal, Journal.clientCalls_append, (hf a).clientCalls, hcalls,
        List.append_nil]
    · rw [Outcome.after_journal, Journal.sent_append, (hf a).sent, hsent, List.append_nil]

/-- A client whose dataset is the one that is written to under the key. -/
def newClient (number : Nat) (target : Target) (fields : Fields) (transmission : Transmission) :
    Except Failure Client :=
  ((WriteKey.dataset target.writekey target.dataset).mapError .target).map fun dataset =>
    Client.make number { target with dataset } fields transmission

theorem newClient_eq_ok {number : Nat} {target : Target} {fields : Fields}
    {transmission : Transmission} {client : Client}
    (h : newClient number target fields transmission = .ok client) :
    client.number = number ∧ client.transmission = transmission ∧ client.isOpen = true := by
  unfold newClient at h
  cases hd : WriteKey.dataset target.writekey target.dataset with
  | error cause =>
    rw [hd] at h
    cases h
  | ok dataset =>
    rw [hd] at h
    cases h
    exact ⟨rfl, rfl, rfl⟩

theorem connect_makes (number : Nat) (target : Target) (fields : Fields)
    (transmission : Transmission) (s : σ) :
    Makes [] [(number, .opened)] (newClient number target fields transmission) s
      (connect number target fields transmission s) := by
  unfold connect newClient
  rw [Call.record_bind_apply]
  cases WriteKey.dataset target.writekey target.dataset with
  | error cause => exact ⟨rfl, rfl, rfl, rfl, rfl⟩
  | ok dataset => exact ⟨rfl, rfl, rfl, rfl, rfl⟩

/-- The client of a caller, or one that is made for the configuration. -/
def client (backend : Backend) (number : Nat) (c : Configuration) :
    Option Client → Except Failure Client
  | some own => .ok own
  | none =>
    match backend.createError with
    | some message => .error (.client message)
    | none => newClient number ⟨c.writekey, c.dataset, c.apiHost, .int 1⟩ .empty backend.transmission

theorem client_eq_ok {backend : Backend} {number : Nat} {c : Configuration}
    {client : Option Client} {made : Client} (h : backend.client number c client = .ok made) :
    client = some made ∨ client = none ∧ backend.createError = none ∧ made.number = number ∧
      made.transmission = backend.transmission ∧ made.isOpen = true := by
  cases client with
  | some own =>
    cases h
    exact .inl rfl
  | none =>
    unfold Backend.client at h
    cases he : backend.createError with
    | some message =>
      rw [he] at h
      cases h
    | none =>
      rw [he] at h
      exact .inr ⟨rfl, rfl, newClient_eq_ok h⟩

theorem made_eq_ok {backend : Backend} {number : Nat} {c : Configuration} {made : Client}
    (h : backend.client number c none = .ok made) :
    backend.createError = none ∧ made.number = number ∧
      made.transmission = backend.transmission ∧ made.isOpen = true := by
  rcases client_eq_ok h with hown | ⟨-, hmade⟩
  · cases hown
  · exact hmade

/-- A client is asked for unless there is one. -/
def requests (c : Configuration) : Option Client → List ClientRequest
  | some _ => []
  | none => [⟨c.writekey, c.dataset, c.apiHost, userAgent, c.debug⟩]

/-- A client is opened unless there is one or none can be made. -/
def openings (backend : Backend) (number : Nat) : Option Client → List (Nat × ClientCall)
  | some _ => []
  | none => if backend.createError.isSome then [] else [(number, .opened)]

theorem create_makes (backend : Backend) (number : Nat) (c : Configuration) (s : σ) :
    Makes (requests c none) (backend.openings number none) (backend.client number c none) s
      (create backend number c s) := by
  unfold create openings client
  rw [Call.record_bind_apply]
  cases backend.createError with
  | some message => exact ⟨rfl, rfl, rfl, rfl, rfl⟩
  | none =>
    have hm := connect_makes number ⟨c.writekey, c.dataset, c.apiHost, .int 1⟩ .empty
      backend.transmission s
    exact ⟨hm.state, congrArg _ hm.requests, hm.clientCalls, hm.sent, hm.result⟩

theorem createExporter_makes (backend : Backend) (number : Nat) (c : Configuration)
    (client : Option Client) (s : σ) :
    Makes (requests c client) (backend.openings number client)
      ((backend.client number c client).map fun made =>
        Exporter.make made c.sampleFraction c.serviceName) s
      (createExporter backend number c client s) := by
  unfold createExporter
  cases client with
  | some own =>
    have hown : Makes [] [] (.ok own) s ((pure own : Call σ Client) s) :=
      ⟨rfl, rfl, rfl, rfl, rfl⟩
    exact Makes.bind hown fun _ => ⟨rfl, rfl, rfl, rfl, rfl⟩
  | none =>
    exact Makes.bind (create_makes backend number c s) fun _ => ⟨rfl, rfl, rfl, rfl, rfl⟩

end Backend

/-! ## Configurations -/

theorem Configuration.eq_of_check {c d : Configuration} (h : c.check = .ok d) : d = c := by
  unfold check at h
  split at h
  · cases h
  · split at h
    · cases h
    · split at h
      · cases h
      · split at h
        · cases h
        · cases h
          rfl

theorem Configuration.parts_of_check {c : Configuration} (h : c.check = .ok c) :
    c.dataset.isTruthy = true ∧ c.apiHost.isTruthy = true ∧
      c.sampleFraction.quantity?.isSome = true := by
  unfold check Value.comparand at h
  cases hdataset : c.dataset.isTruthy with
  | false => simp [hdataset] at h
  | true =>
    cases hq : c.sampleFraction.quantity? with
    | none => simp [hdataset, hq] at h
    | some q =>
      cases hhost : c.apiHost.isTruthy with
      | true => exact ⟨rfl, rfl, rfl⟩
      | false =>
        simp only [hdataset, hq, hhost] at h
        split at h
        · cases h
        · split at h <;> cases h

theorem Configuration.sampler_of_check {c : Configuration} (h : c.check = .ok c) :
    ∃ sampler, Sampling.Sampler.ofValue c.sampleFraction = .ok sampler := by
  obtain ⟨q, hq⟩ := Option.isSome_iff_exists.1 (parts_of_check h).2.2
  unfold Sampling.Sampler.ofValue Value.comparand
  rw [hq]
  exact ⟨_, rfl⟩

/-! ## Settings -/

namespace Session

variable {s : Session} {c : Configuration}

theorem settingsFor_eq_ok {settings : ProviderSettings} :
    s.settingsFor c = .ok settings ↔
      c.check = .ok c ∧ ∃ sampler, Sampling.Sampler.ofValue c.sampleFraction = .ok sampler ∧
        s.sdk.settings s.environment sampler = .ok settings := by
  simp only [settingsFor, bind_eq_ok, mapError_eq_ok]
  constructor
  · rintro ⟨d, hc, hsampler⟩
    obtain rfl := Configuration.eq_of_check hc
    exact ⟨hc, hsampler⟩
  · rintro ⟨hc, hsampler⟩
    exact ⟨c, hc, hsampler⟩

theorem settingsFor_isOk (hsdk : s.sdk.Accepts s.environment) (hc : c.check = .ok c) :
    ∃ settings, s.settingsFor c = .ok settings := by
  obtain ⟨sampler, hsampler⟩ := Configuration.sampler_of_check hc
  obtain ⟨settings, hsettings⟩ := hsdk.settings_isOk sampler
  exact ⟨settings, settingsFor_eq_ok.2 ⟨hc, sampler, hsampler, hsettings⟩⟩

/-! ## Setups -/

def withProvider (s : Session) (c : Configuration) (kind : ProcessorKind)
    (settings : ProviderSettings) (exporter : Exporter) (memories : List Nat) : Session :=
  (install {
    toProviderSettings := settings
    serviceName := s.resourceName c.serviceName
    processors := { kind, sink := .exporter exporter } ::
      memories.map fun n => { kind, sink := .memory n [] false } }
    { s with clients := s.clients + 1 }).state

theorem setup_cases (c : Configuration) (kind : ProcessorKind) (client : Option Client)
    (memories : List Nat) (s : Session) :
    (∃ failure, s.settingsFor c = .error failure ∧
        setup c kind client memories s = ⟨s, [], .error failure⟩) ∨
      ∃ settings, s.settingsFor c = .ok settings ∧ ∃ journal : Journal,
        journal.requests = Backend.requests c client ∧
        journal.clientCalls = s.backend.openings s.clients client ∧ journal.sent = [] ∧
        ((∃ failure, s.backend.client s.clients c client = .error failure ∧
            setup c kind client memories s =
              ⟨{ s with clients := s.clients + 1 }, journal, .error failure⟩) ∨
          ∃ made, s.backend.client s.clients c client = .ok made ∧
            setup c kind client memories s =
              ⟨s.withProvider c kind settings
                (Exporter.make made c.sampleFraction c.serviceName) memories, journal,
                .ok s.providers.length⟩) := by
  unfold setup
  rw [Call.get_bind_apply]
  cases hsettings : s.settingsFor c with
  | error failure => exact .inl ⟨failure, rfl, rfl⟩
  | ok settings =>
    refine .inr ⟨settings, rfl, ?_⟩
    rw [Call.ofExcept_ok_bind_apply, Call.modify_bind_apply]
    -- Making the exporter changes no state, so only whether there is a client decides.
    obtain ⟨hstate, hrequests, hcalls, hsent, hresult⟩ := Backend.createExporter_makes s.backend
      s.clients c client { s with clients := s.clients + 1 }
    cases hm : s.backend.createExporter s.clients c client { s with clients := s.clients + 1 } with
    | mk t journal result =>
      rw [hm] at hstate hrequests hcalls hsent hresult
      simp only at hstate hrequests hcalls hsent hresult
      subst hstate hresult
      cases hmade : s.backend.client s.clients c client with
      | error failure =>
        rw [hmade] at hm
        exact ⟨journal, hrequests, hcalls, hsent,
          .inl ⟨failure, rfl, Call.bind_of_error _ hm⟩⟩
      | ok made =>
        rw [hmade] at hm
        rw [Call.bind_of_ok _ hm]
        refine ⟨_, ?_, ?_, ?_, .inr ⟨made, rfl, rfl⟩⟩
        · rw [← hrequests]
          exact (Journal.requests_append ..).trans (List.append_nil _)
        · rw [← hcalls]
          exact (Journal.clientCalls_append ..).trans (List.append_nil _)
        · rw [← hsent]
          exact (Journal.sent_append ..).trans (List.append_nil _)

end Session

end SpanExport

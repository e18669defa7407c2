import SpanExport.Proofs.Delivery.LastWriter
import SpanExport.Proofs.Delivery.Lifecycle
import SpanExport.Proofs.Sampling.Reciprocal
import SpanExport.Proofs.Tracing.Setup

/-!
# Weights

All events that an exporter ever sends have one target, and with it one rate: the rate of the
fraction, or that of the client if the fraction has none. So no event stands for less than one
unless the client said so.
-/

namespace SpanExport

/-! ## One target -/

namespace Exporter

theorem target_of_receive {e : Exporter} {handed : Nat} {span : Span} {event : Event}
    (h : event ∈ (e.receive handed (e.offers span)).events) : e.target = .ok event.target := by
  obtain ⟨i, hi⟩ := List.mem_iff_getElem?.1 h
  exact target_of_mem_offers (List.mem_of_getElem? (receive_getElem? hi))

theorem target_of_contributions {e : Exporter} {handed : Nat} {spans : List Span} {event : Event}
    (h : event ∈ (e.contributions handed spans).flatten) : e.target = .ok event.target := by
  induction spans generalizing handed with
  | nil => cases h
  | cons span rest ih =>
    rw [contributions, List.flatten_cons, List.mem_append] at h
    exact h.elim target_of_receive ih

theorem events_eq_map {journal : Journal} {number : Nat} {events : List Event}
    (h : journal.sent = events.map (number, ·)) : journal.events = events := by
  rw [Journal.events, h, List.map_map]
  exact List.map_id events

theorem events_forceFlush (e : Exporter) : (forceFlush e).journal.events = [] := by
  cases h : e.isClosed with
  | true => rw [forceFlush_closed h]; rfl
  | false => rw [Journal.events, (forceFlush_open h).2.2]; rfl

theorem events_close (e : Exporter) : (close e).journal.events = [] := by
  cases h : e.isClosed with
  | true => rw [close_closed h]; rfl
  | false => rw [Journal.events, (close_open h).2.2.1]; rfl

end Exporter

namespace ExporterCall

theorem target_of_events {e : Exporter} {call : ExporterCall} {event : Event}
    (h : event ∈ (call.make e).journal.events) : e.target = .ok event.target := by
  cases call with
  | exportSpans spans =>
    rw [make, Call.map_apply] at h
    cases hclosed : e.isClosed with
    | true =>
      rw [Exporter.exportSpans_closed hclosed] at h
      cases h
    | false =>
      rw [Exporter.events_eq_map (Exporter.exportSpans_exported hclosed spans).sent] at h
      exact Exporter.target_of_contributions h
  | exportSpan span =>
    rw [make, Call.map_apply, Exporter.events_eq_map (Exporter.exportSpan_offered e span).sent] at h
    exact Exporter.target_of_receive h
  | forceFlush =>
    rw [make, Call.map_apply, Exporter.events_forceFlush] at h
    cases h
  | close =>
    rw [make, Call.map_apply, Exporter.events_close] at h
    cases h
  | shutdown =>
    rw [make, Call.map_apply, Exporter.shutdown, Exporter.events_close] at h
    cases h

theorem make_target (e : Exporter) (call : ExporterCall) :
    (call.make e).state.target = e.target := by
  cases hclosed : e.isClosed with
  | true =>
    obtain ⟨⟨n, hn⟩, -⟩ := make_closed hclosed call
    rw [hn]
    rfl
  | false =>
    cases hcloses : call.closes with
    | true =>
      rw [(make_closing hclosed hcloses).1]
      rfl
    | false =>
      obtain ⟨⟨n, hn⟩, -⟩ := make_open hclosed hcloses
      rw [hn]
      rfl

theorem target_of_journalOf {e : Exporter} {calls : List ExporterCall} {event : Event}
    (h : event ∈ (Call.journalOf make calls e).events) : e.target = .ok event.target := by
  induction calls generalizing e with
  | nil => cases h
  | cons call rest ih =>
    rw [Call.journalOf_cons, Journal.events_append, List.mem_append] at h
    rcases h with hnow | hlater
    · exact target_of_events hnow
    · rw [← make_target e call]
      exact ih hlater

end ExporterCall

/-! ## Rates that are at least one -/

/-- The value is a number that is not below one. -/
def Value.IsAtLeastOne : Value → Prop
  | .bool b => b = true
  | .int n => 1 ≤ n
  | .float x => x = .infinite false ∨ ∃ a, x.toRat? = some a ∧ 1 ≤ a
  | _ => False

namespace Sampling

open Binary64

theorem one_le_of_rate {fraction : Value} {q : Quantity} (hq : fraction.quantity? = some q)
    (hunit : q.inUnitInterval = true) {r : Int} (hrate : rate fraction = .ok (some r)) : 1 ≤ r := by
  have hdivisor : rate fraction = rate q.toValue := by
    obtain rfl : fraction = q.toValue := by cases fraction <;> cases hq <;> rfl
    rfl
  rw [hdivisor] at hrate
  cases q with
  | bool b =>
    have hcases : ∀ b, rate (.bool b) = .ok (if b then some 1 else none) := by decide +kernel
    rw [Quantity.toValue, hcases] at hrate
    cases b <;> cases hrate
    exact le_rfl
  | int n =>
    have hzero : rate (.int 0) = .ok none := by decide +kernel
    have hone : rate (.int 1) = .ok (some 1) := by decide +kernel
    simp only [Quantity.inUnitInterval, Bool.or_eq_true, beq_iff_eq] at hunit
    rcases hunit with rfl | rfl
    · cases hzero.symm.trans hrate
    · cases hone.symm.trans hrate
      exact le_rfl
  | float x =>
    obtain ⟨a, ha, hlow, hhigh⟩ := x.inUnitInterval_iff.1 hunit
    rcases rate_cases ha hlow hhigh with ⟨-, hnone⟩ | ⟨-, y, b, r', -, -, -, hone, hsome⟩
    · cases hnone.symm.trans hrate
    · cases hsome.symm.trans hrate
      exact hone

end Sampling

theorem Configuration.fraction_of_check {c : Configuration} (h : c.check = .ok c) :
    ∃ q, c.sampleFraction.quantity? = some q ∧ q.inUnitInterval = true := by
  obtain ⟨q, hq⟩ := Option.isSome_iff_exists.1 (parts_of_check h).2.2
  have hcompare : c.sampleFraction.comparand "<=" = .ok q := by simp [Value.comparand, hq]
  refine ⟨q, hq, ?_⟩
  unfold check at h
  split at h
  · cases h
  · cases hunit : q.inUnitInterval with
    | true => rfl
    | false =>
      simp only [hcompare, hunit] at h
      cases h

theorem Backend.sampleRate_of_client {backend : Backend} {number : Nat} {c : Configuration}
    {client : Option Client} {made : Client} (h : backend.client number c client = .ok made) :
    client = some made ∨ made.target.sampleRate = .int 1 := by
  cases client with
  | some own =>
    cases h
    exact .inl rfl
  | none =>
    unfold Backend.client newClient at h
    cases hcreate : backend.createError with
    | some message =>
      rw [hcreate] at h
      cases h
    | none =>
      rw [hcreate] at h
      cases hdataset : WriteKey.dataset c.writekey c.dataset with
      | error cause =>
        simp only [hdataset] at h
        cases h
      | ok dataset =>
        simp only [hdataset] at h
        cases h
        exact .inr rfl

theorem Backend.target_of_createExporter {σ : Type} {backend : Backend} {number : Nat}
    {c : Configuration} {client : Option Client} {s : σ} {e : Exporter} (hcheck : c.check = .ok c)
    (hclient : ∀ own, client = some own → own.target.sampleRate.IsAtLeastOne)
    (h : (backend.createExporter number c client s).result = .ok e) {target : Target}
    (htarget : e.target = .ok target) : target.sampleRate.IsAtLeastOne := by
  rw [(createExporter_makes backend number c client s).result] at h
  cases hmade : backend.client number c client with
  | error failure =>
    rw [hmade] at h
    cases h
  | ok made =>
    rw [hmade] at h
    cases h
    obtain ⟨rate, hrate, rfl⟩ := Exporter.target_eq_ok htarget
    obtain ⟨q, hq, hunit⟩ := Configuration.fraction_of_check hcheck
    cases rate with
    | some r => exact Sampling.one_le_of_rate hq hunit hrate
    | none =>
      rcases sampleRate_of_client hmade with hown | hone
      · exact hclient made hown
      · change made.target.sampleRate.IsAtLeastOne
        rw [hone]
        exact le_refl (1 : Int)

/-! ## Weights -/

namespace Sampling

open Binary64

/-- A fraction has no rate just when it is at most `2 ^ -1024`. Every other one has the integer
nearest to the number nearest to its inverse, and that is at least one. The number nearest to one
over `n` has the rate `n`, up to `2 ^ 50`. So whatever calls are made on an exporter whose
configuration is admitted, it sends no event with a rate below one unless its client has one. -/
theorem rate_inverts :
    (∀ (x : Binary64) (a : ℚ), x.toRat? = some a → 0 ≤ a → a ≤ 1 →
      (rate (.float x) = .ok none ↔ a ≤ 1 / 2 ^ 1024) ∧
      (1 / 2 ^ 1024 < a → ∃ (y : Binary64) (b : ℚ) (r : ℤ), rate (.float x) = .ok (some r) ∧
        1 ≤ r ∧ y.toRat? = some b ∧ y.IsNearest (1 / a) ∧ IsNearestInteger r b)) ∧
    (∀ n : Nat, 1 ≤ n → n ≤ 2 ^ 50 → (∃ x : Binary64, x.IsNearest (1 / n)) ∧
      ∀ x : Binary64, x.IsNearest (1 / n) → rate (.float x) = .ok (some n)) ∧
    ∀ (σ : Type) (s : σ) (backend : Backend) (number : Nat) (c : Configuration)
      (client : Option Client) (e : Exporter), c.check = .ok c →
      (∀ own, client = some own → own.target.sampleRate.IsAtLeastOne) →
      (backend.createExporter number c client s).result = .ok e →
      ∀ (calls : List ExporterCall), ∀ event ∈ (Call.journalOf ExporterCall.make calls e).events,
        event.target.sampleRate.IsAtLeastOne := by
  refine ⟨fun x a hx hlow hhigh => ?_, fun n hn hle =>
    ⟨⟨_, ofRatio_isNearest_inverse hn⟩, fun x => rate_of_isNearest hn hle⟩, ?_⟩
  · rcases rate_cases hx hlow hhigh with ⟨hsmall, hnone⟩ |
      ⟨hlarge, y, b, r, hy, hb, hinteger, hone, hsome⟩
    · exact ⟨iff_of_true hnone hsmall, fun hlarge => absurd hsmall (not_le.2 hlarge)⟩
    · rw [hsome]
      exact ⟨iff_of_false (by simp) (not_le.2 hlarge),
        fun _ => ⟨y, b, r, rfl, hone, hb, hy, hinteger⟩⟩
  · intro σ s backend number c client e hcheck hclient he calls event hevent
    have htarget := ExporterCall.target_of_journalOf hevent
    exact Backend.target_of_createExporter hcheck hclient he htarget

/-- The number nearest to one third. -/
def third : Binary64 := .finite false 6004799503160661 1020 (by decide)

/-- The least number whose inverse is finite. -/
def leastInverted : Binary64 := .finite false (Nat.pow 2 50 + 1) 0 (by decide)

def thirdConfiguration : Configuration where
  writekey := .text "key"
  dataset := .text "traces"
  sampleFraction := .float third

def thirdCalls : List ExporterCall := [.exportSpans Exporter.mixedBatch, .close]

/-- One in three, the least fraction with a rate, and an exporter that samples one in three. -/
theorem rate_third :
    third.IsNearest (1 / 3) ∧ rate (.float third) = .ok (some 3) ∧
    (∃ a, leastInverted.toRat? = some a ∧ 0 ≤ a ∧ a ≤ 1 ∧ 1 / 2 ^ 1024 < a ∧
      ∃ (y : Binary64) (b : ℚ) (r : ℤ), rate (.float leastInverted) = .ok (some r) ∧
        y.toRat? = some b ∧ y.IsNearest (1 / a) ∧ IsNearestInteger r b) ∧
    thirdConfiguration.check = .ok thirdConfiguration ∧
    Exporter.refusingThird.client.target.sampleRate.IsAtLeastOne ∧
    ∃ e, (Backend.createExporter {} 7 thirdConfiguration (some Exporter.refusingThird.client)
        ()).result = .ok e ∧
      (Call.journalOf ExporterCall.make thirdCalls e).events.length = 3 ∧
      ∀ event ∈ (Call.journalOf ExporterCall.make thirdCalls e).events,
        event.target.sampleRate.IsAtLeastOne := by
  obtain ⟨hfraction, hwhole, hevents⟩ := rate_inverts
  have hthird : third.IsNearest (1 / (3 : Nat)) := by
    have hround : ofRatio false 1 3 = third := by decide +kernel
    rw [← hround]
    exact ofRatio_isNearest_inverse (by decide)
  obtain ⟨a, ha, hlow, hhigh⟩ := leastInverted.inUnitInterval_iff.1 (by decide +kernel)
  have hunits : a * unitsPerOne = (2 ^ 50 + 1 : Nat) := by
    obtain rfl := Option.some.inj ha
    rw [div_mul_cancel₀ _ unitsPerOne_cast_pos.ne']
    simp [signed, units]
  have hlarge : 1 / 2 ^ 1024 < a := (two_pow_lt_iff hunits).2 (by decide)
  obtain ⟨y, b, r, hrate, -, hb, hy, hinteger⟩ := (hfraction _ a ha hlow hhigh).2 hlarge
  have hcheck : thirdConfiguration.check = .ok thirdConfiguration := by
    have hunit : third.inUnitInterval = true := by decide +kernel
    simp [Configuration.check, Value.comparand, Value.quantity?, Quantity.inUnitInterval,
      Value.isTruthy, defaultApiHost, thirdConfiguration, hunit]
  have hclient : Exporter.refusingThird.client.target.sampleRate.IsAtLeastOne := le_refl (1 : Int)
  refine ⟨by exact_mod_cast hthird, (hwhole 3 (by decide) (by decide)).2 third hthird,
    ⟨a, ha, hlow, hhigh, hlarge, y, b, r, hrate, hb, hy, hinteger⟩, hcheck, hclient, _, rfl,
    ?_, hevents Unit () {} 7 _ (some Exporter.refusingThird.client) _ hcheck ?_ rfl _⟩
  · decide +kernel
  · rintro _ ⟨⟩
    exact hclient

end Sampling

end SpanExport

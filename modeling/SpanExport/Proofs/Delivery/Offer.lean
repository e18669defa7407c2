import SpanExport.Delivery.Exporter
import SpanExport.Proofs.Traversal

/-!
# Offers

What an exporter makes of a span is a list of offers to its client: the event of the span, then
one for each note, or the reason why there is none. They are made in this order up to the first
that fails. `exportSpan_offered` says that exporting a span does just that.
-/

namespace SpanExport

/-- It refuses no event, and it closes when it is asked to. -/
def Transmission.IsReliable (t : Transmission) : Prop :=
  (∀ k event, t.refusal k event = none) ∧ t.closeError = none

/-! ## Conversions -/

abbrev Offer := Except Failure Event

namespace Exporter

def convertSpan (e : Exporter) (span : Span) : Offer := do
  let fixed ← (SpanEvent.ofSpan span).mapError .fixed
  e.spanEvent fixed span

def convertNote (e : Exporter) (span : Span) (note : Note) : Offer := do
  let fixed ← (NoteEvent.ofNote span note).mapError .fixed
  e.noteEvent fixed note

def offers (e : Exporter) (span : Span) : List Offer :=
  e.convertSpan span :: span.notes.map (e.convertNote span)

/-! ## Reception -/

/-- An event with an incomplete target, or for a closed client, is dropped. -/
def delivers (e : Exporter) : Bool := e.builder.target.isComplete && e.client.isOpen

end Exporter

/-- What became of some offers: the events that were taken, how many the transmission was handed
by then, and whether none of the offers failed. -/
structure Reception where
  events : List Event
  handed : Nat
  isWhole : Bool

/-- Offers made one after the other, up to the first that fails. -/
def Exporter.receive (e : Exporter) : Nat → List Offer → Reception
  | handed, [] => ⟨[], handed, true⟩
  | handed, .error _ :: _ => ⟨[], handed, false⟩
  | handed, .ok event :: rest =>
    if e.delivers then
      match e.client.transmission.refusal handed event with
      | some _ => ⟨[], handed + 1, false⟩
      | none =>
        let later := e.receive (handed + 1) rest
        { later with events := event :: later.events }
    else e.receive handed rest

namespace Exporter

theorem receive_comes_first {e : Exporter} (h : e.delivers = true) (handed : Nat)
    (offers : List Offer) : (e.receive handed offers).events.map .ok <+: offers := by
  induction offers generalizing handed with
  | nil => simp [receive]
  | cons offer rest ih =>
    cases offer with
    | error failure => simp [receive]
    | ok event =>
      simp only [receive, h, if_true]
      cases e.client.transmission.refusal handed event with
      | some message => simp
      | none => simpa using ih (handed + 1)

theorem receive_of_not_delivers {e : Exporter} (h : e.delivers = false) (handed : Nat)
    (offers : List Offer) :
    (e.receive handed offers).events = [] ∧ (e.receive handed offers).handed = handed := by
  induction offers with
  | nil => simp [receive]
  | cons offer rest ih =>
    cases offer with
    | error failure => simp [receive]
    | ok event => simpa [receive, h] using ih

theorem receive_getElem? {e : Exporter} {handed i : Nat} {offers : List Offer} {event : Event}
    (h : (e.receive handed offers).events[i]? = some event) :
    offers[i]? = some (.ok event) := by
  cases hd : e.delivers with
  | false => simp [(receive_of_not_delivers hd handed offers).1] at h
  | true =>
    obtain ⟨rest, hrest⟩ := receive_comes_first hd handed offers
    obtain ⟨hi, he⟩ := List.getElem?_eq_some_iff.1 h
    rw [← hrest, List.getElem?_append_left (by simpa using hi), List.getElem?_map, h]
    rfl

theorem length_receive {e : Exporter} (h : e.delivers = true) {handed : Nat}
    {offers : List Offer} (hw : (e.receive handed offers).isWhole = true) :
    (e.receive handed offers).events.length = offers.length := by
  induction offers generalizing handed with
  | nil => simp [receive]
  | cons offer rest ih =>
    cases offer with
    | error failure => simp [receive] at hw
    | ok event =>
      simp only [receive, h, if_true] at hw ⊢
      cases hr : e.client.transmission.refusal handed event with
      | some message => simp [hr] at hw
      | none =>
        simp only [hr] at hw ⊢
        simp [ih hw]

theorem receive_all {e : Exporter} (hd : e.delivers = true)
    (hr : ∀ k event, e.client.transmission.refusal k event = none) {offers : List Offer}
    (h : ∀ offer ∈ offers, ∃ event, offer = .ok event) (handed : Nat) :
    (e.receive handed offers).events.map .ok = offers := by
  induction offers generalizing handed with
  | nil => rfl
  | cons offer rest ih =>
    rw [List.forall_mem_cons] at h
    obtain ⟨⟨event, rfl⟩, hrest⟩ := h
    simp only [receive, hd, if_true, hr, List.map_cons, ih hrest]

theorem receive_cons (e : Exporter) (handed : Nat) (offer : Offer) (rest : List Offer) :
    e.receive handed (offer :: rest) =
      if (e.receive handed [offer]).isWhole then
        let later := e.receive (e.receive handed [offer]).handed rest
        { later with events := (e.receive handed [offer]).events ++ later.events }
      else e.receive handed [offer] := by
  cases offer with
  | error failure => simp [receive]
  | ok event =>
    cases h : e.delivers with
    | false => simp [receive, h]
    | true => cases hr : e.client.transmission.refusal handed event <;> simp [receive, h, hr]

theorem receive_events_eq {e : Exporter}
    (hr : ∀ k event, e.client.transmission.refusal k event = none) (m n : Nat)
    (offers : List Offer) :
    (e.receive m offers).events = (e.receive n offers).events := by
  induction offers generalizing m n with
  | nil => rfl
  | cons offer rest ih =>
    cases offer with
    | error failure => rfl
    | ok event =>
      simp only [receive, hr]
      split
      · simp [ih (m + 1) (n + 1)]
      · exact ih m n

/-! ## The exporter after some sends -/

/-- The exporter once its transmission was handed so many events. -/
def handing (e : Exporter) (handed : Nat) : Exporter :=
  { e with client := { e.client with handed } }

@[simp] theorem handing_number (e : Exporter) (n : Nat) :
    (e.handing n).client.number = e.client.number := rfl
@[simp] theorem handing_transmission (e : Exporter) (n : Nat) :
    (e.handing n).client.transmission = e.client.transmission := rfl
@[simp] theorem handing_handed (e : Exporter) (n : Nat) : (e.handing n).client.handed = n := rfl
@[simp] theorem handing_delivers (e : Exporter) (n : Nat) :
    (e.handing n).delivers = e.delivers := rfl
@[simp] theorem handing_offers (e : Exporter) (n : Nat) (span : Span) :
    (e.handing n).offers span = e.offers span := rfl
@[simp] theorem handing_handing (e : Exporter) (m n : Nat) :
    (e.handing m).handing n = e.handing n := rfl
@[simp] theorem handing_self (e : Exporter) : e.handing e.client.handed = e := rfl

@[simp]
theorem handing_receive (e : Exporter) (n handed : Nat) (offers : List Offer) :
    (e.handing n).receive handed offers = e.receive handed offers := by
  induction offers generalizing handed with
  | nil => rfl
  | cons offer rest ih =>
    cases offer with
    | error failure => rfl
    | ok event => simp only [receive, handing_delivers, handing_transmission, ih]

/-! ## Offering -/

/-- What a call leaves if it makes these offers and nothing else. -/
structure Offered (e : Exporter) (offers : List Offer) (o : Outcome Exporter Unit) : Prop where
  state : o.state = e.handing (e.receive e.client.handed offers).handed
  sent : o.journal.sent = (e.receive e.client.handed offers).events.map (e.client.number, ·)
  clientCalls : o.journal.clientCalls = []
  result : o.result.isOk = (e.receive e.client.handed offers).isWhole

namespace Offered

variable {e : Exporter} {offer : Offer} {offers : List Offer}

theorem nil : Offered e [] ⟨e, [], .ok ()⟩ := by
  constructor <;> simp [receive, Except.isOk, Except.toBool]

theorem failed (failure : Failure) :
    Offered e (.error failure :: offers) ⟨e, [], .error failure⟩ := by
  constructor <;> simp [receive, Except.isOk, Except.toBool]

theorem log (level : LogLevel) (message : String) : Offered e [] (Call.log level message e) := by
  constructor <;> simp [receive, Call.log, Call.record, Except.isOk, Except.toBool]

theorem after_log {o : Outcome Exporter Unit} (h : Offered e offers o) (level : LogLevel)
    (message : String) : Offered e offers (o.after [.logged level message]) :=
  ⟨h.state, by simpa using h.sent, by simpa using h.clientCalls, h.result⟩

theorem congr {others : List Offer} {o : Outcome Exporter Unit} (h : Offered e offers o)
    (heq : e.receive e.client.handed others = e.receive e.client.handed offers) :
    Offered e others o := by
  refine ⟨?_, ?_, h.clientCalls, ?_⟩
  · rw [heq]
    exact h.state
  · rw [heq]
    exact h.sent
  · rw [heq]
    exact h.result

theorem bind {x y : Call Exporter Unit} (hx : Offered e [offer] (x e))
    (hy : ∀ n, Offered (e.handing n) offers (y (e.handing n))) :
    Offered e (offer :: offers) ((do x; y) e) := by
  have hc := receive_cons e e.client.handed offer offers
  change Offered e (offer :: offers) ((x >>= fun _ => y) e)
  rcases Call.bind_cases x (fun _ => y) e with
    ⟨t, journal, failure, ho, hb⟩ | ⟨t, journal, u, ho, hb⟩
  · rw [ho] at hx
    have hw : (e.receive e.client.handed [offer]).isWhole = false := hx.result.symm
    rw [if_neg (by simp [hw])] at hc
    rw [hb]
    exact hx.congr hc
  · rw [ho] at hx
    have hw : (e.receive e.client.handed [offer]).isWhole = true := hx.result.symm
    have ht : t = e.handing (e.receive e.client.handed [offer]).handed := hx.state
    rw [if_pos hw] at hc
    obtain ⟨lstate, lsent, lcalls, lresult⟩ := hy (e.receive e.client.handed [offer]).handed
    rw [hb, ht]
    simp only [handing_receive, handing_handed, handing_handing, handing_number] at *
    refine ⟨by rw [hc]; exact lstate, ?_, ?_, by rw [hc]; exact lresult⟩
    · rw [hc, Outcome.after_journal, Journal.sent_append, hx.sent, lsent, List.map_append]
    · rw [Outcome.after_journal, Journal.clientCalls_append, hx.clientCalls, lcalls]
      rfl

end Offered

/-! ## Spans and notes -/

theorem isComplete_target {e : Exporter} {target : Target} (h : e.target = .ok target) :
    target.isComplete = e.builder.target.isComplete := by
  unfold Exporter.target at h
  split at h
  · cases h
  · cases h; rfl
  · cases h; rfl

theorem convertSpan_of_fixed (e : Exporter) {span : Span} {fixed : SpanEvent}
    (h : SpanEvent.ofSpan span = .ok fixed) : e.convertSpan span = e.spanEvent fixed span := by
  simp [convertSpan, h, Except.mapError, Bind.bind, Except.bind]

theorem convertSpan_of_fixedError (e : Exporter) {span : Span} {cause : FixedError}
    (h : SpanEvent.ofSpan span = .error cause) : e.convertSpan span = .error (.fixed cause) := by
  simp [convertSpan, h, Except.mapError, Bind.bind, Except.bind]

theorem convertSpan_eq_ok {e : Exporter} {span : Span} {event : Event} :
    e.convertSpan span = .ok event ↔
      ∃ fixed target attributes status, SpanEvent.ofSpan span = .ok fixed ∧ e.target = .ok target ∧
        attributePairs span.attributes = .ok attributes ∧ statusPairs span.status = .ok status ∧
        event = e.event target fixed.timestamp (fixed.toPairs ++ attributes ++ status) := by
  unfold convertSpan spanEvent
  cases SpanEvent.ofSpan span <;> cases e.target <;> cases attributePairs span.attributes <;>
    cases statusPairs span.status <;>
    simp [Except.mapError, Bind.bind, Except.bind, Pure.pure, Except.pure, eq_comm]

theorem convertNote_eq_ok {e : Exporter} {span : Span} {note : Note} {event : Event} :
    e.convertNote span note = .ok event ↔
      ∃ fixed target attributes, NoteEvent.ofNote span note = .ok fixed ∧ e.target = .ok target ∧
        attributePairs note.attributes = .ok attributes ∧
        event = e.event target fixed.timestamp (fixed.toPairs ++ attributes) := by
  unfold convertNote noteEvent
  cases NoteEvent.ofNote span note <;> cases e.target <;> cases attributePairs note.attributes <;>
    simp [Except.mapError, Bind.bind, Except.bind, Pure.pure, Except.pure, eq_comm]

theorem target_of_mem_offers {e : Exporter} {span : Span} {event : Event}
    (h : .ok event ∈ e.offers span) : e.target = .ok event.target := by
  rcases List.mem_cons.1 h with h | h
  · obtain ⟨_, target, _, _, _, ht, _, _, rfl⟩ := convertSpan_eq_ok.1 h.symm
    exact ht
  · obtain ⟨note, _, h⟩ := List.mem_map.1 h
    obtain ⟨_, target, _, _, ht, _, rfl⟩ := convertNote_eq_ok.1 h
    exact ht

theorem isComplete_of_mem_offers {e : Exporter} {span : Span} {event : Event}
    (h : .ok event ∈ e.offers span) : event.target.isComplete = e.builder.target.isComplete :=
  isComplete_target (target_of_mem_offers h)

theorem send_offered {e : Exporter} {event : Event}
    (h : event.target.isComplete = e.builder.target.isComplete) :
    Offered e [.ok event] (onClient (Client.send event) e) := by
  have hd : (event.target.isComplete = true ∧ e.client.isOpen = true) ↔ e.delivers = true := by
    simp [delivers, h]
  rw [onClient, Call.within_apply, Client.send]
  by_cases hb : e.delivers = true
  · rw [if_pos (hd.2 hb)]
    cases hr : e.client.transmission.refusal e.client.handed event with
    | some message =>
      constructor <;> simp [receive, hb, hr, handing, Except.isOk, Except.toBool]
    | none => constructor <;> simp [receive, hb, hr, handing, Except.isOk, Except.toBool]
  · rw [if_neg (mt hd.1 hb)]
    constructor <;> simp [receive, hb, Except.isOk, Except.toBool]

theorem exportNote_offered (e : Exporter) (span : Span) (note : Note)
    (hm : e.convertNote span note ∈ e.offers span) :
    Offered e [e.convertNote span note] (exportNote span note e) := by
  unfold exportNote
  cases hf : NoteEvent.ofNote span note with
  | error cause =>
    have hc : e.convertNote span note = .error (.fixed cause) := by
      simp [convertNote, hf, Except.mapError, Bind.bind, Except.bind]
    rw [hc, Except.mapError, Call.ofExcept_error_bind_apply]
    exact Offered.failed _
  | ok fixed =>
    have hc : e.convertNote span note = e.noteEvent fixed note := by
      simp [convertNote, hf, Except.mapError, Bind.bind, Except.bind]
    rw [Except.mapError, Call.ofExcept_ok_bind_apply, Call.get_bind_apply]
    rw [hc] at hm ⊢
    cases hev : e.noteEvent fixed note with
    | error failure =>
      rw [Call.ofExcept_error_bind_apply]
      exact Offered.failed failure
    | ok event =>
      rw [Call.ofExcept_ok_bind_apply]
      exact Offered.bind (send_offered (isComplete_of_mem_offers (hev ▸ hm)))
        fun n => Offered.log _ _

theorem exportNotes_offered (span : Span) (notes : List Note) (e : Exporter)
    (h : ∀ note ∈ notes, e.convertNote span note ∈ e.offers span) :
    Offered e (notes.map (e.convertNote span)) (notes.forM (exportNote span) e) := by
  induction notes generalizing e with
  | nil => exact Offered.nil
  | cons note notes ih =>
    change Offered e (e.convertNote span note :: notes.map (e.convertNote span))
      ((do exportNote span note; notes.forM (exportNote span)) e)
    exact Offered.bind (exportNote_offered e span note (h note List.mem_cons_self))
      (fun n => ih (e.handing n) fun other ho => h other (List.mem_cons_of_mem _ ho))

theorem exportSpan_cases (e : Exporter) (span : Span) :
    (∃ failure, e.convertSpan span = .error failure ∧
        exportSpan span e = ⟨e, [], .error failure⟩) ∨
      ∃ event message, e.convertSpan span = .ok event ∧
        exportSpan span e = (do
          onClient (Client.send event)
          .log .debug message
          span.notes.forM (exportNote span) : Call Exporter Unit) e := by
  unfold exportSpan
  cases hf : SpanEvent.ofSpan span with
  | error cause =>
    rw [Except.mapError, Call.ofExcept_error_bind_apply]
    exact .inl ⟨_, e.convertSpan_of_fixedError hf, rfl⟩
  | ok fixed =>
    rw [Except.mapError, Call.ofExcept_ok_bind_apply, Call.get_bind_apply,
      e.convertSpan_of_fixed hf]
    cases e.spanEvent fixed span with
    | error failure => exact .inl ⟨failure, rfl, Call.ofExcept_error_bind_apply ..⟩
    | ok event =>
      rw [Call.ofExcept_ok_bind_apply]
      exact .inr ⟨event, _, rfl, rfl⟩

/-- Exporting a span makes the offers of the span, in their order, up to the first that fails. -/
theorem exportSpan_offered (e : Exporter) (span : Span) :
    Offered e (e.offers span) (exportSpan span e) := by
  have hnotes : ∀ n, Offered (e.handing n) (span.notes.map (e.convertNote span))
      (span.notes.forM (exportNote span) (e.handing n)) := fun n =>
    exportNotes_offered span span.notes (e.handing n) fun note hn =>
      List.mem_cons_of_mem _ (List.mem_map_of_mem hn)
  rcases exportSpan_cases e span with ⟨failure, hc, hexport⟩ | ⟨event, message, hc, hexport⟩
  · rw [hexport, offers, hc]
    exact Offered.failed failure
  · have hm : .ok event ∈ e.offers span := hc ▸ List.mem_cons_self
    rw [hexport, offers, hc]
    refine Offered.bind (send_offered (isComplete_of_mem_offers hm)) fun n => ?_
    rw [Call.log_bind_apply]
    exact (hnotes n).after_log _ _

end Exporter

end SpanExport

import SpanExport.Proofs.Delivery.Offer

/-!
# Batches

A batch records what its spans contribute, one after the other. What a span contributes is the
first part of what it offers, up to the offer that fails, so a failure takes nothing away from
the other spans. If nothing is refused, a batch may be cut anywhere, and a span that cannot be
converted may be left out.
-/

namespace SpanExport

/-! ## What cannot be converted -/

/-- The fixed part, the value of an attribute, or the code of the status cannot be converted. -/
def Span.IsUnconvertible (span : Span) : Prop :=
  (∃ cause, SpanEvent.ofSpan span = .error cause) ∨
    (∃ entry ∈ span.attributes.entries, ∃ cause, entry.2.toField = .error cause) ∨
    ∃ status cause, span.status = some status ∧ status.code.statusInteger = .error cause

def Note.IsUnconvertible (span : Span) (note : Note) : Prop :=
  (∃ cause, NoteEvent.ofNote span note = .error cause) ∨
    ∃ entry ∈ note.attributes.entries, ∃ cause, entry.2.toField = .error cause

/-- The span and all of its notes can be converted. -/
def Span.IsConvertible (span : Span) : Prop :=
  ¬ span.IsUnconvertible ∧ ∀ note ∈ span.notes, ¬ note.IsUnconvertible span

namespace Exporter

theorem attributePairs_isError (attributes : Fields) :
    (∃ failure, attributePairs attributes = .error failure) ↔
      ∃ entry ∈ attributes.entries, ∃ cause, entry.2.toField = .error cause := by
  rw [isError_iff, attributePairs, mapM_isOk_iff]
  simp only [not_forall, exists_prop]
  refine exists_congr fun entry => and_congr_right fun _ => ?_
  rw [← isError_iff]
  cases entry.2.toField with
  | error cause => exact ⟨fun _ => ⟨cause, rfl⟩, fun _ => ⟨.text cause, rfl⟩⟩
  | ok v => simp

theorem statusPairs_isError (status : Option Status) :
    (∃ failure, statusPairs status = .error failure) ↔
      ∃ s cause, status = some s ∧ s.code.statusInteger = .error cause := by
  cases status with
  | none => simp [statusPairs]
  | some s => cases h : s.code.statusInteger <;> simp [statusPairs, h]

theorem target_isOk {e : Exporter} (h : e.sampleFraction.quantity?.isSome) :
    ∃ target, e.target = .ok target := by
  obtain ⟨q, hq⟩ := Option.isSome_iff_exists.1 h
  have hd : e.sampleFraction.divisor = .ok q := by simp [Value.divisor, hq]
  unfold Exporter.target Sampling.rate
  rw [hd]
  cases hr : Sampling.rate? q <;> simp [Functor.map, Except.map, hr]

theorem convertSpan_isError {e : Exporter} (h : e.sampleFraction.quantity?.isSome)
    (span : Span) : (∃ failure, e.convertSpan span = .error failure) ↔ span.IsUnconvertible := by
  obtain ⟨target, ht⟩ := target_isOk h
  rw [Span.IsUnconvertible, ← attributePairs_isError, ← statusPairs_isError]
  unfold convertSpan spanEvent
  cases SpanEvent.ofSpan span <;> cases attributePairs span.attributes <;>
    cases statusPairs span.status <;>
    simp [ht, Except.mapError, Bind.bind, Except.bind, Pure.pure, Except.pure]

theorem convertNote_isError {e : Exporter} (h : e.sampleFraction.quantity?.isSome)
    (span : Span) (note : Note) :
    (∃ failure, e.convertNote span note = .error failure) ↔ note.IsUnconvertible span := by
  obtain ⟨target, ht⟩ := target_isOk h
  rw [Note.IsUnconvertible, ← attributePairs_isError]
  unfold convertNote noteEvent
  cases NoteEvent.ofNote span note <;> cases attributePairs note.attributes <;>
    simp [ht, Except.mapError, Bind.bind, Except.bind, Pure.pure, Except.pure]

theorem offers_of_convertible {e : Exporter} (h : e.sampleFraction.quantity?.isSome)
    {span : Span} (hs : span.IsConvertible) :
    ∀ offer ∈ e.offers span, ∃ event, offer = .ok event := by
  have hok : ∀ {offer : Offer}, ¬ (∃ failure, offer = .error failure) →
      ∃ event, offer = .ok event := fun hno => Classical.not_not.1 (mt (isError_iff _).2 hno)
  unfold offers
  rw [List.forall_mem_cons, List.forall_mem_map]
  refine ⟨hok (mt (convertSpan_isError h span).1 hs.1), fun note hnote => ?_⟩
  exact hok (mt (convertNote_isError h span note).1 (hs.2 note hnote))

/-- What an exporter records of a span if nothing is refused: the event of the span and those of
its notes, up to the first that cannot be made. -/
def records (e : Exporter) (span : Span) : List (Nat × Event) :=
  (e.receive 0 (e.offers span)).events.map (e.client.number, ·)

theorem records_whole {e : Exporter} (hd : e.delivers = true)
    (hr : ∀ k event, e.client.transmission.refusal k event = none)
    (hnum : e.sampleFraction.quantity?.isSome) {span : Span} (hs : span.IsConvertible) :
    ∃ events : List Event, events.map .ok = e.offers span ∧
      e.records span = events.map (e.client.number, ·) :=
  ⟨_, receive_all hd hr (offers_of_convertible hnum hs) 0, rfl⟩

/-! ## Contributions -/

/-- What each of the spans contributes, after so many events were handed over before. -/
def contributions (e : Exporter) : Nat → List Span → List (List Event)
  | _, [] => []
  | handed, span :: rest =>
    (e.receive handed (e.offers span)).events ::
      e.contributions (e.receive handed (e.offers span)).handed rest

/-- How many events were handed over once these spans were exported as well. -/
def handedAfter (e : Exporter) (handed : Nat) (spans : List Span) : Nat :=
  spans.foldl (fun n span => (e.receive n (e.offers span)).handed) handed

/-- The events come first among the offers, and if an offer is left then the next one failed:
there was no event, or it was refused. -/
structure IsContribution (e : Exporter) (handed : Nat) (offers : List Offer)
    (events : List Event) : Prop where
  first : events.map .ok <+: offers
  stop : ∀ offer, offers[events.length]? = some offer →
    (∃ failure, offer = .error failure) ∨
      ∃ event message, offer = .ok event ∧
        e.client.transmission.refusal (handed + events.length) event = some message

theorem receive_isContribution {e : Exporter} (h : e.delivers = true) (handed : Nat)
    (offers : List Offer) :
    e.IsContribution handed offers (e.receive handed offers).events := by
  refine ⟨receive_comes_first h handed offers, ?_⟩
  induction offers generalizing handed with
  | nil => simp
  | cons offer rest ih =>
    cases offer with
    | error failure => simp [receive]
    | ok event =>
      simp only [receive, h, if_true]
      cases hr : e.client.transmission.refusal handed event with
      | some message => simp [hr]
      | none =>
        intro offer ho
        simp only [List.length_cons, List.getElem?_cons_succ] at ho
        rcases ih (handed + 1) offer ho with hf | ⟨other, message, rfl, hm⟩
        · exact .inl hf
        · refine .inr ⟨other, message, rfl, ?_⟩
          rw [List.length_cons, ← hm]
          congr 1
          omega

theorem contributions_forall₂ {e : Exporter} (h : e.delivers = true) (handed : Nat)
    (spans : List Span) :
    List.Forall₂ (fun span events => ∃ n, e.IsContribution n (e.offers span) events) spans
      (e.contributions handed spans) := by
  induction spans generalizing handed with
  | nil => exact .nil
  | cons span rest ih => exact .cons ⟨handed, receive_isContribution h handed _⟩ (ih _)

theorem contributions_of_not_delivers {e : Exporter} (h : e.delivers = false) (handed : Nat)
    (spans : List Span) : (e.contributions handed spans).flatten = [] := by
  induction spans generalizing handed with
  | nil => rfl
  | cons span rest ih =>
    simp [contributions, receive_of_not_delivers h, ih]

theorem contributions_append (e : Exporter) (handed : Nat) (xs ys : List Span) :
    e.contributions handed (xs ++ ys) =
      e.contributions handed xs ++ e.contributions (e.handedAfter handed xs) ys := by
  induction xs generalizing handed with
  | nil => rfl
  | cons span rest ih => simp [contributions, handedAfter, ih]

theorem contributions_eq_map {e : Exporter}
    (hr : ∀ k event, e.client.transmission.refusal k event = none) (handed : Nat)
    (spans : List Span) :
    e.contributions handed spans = spans.map fun span => (e.receive 0 (e.offers span)).events := by
  induction spans generalizing handed with
  | nil => rfl
  | cons span rest ih =>
    rw [contributions, ih, receive_events_eq hr handed 0, List.map_cons]

@[simp]
theorem handing_contributions (e : Exporter) (n handed : Nat) (spans : List Span) :
    (e.handing n).contributions handed spans = e.contributions handed spans := by
  induction spans generalizing handed with
  | nil => rfl
  | cons span rest ih => simp only [contributions, handing_receive, handing_offers, ih]

theorem handedAfter_append (e : Exporter) (handed : Nat) (xs ys : List Span) :
    e.handedAfter handed (xs ++ ys) = e.handedAfter (e.handedAfter handed xs) ys := by
  simp [handedAfter]

@[simp]
theorem handing_handedAfter (e : Exporter) (n handed : Nat) (spans : List Span) :
    (e.handing n).handedAfter handed spans = e.handedAfter handed spans := by
  simp [handedAfter]

/-! ## Exporting a batch -/

/-- What a call leaves that exports these spans. It does not fail. -/
structure Exported {α : Type} (e : Exporter) (spans : List Span) (a : α)
    (o : Outcome Exporter α) : Prop where
  state : o.state = e.handing (e.handedAfter e.client.handed spans)
  sent : o.journal.sent =
    (e.contributions e.client.handed spans).flatten.map (e.client.number, ·)
  clientCalls : o.journal.clientCalls = []
  result : o.result = .ok a

theorem Exported.nil {α : Type} (e : Exporter) (a : α) : Exported e [] a ⟨e, [], .ok a⟩ :=
  ⟨rfl, rfl, rfl, rfl⟩

theorem Exported.bind {α β : Type} {e : Exporter} {xs ys : List Span} {a : α} {b : β}
    {x : Call Exporter α} {f : α → Call Exporter β} (hx : Exported e xs a (x e))
    (hf : ∀ n, Exported (e.handing n) ys b (f a (e.handing n))) :
    Exported e (xs ++ ys) b ((x >>= f) e) := by
  obtain ⟨hstate, hsent, hcalls, hresult⟩ := hx
  cases ho : x e with
  | mk state journal result =>
    simp only [ho] at hstate hsent hcalls hresult
    subst hstate hresult
    obtain ⟨lstate, lsent, lcalls, lresult⟩ := hf (e.handedAfter e.client.handed xs)
    rw [Call.bind_of_ok _ ho]
    refine ⟨?_, ?_, ?_, lresult⟩
    · rw [handedAfter_append]
      simpa using lstate
    · rw [contributions_append, List.flatten_append, List.map_append]
      simpa [hsent] using lsent
    · simp [hcalls, lcalls]

theorem tryExportSpan_exported (e : Exporter) (span : Span) :
    Exported e [span] () (tryExportSpan span e) := by
  obtain ⟨hstate, hsent, hcalls, -⟩ := exportSpan_offered e span
  unfold tryExportSpan
  rw [Call.attempt_bind_apply]
  cases (exportSpan span e).result with
  | ok u =>
    constructor <;> simp [hstate, hsent, hcalls, handedAfter, contributions, Call.pure_apply]
  | error failure =>
    constructor <;> simp [hstate, hsent, hcalls, handedAfter, contributions, Call.log, Call.record]

theorem forM_exported (e : Exporter) (spans : List Span) :
    Exported e spans () (spans.forM tryExportSpan e) := by
  induction spans generalizing e with
  | nil => exact Exported.nil e ()
  | cons span rest ih =>
    exact Exported.bind (tryExportSpan_exported e span) fun n => ih (e.handing n)

theorem exportSpans_exported {e : Exporter} (h : e.isClosed = false) (spans : List Span) :
    Exported e spans .success (exportSpans spans e) := by
  unfold exportSpans
  rw [Call.get_bind_apply, if_neg (by simp [h])]
  have hb := Exported.bind (forM_exported e spans) (f := fun _ => pure ExportResult.success)
    fun n => Exported.nil (e.handing n) ExportResult.success
  rwa [List.append_nil] at hb

theorem exportSpans_closed {e : Exporter} (h : e.isClosed = true) (spans : List Span) :
    exportSpans spans e = ⟨e, [.logged .warning ("HoneycombExporter is closed, dropping " ++
      toString spans.length ++ " spans")], .ok .success⟩ := by
  unfold exportSpans
  rw [Call.get_bind_apply, if_pos h]
  rfl

theorem batches_exported {e : Exporter} (h : e.isClosed = false) (batches : List (List Span)) :
    Exported e batches.flatten (batches.map fun _ => ExportResult.success)
      (batches.mapM exportSpans e) := by
  induction batches generalizing e with
  | nil => exact Exported.nil e []
  | cons batch rest ih =>
    rw [List.mapM_cons]
    refine Exported.bind (exportSpans_exported h batch) fun n => ?_
    rw [← List.append_nil rest.flatten]
    exact Exported.bind (ih h) fun m => Exported.nil _ _

theorem contributions_without {e : Exporter} (handed : Nat) (before : List Span) {span : Span}
    (after : List Span) {failure : Failure} (h : e.convertSpan span = .error failure) :
    (e.contributions handed (before ++ span :: after)).flatten =
      (e.contributions handed (before ++ after)).flatten := by
  have hs : e.offers span = .error failure :: span.notes.map (e.convertNote span) := by
    rw [offers, h]
  rw [contributions_append, contributions_append, contributions, hs]
  simp [receive]

/-- A batch never fails. It records what its spans contribute, one after the other: each of them
the first part of its offers, up to the one that has no event or is refused. The batch may be cut
anywhere, and a span that cannot be converted may be left out. If nothing is refused, what a span
contributes depends on the span alone. -/
theorem exportSpans_sent_contributions (e : Exporter) (hopen : e.isClosed = false)
    (hnum : e.sampleFraction.quantity?.isSome) (spans : List Span) :
    (exportSpans spans e).result = .ok .success ∧
    (exportSpans spans e).journal.sent =
      (e.contributions e.client.handed spans).flatten.map (e.client.number, ·) ∧
    (e.delivers = true →
      List.Forall₂ (fun span events => ∃ n, e.IsContribution n (e.offers span) events) spans
        (e.contributions e.client.handed spans)) ∧
    (e.delivers = false → (exportSpans spans e).journal.sent = []) ∧
    (∀ span, (∃ failure, e.convertSpan span = .error failure) ↔ span.IsUnconvertible) ∧
    (∀ span note,
      (∃ failure, e.convertNote span note = .error failure) ↔ note.IsUnconvertible span) ∧
    (∀ batches : List (List Span), batches.flatten = spans →
      (batches.mapM exportSpans e).result = .ok (batches.map fun _ => .success) ∧
      (batches.mapM exportSpans e).journal.sent = (exportSpans spans e).journal.sent) ∧
    (∀ before span after, spans = before ++ span :: after → span.IsUnconvertible →
      (exportSpans (before ++ after) e).journal.sent = (exportSpans spans e).journal.sent) ∧
    ((∀ k event, e.client.transmission.refusal k event = none) →
      e.contributions e.client.handed spans =
        spans.map fun span => (e.receive 0 (e.offers span)).events) := by
  have hx := exportSpans_exported hopen spans
  refine ⟨hx.result, hx.sent, fun hd => contributions_forall₂ hd _ _, fun hd => ?_,
    convertSpan_isError hnum, convertNote_isError hnum, ?_, ?_,
    fun hr => contributions_eq_map hr _ _⟩
  · rw [hx.sent, contributions_of_not_delivers hd, List.map_nil]
  · rintro batches rfl
    have hb := batches_exported hopen batches
    exact ⟨hb.result, by rw [hb.sent, hx.sent]⟩
  · rintro before span after rfl hs
    obtain ⟨failure, hf⟩ := (convertSpan_isError hnum span).2 hs
    rw [hx.sent, (exportSpans_exported hopen _).sent, contributions_without _ _ _ hf]

def refusingThird : Exporter :=
  .make (.make 7 ⟨.text "key", .text "traces", .text "host", .int 1⟩ .empty
    { refusal := fun k _ => if k = 2 then some "full" else none }) (.int 0) (.text "")

def mixedBatch : List Span :=
  [⟨.text "lost", none, none, none, none, none, .empty, []⟩,
    ⟨.text "first", some ⟨1, 2⟩, none, none, none, none, .empty,
      [⟨"kept", none, .empty⟩, ⟨"refused", none, .empty⟩, ⟨"left", none, .empty⟩]⟩,
    ⟨.text "second", some ⟨1, 3⟩, none, none, none, none, .empty, []⟩]

theorem exportSpans_mixedBatch :
    refusingThird.isClosed = false ∧ refusingThird.sampleFraction.quantity?.isSome ∧
    (exportSpans mixedBatch refusingThird).journal.sent =
      (refusingThird.contributions 0 mixedBatch).flatten.map (7, ·) ∧
    (refusingThird.contributions 0 mixedBatch).map List.length = [0, 2, 1] :=
  ⟨rfl, rfl, (exportSpans_sent_contributions refusingThird rfl rfl mixedBatch).2.1, by decide⟩

end Exporter

end SpanExport

import SpanExport.Proofs.Delivery.LastWriter

/-!
# Forged fields

An attribute may have the name of any other field. It then stands in the place of that field,
unless the field tells the status of a span. So what an event says about its span is what it
would say without attributes, but for the names that the attributes take.
-/

namespace SpanExport

/-! ## Attributes -/

/-- What an attribute of this name becomes in an event. -/
def Fields.fieldValue? (attributes : Fields) (name : String) : Option Value :=
  (attributes.get? name).bind fun value => value.toField.toOption

namespace Span

/-- The span with no attributes, neither of its own nor of its notes. -/
def bare (span : Span) : Span :=
  { span with
    attributes := .empty
    notes := span.notes.map fun note => { note with attributes := .empty } }

/-- What the attributes put under a name into the event at a place: first the event of the span,
then those of its notes. -/
def attributeValue? (span : Span) (name : String) : Nat → Option Value
  | 0 => span.attributes.fieldValue? name
  | i + 1 => (span.notes[i]?).bind fun note => note.attributes.fieldValue? name

/-- The status of the span takes this name whatever the attributes say. The events of notes have
no status. -/
def StatusTakes (span : Span) (name : String) : Nat → Prop
  | 0 => ∃ status, span.status = some status ∧
      (name = FieldName.statusCode ∧ status.code.statusInteger ≠ .ok 0 ∨
        name = FieldName.statusDescription ∧ status.description.getD "" ≠ "")
  | _ + 1 => False

end Span

namespace Exporter

variable {e : Exporter} {span : Span} {event : Event}

theorem get?_fieldValues {entries pairs : List (String × Value)}
    (h : List.Forall₂ (fun entry pair => pair.1 = entry.1 ∧ entry.2.toField = .ok pair.2)
      entries pairs) (name : String) :
    Pairs.names pairs = Pairs.names entries ∧
      Pairs.get? name pairs =
        (Pairs.get? name entries).bind fun value => value.toField.toOption := by
  induction h with
  | nil => exact ⟨rfl, rfl⟩
  | @cons entry pair entries pairs hp _ ih =>
    obtain ⟨n, v⟩ := entry
    obtain ⟨m, w⟩ := pair
    obtain ⟨rfl, hv⟩ := hp
    refine ⟨by simpa [Pairs.names] using ih.1, ?_⟩
    rw [Pairs.get?, Pairs.get?]
    split
    · simp only at hv
      simp [hv, Except.toOption]
    · exact ih.2

theorem last?_fieldValues {attributes : Fields} {pairs : List (String × Value)}
    (h : AreFieldValues attributes pairs) (name : String) :
    Pairs.last? name pairs = attributes.fieldValue? name := by
  obtain ⟨hnames, hget⟩ := get?_fieldValues h name
  have hdistinct : (Pairs.names pairs).Nodup := hnames ▸ attributes.distinct
  rw [← Pairs.get?_eq_last? hdistinct, hget]
  rfl

theorem statusTakes_iff {code : Int} {description : String}
    (h : StatusShows span.status code description) (name : String) :
    span.StatusTakes name 0 ↔ name ∈ Pairs.names (shownStatus code description) := by
  unfold StatusShows at h
  have hshown : name ∈ Pairs.names (shownStatus code description) ↔
      name = FieldName.statusCode ∧ code ≠ 0 ∨
        name = FieldName.statusDescription ∧ description ≠ "" := by
    unfold shownStatus
    by_cases hc : code = 0 <;> by_cases hd : description = "" <;> simp [Pairs.names, hc, hd]
  rw [hshown]
  cases hs : span.status with
  | none =>
    rw [hs] at h
    obtain ⟨rfl, rfl⟩ := h
    simp [Span.StatusTakes, hs]
  | some status =>
    rw [hs] at h
    obtain ⟨hcode, rfl⟩ := h
    simp [Span.StatusTakes, hs, hcode]

/-! ## Without attributes -/

/-- The event is the plain one under the attributes, and the status of the span over them. -/
structure Overlaid (span : Span) (i : Nat) (plain event : Event) : Prop where
  taken (name : String) : span.StatusTakes name i →
    event.fields.get? name = plain.fields.get? name
  free (name : String) : ¬ span.StatusTakes name i →
    event.fields.get? name = (span.attributeValue? name i).or (plain.fields.get? name)

theorem convertSpan_overlaid (h : e.convertSpan span = .ok event) :
    ∃ plain, e.convertSpan span.bare = .ok plain ∧ Overlaid span 0 plain event := by
  obtain ⟨fixed, target, attributes, status, hfixed, ht, ha, hst, rfl⟩ := convertSpan_eq_ok.1 h
  obtain ⟨code, description, hshows, rfl⟩ := statusPairs_eq_ok hst
  refine ⟨_, convertSpan_eq_ok.2 ⟨fixed, target, [], _, hfixed, ht, rfl, hst, rfl⟩, ?_, ?_⟩
  · intro name htaken
    rw [statusTakes_iff hshows, ← Pairs.last?_ne_none] at htaken
    obtain ⟨v, hv⟩ := Option.ne_none_iff_exists'.1 htaken
    simp [get?_event, Pairs.last?_append, hv]
  · intro name hfree
    rw [statusTakes_iff hshows, ← Pairs.last?_eq_none] at hfree
    have hvalue := last?_fieldValues (attributePairs_eq_ok ha) name
    simp [get?_event, Pairs.last?_append, hfree, hvalue, Span.attributeValue?, Option.or_assoc]

theorem convertNote_overlaid {note : Note} {i : Nat} (hn : span.notes[i]? = some note)
    (h : e.convertNote span note = .ok event) :
    ∃ plain, e.convertNote span.bare { note with attributes := .empty } = .ok plain ∧
      Overlaid span (i + 1) plain event := by
  obtain ⟨fixed, target, attributes, hfixed, ht, ha, rfl⟩ := convertNote_eq_ok.1 h
  refine ⟨_, convertNote_eq_ok.2 ⟨fixed, target, [], hfixed, ht, rfl, rfl⟩, ?_, ?_⟩
  · exact fun name htaken => htaken.elim
  · intro name _
    have hvalue := last?_fieldValues (attributePairs_eq_ok ha) name
    simp [get?_event, Pairs.last?_append, hvalue, Span.attributeValue?, hn, Option.or_assoc]

theorem offers_overlaid {i : Nat} (h : (e.offers span)[i]? = some (.ok event)) :
    ∃ plain, (e.offers span.bare)[i]? = some (.ok plain) ∧ Overlaid span i plain event := by
  cases i with
  | zero =>
    obtain ⟨plain, hp, ho⟩ := convertSpan_overlaid (by simpa [offers] using h)
    exact ⟨plain, by simpa [offers] using hp, ho⟩
  | succ i =>
    simp only [offers, List.getElem?_cons_succ, List.getElem?_map, Option.map_eq_some_iff] at h
    obtain ⟨note, hn, hc⟩ := h
    obtain ⟨plain, hp, ho⟩ := convertNote_overlaid hn hc
    refine ⟨plain, ?_, ho⟩
    simp [offers, Span.bare, hn]
    exact hp

theorem Overlaid.agree_iff {other : Span} {plain event' : Event} {i : Nat}
    (h : Overlaid span i plain event) (h' : Overlaid other i plain event')
    (hstatus : span.status = other.status) (name : String) :
    event.fields.get? name = event'.fields.get? name ↔
      span.StatusTakes name i ∨
        (span.attributeValue? name i).or (plain.fields.get? name) =
          (other.attributeValue? name i).or (plain.fields.get? name) := by
  have hsame : span.StatusTakes name i ↔ other.StatusTakes name i := by
    cases i <;> simp [Span.StatusTakes, hstatus]
  by_cases ht : span.StatusTakes name i
  · simp [ht, h.taken name ht, h'.taken name (hsame.1 ht)]
  · simp [ht, h.free name ht, h'.free name (mt hsame.2 ht)]

/-! ## What no attribute takes -/

/-- What the event of a note says of itself and of its span. -/
def noteMarks (context : SpanContext) : List (String × Value) :=
  [(FieldName.note, .bool true), (FieldName.traceId, .text (Identifier.traceText context.traceId)),
    (FieldName.parentId, .text (Identifier.spanText context.spanId))]

theorem convertNote_plain {note : Note} {plain : Event}
    (h : e.convertNote span { note with attributes := .empty } = .ok plain) :
    ∃ context, span.context = some context ∧
      ∀ mark ∈ noteMarks context, plain.fields.get? mark.1 = some mark.2 := by
  obtain ⟨fixed, target, attributes, hfixed, -, ha, rfl⟩ := convertNote_eq_ok.1 h
  obtain ⟨context, time, hcontext, -, rfl⟩ := ofNote_eq_ok_iff.1 hfixed
  cases ha
  have hstamp : ∀ name, name ≠ FieldName.timestamp →
      Pairs.last? name (timestampPairs time) = none := by
    intro name hn
    cases time <;> simp [timestampPairs, Pairs.last?, Ne.symm hn]
  refine ⟨context, hcontext, ?_⟩
  simp only [noteMarks, List.forall_mem_cons, get?_event, NoteEvent.toPairs, Pairs.last?_append]
  rw [hstamp FieldName.note (by decide), hstamp FieldName.traceId (by decide),
    hstamp FieldName.parentId (by decide)]
  simp [Pairs.last?, FieldName.note, FieldName.traceId, FieldName.parentId, FieldName.name]

theorem convertSpan_plain {plain : Event} (h : e.convertSpan span.bare = .ok plain) :
    plain.fields.get? FieldName.statusCode ≠ none ↔
      span.StatusTakes FieldName.statusCode 0 ∨
        FieldName.statusCode ∈ Pairs.names e.ownPairs := by
  obtain ⟨fixed, target, attributes, status, -, -, ha, hst, rfl⟩ := convertSpan_eq_ok.1 h
  cases ha
  obtain ⟨code, description, hshows, rfl⟩ := statusPairs_eq_ok hst
  have hfixed : FieldName.statusCode ∉ Pairs.names fixed.toPairs := by
    have htime : FieldName.statusCode ∉ Pairs.names (timestampPairs fixed.timestamp) := by
      cases fixed.timestamp <;>
        simp [timestampPairs, Pairs.names, FieldName.timestamp, FieldName.statusCode]
    simp only [SpanEvent.toPairs, Pairs.names, List.map_append, List.mem_append] at htime ⊢
    split <;> simp_all [FieldName.traceId, FieldName.name, FieldName.spanId, FieldName.parentId,
      FieldName.durationMs, FieldName.statusCode]
  have htakes : span.StatusTakes FieldName.statusCode 0 ↔
      FieldName.statusCode ∈ Pairs.names (shownStatus code description) := statusTakes_iff hshows _
  rw [get?_event, Pairs.last?_ne_none, htakes]
  simp only [Pairs.names, List.map_append, List.mem_append] at hfixed ⊢
  tauto

/-! ## Recorded events -/

theorem offers_of_recorded {i : Nat} (h : (exportSpan span e).journal.events[i]? = some event) :
    (e.offers span)[i]? = some (.ok event) := by
  have hsent := (exportSpan_offered e span).sent
  rw [Journal.events, hsent, List.map_map] at h
  have hevents : (e.receive e.client.handed (e.offers span)).events[i]? = some event := by
    simpa using h
  exact receive_getElem? hevents

theorem length_recorded (h : (exportSpan span e).result = .ok ()) :
    (exportSpan span e).journal.events.length =
      if e.delivers then span.notes.length + 1 else 0 := by
  obtain ⟨-, hsent, -, hresult⟩ := exportSpan_offered e span
  have hw : (e.receive e.client.handed (e.offers span)).isWhole = true := by
    rw [← hresult, h]
    rfl
  rw [Journal.events, hsent, List.length_map, List.length_map]
  cases hd : e.delivers with
  | true =>
    rw [length_receive hd hw]
    simp [offers]
  | false =>
    rw [(receive_of_not_delivers hd _ _).1]
    rfl

/-- Two spans that differ in attributes alone record equally many events. At the same place these
agree on a name just when the status takes it or the attributes of both come to the same. A note
is marked and names its span unless its attributes say otherwise, and the event of the span has
a status code if the status, an attribute or the client gives it one. -/
theorem exportSpan_agree_iff (e : Exporter) {span other : Span} (halike : span.bare = other.bare)
    (hspan : (exportSpan span e).result = .ok ()) (hother : (exportSpan other e).result = .ok ()) :
    let events := (exportSpan span e).journal.events
    let others := (exportSpan other e).journal.events
    events.length = others.length ∧
    (∀ (i : Nat) event event', events[i]? = some event → others[i]? = some event' →
      ∃ plain, (e.offers span.bare)[i]? = some (.ok plain) ∧
        ∀ name, event.fields.get? name = event'.fields.get? name ↔
          span.StatusTakes name i ∨
            (span.attributeValue? name i).or (plain.fields.get? name) =
              (other.attributeValue? name i).or (plain.fields.get? name)) ∧
    (∀ (i : Nat) event, events[i + 1]? = some event → ∃ context, span.context = some context ∧
      ∀ mark ∈ noteMarks context, event.fields.get? mark.1 =
        (span.attributeValue? mark.1 (i + 1)).or (some mark.2)) ∧
    (∀ event, events[0]? = some event →
      (event.fields.get? FieldName.statusCode ≠ none ↔
        span.StatusTakes FieldName.statusCode 0 ∨
          span.attributeValue? FieldName.statusCode 0 ≠ none ∨
          FieldName.statusCode ∈ Pairs.names e.ownPairs)) := by
  intro events others
  refine ⟨?_, ?_, ?_, ?_⟩
  · have hnotes : span.notes.length = other.notes.length := by
      simpa [Span.bare] using congrArg (fun s => s.notes.length) halike
    simp only [events, others]
    rw [length_recorded hspan, length_recorded hother, hnotes]
  · intro i event event' hevent hevent'
    obtain ⟨plain, hplain, ho⟩ := offers_overlaid (offers_of_recorded hevent)
    obtain ⟨plain', hplain', ho'⟩ := offers_overlaid (offers_of_recorded hevent')
    -- Without their attributes the spans are alike, so both events come from one plain event.
    rw [← halike, hplain] at hplain'
    cases hplain'
    have hstatus : span.bare.status = other.bare.status := congrArg Span.status halike
    exact ⟨plain, hplain, fun name => ho.agree_iff ho' hstatus name⟩
  · intro i event hevent
    obtain ⟨plain, hplain, ho⟩ := offers_overlaid (offers_of_recorded hevent)
    simp only [offers, List.getElem?_cons_succ, List.getElem?_map, Span.bare, Option.map_map,
      Option.map_eq_some_iff] at hplain
    obtain ⟨note, -, hc⟩ := hplain
    obtain ⟨context, hcontext, hmarks⟩ := convertNote_plain hc
    refine ⟨context, hcontext, fun mark hm => ?_⟩
    rw [ho.free _ id, hmarks mark hm]
  · intro event hevent
    obtain ⟨plain, hplain, ho⟩ := offers_overlaid (offers_of_recorded hevent)
    have hcode := convertSpan_plain (by simpa [offers] using hplain)
    by_cases ht : span.StatusTakes FieldName.statusCode 0
    · rw [ho.taken _ ht, hcode]
      simp [ht]
    · rw [ho.free _ ht, Ne, Option.or_eq_none_iff, not_and_or, ← Ne, ← Ne, hcode]
      simp [ht]

def keyedExporter : Exporter :=
  .make (.make 3 ⟨.text "key", .text "traces", .text "host", .int 1⟩ .empty {}) (.int 0) (.text "")

/-- A payment whose status is not set, with one note. -/
def paymentSpan (attributes noted : List (String × Value)) : Span :=
  ⟨.text "charge", some ⟨1, 2⟩, none, none, none, some ⟨.status .unset, none⟩,
    .ofList attributes, [⟨"card", none, .ofList noted⟩]⟩

/-- Attributes give the span a status and a parent that it does not have, and unmark its note. -/
theorem exportSpan_forgedPayment :
    let span := paymentSpan [] []
    let forged := paymentSpan [("status_code", .int 2), ("trace.parent_id", .text "f")]
      [("trace.annotation", .bool false)]
    let events := (exportSpan span keyedExporter).journal.events
    let others := (exportSpan forged keyedExporter).journal.events
    (span.bare = forged.bare ∧ (exportSpan span keyedExporter).result = .ok () ∧
      (exportSpan forged keyedExporter).result = .ok ()) ∧
    events.length = others.length ∧
    (∃ event event', events[0]? = some event ∧ others[0]? = some event' ∧
      event.fields.get? FieldName.statusCode = none ∧
      event.fields.get? FieldName.parentId = none ∧
      event'.fields.get? FieldName.statusCode = some (.int 2) ∧
      event'.fields.get? FieldName.parentId = some (.text "f")) ∧
    ∃ event', others[1]? = some event' ∧
      event'.fields.get? FieldName.note = some (.bool false) ∧
      event'.fields.get? FieldName.traceId = some (.text (Identifier.traceText 1)) := by
  intro span forged events others
  have halike : span.bare = forged.bare := rfl
  have hspan : (exportSpan span keyedExporter).result = .ok () := rfl
  have hforged : (exportSpan forged keyedExporter).result = .ok () := rfl
  obtain ⟨hlength, -, -, -⟩ := exportSpan_agree_iff keyedExporter halike hspan hforged
  obtain ⟨-, -, hmarks, -⟩ := exportSpan_agree_iff keyedExporter halike.symm hforged hspan
  refine ⟨⟨halike, hspan, hforged⟩, hlength, ⟨_, _, rfl, rfl, rfl, rfl, rfl, rfl⟩, _, rfl, ?_⟩
  obtain ⟨context, hcontext, hnote⟩ := hmarks 0 _ rfl
  cases hcontext
  exact ⟨hnote (FieldName.note, .bool true) (by simp [noteMarks]),
    hnote (FieldName.traceId, .text (Identifier.traceText 1)) (by simp [noteMarks])⟩

end Exporter

end SpanExport

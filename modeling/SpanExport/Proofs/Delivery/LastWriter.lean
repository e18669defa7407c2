import SpanExport.Proofs.Delivery.Offer

/-!
# The last writer

A field of an event has the value that was written to it last. The client writes first, then
the name of the service, the fixed part, the attributes and, for a span, its status.
-/

namespace SpanExport

/-! ## Pairs and fields -/

namespace Pairs

def last? (name : String) (pairs : List (String × Value)) : Option Value :=
  (pairs.filter fun p => p.1 = name).getLast?.map Prod.snd

theorem last?_append (name : String) (xs ys : List (String × Value)) :
    last? name (xs ++ ys) = (last? name ys).or (last? name xs) := by
  simp only [last?, List.filter_append, List.getLast?_append]
  cases (ys.filter fun p => p.1 = name).getLast? <;> rfl

theorem last?_singleton (name other : String) (value : Value) :
    last? other [(name, value)] = if other = name then some value else none := by
  by_cases h : other = name
  · simp [last?, h]
  · simp [last?, h, Ne.symm h]

theorem last?_eq_none {name : String} {pairs : List (String × Value)} :
    last? name pairs = none ↔ name ∉ names pairs := by
  simp only [last?, names, Option.map_eq_none_iff, List.getLast?_eq_none_iff,
    List.filter_eq_nil_iff, List.mem_map, decide_eq_true_eq, not_exists, not_and]

theorem last?_ne_none {name : String} {pairs : List (String × Value)} :
    last? name pairs ≠ none ↔ name ∈ names pairs := by
  rw [ne_eq, last?_eq_none, not_not]

theorem get?_eq_last? {pairs : List (String × Value)} (h : (names pairs).Nodup) (name : String) :
    get? name pairs = last? name pairs := by
  induction pairs with
  | nil => rfl
  | cons p rest ih =>
    obtain ⟨n, v⟩ := p
    rw [names, List.map_cons, List.nodup_cons] at h
    rw [← List.singleton_append, last?_append, last?_singleton, List.singleton_append, get?]
    by_cases hn : n = name
    · subst hn
      rw [if_pos rfl, if_pos rfl, last?_eq_none.2 h.1]
      rfl
    · rw [if_neg hn, if_neg (Ne.symm hn), Option.or_none, ih h.2]

end Pairs

namespace Fields

theorem get?_putAll (fields : Fields) (pairs : List (String × Value)) (name : String) :
    (fields.putAll pairs).get? name = Pairs.last? name (fields.entries ++ pairs) := by
  induction pairs generalizing fields with
  | nil =>
    rw [List.append_nil]
    exact Pairs.get?_eq_last? fields.distinct name
  | cons p rest ih =>
    obtain ⟨n, v⟩ := p
    have hput : ∀ other, Pairs.last? other (fields.put n v).entries =
        Pairs.last? other (fields.entries ++ [(n, v)]) := by
      intro other
      rw [Pairs.last?_append, Pairs.last?_singleton,
        ← Pairs.get?_eq_last? (fields.put n v).distinct, ← Pairs.get?_eq_last? fields.distinct]
      have hg := get?_put fields n other v
      rw [Fields.get?] at hg
      rw [hg]
      split <;> rfl
    change ((fields.put n v).putAll rest).get? name = _
    rw [ih, Pairs.last?_append, hput, ← Pairs.last?_append, List.append_assoc,
      List.singleton_append]

theorem mem_names_iff (fields : Fields) (name : String) :
    name ∈ fields.names ↔ fields.get? name ≠ none := by
  rw [Fields.get?, Pairs.get?_eq_last? fields.distinct, Pairs.last?_ne_none]
  rfl

end Fields

/-! ## The fixed part -/

/-- A time that counts. -/
def TimeIsSet (time : Option Int) : Prop := time ≠ none ∧ time ≠ some 0

theorem ofNanoseconds_isSome {time : Option Int} {t : Option Timestamp}
    (h : Timestamp.ofNanoseconds time = .ok t) : t.isSome ↔ TimeIsSet time := by
  unfold Timestamp.ofNanoseconds at h
  split at h
  · cases h; simp [TimeIsSet]
  · cases h; simp [TimeIsSet]
  · rename_i ns hns
    have hset : TimeIsSet (some ns) := ⟨by simp, fun h => hns (Option.some.inj h)⟩
    obtain ⟨stamp, -, rfl⟩ := map_eq_ok.1 h
    simp [hset]

theorem spanText_ne_empty (id : Int) : Identifier.spanText id ≠ "" := by
  have hd : Digits.text 16 id.natAbs ≠ [] := by
    simp [Digits.text, Digits.ofNat_ne_nil]
  unfold Identifier.spanText Identifier.hex Identifier.hexChars
  intro h
  have hl := congrArg String.toList h
  rw [String.toList_ofList] at hl
  split at hl
  · simp at hl
  · simp [Digits.padded, hd] at hl

theorem parentText_some {p : SpanParent} {id : Int} (hs : p.spanId = some id) (h : id ≠ 0) :
    SpanEvent.parentText (some p) = Identifier.spanText id := by
  simp only [SpanEvent.parentText, Option.bind_some, hs]

theorem parentText_ne_empty (parent : Option SpanParent) :
    SpanEvent.parentText parent ≠ "" ↔ ∃ p id, parent = some p ∧ p.spanId = some id ∧ id ≠ 0 := by
  constructor
  · intro h
    unfold SpanEvent.parentText at h
    cases parent with
    | none => simp at h
    | some p =>
      cases hs : p.spanId with
      | none => simp [hs] at h
      | some id =>
        refine ⟨p, id, rfl, hs, fun h0 => ?_⟩
        simp [hs, h0] at h
  · rintro ⟨p, id, rfl, hs, h⟩
    rw [parentText_some hs h]
    exact spanText_ne_empty id

theorem ofSpan_eq_ok_iff {span : Span} {fixed : SpanEvent} :
    SpanEvent.ofSpan span = .ok fixed ↔
      ∃ context duration time, span.context = some context ∧
        Duration.milliseconds span.start span.finish = .ok duration ∧
        Timestamp.ofNanoseconds span.start = .ok time ∧
        fixed = ⟨.text (Identifier.traceText context.traceId), span.name,
          .text (Identifier.spanText context.spanId), .text (SpanEvent.parentText span.parent),
          .float duration, time⟩ := by
  unfold SpanEvent.ofSpan
  cases hc : span.context <;> cases hd : Duration.milliseconds span.start span.finish <;>
    cases ht : Timestamp.ofNanoseconds span.start <;>
    simp [Span.knownContext, hc, Except.mapError, Bind.bind, Except.bind, Pure.pure, Except.pure,
      eq_comm]

theorem ofSpan_eq_ok {span : Span} {fixed : SpanEvent} (h : SpanEvent.ofSpan span = .ok fixed) :
    fixed.parentId = .text (SpanEvent.parentText span.parent) ∧
      Timestamp.ofNanoseconds span.start = .ok fixed.timestamp := by
  obtain ⟨context, duration, time, -, -, hstamp, rfl⟩ := ofSpan_eq_ok_iff.1 h
  exact ⟨rfl, hstamp⟩

theorem ofNote_eq_ok_iff {span : Span} {note : Note} {fixed : NoteEvent} :
    NoteEvent.ofNote span note = .ok fixed ↔
      ∃ context time, span.context = some context ∧
        Timestamp.ofNanoseconds note.time = .ok time ∧
        fixed = ⟨.text note.name, .text (Identifier.traceText context.traceId),
          .text (Identifier.spanText context.spanId), time⟩ := by
  unfold NoteEvent.ofNote
  cases hc : span.context <;> cases ht : Timestamp.ofNanoseconds note.time <;>
    simp [Span.knownContext, hc, Except.mapError, Bind.bind, Except.bind, Pure.pure, Except.pure,
      eq_comm]

theorem mem_names_timestampPairs (time : Option Timestamp) :
    FieldName.timestamp ∈ Pairs.names (timestampPairs time) ↔ time.isSome := by
  cases time <;> simp [timestampPairs, Pairs.names]

theorem mem_names_spanPairs_timestamp (fixed : SpanEvent) :
    FieldName.timestamp ∈ Pairs.names fixed.toPairs ↔ fixed.timestamp.isSome := by
  rw [← mem_names_timestampPairs]
  simp only [SpanEvent.toPairs, Pairs.names, List.map_append, List.mem_append]
  split <;> simp [FieldName.timestamp, FieldName.traceId, FieldName.name, FieldName.spanId,
    FieldName.parentId, FieldName.durationMs]

theorem mem_names_spanPairs_parentId (fixed : SpanEvent) :
    FieldName.parentId ∈ Pairs.names fixed.toPairs ↔ fixed.parentId.isTruthy = true := by
  have ht : FieldName.parentId ∉ Pairs.names (timestampPairs fixed.timestamp) := by
    cases fixed.timestamp <;>
      simp [timestampPairs, Pairs.names, FieldName.parentId, FieldName.timestamp]
  simp only [SpanEvent.toPairs, Pairs.names, List.map_append, List.mem_append] at ht ⊢
  split <;> simp_all [FieldName.traceId, FieldName.name, FieldName.spanId,
    FieldName.parentId, FieldName.durationMs]

theorem mem_names_notePairs_timestamp (fixed : NoteEvent) :
    FieldName.timestamp ∈ Pairs.names fixed.toPairs ↔ fixed.timestamp.isSome := by
  rw [← mem_names_timestampPairs]
  simp [NoteEvent.toPairs, Pairs.names, FieldName.timestamp, FieldName.traceId, FieldName.name,
    FieldName.parentId, FieldName.note]

/-! ## What is written -/

namespace Exporter

/-- What an event has before anything is said about a span: the fields of the client, under those
that the builder took from it, and the name of the service. -/
def ownPairs (e : Exporter) : List (String × Value) :=
  e.client.fields.entries ++ e.builder.fields.entries ++
    if e.serviceName.isTruthy then [(FieldName.serviceName, e.serviceName)] else []

/-- The attributes in their order, each with its field value. -/
def AreFieldValues (attributes : Fields) (pairs : List (String × Value)) : Prop :=
  List.Forall₂ (fun entry pair => pair.1 = entry.1 ∧ entry.2.toField = .ok pair.2)
    attributes.entries pairs

/-- A missing status has the code zero, and a missing description is empty. -/
def StatusShows (status : Option Status) (code : Int) (description : String) : Prop :=
  match status with
  | none => code = 0 ∧ description = ""
  | some s => s.code.statusInteger = .ok code ∧ s.description.getD "" = description

/-- A code that is not zero, and a description that is not empty. -/
def shownStatus (code : Int) (description : String) : List (String × Value) :=
  (if code ≠ 0 then [(FieldName.statusCode, .int code)] else []) ++
    if description ≠ "" then [(FieldName.statusDescription, .text description)] else []

/-- The event has the fixed pairs and then the others written to it, and what belongs to a time
and to the exporter. -/
structure IsWritten (e : Exporter) (time : Option Int) (fixed others : List (String × Value))
    (event : Event) : Prop where
  value (name : String) :
    event.fields.get? name = Pairs.last? name (e.ownPairs ++ fixed ++ others)
  name (name : String) :
    name ∈ event.fields.names ↔ name ∈ Pairs.names (e.ownPairs ++ fixed ++ others)
  createdAt : event.createdAt.isSome ↔ TimeIsSet time
  timestamp : FieldName.timestamp ∈ Pairs.names fixed ↔ TimeIsSet time
  timestampText (t : Timestamp) : event.createdAt = some t →
    Pairs.last? FieldName.timestamp fixed = some (.text t.text)
  sampleRate : ∃ rate, Sampling.rate e.sampleFraction = .ok rate ∧
    event.target.sampleRate = (rate.map Value.int).getD e.builder.target.sampleRate
  writekey : event.target.writekey = e.builder.target.writekey
  dataset : event.target.dataset = e.builder.target.dataset
  apiHost : event.target.apiHost = e.builder.target.apiHost

def IsSpanEvent (e : Exporter) (span : Span) (event : Event) : Prop :=
  ∃ fixed attributes code description,
    SpanEvent.ofSpan span = .ok fixed ∧ AreFieldValues span.attributes attributes ∧
    StatusShows span.status code description ∧
    (FieldName.parentId ∈ Pairs.names fixed.toPairs ↔
      ∃ p id, span.parent = some p ∧ p.spanId = some id ∧ id ≠ 0) ∧
    e.IsWritten span.start fixed.toPairs (attributes ++ shownStatus code description) event

def IsNoteEvent (e : Exporter) (span : Span) (note : Note) (event : Event) : Prop :=
  ∃ fixed attributes,
    NoteEvent.ofNote span note = .ok fixed ∧ AreFieldValues note.attributes attributes ∧
    e.IsWritten note.time fixed.toPairs attributes event

theorem attributePairs_eq_ok {attributes : Fields} {pairs : List (String × Value)}
    (h : attributePairs attributes = .ok pairs) : AreFieldValues attributes pairs := by
  refine (mapM_eq_ok.1 h).imp fun entry pair hp => ?_
  cases hv : entry.2.toField with
  | error cause => simp [hv] at hp
  | ok v =>
    simp only [hv, Except.ok.injEq] at hp
    simp [← hp]

theorem statusPairs_eq_ok {status : Option Status} {pairs : List (String × Value)}
    (h : statusPairs status = .ok pairs) :
    ∃ code description, StatusShows status code description ∧
      pairs = shownStatus code description := by
  unfold statusPairs at h
  cases status with
  | none =>
    cases h
    exact ⟨0, "", ⟨rfl, rfl⟩, rfl⟩
  | some s =>
    cases hc : s.code.statusInteger with
    | error cause => simp [hc] at h
    | ok code =>
      simp only [hc, Except.ok.injEq] at h
      refine ⟨code, s.description.getD "", ⟨hc, rfl⟩, ?_⟩
      rw [← h, shownStatus]
      congr 1
      · simp
      · split
        · simp [*]
        · simp [*]
        · rename_i text hne hd
          have ht : text ≠ "" := hne
          simp [hd, ht]

theorem target_eq_ok {e : Exporter} {target : Target} (h : e.target = .ok target) :
    ∃ rate, Sampling.rate e.sampleFraction = .ok rate ∧
      target = { e.builder.target with
        sampleRate := (rate.map Value.int).getD e.builder.target.sampleRate } := by
  unfold Exporter.target at h
  split at h
  · cases h
  · rename_i hr
    cases h
    exact ⟨none, hr, rfl⟩
  · rename_i rate hr
    cases h
    exact ⟨some rate, hr, rfl⟩

theorem last?_timestampPairs {time : Option Timestamp} {t : Timestamp} (h : time = some t) :
    Pairs.last? FieldName.timestamp (timestampPairs time) = some (.text t.text) := by
  subst h
  simp [timestampPairs, Pairs.last?]

theorem get?_event (e : Exporter) (target : Target) (time : Option Timestamp)
    (pairs : List (String × Value)) (name : String) :
    (e.event target time pairs).fields.get? name = Pairs.last? name (e.ownPairs ++ pairs) := by
  have hbase : Pairs.last? name (e.builder.baseFields e.client).entries =
      Pairs.last? name (e.client.fields.entries ++ e.builder.fields.entries) := by
    rw [← Pairs.get?_eq_last? (e.builder.baseFields e.client).distinct]
    exact Fields.get?_putAll _ _ name
  simp only [event, Fields.get?_putAll, ownPairs, servicePairs, Pairs.last?_append, hbase,
    Option.or_assoc]

theorem event_isWritten {e : Exporter} {target : Target} {time : Option Int}
    {stamp : Option Timestamp} {fixed others : List (String × Value)} (ht : e.target = .ok target)
    (hs : Timestamp.ofNanoseconds time = .ok stamp)
    (hf : FieldName.timestamp ∈ Pairs.names fixed ↔ stamp.isSome)
    (hl : ∀ t, stamp = some t → Pairs.last? FieldName.timestamp fixed = some (.text t.text)) :
    e.IsWritten time fixed others (e.event target stamp (fixed ++ others)) := by
  obtain ⟨rate, hr, rfl⟩ := target_eq_ok ht
  have hvalue : ∀ t name, (e.event t stamp (fixed ++ others)).fields.get? name =
      Pairs.last? name (e.ownPairs ++ fixed ++ others) := by
    intro t name
    rw [get?_event, List.append_assoc]
  constructor
  case value => exact hvalue _
  case name =>
    intro name
    rw [Fields.mem_names_iff, hvalue, Pairs.last?_ne_none]
  case createdAt => exact ofNanoseconds_isSome hs
  case timestamp => exact hf.trans (ofNanoseconds_isSome hs)
  case timestampText => exact hl
  case sampleRate => exact ⟨rate, hr, rfl⟩
  all_goals rfl

theorem convertSpan_isSpanEvent {e : Exporter} {span : Span} {event : Event}
    (h : e.convertSpan span = .ok event) : e.IsSpanEvent span event := by
  obtain ⟨fixed, target, attributes, status, hfixed, ht, ha, hst, rfl⟩ := convertSpan_eq_ok.1 h
  obtain ⟨code, description, hshows, rfl⟩ := statusPairs_eq_ok hst
  obtain ⟨hparent, hstamp⟩ := ofSpan_eq_ok hfixed
  refine ⟨fixed, attributes, code, description, hfixed, attributePairs_eq_ok ha, hshows, ?_, ?_⟩
  · rw [mem_names_spanPairs_parentId, hparent, ← parentText_ne_empty]
    simp [Value.isTruthy]
  · rw [List.append_assoc]
    refine event_isWritten ht hstamp (mem_names_spanPairs_timestamp fixed) fun t h => ?_
    rw [SpanEvent.toPairs, Pairs.last?_append, last?_timestampPairs h]
    rfl

theorem convertNote_isNoteEvent {e : Exporter} {span : Span} {note : Note} {event : Event}
    (h : e.convertNote span note = .ok event) : e.IsNoteEvent span note event := by
  obtain ⟨fixed, target, attributes, hfixed, ht, ha, rfl⟩ := convertNote_eq_ok.1 h
  have hstamp : Timestamp.ofNanoseconds note.time = .ok fixed.timestamp := by
    obtain ⟨context, time, -, hstamp, rfl⟩ := ofNote_eq_ok_iff.1 hfixed
    exact hstamp
  refine ⟨fixed, attributes, hfixed, attributePairs_eq_ok ha, ?_⟩
  refine event_isWritten ht hstamp (mem_names_notePairs_timestamp fixed) fun t h => ?_
  rw [NoteEvent.toPairs, Pairs.last?_append, Pairs.last?_append, last?_timestampPairs h]
  simp [Pairs.last?, FieldName.note, FieldName.timestamp]

theorem last?_ownPairs {e : Exporter} (h : e.builder.fields = e.client.fields) (name : String)
    (rest : List (String × Value)) :
    Pairs.last? name (e.ownPairs ++ rest) =
      Pairs.last? name (e.client.fields.entries ++ e.servicePairs ++ rest) := by
  simp only [ownPairs, h, Pairs.last?_append, servicePairs]
  cases Pairs.last? name e.client.fields.entries <;> simp

/-- The first event that exporting a span records is the event of the span, and the next ones are
those of its notes. In each of them the last writer of a name decides its value. Nothing is
missing if the export does not fail. -/
theorem exportSpan_isWritten (e : Exporter) (span : Span) :
    (∀ i number event, (exportSpan span e).journal.sent[i]? = some (number, event) →
      number = e.client.number ∧
      match i with
      | 0 => e.IsSpanEvent span event
      | i + 1 => ∃ note, span.notes[i]? = some note ∧ e.IsNoteEvent span note event) ∧
    (e.delivers = true → (exportSpan span e).result = .ok () →
      (exportSpan span e).journal.sent.length = span.notes.length + 1) ∧
    (e.builder.fields = e.client.fields → ∀ name rest, Pairs.last? name (e.ownPairs ++ rest) =
      Pairs.last? name (e.client.fields.entries ++ e.servicePairs ++ rest)) := by
  obtain ⟨-, hsent, -, hresult⟩ := exportSpan_offered e span
  refine ⟨?_, ?_, last?_ownPairs⟩
  · intro i number event h
    rw [hsent, List.getElem?_map, Option.map_eq_some_iff] at h
    obtain ⟨taken, ht, hpair⟩ := h
    cases hpair
    refine ⟨rfl, ?_⟩
    have ho := receive_getElem? ht
    cases i with
    | zero => exact convertSpan_isSpanEvent (by simpa [offers] using ho)
    | succ i =>
      simp only [offers, List.getElem?_cons_succ, List.getElem?_map, Option.map_eq_some_iff] at ho
      obtain ⟨note, hn, hc⟩ := ho
      exact ⟨note, hn, convertNote_isNoteEvent hc⟩
  · intro hd hr
    have hw : (e.receive e.client.handed (e.offers span)).isWhole = true := by
      rw [← hresult, hr]; rfl
    rw [hsent, List.length_map, length_receive hd hw]
    simp [offers]

def namedClient : Exporter :=
  .make (.make 7 ⟨.text "key", .text "traces", .text "host", .int 1⟩
    (.ofList [("name", .text "client"), ("status_code", .int 8), ("region", .text "eu")]) {})
    (.int 0) (.text "checkout")

/-- A failed span whose attributes take the names of other fields. -/
def collidingSpan : Span :=
  ⟨.text "charge", some ⟨1, 2⟩, none, none, none, some ⟨.status .error, some "refused"⟩,
    .ofList [("name", .text "forged"), ("status_code", .int 9), ("service_name", .null)],
    [⟨"card", none, .ofList [("status_code", .int 9)]⟩]⟩

theorem exportSpan_collidingSpan :
    namedClient.delivers = true ∧ (exportSpan collidingSpan namedClient).result = .ok () ∧
    (exportSpan collidingSpan namedClient).journal.sent.length = 2 ∧
    ∃ event, (exportSpan collidingSpan namedClient).journal.sent[0]? = some (7, event) ∧
      namedClient.IsSpanEvent collidingSpan event ∧
      event.fields.get? "name" = some (.text "forged") ∧
      event.fields.get? "status_code" = some (.int 2) ∧
      event.fields.get? "service_name" = some .null ∧
      event.fields.get? "region" = some (.text "eu") :=
  have h := exportSpan_isWritten namedClient collidingSpan
  ⟨rfl, rfl, h.2.1 rfl rfl, _, rfl, (h.1 0 _ _ rfl).2, rfl, rfl, rfl, rfl⟩

end Exporter

end SpanExport

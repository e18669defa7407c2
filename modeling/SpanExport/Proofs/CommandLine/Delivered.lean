import SpanExport.Proofs.CommandLine.Attributes
import SpanExport.Proofs.CommandLine.Execution
import SpanExport.Proofs.Event.TraceGraph
import SpanExport.Proofs.Time.Range
import SpanExport.Proofs.Tracing.Requests

/-!
# What a run delivers

A run opens one client, for the settings of the environment under those of its words, and closes
it. In between it records its span with the attributes that were read, and a note if there is a
text for one, unless there is no key or the trace is sampled out.
-/

namespace SpanExport

/-! ## The client -/

theorem Backend.client_of_trimmed {backend : Backend} (hcreate : backend.createError = none)
    {c : Configuration} {text : String} (hdataset : c.dataset = .text text) (hne : text ≠ "")
    (htrimmed : Text.trimmed text = text) (number : Nat) :
    backend.client number c none =
      .ok (Client.make number ⟨c.writekey, c.dataset, c.apiHost, .int 1⟩ .empty
        backend.transmission) := by
  have hsame : WriteKey.dataset c.writekey (.text text) = .ok (.text text) := by
    simp [WriteKey.dataset, WriteKey.correction?, WriteKey.trimmed?, WriteKey.changed?, htrimmed,
      Value.isTruthy, hne, Bind.bind, Except.bind, Pure.pure, Except.pure]
  unfold client newClient
  rw [hcreate, hdataset]
  simp only
  rw [hsame]
  rfl

theorem Value.isEmptyText_of_isTruthy {v : Value} (h : v.isTruthy = true) :
    v.isEmptyText = false := by
  cases v with
  | text s => simpa [isTruthy, isEmptyText] using h
  | _ => rfl

theorem Value.isEmptyText_iff {v : Value} : v.isEmptyText = true ↔ v = .text "" := by
  cases v <;> simp [isEmptyText]

/-! ## The span -/

namespace Session

variable {s : Session}

/-- The exporter that a run sets up, where its dataset is taken as it is. -/
def runExporter (s : Session) (c : Configuration) : Exporter :=
  .make (.make s.clients ⟨c.writekey, c.dataset, c.apiHost, .int 1⟩ .empty s.backend.transmission)
    c.sampleFraction c.serviceName

theorem runExporter_delivers {c : Configuration} (hcheck : c.check = .ok c) :
    (s.runExporter c).delivers = true ↔ c.writekey ≠ .text "" := by
  obtain ⟨hdataset, hhost, -⟩ := Configuration.parts_of_check hcheck
  have htarget : (s.runExporter c).delivers =
      Target.isComplete ⟨c.writekey, c.dataset, c.apiHost, .int 1⟩ := Bool.and_true _
  rw [htarget, ne_eq, ← Value.isEmptyText_iff]
  simp [Target.isComplete, Value.isEmptyText_of_isTruthy hdataset,
    Value.isEmptyText_of_isTruthy hhost]

theorem makeTestSpan_journal {e : Exporter} (hserves : Serves e s) (hopen : e.isClosed = false)
    (hrefusal : ∀ k event, e.client.transmission.refusal k event = none) {number : Nat}
    {provider : Provider} (hcurrent : s.current = some number)
    (hmaker : s.maker? = some (number, provider)) (hlimits : provider.limits.IsAmple)
    {attributes kept : Fields}
    (hkept : initialAttributes provider.limits.attributes attributes = .ok kept) (name : Value)
    (note : Option Value) :
    let journal := (makeTestSpan name attributes note s).journal
    journal.requests = [] ∧ journal.clientCalls = [] ∧
      journal.sent = if provider.sampler.keeps none s.traceIds.head
        then e.records (s.testSpan name kept note) else [] := by
  intro journal
  cases hkeeps : provider.sampler.keeps none s.traceIds.head with
  | false =>
    have hquiet := makeTestSpan_dropped hmaker hkeeps name attributes note
    have hjournal : journal = [] := hquiet.journal
    rw [hjournal]
    exact ⟨rfl, rfl, rfl⟩
  | true =>
    obtain ⟨u, hquiet, hmake⟩ := makeTestSpan_kept hmaker hkeeps hlimits hkept name note
    let span := s.testSpan name kept note
    have hjournal : journal =
        (onProcessors number (.each (Processor.onEnd span)) u).journal :=
      congrArg Outcome.journal hmake
    have hcalls := (Processor.each_kept (fun p => Processor.onEnd_kept p span)
      (u.processors number)).clientCalls
    rw [hjournal]
    refine ⟨Journal.requests_eq_nil (onEnd_asksForNone number span u), hcalls, ?_⟩
    exact (hquiet.serves hserves).onEnd_sent hopen hrefusal (hquiet.current.trans hcurrent) span

/-- The journal of a run: a request, an opened and a closed client, and in between what the
exporter records of the span. -/
theorem sendTestSpan_journal {c : Configuration} (hcheck : c.check = .ok c)
    (hsdk : s.sdk.IsAmple s.environment) (hcreate : s.backend.createError = none)
    (hrefusal : ∀ k event, s.backend.transmission.refusal k event = none)
    (hclient : s.backend.client s.clients c none = .ok (s.runExporter c).client)
    {attributes : Fields}
    (hkept : ∀ limits : AttributeLimits, limits.IsAmple →
      initialAttributes limits attributes = .ok attributes)
    (name : Value) (note : Option Value) :
    let journal := (sendTestSpan c name attributes note s).journal
    journal.requests = [⟨c.writekey, c.dataset, c.apiHost, userAgent, c.debug⟩] ∧
      journal.clientCalls = [(s.clients, .opened), (s.clients, .closed)] ∧
      ∃ sampler, Sampling.Sampler.ofValue c.sampleFraction = .ok sampler ∧
        journal.sent = if sampler.keeps s.traceIds.head
          then (s.runExporter c).records (s.testSpan name attributes note) else [] := by
  intro journal
  let e := s.runExporter c
  obtain ⟨settings, hsettings⟩ := settingsFor_isOk hsdk.toAccepts hcheck
  rcases sendTestSpan_cases c name attributes note s with ⟨failure, hrefused, -⟩ |
    ⟨own, hown, before, hrequests, hcalls, hsent, ⟨failure, hmade, -⟩ | ⟨made, hmade, hsend⟩⟩
  · rw [hsettings] at hrefused
    cases hrefused
  · rw [hclient] at hmade
    cases hmade
  · -- The setup and the shutdown say what is asked of clients, and the span asks for nothing.
    obtain rfl : e.client = made := Except.ok.inj (hclient.symm.trans hmade)
    obtain rfl : settings = own := Except.ok.inj (hsettings.symm.trans hown)
    obtain ⟨-, sampler, hsampler, hread⟩ := settingsFor_eq_ok.1 hsettings
    let t := s.withProvider c .simple settings e []
    have hserves : Serves e t := withProvider_serves c settings e []
    have hmaker := maker?_eq_some.2 ⟨rfl, provider?_withProvider s c .simple settings e [],
      hsdk.toRecordsAll.isDisabled hread⟩
    have hlimits := hsdk.limits hread
    obtain ⟨hnone, hquiet, hrecords⟩ := makeTestSpan_journal hserves rfl hrefusal rfl hmaker
      hlimits (hkept _ hlimits.attributes) name note
    have hlater := makeTestSpan_serves rfl name attributes note t hserves
    obtain ⟨-, -, hclosed, hnothing⟩ := shutdown_serves rfl rfl hlater
    let last := (makeTestSpan name attributes note t).state
    have hjournal : journal = before ++
        ((makeTestSpan name attributes note t).journal ++ (shutdown last).journal) := by
      have hall := congrArg Outcome.journal hsend
      rw [Outcome.after_journal, Call.ensuring_apply] at hall
      exact hall
    have hend : (shutdown last).journal.requests = [] :=
      Journal.requests_eq_nil (shutdown_asksForNone last)
    rw [hjournal]
    refine ⟨?_, ?_, sampler, hsampler, ?_⟩
    · rw [Journal.requests_append, Journal.requests_append, hrequests, hnone, hend]
      rfl
    · have hopened : s.backend.openings s.clients none = [(s.clients, .opened)] := by
        simp [Backend.openings, hcreate]
      rw [Journal.clientCalls_append, Journal.clientCalls_append, hcalls, hquiet, hopened, hclosed]
      rfl
    · rw [Journal.sent_append, Journal.sent_append, hsent, hrecords, hnothing,
        ← hsdk.toRecordsAll.keeps_root hread]
      exact List.append_nil _

/-! ## Its events -/

section

variable {note : Option Value}
  (hclock : ∀ time ∈ s.readings note, ∃ stamp, Timestamp.ofNanoseconds (some time) = .ok stamp)

include hclock

theorem ofSpan_testSpan (name : Value) (attributes : Fields) :
    ∃ fixed, SpanEvent.ofSpan (s.testSpan name attributes note) = .ok fixed := by
  have hstart : s.clock.head ∈ s.readings note := by
    unfold readings
    cases noteText? note <;> exact List.mem_cons_self
  obtain ⟨finish, hfinish, hlast⟩ : ∃ finish ∈ s.readings note,
      (s.testSpan name attributes note).finish = some finish := by
    unfold testSpan readings
    cases noteText? note <;> simp
  obtain ⟨before, hbefore⟩ := hclock _ hstart
  obtain ⟨after, hafter⟩ := hclock _ hfinish
  obtain ⟨duration, hduration⟩ := Duration.milliseconds_isOk hbefore hafter
  rw [← hlast] at hduration
  exact ⟨_, ofSpan_eq_ok_iff.2 ⟨_, duration, before, rfl, hduration, hbefore, rfl⟩⟩

theorem testSpan_isConvertible {attributes : Fields}
    (hscalar : ∀ entry ∈ attributes.entries, entry.2.IsScalar) (name : Value) :
    (s.testSpan name attributes note).IsConvertible := by
  constructor
  · rintro (⟨cause, hno⟩ | ⟨entry, hentry, cause, hno⟩ | ⟨status, cause, hstatus, hno⟩)
    · obtain ⟨fixed, hfixed⟩ := ofSpan_testSpan hclock name attributes
      rw [hfixed] at hno
      cases hno
    · rw [(hscalar entry hentry).toField] at hno
      cases hno
    · cases hstatus
      cases hno
  · intro made hmade
    obtain ⟨text, htext, rfl⟩ := List.mem_map.1 hmade
    have htime : s.clock.tail.head ∈ s.readings note := by
      unfold readings
      rw [Option.mem_toList.1 htext]
      simp
    obtain ⟨stamp, hstamp⟩ := hclock _ htime
    rintro (⟨cause, hno⟩ | ⟨entry, hentry, -⟩)
    · rw [ofNote_eq_ok_iff.2 ⟨_, stamp, rfl, hstamp, rfl⟩] at hno
      cases hno
    · cases hentry

end

theorem last?_runExporter {c : Configuration} (field : String)
    (pairs : List (String × Value)) :
    Pairs.last? field ((s.runExporter c).ownPairs ++ pairs) =
      (Pairs.last? field pairs).or (if field = FieldName.serviceName ∧ c.serviceName.isTruthy
        then some c.serviceName else none) := by
  have hown : (s.runExporter c).ownPairs =
      if c.serviceName.isTruthy then [(FieldName.serviceName, c.serviceName)] else [] := rfl
  rw [Pairs.last?_append, hown]
  congr 1
  cases c.serviceName.isTruthy with
  | false => simp [Pairs.last?]
  | true => simp [Pairs.last?_singleton]

theorem get?_spanEvent {c : Configuration} {name : Value} {attributes : Fields}
    {note : Option Value} {event : Event}
    (hscalar : ∀ entry ∈ attributes.entries, entry.2.IsScalar)
    (h : (s.runExporter c).convertSpan (s.testSpan name attributes note) = .ok event) :
    ∃ fixed, SpanEvent.ofSpan (s.testSpan name attributes note) = .ok fixed ∧
      ∀ field, event.fields.get? field =
        ((attributes.get? field).or (Pairs.get? field fixed.toPairs)).or
          (if field = FieldName.serviceName ∧ c.serviceName.isTruthy then some c.serviceName
            else none) := by
  obtain ⟨fixed, target, pairs, status, hfixed, -, hpairs, hstatus, rfl⟩ :=
    Exporter.convertSpan_eq_ok.1 h
  obtain rfl : attributes.entries = pairs :=
    Except.ok.inj ((attributePairs_of_scalars hscalar).symm.trans hpairs)
  obtain rfl : [] = status := Except.ok.inj hstatus
  refine ⟨fixed, hfixed, fun field => ?_⟩
  rw [Exporter.get?_event, last?_runExporter, List.append_nil, Pairs.last?_append,
    ← Pairs.get?_eq_last? attributes.distinct, ← Pairs.get?_eq_last? fixed.nodup_names]
  rfl

theorem get?_noteEvent {c : Configuration} {span : Span} {context : SpanContext}
    (hcontext : span.context = some context) {note : Note} (hnote : note.attributes = .empty)
    {event : Event} (h : (s.runExporter c).convertNote span note = .ok event) :
    event.fields.get? FieldName.name = some (.text note.name) ∧
      event.fields.get? FieldName.traceId = some (.text (Identifier.traceText context.traceId)) ∧
      event.fields.get? FieldName.parentId =
        some (.text (Identifier.spanText context.spanId)) := by
  obtain ⟨fixed, target, pairs, hfixed, -, hpairs, rfl⟩ := Exporter.convertNote_eq_ok.1 h
  obtain ⟨known, stamp, hknown, -, rfl⟩ := ofNote_eq_ok_iff.1 hfixed
  obtain rfl : context = known := Option.some.inj (hcontext.symm.trans hknown)
  rw [hnote] at hpairs
  obtain rfl : [] = pairs := Except.ok.inj hpairs
  simp only [Exporter.get?_event, last?_runExporter, List.append_nil,
    ← Pairs.get?_eq_last? (NoteEvent.nodup_names _), NoteEvent.get?_name, NoteEvent.get?_traceId,
    NoteEvent.get?_parentId, Option.some_or, and_self]

theorem records_testSpan {c : Configuration} (hcheck : c.check = .ok c)
    (hkey : c.writekey ≠ .text "")
    (hrefusal : ∀ k event, s.backend.transmission.refusal k event = none)
    {note : Option Value}
    (hclock : ∀ time ∈ s.readings note, ∃ stamp, Timestamp.ofNanoseconds (some time) = .ok stamp)
    {attributes : Fields} (hscalar : ∀ entry ∈ attributes.entries, entry.2.IsScalar)
    (name : Value) :
    let e := s.runExporter c
    let span := s.testSpan name attributes note
    ∃ event, e.convertSpan span = .ok event ∧
      match noteText? note with
      | none => e.records span = [(s.clients, event)]
      | some text => ∃ noted,
          e.convertNote span ⟨text, some s.clock.tail.head, .empty⟩ = .ok noted ∧
          e.records span = [(s.clients, event), (s.clients, noted)] := by
  intro e span
  obtain ⟨-, -, hnumber⟩ := Configuration.parts_of_check hcheck
  obtain ⟨events, hevents, hrecords⟩ := Exporter.records_whole (e := e)
    ((runExporter_delivers hcheck).2 hkey) hrefusal hnumber
    (testSpan_isConvertible hclock hscalar name)
  have hoffers : e.offers span = e.convertSpan span :: (noteText? note).toList.map fun text =>
      e.convertNote span ⟨text, some s.clock.tail.head, .empty⟩ :=
    congrArg (_ :: ·) List.map_map
  -- As many events as offers: one for the span, and one more if there is a note.
  rw [hoffers] at hevents
  cases events with
  | nil => cases hevents
  | cons event rest =>
    obtain ⟨hevent, hrest⟩ := List.cons.inj hevents
    refine ⟨event, hevent.symm, ?_⟩
    cases htext : noteText? note with
    | none =>
      rw [htext] at hrest
      obtain rfl := List.map_eq_nil_iff.1 hrest
      exact hrecords
    | some text =>
      rw [htext] at hrest
      obtain ⟨noted, rfl, hnoted⟩ := List.map_eq_singleton_iff.1 hrest
      exact ⟨noted, hnoted.symm, hrecords⟩

end Session

/-! ## The run -/

def keyedSession : Session :=
  { Session.blankSession with
    clock := ⟨fun k => 1700000000000000000 + 1500000 * k, 0⟩
    environment := .ofList [("HONEYCOMB_WRITEKEY", "key"), ("HONEYCOMB_DATASET", "staging")] }

def smokeWords : List String :=
  ["--dataset", "traces", "--service-name", "checkout", "--annotation", "ready",
    "--attr", "name=200"]

def smokeArguments : Arguments :=
  { dataset := some (.text "traces"), serviceName := some (.text "checkout"),
    note := some (.text "ready"), attributes := [.text "name=200"] }

def smokeConfiguration : Configuration :=
  { writekey := .text "key", dataset := .text "traces", serviceName := .text "checkout" }

end SpanExport

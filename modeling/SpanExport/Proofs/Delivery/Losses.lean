import SpanExport.Proofs.Delivery.Batch
import SpanExport.Proofs.Delivery.LastWriter
import SpanExport.Proofs.Time.Range
import SpanExport.Proofs.Value.Writable

/-!
# Lost spans

Of a span that has no context, or lasts too long, or starts at a time that has no timestamp, or has
a status whose code is no integer, nothing is sent, and the first of these is reported. Every other
span is sent, whatever becomes of its notes.
-/

namespace SpanExport

/-! ## Codes -/

namespace Value

/-- The bytes of a value that is read as the numeral they spell. -/
def spelling? : Value → Option (List UInt8)
  | .bytes data | .buffer data | .view data => some data
  | _ => none

/-- The value is a number, or something that a number can be read from. -/
def IsNumeric : Value → Prop
  | .bool _ | .int _ | .float _ | .text _ | .bytes _ | .buffer _ | .view _ => True
  | _ => False

/-- Why a value stands for no integer. -/
inductive IsNoInteger : Value → IntegerError → Prop
  | nan : IsNoInteger (.float .nan) .nan
  | infinite (negative : Bool) : IsNoInteger (.float (.infinite negative)) .infinite
  | text {s : String} {cause : Numeral.ReadError} (h : Numeral.readInteger s = .error cause) :
    IsNoInteger (.text s) (.ofReading (Text.quoted s) cause)
  | bytes {v : Value} {data : List UInt8} {cause : IntegerError} (hv : v.spelling? = some data)
    (h : bytesToInteger data = .error cause) : IsNoInteger v cause
  | other {v : Value} (h : ¬ v.IsNumeric) : IsNoInteger v (.noNumber v.kind)

theorem toInteger_eq_error_iff {v : Value} {cause : IntegerError} :
    v.toInteger = .error cause ↔ v.IsNoInteger cause := by
  constructor
  · intro h
    cases v with
    | bool | int => cases h
    | float x =>
      cases x with
      | nan => cases h; exact .nan
      | infinite negative => cases h; exact .infinite negative
      | finite => cases h
    | text s =>
      rw [toInteger] at h
      cases hread : Numeral.readInteger s with
      | ok n => simp [hread, Except.mapError] at h
      | error reason =>
        rw [hread] at h
        cases h
        exact .text hread
    | bytes | buffer | view => exact .bytes rfl h
    | _ => cases h; exact .other id
  · intro h
    cases h with
    | nan => rfl
    | infinite => rfl
    | text h => rw [toInteger, h]; rfl
    | bytes hv h => cases v <;> cases hv <;> exact h
    | other h => cases v <;> first | rfl | exact absurd trivial h

theorem statusInteger_eq_error_iff {v : Value} {cause : IntegerError} :
    v.statusInteger = .error cause ↔
      v ≠ .null ∧ (∀ code, v ≠ .status code) ∧ v.IsNoInteger cause := by
  rw [← toInteger_eq_error_iff]
  cases v <;> simp [statusInteger]

end Value

/-! ## Reasons -/

namespace Span

/-- A span of which a fixed part can be made. -/
structure HasFixedPart (span : Span) : Prop where
  context : span.context ≠ none
  duration : ¬ Duration.IsTooLong span.start span.finish
  start : ∀ ns, span.start = some ns → ns ≠ 0 → Timestamp.InRange ns

/-- Why nothing is sent of a span. Each reason counts only where none before it applies. -/
inductive IsLost (span : Span) : Failure → Prop
  | noContext (h : span.context = none) : IsLost span (.fixed .noContext)
  | duration (hcontext : span.context ≠ none)
    (h : Duration.IsTooLong span.start span.finish) : IsLost span (.fixed (.duration .tooLarge))
  | start (hcontext : span.context ≠ none) (hduration : ¬ Duration.IsTooLong span.start span.finish)
    {ns : Int} {cause : TimestampError} (hstart : span.start = some ns) (hset : ns ≠ 0)
    (h : Timestamp.IsBeyond ns cause) : IsLost span (.fixed (.timestamp cause))
  | status (hfixed : span.HasFixedPart) {status : Status} {cause : IntegerError}
    (hstatus : span.status = some status) (hnull : status.code ≠ .null)
    (hcode : ∀ code, status.code ≠ .status code) (h : status.code.IsNoInteger cause) :
    IsLost span (.status cause)

variable {span : Span}

theorem hasFixedPart_of_ofSpan {fixed : SpanEvent} (h : SpanEvent.ofSpan span = .ok fixed) :
    span.HasFixedPart := by
  obtain ⟨context, duration, time, hcontext, hduration, htime, -⟩ := ofSpan_eq_ok_iff.1 h
  refine ⟨by simp [hcontext], fun hlong => ?_, fun ns hstart hset => ?_⟩
  · rw [Duration.milliseconds_eq_error_iff.2 hlong] at hduration
    cases hduration
  · rw [hstart] at htime
    rcases Timestamp.ofNanoseconds_cases hset with ⟨-, -, hrange, -⟩ | ⟨cause, herror, -⟩
    · exact hrange
    · cases herror.symm.trans htime

theorem ofSpan_of_noContext (hcontext : span.context = none) :
    SpanEvent.ofSpan span = .error .noContext := by
  simp [SpanEvent.ofSpan, knownContext, hcontext, Bind.bind, Except.bind]

theorem ofSpan_of_duration {cause : DurationError} (hcontext : span.context ≠ none)
    (hduration : Duration.milliseconds span.start span.finish = .error cause) :
    SpanEvent.ofSpan span = .error (.duration cause) := by
  obtain ⟨context, hcontext⟩ := Option.ne_none_iff_exists'.1 hcontext
  simp [SpanEvent.ofSpan, knownContext, hcontext, hduration, Except.mapError, Bind.bind,
    Except.bind]

theorem ofSpan_of_start {duration : Binary64} {cause : TimestampError}
    (hcontext : span.context ≠ none)
    (hduration : Duration.milliseconds span.start span.finish = .ok duration)
    (hstart : Timestamp.ofNanoseconds span.start = .error cause) :
    SpanEvent.ofSpan span = .error (.timestamp cause) := by
  obtain ⟨context, hcontext⟩ := Option.ne_none_iff_exists'.1 hcontext
  simp [SpanEvent.ofSpan, knownContext, hcontext, hduration, hstart, Except.mapError, Bind.bind,
    Except.bind]

theorem ofSpan_eq_error_iff {cause : FixedError} :
    SpanEvent.ofSpan span = .error cause ↔ span.IsLost (.fixed cause) := by
  constructor
  · intro h
    by_cases hcontext : span.context = none
    · rw [ofSpan_of_noContext hcontext] at h
      cases h
      exact .noContext hcontext
    by_cases hduration : Duration.IsTooLong span.start span.finish
    · rw [ofSpan_of_duration hcontext (Duration.milliseconds_eq_error_iff.2 hduration)] at h
      cases h
      exact .duration hcontext hduration
    obtain ⟨duration, hok⟩ := Duration.exists_milliseconds hduration
    cases hstart : Timestamp.ofNanoseconds span.start with
    | error reason =>
      rw [ofSpan_of_start hcontext hok hstart] at h
      cases h
      obtain ⟨ns, hns, hset, hbeyond⟩ := Timestamp.ofNanoseconds_eq_error_iff.1 hstart
      exact .start hcontext hduration hns hset hbeyond
    | ok time =>
      obtain ⟨context, hcontext⟩ := Option.ne_none_iff_exists'.1 hcontext
      rw [ofSpan_eq_ok_iff.2 ⟨context, duration, time, hcontext, hok, hstart, rfl⟩] at h
      cases h
  · intro h
    cases h with
    | noContext hcontext => exact ofSpan_of_noContext hcontext
    | duration hcontext hlong =>
      exact ofSpan_of_duration hcontext (Duration.milliseconds_eq_error_iff.2 hlong)
    | start hcontext hduration hstart hset hbeyond =>
      obtain ⟨duration, hok⟩ := Duration.exists_milliseconds hduration
      exact ofSpan_of_start hcontext hok
        (Timestamp.ofNanoseconds_eq_error_iff.2 ⟨_, hstart, hset, hbeyond⟩)

theorem HasFixedPart.ofSpan (h : span.HasFixedPart) :
    ∃ fixed, SpanEvent.ofSpan span = .ok fixed := by
  cases hfixed : SpanEvent.ofSpan span with
  | ok fixed => exact ⟨fixed, rfl⟩
  | error cause =>
    cases ofSpan_eq_error_iff.1 hfixed with
    | noContext hnone => exact absurd hnone h.context
    | duration _ hlong => exact absurd hlong h.duration
    | start _ _ hstart hset hbeyond => exact absurd (h.start _ hstart hset) hbeyond.not_inRange

end Span

/-! ## Losing and sending -/

namespace Exporter

variable {e : Exporter} {span : Span}

theorem attributePairs_isOk {attributes : Fields}
    (h : ∀ entry ∈ attributes.entries, entry.2.HasShortMappings) :
    ∃ pairs, attributePairs attributes = .ok pairs := by
  cases hpairs : attributePairs attributes with
  | ok pairs => exact ⟨pairs, rfl⟩
  | error failure =>
    obtain ⟨entry, hentry, cause, herror⟩ := (attributePairs_isError attributes).1 ⟨failure, hpairs⟩
    obtain ⟨field, hfield⟩ := Value.toField_isOk entry.2 (h entry hentry)
    cases herror.symm.trans hfield

theorem statusPairs_eq_error_iff {status : Option Status} {failure : Failure} :
    statusPairs status = .error failure ↔
      ∃ s cause, status = some s ∧ s.code.statusInteger = .error cause ∧
        failure = .status cause := by
  cases status with
  | none => simp [statusPairs]
  | some s => cases h : s.code.statusInteger <;> simp [statusPairs, h, eq_comm]

theorem convertSpan_eq_error_iff (hfraction : e.sampleFraction.quantity?.isSome)
    (hattributes : ∀ entry ∈ span.attributes.entries, entry.2.HasShortMappings)
    {failure : Failure} : e.convertSpan span = .error failure ↔ span.IsLost failure := by
  obtain ⟨target, htarget⟩ := target_isOk hfraction
  obtain ⟨pairs, hpairs⟩ := attributePairs_isOk hattributes
  -- Once there is a fixed part, only the status can fail.
  have hconvert : ∀ {fixed}, SpanEvent.ofSpan span = .ok fixed →
      (e.convertSpan span = .error failure ↔ statusPairs span.status = .error failure) := by
    intro fixed hfixed
    rw [e.convertSpan_of_fixed hfixed, spanEvent, htarget, hpairs]
    cases statusPairs span.status <;> simp [Bind.bind, Except.bind, Pure.pure, Except.pure]
  constructor
  · intro h
    cases hfixed : SpanEvent.ofSpan span with
    | error cause =>
      rw [e.convertSpan_of_fixedError hfixed] at h
      cases h
      exact Span.ofSpan_eq_error_iff.1 hfixed
    | ok fixed =>
      obtain ⟨status, cause, hstatus, hcode, rfl⟩ :=
        statusPairs_eq_error_iff.1 ((hconvert hfixed).1 h)
      obtain ⟨hnull, hcode, hcause⟩ := Value.statusInteger_eq_error_iff.1 hcode
      exact .status (Span.hasFixedPart_of_ofSpan hfixed) hstatus hnull hcode hcause
  · intro h
    have hfixedError : ∀ {cause}, span.IsLost (.fixed cause) →
        e.convertSpan span = .error (.fixed cause) := fun h =>
      e.convertSpan_of_fixedError (Span.ofSpan_eq_error_iff.2 h)
    cases h with
    | noContext hcontext => exact hfixedError (.noContext hcontext)
    | duration hcontext hlong => exact hfixedError (.duration hcontext hlong)
    | start hcontext hduration hstart hset hbeyond =>
      exact hfixedError (.start hcontext hduration hstart hset hbeyond)
    | status hpart hstatus hnull hcode hcause =>
      obtain ⟨fixed, hfixed⟩ := hpart.ofSpan
      exact (hconvert hfixed).2 (statusPairs_eq_error_iff.2
        ⟨_, _, hstatus, Value.statusInteger_eq_error_iff.2 ⟨hnull, hcode, hcause⟩, rfl⟩)

theorem exportSpan_of_lost {failure : Failure} (h : e.convertSpan span = .error failure) :
    exportSpan span e = ⟨e, [], .error failure⟩ := by
  rcases exportSpan_cases e span with ⟨other, hconvert, hexport⟩ | ⟨event, message, hconvert, -⟩
  · rw [h] at hconvert
    cases hconvert
    exact hexport
  · cases h.symm.trans hconvert

theorem send_of_open {client : Client} (hopen : client.isOpen = true)
    (hsends : ∀ k event, client.transmission.refusal k event = none) (event : Event) :
    ∃ next, Client.send event client =
      ⟨next, if event.target.isComplete then [.sent client.number event] else [], .ok ()⟩ := by
  unfold Client.send
  by_cases hcomplete : event.target.isComplete = true
  · rw [if_pos ⟨hcomplete, hopen⟩, if_pos hcomplete, hsends]
    exact ⟨_, rfl⟩
  · rw [if_neg (fun h => hcomplete h.1), if_neg hcomplete]
    exact ⟨_, rfl⟩

/-- The event comes before all else in the journal, if there is a place where it can go. -/
def SendsFirst (e : Exporter) (event : Event) (journal : Journal) : Prop :=
  ∃ message rest, journal =
    (if e.builder.target.isComplete then [.sent e.client.number event] else []) ++
      .logged .debug message :: rest

theorem exportSpan_sendsFirst (hopen : e.client.isOpen = true)
    (hsends : ∀ k event, e.client.transmission.refusal k event = none) {event : Event}
    (h : e.convertSpan span = .ok event) : e.SendsFirst event (exportSpan span e).journal := by
  rcases exportSpan_cases e span with ⟨failure, hconvert, -⟩ | ⟨other, message, hconvert, hexport⟩
  · cases h.symm.trans hconvert
  · obtain rfl : event = other := by simpa [h] using hconvert
    have hmem : .ok event ∈ e.offers span := h ▸ List.mem_cons_self
    have hcomplete := isComplete_of_mem_offers hmem
    obtain ⟨next, hsend⟩ := send_of_open hopen hsends event
    rw [hcomplete] at hsend
    have hclient : onClient (Client.send event) e = ⟨{ e with client := next },
        if e.builder.target.isComplete then [.sent e.client.number event] else [], .ok ()⟩ := by
      rw [onClient, Call.within_apply, hsend]
    rw [hexport, Call.bind_of_ok _ hclient, Outcome.after_journal, Call.log_bind_apply]
    exact ⟨message, _, rfl⟩

/-- An exporter whose client takes everything fails at a span, with nothing done, just for the
reason that the span is lost. The event of every other span is sent before anything can fail. -/
theorem exportSpan_lost_iff (hfraction : e.sampleFraction.quantity?.isSome)
    (hopen : e.client.isOpen = true)
    (hsends : ∀ k event, e.client.transmission.refusal k event = none)
    (hattributes : ∀ entry ∈ span.attributes.entries, entry.2.HasShortMappings) :
    (∀ failure, exportSpan span e = ⟨e, [], .error failure⟩ ↔ span.IsLost failure) ∧
    ((∀ failure, ¬ span.IsLost failure) → ∃ event, e.convertSpan span = .ok event ∧
      e.SendsFirst event (exportSpan span e).journal) := by
  have hlost := @convertSpan_eq_error_iff e span hfraction hattributes
  cases hconvert : e.convertSpan span with
  | error failure =>
    rw [exportSpan_of_lost hconvert]
    refine ⟨fun other => ?_, fun hnone => absurd (hlost.1 hconvert) (hnone failure)⟩
    rw [← hlost, hconvert]
    simp
  | ok event =>
    have hsent := exportSpan_sendsFirst hopen hsends hconvert
    refine ⟨fun failure => ?_, fun _ => ⟨event, rfl, hsent⟩⟩
    rw [← hlost, hconvert]
    refine iff_of_false (fun hnothing => ?_) (by simp)
    obtain ⟨message, rest, hjournal⟩ := hsent
    simp [hnothing] at hjournal

def plainExporter : Exporter :=
  .make (.make 1 ⟨.text "key", .text "traces", .text "host", .int 1⟩ .empty {}) (.int 1) (.text "")

/-- A span of the first nanosecond after the year 9999, with a status that is no number. -/
def lateSpan : Span :=
  ⟨.text "late", some ⟨1, 2⟩, none, some (253402300800 * 10 ^ 9), some 1,
    some ⟨.float .nan, none⟩, Fields.empty.put "retries" (.int 3), []⟩

/-- A note keeps no span from being sent. -/
def readSpan : Span :=
  ⟨.text "read", some ⟨1, 2⟩, none, none, some 1, some ⟨.text " 2 ", none⟩, .empty,
    [⟨"late", some (253402300800 * 10 ^ 9), .empty⟩]⟩

/-- Of two reasons the time comes first. -/
theorem exportSpan_loses_late :
    plainExporter.sampleFraction.quantity?.isSome ∧ plainExporter.client.isOpen = true ∧
    (∀ k event, plainExporter.client.transmission.refusal k event = none) ∧
    (∀ entry ∈ lateSpan.attributes.entries, entry.2.HasShortMappings) ∧
    exportSpan lateSpan plainExporter =
      ⟨plainExporter, [], .error (.fixed (.timestamp (.yearOutOfRange 10000)))⟩ ∧
    (∀ entry ∈ readSpan.attributes.entries, entry.2.HasShortMappings) ∧
    (∀ failure, ¬ readSpan.IsLost failure) ∧
    ∃ event, plainExporter.SendsFirst event (exportSpan readSpan plainExporter).journal := by
  have hsends : ∀ k event, plainExporter.client.transmission.refusal k event = none :=
    fun _ _ => rfl
  have hlate : ∀ entry ∈ lateSpan.attributes.entries, entry.2.HasShortMappings := by
    intro entry hentry entries hpart
    obtain rfl : entry = ("retries", .int 3) := List.mem_singleton.1 hentry
    cases hpart
  have hread : ∀ entry ∈ readSpan.attributes.entries, entry.2.HasShortMappings := nofun
  have hlost : lateSpan.IsLost (.fixed (.timestamp (.yearOutOfRange 10000))) := by
    have hyear : Calendar.IsYearOf 2932897 10000 := by
      unfold Calendar.IsYearOf
      rw [Calendar.newYear_eq, Calendar.newYear_eq]
      decide
    have hbeyond : Timestamp.IsBeyond (253402300800 * 10 ^ 9)
        (.yearOutOfRange ((10000 : Int).bmod (2 ^ 32))) :=
      .fourDigits (by unfold Timestamp.FitsSigned; omega) hyear
        (by unfold Timestamp.FitsSigned; omega) (.inr (by decide))
    refine .start (by simp [lateSpan]) ?_ rfl (by decide) hbeyond
    rintro ⟨s, f, ⟨⟩, ⟨⟩, -, -, hlong⟩
    have hbound := Binary64.le_overflowBound 50 (by decide)
    omega
  have hkept : ∀ failure, ¬ readSpan.IsLost failure := by
    intro failure h
    cases h with
    | noContext hcontext => cases hcontext
    | duration _ hlong => obtain ⟨s, f, hs, -⟩ := hlong; cases hs
    | start _ _ hstart => cases hstart
    | status _ hstatus _ _ hcause =>
      cases hstatus
      have hinteger : (Value.text " 2 ").toInteger = .ok 2 := by decide +kernel
      cases hinteger.symm.trans (Value.toInteger_eq_error_iff.2 hcause)
  obtain ⟨event, -, hfirst⟩ := (exportSpan_lost_iff rfl rfl hsends hread).2 hkept
  exact ⟨rfl, rfl, hsends, hlate, ((exportSpan_lost_iff rfl rfl hsends hlate).1 _).2 hlost, hread,
    hkept, event, hfirst⟩

end Exporter

end SpanExport

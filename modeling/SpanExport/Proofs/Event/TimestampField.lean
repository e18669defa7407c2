import SpanExport.Proofs.Event.TraceGraph
import SpanExport.Proofs.Time.Order
import SpanExport.Proofs.Time.Range

/-!
# Sorting by time

The events of spans and of notes carry their times as texts. Sorting the texts sorts the events by
the microseconds that their times fall into.
-/

namespace SpanExport

/-! ## The field -/

theorem SpanEvent.get?_timestamp (fixed : SpanEvent) :
    Pairs.get? FieldName.timestamp fixed.toPairs =
      fixed.timestamp.map fun t => .text t.text := by
  unfold toPairs
  split <;> cases fixed.timestamp <;>
    simp [Pairs.get?, timestampPairs, FieldName.traceId, FieldName.name, FieldName.spanId,
      FieldName.parentId, FieldName.durationMs, FieldName.timestamp]

theorem NoteEvent.get?_timestamp (fixed : NoteEvent) :
    Pairs.get? FieldName.timestamp fixed.toPairs =
      fixed.timestamp.map fun t => .text t.text := by
  unfold toPairs
  cases fixed.timestamp <;>
    simp [Pairs.get?, timestampPairs, FieldName.traceId, FieldName.name, FieldName.parentId,
      FieldName.note, FieldName.timestamp]

/-- What an event is made of: a span that has ended, or a note on one. -/
inductive Occasion where
  | ended (span : Span)
  | noted (span : Span) (note : Note)

namespace Occasion

def time : Occasion → Option Int
  | .ended span => span.start
  | .noted _ note => note.time

/-- The fixed part of the event. -/
def fixedPairs : Occasion → Except FixedError (List (String × Value))
  | .ended span => SpanEvent.toPairs <$> SpanEvent.ofSpan span
  | .noted span note => NoteEvent.toPairs <$> NoteEvent.ofNote span note

/-- There is a context, and a span that has ended did not last too long. -/
def IsMade : Occasion → Prop
  | .ended span => span.context ≠ none ∧ ¬ Duration.IsTooLong span.start span.finish
  | .noted span _ => span.context ≠ none

variable {x y : Occasion} {a b : Int}

theorem get?_timestamp (h : x.IsMade) (htime : x.time = some a) (ha : a ≠ 0)
    (hrange : Timestamp.InRange a) :
    ∃ ps, ∃ t : Timestamp, x.fixedPairs = .ok ps ∧ t.IsOf a ∧
      Pairs.get? FieldName.timestamp ps = some (.text t.text) := by
  obtain ⟨t, ht⟩ := Timestamp.exists_ofNanoseconds ha hrange
  have hof := Timestamp.ofNanoseconds_isOf ha ht
  rw [← htime] at ht
  cases x with
  | ended span =>
    obtain ⟨hcontext, hduration⟩ := h
    obtain ⟨context, hcontext⟩ := Option.ne_none_iff_exists'.1 hcontext
    obtain ⟨duration, hduration⟩ := Duration.exists_milliseconds hduration
    have hfixed := ofSpan_eq_ok_iff.2 ⟨context, duration, some t, hcontext, hduration, ht, rfl⟩
    exact ⟨_, t, by rw [fixedPairs, hfixed]; rfl, hof, SpanEvent.get?_timestamp _⟩
  | noted span note =>
    obtain ⟨context, hcontext⟩ := Option.ne_none_iff_exists'.1 h
    have hfixed := ofNote_eq_ok_iff.2 ⟨context, some t, hcontext, ht, rfl⟩
    exact ⟨_, t, by rw [fixedPairs, hfixed]; rfl, hof, NoteEvent.get?_timestamp _⟩

/-! ## Sorting -/

/-- Two times in range are both written. Their texts are compared as the microseconds are that the
times fall into, and have 25 characters, or 32 with a fraction. -/
theorem timestamp_sorts (hx : x.IsMade) (hy : y.IsMade) (hxtime : x.time = some a)
    (hytime : y.time = some b) (ha : a ≠ 0) (hb : b ≠ 0) (harange : Timestamp.InRange a)
    (hbrange : Timestamp.InRange b) :
    ∃ ps qs, ∃ s t : String, x.fixedPairs = .ok ps ∧ y.fixedPairs = .ok qs ∧
      Pairs.get? FieldName.timestamp ps = some (.text s) ∧
      Pairs.get? FieldName.timestamp qs = some (.text t) ∧
      (s < t ↔ a / 1000 < b / 1000) ∧ (s = t ↔ a / 1000 = b / 1000) ∧
      s.length = if a / 1000 % 1000000 = 0 then 25 else 32 := by
  obtain ⟨ps, t, hps, ht, hfield⟩ := get?_timestamp hx hxtime ha harange
  obtain ⟨qs, u, hqs, hu, hfield'⟩ := get?_timestamp hy hytime hb hbrange
  have hless : t.text < u.text ↔ a / 1000 < b / 1000 := by
    rw [ht.valid.text_lt_iff hu.valid ht.year hu.year, ht.elapsed, hu.elapsed]
  have hmore : u.text < t.text ↔ b / 1000 < a / 1000 := by
    rw [hu.valid.text_lt_iff ht.valid hu.year ht.year, hu.elapsed, ht.elapsed]
  refine ⟨ps, qs, _, _, hps, hqs, hfield, hfield', hless,
    Digits.eq_iff_eq_of_lt_iff hless hmore, ?_⟩
  rw [ht.valid.length_text ht.year.2]
  simp only [ht.microsecond]

def onTheSecond : Span :=
  ⟨.text "tick", some ⟨1, 2⟩, none, some 1000000000, none, none, .empty, []⟩

def justAfter : Note := ⟨"tock", some 1000001999, .empty⟩

/-- A microsecond after the second there is a fraction, and the text still comes later. -/
theorem timestamp_sorts_fraction :
    IsMade (.ended onTheSecond) ∧ IsMade (.noted onTheSecond justAfter) ∧
    (1000000000 : Int) ≠ 0 ∧ (1000001999 : Int) ≠ 0 ∧ Timestamp.InRange 1000000000 ∧
    Timestamp.InRange 1000001999 ∧
    ∃ ps qs, ∃ s t : String, fixedPairs (.ended onTheSecond) = .ok ps ∧
      fixedPairs (.noted onTheSecond justAfter) = .ok qs ∧
      Pairs.get? FieldName.timestamp ps = some (.text s) ∧
      Pairs.get? FieldName.timestamp qs = some (.text t) ∧ s < t ∧ s ≠ t ∧ s.length = 25 := by
  have htick : IsMade (.ended onTheSecond) := by
    refine ⟨by simp [onTheSecond], ?_⟩
    rintro ⟨s, f, -, ⟨⟩, -⟩
  have htock : IsMade (.noted onTheSecond justAfter) := by simp [IsMade, onTheSecond]
  have hset : (1000000000 : Int) ≠ 0 ∧ (1000001999 : Int) ≠ 0 := by decide
  have hrange : Timestamp.InRange 1000000000 ∧ Timestamp.InRange 1000001999 := by
    unfold Timestamp.InRange
    omega
  obtain ⟨ps, qs, s, t, hps, hqs, hs, ht, hless, hsame, hlength⟩ :=
    timestamp_sorts htick htock rfl rfl hset.1 hset.2 hrange.1 hrange.2
  refine ⟨htick, htock, hset.1, hset.2, hrange.1, hrange.2, ps, qs, s, t, hps, hqs, hs, ht,
    hless.2 (by decide), mt hsame.1 (by decide), ?_⟩
  rw [hlength]
  decide

end Occasion

end SpanExport

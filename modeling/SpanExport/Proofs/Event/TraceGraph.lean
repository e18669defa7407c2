import Mathlib.Algebra.Group.Int.Defs
import SpanExport.Proofs.Delivery.LastWriter
import SpanExport.Proofs.Event.Hexadecimal

/-!
# The graph of a trace

Events refer to each other by the texts of identifiers. Following these texts from event to event
leads along the edges between the spans themselves and along no others.
-/

namespace SpanExport

/-! ## The names that refer to spans -/

theorem get?_timestampPairs {name : String} (h : name ≠ FieldName.timestamp)
    (time : Option Timestamp) : Pairs.get? name (timestampPairs time) = none := by
  cases time with
  | none => rfl
  | some t => simp [timestampPairs, Pairs.get?, Ne.symm h]

namespace SpanEvent

variable (fixed : SpanEvent)

theorem get?_traceId : Pairs.get? FieldName.traceId fixed.toPairs = some fixed.traceId := by
  simp [toPairs, Pairs.get?]

theorem get?_spanId : Pairs.get? FieldName.spanId fixed.toPairs = some fixed.spanId := by
  simp [toPairs, Pairs.get?, FieldName.traceId, FieldName.name, FieldName.spanId]

theorem get?_parentId : Pairs.get? FieldName.parentId fixed.toPairs =
    if fixed.parentId.isTruthy then some fixed.parentId else none := by
  have htime : Pairs.get? "trace.parent_id" (timestampPairs fixed.timestamp) = none :=
    get?_timestampPairs (by decide) fixed.timestamp
  unfold toPairs
  split <;> simp [Pairs.get?, htime, FieldName.traceId, FieldName.name, FieldName.spanId,
    FieldName.parentId, FieldName.durationMs]

theorem nodup_names : (Pairs.names fixed.toPairs).Nodup := by
  unfold toPairs
  split <;> cases fixed.timestamp <;>
    simp [Pairs.names, timestampPairs, FieldName.traceId, FieldName.name, FieldName.spanId,
      FieldName.parentId, FieldName.durationMs, FieldName.timestamp]

end SpanEvent

namespace NoteEvent

variable (fixed : NoteEvent)

theorem get?_name : Pairs.get? FieldName.name fixed.toPairs = some fixed.name := by
  simp [toPairs, Pairs.get?]

theorem get?_traceId : Pairs.get? FieldName.traceId fixed.toPairs = some fixed.traceId := by
  simp [toPairs, Pairs.get?, FieldName.traceId, FieldName.name]

theorem get?_parentId : Pairs.get? FieldName.parentId fixed.toPairs = some fixed.parentId := by
  simp [toPairs, Pairs.get?, FieldName.traceId, FieldName.name, FieldName.parentId]

theorem nodup_names : (Pairs.names fixed.toPairs).Nodup := by
  unfold toPairs
  cases fixed.timestamp <;>
    simp [Pairs.names, timestampPairs, FieldName.traceId, FieldName.name, FieldName.parentId,
      FieldName.timestamp, FieldName.note]

end NoteEvent

/-! ## Edges -/

/-- The span has this parent. A parent without an identifier, or with zero for one, is none. -/
def Span.HasParent (span : Span) (id : Int) : Prop :=
  ∃ parent, span.parent = some parent ∧ parent.spanId = some id ∧ id ≠ 0

theorem parentText_eq_spanText_iff {span : Span} {id : Int} :
    SpanEvent.parentText span.parent = Identifier.spanText id ↔ span.HasParent id := by
  constructor
  · intro h
    have hne : SpanEvent.parentText span.parent ≠ "" := by
      rw [h]
      exact spanText_ne_empty id
    obtain ⟨parent, other, hparent, hother, hzero⟩ := (parentText_ne_empty span.parent).1 hne
    rw [hparent, parentText_some hother hzero, Identifier.spanText_inj] at h
    subst h
    exact ⟨parent, hparent, hother, hzero⟩
  · rintro ⟨parent, hparent, hid, hzero⟩
    rw [hparent, parentText_some hid hzero]

theorem parentId_eq_spanId_iff {span : Span} {own other : SpanEvent} {id : Int}
    (hown : own.parentId = .text (SpanEvent.parentText span.parent))
    (hother : other.spanId = .text (Identifier.spanText id)) :
    (∃ value, Pairs.get? FieldName.parentId own.toPairs = some value ∧
        Pairs.get? FieldName.spanId other.toPairs = some value) ↔ span.HasParent id := by
  rw [SpanEvent.get?_parentId, SpanEvent.get?_spanId, hown, hother,
    ← parentText_eq_spanText_iff]
  by_cases hempty : SpanEvent.parentText span.parent = ""
  · simp [Value.isTruthy, hempty, (spanText_ne_empty id).symm]
  · simp [Value.isTruthy, hempty]
    exact eq_comm

/-- Where the fixed parts of two spans can be made, the first names the second as its parent just
when it has a parent and this is the second; both name one trace just when they are of one trace;
and a note on the first points at the second just when both have the same identifiers. -/
theorem identifiers_link_iff (span other : Span) {own far : SpanEvent}
    (hown : SpanEvent.ofSpan span = .ok own) (hfar : SpanEvent.ofSpan other = .ok far) :
    ∃ context context', span.context = some context ∧ other.context = some context' ∧
      ((∃ value, Pairs.get? FieldName.parentId own.toPairs = some value ∧
          Pairs.get? FieldName.spanId far.toPairs = some value) ↔
        span.HasParent context'.spanId) ∧
      (Pairs.get? FieldName.traceId own.toPairs = Pairs.get? FieldName.traceId far.toPairs ↔
        context.traceId = context'.traceId) ∧
      ∀ note fixed, NoteEvent.ofNote span note = .ok fixed →
        (Pairs.get? FieldName.traceId fixed.toPairs = Pairs.get? FieldName.traceId far.toPairs ∧
            Pairs.get? FieldName.parentId fixed.toPairs =
              Pairs.get? FieldName.spanId far.toPairs ↔
          context.traceId = context'.traceId ∧ context.spanId = context'.spanId) := by
  obtain ⟨context, duration, time, hcontext, -, -, rfl⟩ := ofSpan_eq_ok_iff.1 hown
  obtain ⟨context', duration', time', hcontext', -, -, rfl⟩ := ofSpan_eq_ok_iff.1 hfar
  refine ⟨context, context', hcontext, hcontext', parentId_eq_spanId_iff rfl rfl, ?_, ?_⟩
  · rw [SpanEvent.get?_traceId, SpanEvent.get?_traceId]
    simp [Identifier.traceText_inj]
  · intro note fixed hfixed
    obtain ⟨noted, stamp, hnoted, -, rfl⟩ := ofNote_eq_ok_iff.1 hfixed
    have hsame : noted = context := by
      rw [hcontext] at hnoted
      exact (Option.some.inj hnoted).symm
    subst hsame
    rw [NoteEvent.get?_traceId, NoteEvent.get?_parentId, SpanEvent.get?_traceId,
      SpanEvent.get?_spanId]
    simp [Identifier.traceText_inj, Identifier.spanText_inj]

/-- A child and its parent, with a note on the child. The identifiers are as wide as they may be,
and the one of the parent is negative. -/
theorem identifiers_link_child :
    let child : Span := ⟨.text "child", some ⟨2 ^ 130, 5⟩, some ⟨some (-7)⟩, none, none, none,
      .empty, [⟨"cache miss", none, .empty⟩]⟩
    let parent : Span := ⟨.text "parent", some ⟨2 ^ 130, -7⟩, none, none, none, none, .empty, []⟩
    ∃ own far, SpanEvent.ofSpan child = .ok own ∧ SpanEvent.ofSpan parent = .ok far ∧
      (∃ value, Pairs.get? FieldName.parentId own.toPairs = some value ∧
        Pairs.get? FieldName.spanId far.toPairs = some value) ∧
      (¬ ∃ value, Pairs.get? FieldName.parentId far.toPairs = some value ∧
        Pairs.get? FieldName.spanId own.toPairs = some value) ∧
      Pairs.get? FieldName.traceId own.toPairs = Pairs.get? FieldName.traceId far.toPairs := by
  intro child parent
  refine ⟨_, _, rfl, rfl, ?_, ?_, ?_⟩
  · obtain ⟨context, context', -, hcontext', hparent, -⟩ :=
      identifiers_link_iff child parent rfl rfl
    cases hcontext'
    exact hparent.2 ⟨⟨some (-7)⟩, rfl, rfl, by decide⟩
  · obtain ⟨context, context', -, -, hparent, -⟩ :=
      identifiers_link_iff parent child rfl rfl
    rw [hparent]
    rintro ⟨p, hp, -⟩
    cases hp
  · obtain ⟨context, context', hcontext, hcontext', -, htrace, -⟩ :=
      identifiers_link_iff child parent rfl rfl
    cases hcontext
    cases hcontext'
    exact htrace.2 rfl

end SpanExport

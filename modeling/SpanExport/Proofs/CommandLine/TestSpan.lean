import SpanExport.CommandLine.Run
import SpanExport.Proofs.Tracing.Quiet
import SpanExport.Proofs.Tracing.Settings

/-!
# The span of a run

Which span a run makes can be told from the identifiers and the clock of the session before it
is made. It is passed on to the provider that made it, unless its trace is sampled out.
-/

namespace SpanExport.Session

/-- The text of a note, if it is not empty. -/
def noteText? : Option Value → Option String
  | some (.text text) => if text = "" then none else some text
  | _ => none

/-- What the clock says when the span starts, when the note is made, and when the span ends. -/
def readings (s : Session) (note : Option Value) : List Int :=
  match noteText? note with
  | none => [s.clock.head, s.clock.tail.head]
  | some _ => [s.clock.head, s.clock.tail.head, s.clock.tail.tail.head]

/-- The span when it ends: a root to which nothing happened but the note. -/
def testSpan (s : Session) (name : Value) (attributes : Fields) (note : Option Value) : Span where
  name
  context := some ⟨s.traceIds.head, s.spanIds.head⟩
  parent := none
  start := some s.clock.head
  finish := (s.readings note).getLast?
  status := some ⟨.status .unset, none⟩
  attributes
  notes := (noteText? note).toList.map fun text => ⟨text, some s.clock.tail.head, .empty⟩

theorem makeTestSpan_eq (name : Value) (attributes : Fields) (note : Option Value) :
    makeTestSpan name attributes note = (do
      let span ← start name none attributes none
      match noteText? note with
      | none => finish span none
      | some text =>
        addNote span text .empty none
        finish span none) := by
  unfold makeTestSpan
  congr
  funext span
  cases note with
  | none => rfl
  | some value =>
    cases value with
    | text text => by_cases h : text = "" <;> simp [noteText?, h]
    | _ => rfl

variable {s : Session}

/-! ## One call after the other -/

/-- One call later the clock was read once, and this is recorded of the span. -/
structure Records (s : Session) (number : Nat) (held : Nat × Recording) (t : Session) : Prop where
  quiet : Quiet s (⟨t, [], .ok ()⟩ : Outcome Session Unit)
  clock : t.clock = s.clock.tail
  recording : t.recording? number = some held

/-- What is recorded of a root span that starts now. -/
def rootRecording (s : Session) (limits : SpanLimits) (name : Value) (attributes : Fields) :
    Recording where
  name
  context := ⟨s.traceIds.head, s.spanIds.head⟩
  parent := none
  start := s.clock.head
  limits
  attributes

/-- The session once the identifiers of a root span have been drawn. -/
def drawn (s : Session) : Session :=
  { s with traceIds := s.traceIds.tail, spanIds := s.spanIds.tail }

theorem rootRecording_addNote {limits : SpanLimits} (hlimits : limits.IsAmple) (name : Value)
    (attributes : Fields) (note : Note) :
    (s.rootRecording limits name attributes).addNote note =
      { s.rootRecording limits name attributes with notes := [note] } := by
  have hroom : 1 - limits.notes.getD 1 = 0 := by
    cases hnotes : limits.notes with
    | none => rfl
    | some n =>
      have := hlimits.notes n hnotes
      simp only [keptLimit, Option.getD_some] at this ⊢
      omega
  simp [Recording.addNote, rootRecording, hroom]

theorem recording?_addSpan (span : LiveSpan) (s : Session) :
    (addSpan span s).state.recording? s.spans.length = span.recording := by
  change (s.spans ++ [span])[s.spans.length]?.bind LiveSpan.recording = _
  rw [List.getElem?_concat_length, Option.bind_some]

theorem recording?_record {number provider : Nat} {r : Recording}
    (h : s.recording? number = some (provider, r)) (hr : r.isEnded = false)
    (change : Recording → Recording) :
    (record number change s).state.recording? number = some (provider, change r) := by
  obtain ⟨span, hspan, hrecording⟩ := Option.bind_eq_some_iff.1 h
  change (s.spans.modify number _)[number]?.bind LiveSpan.recording = _
  rw [List.getElem?_modify_eq, hspan]
  simp [hrecording, hr]

section

variable {number : Nat} {provider : Provider} (hmaker : s.maker? = some (number, provider))

include hmaker

theorem start_root (name : Value) (attributes : Fields) :
    start name none attributes none s =
      if provider.sampler.keeps none s.traceIds.head then
        match initialAttributes provider.limits.attributes attributes with
        | .error cause => ⟨s.drawn, [], .error (.text cause)⟩
        | .ok kept =>
          addSpan ⟨⟨s.traceIds.head, s.spanIds.head⟩, true,
            some (number, s.rootRecording provider.limits name kept)⟩ { s.drawn with clock := s.clock.tail }
      else addSpan ⟨⟨s.traceIds.head, s.spanIds.head⟩, false, none⟩ s.drawn := by
  have htrace : trace provider.sampler none s = ⟨{ s with traceIds := s.traceIds.tail }, [],
      .ok (s.traceIds.head, provider.sampler.keeps none s.traceIds.head)⟩ := rfl
  unfold start
  rw [Call.get_bind_apply, hmaker]
  simp only [parent?, Option.bind_none, Option.filter_none]
  rw [Call.bind_of_ok _ htrace]
  cases provider.sampler.keeps none s.traceIds.head with
  | false => rfl
  | true => cases initialAttributes provider.limits.attributes attributes <;> rfl

theorem start_kept (hkeeps : provider.sampler.keeps none s.traceIds.head = true)
    {attributes kept : Fields}
    (hkept : initialAttributes provider.limits.attributes attributes = .ok kept) (name : Value) :
    ∃ t, start name none attributes none s = ⟨t, [], .ok s.spans.length⟩ ∧
      Records s s.spans.length (number, s.rootRecording provider.limits name kept) t := by
  have hstart := start_root hmaker name attributes
  rw [if_pos hkeeps, hkept] at hstart
  have hquiet := start_quiet name none attributes none s
  rw [hstart] at hquiet
  refine ⟨_, hstart, hquiet.ending _, rfl, ?_⟩
  exact recording?_addSpan _ { s.drawn with clock := s.clock.tail }

theorem start_dropped (hkeeps : provider.sampler.keeps none s.traceIds.head = false)
    (name : Value) (attributes : Fields) :
    ∃ t, start name none attributes none s = ⟨t, [], .ok s.spans.length⟩ ∧
      Quiet s (⟨t, [], .ok ()⟩ : Outcome Session Unit) ∧
      t.recording? s.spans.length = none := by
  have hstart := start_root hmaker name attributes
  rw [if_neg (by simp [hkeeps])] at hstart
  have hquiet := start_quiet name none attributes none s
  rw [hstart] at hquiet
  exact ⟨_, hstart, hquiet.ending _, recording?_addSpan _ s.drawn⟩

end

section

variable {number : Nat}

theorem addNote_running {provider : Nat} {r : Recording}
    (h : s.recording? number = some (provider, r)) (hr : r.isEnded = false) (text : String) :
    ∃ t, addNote number text .empty none s = ⟨t, [], .ok ()⟩ ∧
      Records s number (provider, r.addNote ⟨text, some s.clock.head, .empty⟩) t := by
  let noted : Recording → Recording := (·.addNote ⟨text, some s.clock.head, .empty⟩)
  have hnote : addNote number text .empty none s =
      record number noted { s with clock := s.clock.tail } := by
    unfold addNote
    rw [Call.get_bind_apply, h]
    rfl
  have hquiet := addNote_quiet number text .empty none s
  rw [hnote] at hquiet
  refine ⟨_, hnote, hquiet, rfl, ?_⟩
  exact recording?_record (s := { s with clock := s.clock.tail }) h hr noted

theorem addNote_of_none (h : s.recording? number = none) (text : String) :
    addNote number text .empty none s = ⟨s, [], .ok ()⟩ := by
  unfold addNote
  rw [Call.get_bind_apply, h]
  rfl

theorem finish_running {provider : Nat} {r : Recording}
    (h : s.recording? number = some (provider, r)) (hr : r.isEnded = false) :
    ∃ t : Session, Quiet s (⟨t, [], .ok ()⟩ : Outcome Session Unit) ∧
      finish number none s = onProcessors provider
        (.each (Processor.onEnd { r with finish := some s.clock.head : Recording }.span)) t := by
  have hended : s.endedSpan? number none =
      some (provider, { r with finish := some s.clock.head : Recording }.span) := by
    unfold endedSpan?
    rw [h]
    simp [hr]
  obtain ⟨t, ended, hquiet, -, -, hfinish⟩ := finish_of_some hended
  exact ⟨t, hquiet, hfinish⟩

theorem finish_of_no_recording (h : s.recording? number = none) :
    finish number none s = ⟨s, [], .ok ()⟩ := by
  apply finish_of_none
  unfold endedSpan?
  rw [h]

end

/-! ## The whole span -/

section

variable {number : Nat} {provider : Provider} (hmaker : s.maker? = some (number, provider))

include hmaker

theorem makeTestSpan_kept (hkeeps : provider.sampler.keeps none s.traceIds.head = true)
    (hlimits : provider.limits.IsAmple) {attributes kept : Fields}
    (hkept : initialAttributes provider.limits.attributes attributes = .ok kept) (name : Value)
    (note : Option Value) :
    ∃ u : Session, Quiet s (⟨u, [], .ok ()⟩ : Outcome Session Unit) ∧
      makeTestSpan name attributes note s =
        onProcessors number (.each (Processor.onEnd (s.testSpan name kept note))) u := by
  obtain ⟨t, hstart, hquiet, hclock, hrecording⟩ := start_kept hmaker hkeeps hkept name
  rw [makeTestSpan_eq, Call.bind_of_ok _ hstart, Outcome.after_nil]
  unfold testSpan readings
  cases noteText? note with
  | none =>
    obtain ⟨u, hend, hfinish⟩ := finish_running hrecording rfl
    refine ⟨u, hquiet.after hend, ?_⟩
    rw [hclock] at hfinish
    exact hfinish
  | some text =>
    obtain ⟨v, hnote, hnoted, hlater, hlonger⟩ := addNote_running hrecording rfl text
    -- The note came after the start, so the clock is two readings further on at the end.
    rw [rootRecording_addNote hlimits] at hlonger
    obtain ⟨u, hend, hfinish⟩ := finish_running hlonger rfl
    refine ⟨u, hquiet.after (hnoted.after hend), ?_⟩
    rw [hlater, hclock] at hfinish
    simp only
    rw [Call.bind_of_ok _ hnote, Outcome.after_nil]
    exact hfinish

theorem makeTestSpan_dropped (hkeeps : provider.sampler.keeps none s.traceIds.head = false)
    (name : Value) (attributes : Fields) (note : Option Value) :
    Quiet s (makeTestSpan name attributes note s) := by
  obtain ⟨t, hstart, hquiet, hnone⟩ := start_dropped hmaker hkeeps name attributes
  rw [makeTestSpan_eq, Call.bind_of_ok _ hstart]
  have hfinish := finish_of_no_recording hnone
  refine hquiet.after ?_
  cases noteText? note with
  | none =>
    simp only
    rw [hfinish]
    exact pure_quiet () t
  | some text =>
    simp only
    rw [Call.bind_of_ok _ (addNote_of_none hnone text), hfinish]
    exact pure_quiet () t

end

end SpanExport.Session

import SpanExport.Proofs.Tracing.Quiet

/-!
# Outlines of spans

What decides where a span goes when it ends: its context, whether it is sampled, and the provider
that holds it until then. A new span adds an outline and the end of one releases it from its
provider. Nothing else that is done to a span changes any of this.
-/

namespace SpanExport

structure Outline where
  context : SpanContext
  isSampled : Bool
  /-- The provider that records the span, until it ends. -/
  holder : Option Nat
deriving DecidableEq

def Outline.released (o : Outline) : Outline := { o with holder := none }

def LiveSpan.outline (span : LiveSpan) : Outline where
  context := span.context
  isSampled := span.isSampled
  holder := span.recording.bind fun (provider, r) => if r.isEnded then none else some provider

namespace Session

def outlines (s : Session) : List Outline := s.spans.map LiveSpan.outline

variable {s : Session}

/-! ## Spans that are recorded -/

theorem outlines_record {number : Nat} {change : Recording → Recording} {f : Outline → Outline}
    (h : ∀ span : LiveSpan, ({ span with recording := span.recording.map fun (p, r) =>
      (p, if r.isEnded then r else change r) } : LiveSpan).outline = f span.outline) :
    (record number change s).state.outlines = s.outlines.modify number f := by
  change (s.spans.modify number _).map LiveSpan.outline = _
  unfold outlines
  apply List.ext_getElem?
  intro i
  rw [List.getElem?_map, List.getElem?_modify, List.getElem?_modify, List.getElem?_map]
  cases s.spans[i]? with
  | none => rfl
  | some span =>
    by_cases hi : number = i
    · simpa [hi] using h span
    · simp [hi]

theorem outlines_record_running (number : Nat) (change : Recording → Recording)
    (h : ∀ r, (change r).isEnded = r.isEnded) (s : Session) :
    (record number change s).state.outlines = s.outlines := by
  rw [outlines_record (f := id), List.modify_id]
  intro span
  unfold LiveSpan.outline
  cases span.recording with
  | none => rfl
  | some held =>
    obtain ⟨provider, r⟩ := held
    cases hr : r.isEnded <;> simp [hr, h]

theorem outlines_record_ended {number : Nat} {ended : Recording} (h : ended.isEnded = true) :
    (record number (fun _ => ended) s).state.outlines =
      s.outlines.modify number Outline.released := by
  apply outlines_record
  intro span
  unfold LiveSpan.outline Outline.released
  cases span.recording with
  | none => rfl
  | some held =>
    obtain ⟨provider, r⟩ := held
    cases hr : r.isEnded <;> simp [hr, h]

theorem endedSpan?_holder (s : Session) (number : Nat) (time : Option Int) :
    (s.endedSpan? number time).map Prod.fst = s.outlines[number]?.bind Outline.holder := by
  unfold endedSpan? recording? outlines
  rw [List.getElem?_map]
  cases s.spans[number]? with
  | none => rfl
  | some span =>
    cases hr : span.recording with
    | none => simp [hr, LiveSpan.outline]
    | some held =>
      obtain ⟨provider, r⟩ := held
      cases hended : r.isEnded <;> simp [hr, hended, LiveSpan.outline]

theorem endedSpan?_of_held {number holder : Nat} {o : Outline}
    (ho : s.outlines[number]? = some o) (hh : o.holder = some holder) (time : Option Int) :
    ∃ span, s.endedSpan? number time = some (holder, span) := by
  have h := endedSpan?_holder s number time
  rw [ho, Option.bind_some, hh] at h
  obtain ⟨⟨provider, span⟩, hspan, rfl⟩ := Option.map_eq_some_iff.1 h
  exact ⟨span, hspan⟩

/-! ## New spans -/

theorem maker?_eq_some {number : Nat} {provider : Provider} :
    s.maker? = some (number, provider) ↔ s.active = some number ∧
      s.provider? number = some provider ∧ provider.isDisabled = false := by
  unfold maker?
  simp only [Option.bind_eq_bind, Option.bind_eq_some_iff]
  constructor
  · rintro ⟨n, hactive, p, hprovider, h⟩
    cases hp : p.isDisabled with
    | true => simp [hp] at h
    | false =>
      simp only [hp, Bool.false_eq_true, if_false, Option.some.injEq, Prod.mk.injEq] at h
      obtain ⟨rfl, rfl⟩ := h
      exact ⟨hactive, hprovider, hp⟩
  · rintro ⟨hactive, hprovider, hp⟩
    exact ⟨number, hactive, provider, hprovider, by simp [hp]⟩

/-- A sampled span is held by the provider that makes it, and no other span is held. -/
def IsNewOutline (s : Session) (parent : Option Nat) (o : Outline) : Prop :=
  match s.maker? with
  | none => o = ⟨.invalid, false, none⟩
  | some (number, provider) =>
    o.isSampled = (match s.parent? parent with
      | some p => provider.sampler.keeps p.isSampled p.context.traceId
      | none => provider.sampler.keeps none s.traceIds.head) ∧
    o.holder = if o.isSampled then some number else none

theorem addSpan_outlines {span : LiveSpan} {t : Session} (h : t.spans = s.spans)
    {P : Outline → Prop} (hp : P span.outline) :
    (addSpan span t).result = .ok s.outlines.length ∧
      ∃ o, P o ∧ (addSpan span t).state.outlines = s.outlines ++ [o] := by
  have hresult : (addSpan span t).result = .ok t.spans.length := rfl
  have hstate : (addSpan span t).state.outlines = (t.spans ++ [span]).map LiveSpan.outline := rfl
  rw [hresult, hstate, h, List.map_append, outlines, List.length_map]
  exact ⟨rfl, _, hp, rfl⟩

theorem start_outlines (name : Value) (parent : Option Nat) (attributes : Fields)
    (time : Option Int) (s : Session) :
    (∃ limits cause, initialAttributes limits attributes = .error cause ∧
        (start name parent attributes time s).result = .error (.text cause)) ∧
        (start name parent attributes time s).state.outlines = s.outlines ∨
      (start name parent attributes time s).result = .ok s.outlines.length ∧
        ∃ o, s.IsNewOutline parent o ∧
          (start name parent attributes time s).state.outlines = s.outlines ++ [o] := by
  unfold start IsNewOutline
  rw [Call.get_bind_apply]
  cases s.maker? with
  | none => exact .inr (addSpan_outlines rfl rfl)
  | some maker =>
    obtain ⟨number, provider⟩ := maker
    simp only
    obtain ⟨t, traceId, sampled, htrace, hspans, hsampled⟩ :
        ∃ t traceId sampled, trace provider.sampler (s.parent? parent) s =
          ⟨t, [], .ok (traceId, sampled)⟩ ∧ t.spans = s.spans ∧
          sampled = (match s.parent? parent with
            | some p => provider.sampler.keeps p.isSampled p.context.traceId
            | none => provider.sampler.keeps none s.traceIds.head) := by
      cases s.parent? parent with
      | none => exact ⟨_, _, _, rfl, rfl, rfl⟩
      | some p => exact ⟨_, _, _, rfl, rfl, rfl⟩
    rw [Call.bind_of_ok _ htrace, Outcome.after_nil]
    rw [Call.bind_of_ok _ (show drawSpanId t = ⟨_, [], .ok _⟩ from rfl), Outcome.after_nil]
    rw [← hsampled]
    cases sampled with
    | false => exact .inr (addSpan_outlines hspans ⟨rfl, rfl⟩)
    | true =>
      -- The attributes may hold a number that is too long to write.
      cases hkept : initialAttributes provider.limits.attributes attributes with
      | error cause =>
        refine .inl ⟨⟨_, cause, hkept, rfl⟩, ?_⟩
        change t.spans.map LiveSpan.outline = _
        rw [hspans]
        rfl
      | ok kept =>
        cases time with
        | none => exact .inr (addSpan_outlines hspans ⟨rfl, rfl⟩)
        | some now => exact .inr (addSpan_outlines hspans ⟨rfl, rfl⟩)

/-! ## Spans that change and end -/

theorem setAttribute_outlines (number : Nat) (key : String) (value : Value) (s : Session) :
    (setAttribute number key value s).state.outlines = s.outlines := by
  unfold setAttribute
  rw [Call.get_bind_apply]
  rcases s.recording? number with _ | ⟨provider, r⟩
  · rfl
  · simp only
    split
    · rfl
    · cases SpanExport.setAttribute r.limits.attributes r.attributes key value with
      | error cause => rfl
      | ok attributes =>
        exact outlines_record_running number (fun r => { r with attributes }) (fun _ => rfl) s

theorem setStatus_outlines (number : Nat) (code : StatusCode) (description : Option String)
    (s : Session) : (setStatus number code description s).state.outlines = s.outlines := by
  refine outlines_record_running number (·.setStatus code description) (fun r => ?_) s
  unfold Recording.setStatus
  split <;> rfl

theorem rename_outlines (number : Nat) (name : Value) (s : Session) :
    (rename number name s).state.outlines = s.outlines :=
  outlines_record_running number (·.rename name) (fun _ => rfl) s

theorem addNote_outlines (number : Nat) (name : String) (attributes : Fields)
    (time : Option Int) (s : Session) :
    (addNote number name attributes time s).state.outlines = s.outlines := by
  unfold addNote
  rw [Call.get_bind_apply]
  rcases s.recording? number with _ | ⟨provider, r⟩
  · rfl
  · simp only
    cases initialAttributes r.limits.noteAttributes attributes with
    | error cause => rfl
    | ok kept =>
      have hnote : ∀ now t, (record number (·.addNote ⟨name, some now, kept⟩) t).state.outlines =
          t.outlines := by
        intro now t
        refine outlines_record_running number (·.addNote ⟨name, some now, kept⟩) (fun r => ?_) t
        simp [Recording.addNote, Recording.isEnded]
      cases time with
      | some now => exact hnote now s
      | none => exact hnote s.clock.head { s with clock := s.clock.tail }

theorem finish_outlines (number : Nat) (time : Option Int) (s : Session) :
    (finish number time s).state.outlines = s.outlines.modify number Outline.released := by
  cases h : s.endedSpan? number time with
  | some passed =>
    obtain ⟨t, ended, -, hended, hspans, hf⟩ := finish_of_some h
    rw [hf, ← outlines_record_ended hended]
    change t.spans.map LiveSpan.outline = _
    rw [hspans]
    rfl
  | none =>
    have hfree := endedSpan?_holder s number time
    rw [h] at hfree
    rw [finish_of_none h]
    apply List.ext_getElem?
    intro i
    rw [List.getElem?_modify]
    by_cases hi : number = i
    · subst hi
      cases ho : s.outlines[number]? with
      | none => rfl
      | some o =>
        rw [ho] at hfree
        have hnone : o.holder = none := hfree.symm
        obtain ⟨context, isSampled, holder⟩ := o
        cases hnone
        simp [Outline.released]
    · simp [hi]

end Session

end SpanExport

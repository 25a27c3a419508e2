import BusEndpoint.Failure
import Mathlib.Logic.Relation

/-! What stands behind a failure. Every failure is a core, which has nothing behind it, in as
many layers as one likes. Whether it is a cancellation is told by the core alone: a search
along the sources passes every layer by, and no wording has a say in it. -/

namespace BusEndpoint

open Relation

namespace Failure

/-- What may be put around a failure. -/
inductive Layer where
  | pipeline
  | errorPipeline
  | startup
  | application (message : String)

/-- The failure with this layer around it. -/
def Layer.around : Layer → Failure → Failure
  | pipeline, source => .bus (.pipeline source)
  | errorPipeline, source => .bus (.errorPipeline source)
  | startup, source => .bus (.startup source)
  | application message, source => .applicationFrom message source

variable {failure source other : Failure} {layer : Layer} {layers : List Layer} {text : String}
  {answer : Bool}

@[simp] theorem source?_around : (layer.around source).source? = some source := by
  cases layer <;> rfl

@[simp] theorem isCancelled_around : (layer.around source).isCancelled = false := by
  cases layer <;> rfl

@[simp] theorem sources_around : (layer.around source).sources = source :: source.sources := by
  rw [sources_eq, source?_around]

theorem sources_of_core (core : failure.source? = none) : failure.sources = [] := by
  rw [sources_eq, core]

/-- A failure is built up from its core, layer by layer. -/
theorem layerInduction {motive : Failure → Prop}
    (core : ∀ failure, failure.source? = none → motive failure)
    (layer : ∀ (layer : Layer) source, motive source → motive (layer.around source)) :
    ∀ failure, motive failure
  | .bus (.pipeline source) => layer .pipeline source (layerInduction core layer source)
  | .bus (.errorPipeline source) => layer .errorPipeline source (layerInduction core layer source)
  | .bus (.startup source) => layer .startup source (layerInduction core layer source)
  | .applicationFrom message source =>
    layer (.application message) source (layerInduction core layer source)
  | .bus .sendOnly | .bus .cancelled | .bus .notInitialized | .bus (.transaction _)
  | .bus (.configuration _) | .bus (.serialization _) | .bus (.transport _) | .bus (.noHandler _)
  | .bus (.routing _) | .malformed _ | .application _ | .plain _ => core _ rfl

/-- The failure in several layers, the first of them outermost. -/
def wrap (layers : List Layer) (failure : Failure) : Failure := layers.foldr Layer.around failure

/-- There is a core to every failure. -/
theorem exists_wrap_eq (failure : Failure) :
    ∃ layers core, core.source? = none ∧ failure = wrap layers core := by
  induction failure using layerInduction with
  | core failure core => exact ⟨[], failure, core, rfl⟩
  | layer layer source ih =>
      obtain ⟨layers, innermost, core, rfl⟩ := ih
      exact ⟨layer :: layers, innermost, core, rfl⟩

theorem isCancelled_iff : failure.isCancelled = true ↔ failure = .bus .cancelled := by
  constructor
  · intro hCancelled
    cases failure with
    | bus error =>
        cases error with
        | cancelled => rfl
        | _ => cases hCancelled
    | _ => cases hCancelled
  · rintro rfl
    rfl

/-- A failure is a cancellation if there is a cancelled operation anywhere in
its chain of sources. -/
theorem isCancellation_iff :
    failure.isCancellation = true ↔ .bus .cancelled ∈ failure :: failure.sources := by
  rw [isCancellation, Bool.or_eq_true, isCancelled_iff, List.any_eq_true, List.mem_cons, eq_comm]
  constructor
  · rintro (hFailure | ⟨source, hSource, hCancelled⟩)
    · exact .inl hFailure
    · exact .inr (isCancelled_iff.mp hCancelled ▸ hSource)
  · rintro (hFailure | hSource)
    · exact .inl hFailure
    · exact .inr ⟨_, hSource, rfl⟩

theorem isCancellation_of_core (core : failure.source? = none) :
    failure.isCancellation = failure.isCancelled := by
  simp [isCancellation, sources_of_core core]

@[simp] theorem isCancellation_around :
    (layer.around source).isCancellation = source.isCancellation := by
  simp [isCancellation]

/-- No layer makes a cancellation, or unmakes one. -/
theorem isCancellation_wrap (layers : List Layer) (failure : Failure) :
    (wrap layers failure).isCancellation = failure.isCancellation := by
  induction layers with
  | nil => rfl
  | cons layer layers ih => exact isCancellation_around.trans ih

theorem isCancellation_wrap_core_iff (core : failure.source? = none) :
    (wrap layers failure).isCancellation = true ↔ failure = .bus .cancelled := by
  rw [isCancellation_wrap, isCancellation_of_core core, isCancelled_iff]

/-- The second failure stands right behind the first. -/
def IsBehind (failure source : Failure) : Prop := failure.source? = some source

/-- The sources of a failure are those that are met on the way from it. -/
theorem mem_chain_iff :
    other ∈ failure :: failure.sources ↔ ReflTransGen IsBehind failure other := by
  induction failure using layerInduction with
  | core failure core =>
      rw [sources_of_core core, List.mem_singleton, ReflTransGen.cases_head_iff]
      simp [IsBehind, core, eq_comm]
  | layer layer source ih =>
      rw [ReflTransGen.cases_head_iff, sources_around, List.mem_cons, ih, eq_comm]
      simp [IsBehind]

/-- A search for a cancellation that begins with the failure given, if there is one, and goes
on with the source of each failure that it passes. -/
inductive Searches : Option Failure → Bool → Prop where
  | exhausted : Searches none false
  | found {failure : Failure} (cancelled : failure.isCancelled = true) :
      Searches (some failure) true
  | passed {failure : Failure} {answer : Bool} (uncancelled : failure.isCancelled = false)
      (rest : Searches failure.source? answer) : Searches (some failure) answer

theorem searches_none_iff : Searches none answer ↔ answer = false := by
  constructor
  · rintro ⟨⟩
    rfl
  · rintro rfl
    exact .exhausted

/-- One step of a search. -/
theorem searches_some_iff : Searches (some failure) answer ↔
    if failure.isCancelled then answer = true else Searches failure.source? answer := by
  cases hCancelled : failure.isCancelled with
  | true =>
      constructor
      · intro search
        cases search with
        | found => rfl
        | passed uncancelled => cases uncancelled.symm.trans hCancelled
      · rintro rfl
        exact .found hCancelled
  | false =>
      constructor
      · intro search
        cases search with
        | found cancelled => cases cancelled.symm.trans hCancelled
        | passed _ rest => exact rest
      · exact .passed hCancelled

/-- Every search comes to an end, with one answer. -/
theorem searches_iff : Searches (some failure) answer ↔ answer = failure.isCancellation := by
  induction failure using layerInduction with
  | core failure core =>
      rw [searches_some_iff, core, searches_none_iff, isCancellation_of_core core]
      cases failure.isCancelled <;> rfl
  | layer layer source ih => simpa [searches_some_iff] using ih

/-- A failure that has nothing but this text to tell of what went wrong. -/
inductive MerelySays (text : String) : Failure → Prop where
  | transaction : MerelySays text (.bus (.transaction text))
  | configuration : MerelySays text (.bus (.configuration text))
  | serialization : MerelySays text (.bus (.serialization text))
  | transport : MerelySays text (.bus (.transport text))
  | noHandler : MerelySays text (.bus (.noHandler text))
  | routing : MerelySays text (.bus (.routing text))
  | malformed : MerelySays text (.malformed text)
  | application : MerelySays text (.application text)
  | plain : MerelySays text (.plain text)

theorem MerelySays.isCancellation_eq_false (textual : MerelySays text failure) :
    failure.isCancellation = false := by
  cases textual <;> rfl

/-- What it means for a failure to be a cancellation, or to be none. -/
structure TellsCancellation (failure : Failure) (answer : Bool) : Prop where
  /-- The search ends, with this answer and with no other. -/
  searched : ∀ found, Searches (some failure) found ↔ found = answer
  onChain : answer = true ↔ ReflTransGen IsBehind failure (.bus .cancelled)
  /-- However many layers there are around the core, it decides. -/
  core : ∃ layers core, core.source? = none ∧ failure = wrap layers core ∧
    (answer = true ↔ core = .bus .cancelled)
  wrapped : ∀ layers, (wrap layers failure).isCancellation = answer
  worded : ∀ layers text innermost, MerelySays text innermost → failure = wrap layers innermost →
    answer = false

theorem tellsCancellation (failure : Failure) :
    failure.TellsCancellation failure.isCancellation where
  searched _ := searches_iff
  onChain := isCancellation_iff.trans mem_chain_iff
  core := by
    obtain ⟨layers, innermost, core, rfl⟩ := failure.exists_wrap_eq
    exact ⟨layers, innermost, core, rfl, isCancellation_wrap_core_iff core⟩
  wrapped layers := isCancellation_wrap layers failure
  worded := by
    rintro layers text innermost textual rfl
    rw [isCancellation_wrap]
    exact textual.isCancellation_eq_false

/-- A cancellation is none any more when only its wording is carried on. -/
example :
    (wrap [.startup, .application "again"] (.bus .cancelled)).isCancellation = true ∧
    (wrap [.pipeline] (.bus (.transport BusError.cancelled.message))).isCancellation = false := by
  decide

end Failure

end BusEndpoint

import BusEndpoint.Proofs.Endpoint.Observed

/-! The invocations of one endpoint. Any number of them go on in any order, under
tokens and strategies of their own, while its engine starts or fails to start. They
ask for the started instance as the callers of one start do, and work is done for a
message only once the instance is there and if it receives it. -/

namespace BusEndpoint

open BusEndpoint.Task

variable {σ κ ς ι : Type}

namespace Invocations

section Entries

variable [Host σ] (endpoint : FunctionEndpoint σ κ ς ι) (log : Slot σ (StartLog ι))
  (notes : Slot σ (WorkLog ι))

/-- How far an invocation that is not refused has come, beside a caller for the
started instance. -/
inductive Shows (index : Nat) (invocation : Invocation σ κ) :
    Progress σ (Except BusError Unit) → StartPhase ι → Prop where
  | asking {rest : Task σ (Except BusError ι)} {phase : StartPhase ι} {fresh : String}
      (asks : Callers.Shows endpoint.toLazyStart log index ⟨invocation.cancel, .suspended rest⟩
        phase)
      (unnoted : rest.Acts (fun s t => notes.get t = notes.get s) fun _ => True) :
      Shows index invocation (.suspended (rest.andThen
        ((endpoint.observed log notes index).follow (invocation.observed log notes index) fresh)))
        phase
  | told {error : BusError} :
      Shows index invocation (.finished (.error error)) (.finished (.error error))
  | working {rest : Task σ (Except BusError Unit)} {started : ι}
      (acts : rest.Acts (endpoint.WorksFor log notes index (endpoint.Receives invocation started))
        (endpoint.Answers invocation started)) :
      Shows index invocation (.suspended rest) (.finished (.ok started))
  | answered {answer : Except BusError Unit} {started : ι}
      (answers : endpoint.Answers invocation started answer) :
      Shows index invocation (.finished answer) (.finished (.ok started))

/-- An invocation that is refused counts as a caller that gives up at once, so that
invocations and callers have the same numbers. -/
structure Entry (index : Nat) (invoked : Invoked σ κ) (phase : StartPhase ι)
    (events : StartLog ι) : Prop where
  acts : invoked.invocation.ActsBy (endpoint.Quiet log notes) (endpoint.Quiet log notes)
  refused : endpoint.refuses invoked.invocation.request = true →
    invoked.progress = .finished (.error .sendOnly) ∧ phase = .finished (.error .cancelled) ∧
      ∀ event ∈ events, event.caller ≠ index
  shows : endpoint.refuses invoked.invocation.request = false →
    Shows endpoint log notes index invoked.invocation invoked.progress phase

/-- What a poll of an invocation comes to. Work is noted only if the invocation has
been given an instance that receives its message. -/
structure Polled (index : Nat) (invocation : Invocation σ κ) (before : WorkLog ι)
    (polled : Progress σ (Except BusError Unit) × σ) (gate : StartGate ι) (events : StartLog ι)
    (phase : StartPhase ι) : Prop where
  view_eq : endpoint.toLazyStart.view log polled.2 = (gate, events)
  entry : Entry endpoint log notes index ⟨invocation, polled.1⟩ phase events
  noted : ∃ more, notes.get polled.2 = before ++ more ∧
    ∀ event ∈ more, event.invocation = index ∧ event.starts = events ∧
      ∃ started, phase = .finished (.ok started) ∧ endpoint.Receives invocation started

end Entries

section Polls

variable [Host σ] {endpoint : FunctionEndpoint σ κ ς ι} {log : Slot σ (StartLog ι)}
  {notes : Slot σ (WorkLog ι)} {protocol : StartProtocol ι} {gate : StartGate ι}
  {events : StartLog ι} {phase : StartPhase ι} {index : Nat} {invocation : Invocation σ κ}
  {started : ι} {s : σ}

theorem Entry.of_shows {progress : Progress σ (Except BusError Unit)}
    (acts : invocation.ActsBy (endpoint.Quiet log notes) (endpoint.Quiet log notes))
    (hServes : endpoint.refuses invocation.request = false)
    (shows : Shows endpoint log notes index invocation progress phase) :
    Entry endpoint log notes index ⟨invocation, progress⟩ phase events where
  acts := acts
  refused hRefuses := nomatch hServes.symm.trans hRefuses
  shows _ := shows

theorem Entry.serves_of_suspended {rest : Task σ (Except BusError Unit)}
    (entry : Entry endpoint log notes index ⟨invocation, .suspended rest⟩ phase events) :
    endpoint.refuses invocation.request = false := by
  cases hRefuses : endpoint.refuses invocation.request with
  | true => nomatch (entry.refused hRefuses).1
  | false => rfl

/-- Nothing is changed for an invocation that is refused by what the others do. -/
theorem Entry.of_steps {last : StartProtocol ι} {invoked : Invoked σ κ}
    (entry : Entry endpoint log notes index invoked phase protocol.log)
    (hPhase : protocol.phases[index]? = some phase)
    (steps : Relation.ReflTransGen StartProtocol.Step protocol last) :
    Entry endpoint log notes index invoked phase last.log where
  acts := entry.acts
  refused hRefuses := by
    obtain ⟨hProgress, rfl, hEvents⟩ := entry.refused hRefuses
    refine ⟨hProgress, rfl, ?_⟩
    intro event hEvent hCaller
    have hBefore := (StartProtocol.of_finished_of_steps steps hPhase).2 event hEvent hCaller
    exact hEvents event hBefore hCaller
  shows := entry.shows

/-- An invocation that has been given the instance goes on with its work. -/
theorem polled_working (secludes : endpoint.Secludes log notes)
    (acts : invocation.ActsBy (endpoint.Quiet log notes) (endpoint.Quiet log notes))
    (hServes : endpoint.refuses invocation.request = false)
    {rest : Task σ (Except BusError Unit)}
    (works : rest.Acts (endpoint.WorksFor log notes index (endpoint.Receives invocation started))
      (endpoint.Answers invocation started))
    (hView : endpoint.toLazyStart.view log s = (gate, events)) :
    Polled endpoint log notes index invocation (notes.get s) (rest.poll s) gate events
      (.finished (.ok started)) := by
  obtain ⟨⟨hSame, more, hNotes, hMore⟩, hFinished, hSuspended⟩ :=
    works.poll secludes.allows_worksFor.refl secludes.allows_worksFor.trans s
  refine ⟨hSame.trans hView, .of_shows acts hServes ?_, more, hNotes, ?_⟩
  · cases hPoll : (rest.poll s).1 with
    | finished answer => exact .answered (hFinished answer hPoll)
    | suspended later => exact .working (hSuspended later hPoll)
  · intro event hEvent
    obtain ⟨hReceives, hIndex, hStarts⟩ := hMore event hEvent
    exact ⟨hIndex, hStarts.trans (congrArg Prod.snd hView), started, rfl, hReceives⟩

/-- One that asks for the instance goes on asking, or is told that there is none, or
begins with its work. -/
theorem polled_asking (secludes : endpoint.Secludes log notes)
    (acts : invocation.ActsBy (endpoint.Quiet log notes) (endpoint.Quiet log notes))
    (hServes : endpoint.refuses invocation.request = false)
    {first : Task σ (Except BusError ι)}
    (unnoted : first.Acts (fun s t => notes.get t = notes.get s) fun _ => True)
    (hView : endpoint.toLazyStart.view log (first.poll s).2 = (gate, events))
    (asks : Callers.Shows endpoint.toLazyStart log index ⟨invocation.cancel, (first.poll s).1⟩
      phase) (fresh : String) :
    Polled endpoint log notes index invocation (notes.get s)
      ((first.andThen ((endpoint.observed log notes index).follow
        (invocation.observed log notes index) fresh)).poll s) gate events phase := by
  obtain ⟨hNotes, -, hRest⟩ :=
    unnoted.poll secludes.allows_unnoted.refl secludes.allows_unnoted.trans s
  rw [poll_andThen]
  cases hPoll : first.poll s with
  | mk progress t =>
      rw [hPoll] at hView asks hNotes hRest
      cases progress with
      | suspended rest =>
          exact ⟨hView, .of_shows acts hServes (.asking asks (hRest rest rfl)), [],
            hNotes.trans (List.append_nil _).symm, nofun⟩
      | finished result =>
          cases asks
          cases result with
          | error error =>
              exact ⟨hView, .of_shows acts hServes .told, [], hNotes.trans (List.append_nil _).symm,
                nofun⟩
          | ok started =>
              rw [← hNotes]
              exact polled_working secludes acts hServes (secludes.acts_answer acts fresh started)
                hView

/-- An invocation that has given up control goes on as a caller for the instance
does. -/
theorem polled_resume (secludes : endpoint.Secludes log notes)
    (acts : invocation.ActsBy (endpoint.Quiet log notes) (endpoint.Quiet log notes))
    (hServes : endpoint.refuses invocation.request = false)
    {rest : Task σ (Except BusError Unit)}
    (hView : endpoint.toLazyStart.view log s = (protocol.gate, protocol.log))
    (hPhase : protocol.phases[index]? = some phase)
    (shows : Shows endpoint log notes index invocation (.suspended rest) phase) :
    ∃ gate events next,
      Relation.ReflTransGen StartProtocol.Step protocol
          ⟨gate, events, protocol.phases.set index next⟩ ∧
        Polled endpoint log notes index invocation (notes.get s) (rest.poll s) gate events
          next := by
  cases shows with
  | asking asks unnoted =>
      obtain ⟨gate, events, next, steps, hAfter, later⟩ :=
        Callers.advances_of_shows secludes.starts hView hPhase asks
      exact ⟨gate, events, next, steps,
        polled_asking secludes acts hServes unnoted hAfter later _⟩
  | @working rest started works =>
      refine ⟨protocol.gate, protocol.log, .finished (.ok started), ?_,
        polled_working secludes acts hServes works hView⟩
      rw [StartPhase.set_of_getElem? hPhase]

variable [LogSink κ]

/-- An invocation that is made comes as one more caller for the instance. -/
theorem polled_serve (secludes : endpoint.Secludes log notes)
    (acts : invocation.ActsBy (endpoint.Quiet log notes) (endpoint.Quiet log notes))
    (sound : protocol.IsSound)
    (hView : endpoint.toLazyStart.view log s = (protocol.gate, protocol.log))
    (hIndex : index = protocol.phases.length) :
    ∃ gate events phase,
      Relation.ReflTransGen StartProtocol.Step protocol
          ⟨gate, events, protocol.phases ++ [phase]⟩ ∧
        Polled endpoint log notes index invocation (notes.get s)
          (((endpoint.observed log notes index).serve
            (invocation.observed log notes index)).poll s) gate events phase := by
  cases hRefuses : endpoint.refuses invocation.request with
  | true =>
      obtain ⟨hSame, hNotes⟩ :=
        Prod.mk.inj (secludes.quiet_attachLogger invocation.context s)
      obtain ⟨hBegun, hEnded⟩ := sound.recorded.not_begun_of_length
      rw [FunctionEndpoint.poll_observed_refused hRefuses]
      refine ⟨_, _, _, .single .declines, hSame.trans hView, ?_, [],
        hNotes.trans (List.append_nil _).symm, nofun⟩
      refine ⟨acts, fun _ => ⟨rfl, rfl, ?_⟩, fun hServes => nomatch hRefuses.symm.trans hServes⟩
      rintro (caller | ⟨caller, result⟩) hEvent rfl
      · exact hBegun (hIndex ▸ hEvent)
      · exact hEnded result (hIndex ▸ hEvent)
  | false =>
      obtain ⟨hSame, hNotes⟩ := Prod.mk.inj (secludes.quiet_entered invocation s)
      obtain ⟨gate, events, phase, steps, hAfter, asks⟩ :=
        Callers.steps_ensureStarted secludes.starts invocation.cancel (hSame.trans hView) hIndex
      rw [FunctionEndpoint.poll_serve_observed hRefuses, ← hNotes]
      exact ⟨gate, events, phase, steps, polled_asking secludes acts hRefuses
        (secludes.acts_ensureStarted invocation.cancel) hAfter asks _⟩

end Polls

section Reachable

variable [Host σ] [LogSink κ] (endpoint : FunctionEndpoint σ κ ς ι) (log : Slot σ (StartLog ι))
  (notes : Slot σ (WorkLog ι))

/-- Any invocation of the endpoint, as it is observed. -/
def Observes (index : Nat) (invocation : Invocation σ κ)
    (task : Task σ (Except BusError Unit)) : Prop :=
  invocation.ActsBy (endpoint.Quiet log notes) (endpoint.Quiet log notes) ∧
    task = (endpoint.observed log notes index).serve (invocation.observed log notes index)

/-- Whatever may have happened since nothing was seen of the endpoint. Others do what
they like in between, but they do not reach what is seen. -/
abbrev ReachableUnder : Invocations σ κ → Prop :=
  Reachable (Observes endpoint log notes) (endpoint.Quiet log notes) fun s =>
    endpoint.seen log notes s = (({}, []), [])

omit [LogSink κ] in
/-- The invocations are at a sound state of the protocol of starts, and all work that
was noted was done with an instance that had been started before. -/
structure At (system : Invocations σ κ) (protocol : StartProtocol ι) : Prop where
  sound : protocol.IsSound
  view_eq : endpoint.toLazyStart.view log system.host = (protocol.gate, protocol.log)
  length_eq : system.made.length = protocol.phases.length
  entries : ∀ (index : Nat) invoked phase, system.made[index]? = some invoked →
    protocol.phases[index]? = some phase →
      Entry endpoint log notes index invoked phase protocol.log
  noted : ∀ event ∈ notes.get system.host, ∃ invoked starter started,
    system.made[event.invocation]? = some invoked ∧
      protocol.phases[event.invocation]? = some (.finished (.ok started)) ∧
      endpoint.Receives invoked.invocation started ∧
      .ended starter (.ok started) ∈ event.starts

variable {endpoint log notes} {system next : Invocations σ κ} {protocol last : StartProtocol ι}

omit [LogSink κ] in
/-- What is kept when one of the invocations, or a new one, has come further. -/
theorem At.put (isAt : At endpoint log notes system protocol)
    (steps : Relation.ReflTransGen StartProtocol.Step protocol last) {index : Nat}
    {invocation : Invocation σ κ} {phase : StartPhase ι} {made : List (Invoked σ κ)}
    {polled : Progress σ (Except BusError Unit) × σ}
    (hMade : ∀ (other : Nat) invoked, made[other]? = some invoked ↔
      (other = index ∧ invoked = ⟨invocation, polled.1⟩) ∨
        (other ≠ index ∧ system.made[other]? = some invoked))
    (hLast : ∀ (other : Nat) later, last.phases[other]? = some later ↔
      (other = index ∧ later = phase) ∨ (other ≠ index ∧ protocol.phases[other]? = some later))
    (hLength : made.length = last.phases.length)
    (hSame : ∀ invoked, system.made[index]? = some invoked → invoked.invocation = invocation)
    (hPolled : Polled endpoint log notes index invocation (notes.get system.host) polled last.gate
      last.log phase) :
    At endpoint log notes ⟨polled.2, made⟩ last := by
  have sound := StartProtocol.isSound_of_steps steps isAt.sound
  obtain ⟨hView, entry, more, hNotes, hMore⟩ := hPolled
  refine ⟨sound, hView, hLength, ?_, ?_⟩
  · intro other invoked later hInvoked hLater
    rcases (hMade other invoked).mp hInvoked with ⟨rfl, rfl⟩ | ⟨hOther, hInvoked⟩
    · rcases (hLast other later).mp hLater with ⟨-, rfl⟩ | ⟨hOther, -⟩
      · exact entry
      · exact absurd rfl hOther
    · rcases (hLast other later).mp hLater with ⟨hIndex, -⟩ | ⟨-, hLater⟩
      · exact absurd hIndex hOther
      · exact (isAt.entries other invoked later hInvoked hLater).of_steps hLater steps
  · intro event hEvent
    dsimp only at hEvent
    rw [hNotes] at hEvent
    rcases List.mem_append.mp hEvent with hEvent | hEvent
    · obtain ⟨invoked, starter, started, hInvoked, hPhase, hReceives, hStarter⟩ :=
        isAt.noted event hEvent
      have hLater := (StartProtocol.of_finished_of_steps steps hPhase).1
      by_cases hIndex : event.invocation = index
      · rw [hIndex] at hInvoked
        have hInvocation := hSame invoked hInvoked
        exact ⟨⟨invocation, polled.1⟩, starter, started, (hMade _ _).mpr (.inl ⟨hIndex, rfl⟩),
          hLater, hInvocation ▸ hReceives, hStarter⟩
      · exact ⟨invoked, starter, started, (hMade _ _).mpr (.inr ⟨hIndex, hInvoked⟩), hLater,
          hReceives, hStarter⟩
    · obtain ⟨hIndex, hStarts, started, rfl, hReceives⟩ := hMore event hEvent
      have hPhase : last.phases[event.invocation]? = some (.finished (.ok started)) :=
        (hLast _ _).mpr (.inl ⟨hIndex, rfl⟩)
      have hStarted := sound.recorded.succeeded _ _ hPhase
      obtain ⟨starter, hStarter⟩ := (sound.recorded.started_iff started).mp hStarted
      exact ⟨⟨invocation, polled.1⟩, starter, started, (hMade _ _).mpr (.inl ⟨hIndex, rfl⟩), hPhase,
        hReceives, hStarts ▸ hStarter⟩

/-- Whatever happens next, the invocations stay at a sound state of the protocol. -/
theorem Step.isAt (secludes : endpoint.Secludes log notes)
    (isAt : At endpoint log notes system protocol)
    (step : Step (Observes endpoint log notes) (endpoint.Quiet log notes) system next) :
    ∃ last, At endpoint log notes next last := by
  cases step with
  | @makes invocation task hTask =>
      obtain ⟨acts, rfl⟩ := hTask
      obtain ⟨gate, events, phase, steps, polled⟩ :=
        polled_serve secludes acts isAt.sound isAt.view_eq isAt.length_eq
      refine ⟨_, isAt.put steps ?_ ?_ ?_ ?_ polled⟩
      · exact fun _ _ => StartPhase.getElem?_concat_iff_of_length rfl
      · exact fun _ _ => StartPhase.getElem?_concat_iff_of_length isAt.length_eq
      · simp [isAt.length_eq]
      · simp
  | resumes index =>
      rcases system.resume_cases index with hSame | ⟨invocation, rest, hMade⟩
      · rw [hSame]
        exact ⟨protocol, isAt⟩
      · have hIndex := (List.getElem?_eq_some_iff.mp hMade).1
        have hPhases : index < protocol.phases.length := isAt.length_eq ▸ hIndex
        have hPhase := List.getElem?_eq_getElem hPhases
        have entry := isAt.entries index _ _ hMade hPhase
        have hServes := entry.serves_of_suspended
        obtain ⟨gate, events, phase, steps, polled⟩ :=
          polled_resume secludes entry.acts hServes isAt.view_eq hPhase (entry.shows hServes)
        rw [resume_eq hMade]
        refine ⟨_, isAt.put steps ?_ ?_ ?_ ?_ polled⟩
        · exact fun _ _ => StartPhase.getElem?_set_iff hIndex
        · exact fun _ _ => StartPhase.getElem?_set_iff hPhases
        · simp [isAt.length_eq]
        · rintro invoked hInvoked
          cases hMade.symm.trans hInvoked
          rfl
  | changes between =>
      obtain ⟨hView, hNotes⟩ := Prod.mk.inj between
      refine ⟨protocol, isAt.sound, hView.trans isAt.view_eq, isAt.length_eq, isAt.entries, ?_⟩
      exact hNotes ▸ isAt.noted

theorem Reachable.isAt (secludes : endpoint.Secludes log notes)
    (reachable : ReachableUnder endpoint log notes system) :
    ∃ protocol, At endpoint log notes system protocol := by
  induction reachable with
  | fresh hSeen =>
      obtain ⟨hView, hNotes⟩ := Prod.mk.inj hSeen
      refine ⟨.initial, StartProtocol.isSound_initial, hView, rfl, by simp, ?_⟩
      rw [hNotes]
      exact List.forall_mem_nil _
  | step _ step ih =>
      obtain ⟨protocol, isAt⟩ := ih
      exact step.isAt secludes isAt

end Reachable

end Invocations

end BusEndpoint

import BusEndpoint.Proofs.Task.Ends
import BusEndpoint.Scripted.Pipeline
import BusEndpoint.Sqs.Trigger

/-! Batches of records. The records are processed one after the other until the
batch is through or one of them finds the call cancelled. Whatever is not named
in the response has been processed and acknowledged, however often its
identifier occurs in the batch. -/

namespace BusEndpoint.SqsTrigger

open BusEndpoint.Task

variable {σ κ ς ι : Type}

/-- The invocation that a batch belongs to. -/
def invocation (trigger : SqsTrigger σ κ ς ι) (invocationId : String) : FunctionContext κ :=
  { invocationId, functionName := trigger.functionName, logger := trigger.logger }

/-- What is reported of a record that has been processed. -/
def outcome (record : SqsRecord) : Except BusError Unit → Diagnostic
  | .ok () => .event .debug [("message_id", .text record.messageId)] "record processed"
  | .error error =>
    .event .error [("message_id", .text record.messageId), ("error", .text error.message)]
      "record processing failed"

/-- The identifiers of the records that are answered with an error, in their
order and once for each of them. -/
def rejected (records : List SqsRecord) (answers : List (Except BusError Unit)) : List String :=
  ((records.zip answers).filter fun served => !served.2.isOk).map fun served => served.1.messageId

/-- The identifiers that a response names if the first `count` records have been
answered: those of the rejected ones, and all that are left. -/
def named (records : List SqsRecord) (count : Nat) (answers : List (Except BusError Unit)) :
    List String :=
  rejected (records.take count) answers ++ (records.drop count).map SqsRecord.messageId

theorem named_succ (record : SqsRecord) (records : List SqsRecord) (count : Nat)
    (answer : Except BusError Unit) (answers : List (Except BusError Unit)) :
    named (record :: records) (count + 1) (answer :: answers) =
      if answer.isOk then named records count answers
      else record.messageId :: named records count answers := by
  cases answer <;> rfl

theorem mem_rejected {records : List SqsRecord} {answers : List (Except BusError Unit)} {i : Nat}
    {record : SqsRecord} {error : BusError} (hRecord : records[i]? = some record)
    (hAnswer : answers[i]? = some (.error error)) :
    record.messageId ∈ rejected records answers := by
  have hServed : (records.zip answers)[i]? = some (record, .error error) :=
    List.getElem?_zip_eq_some.mpr ⟨hRecord, hAnswer⟩
  exact List.mem_map_of_mem (List.mem_filter.mpr ⟨List.mem_of_getElem? hServed, rfl⟩)

variable [Host σ] [LogSink κ]

/-- Records are processed one after the other, each once, by a call that is not
cancelled when a record is begun. Nothing but the outcome is done between two
records. -/
inductive Serves (others : σ → σ → Prop) (trigger : SqsTrigger σ κ ς ι)
    (context : FunctionContext κ) (cancel : CancellationToken σ) :
    List SqsRecord → σ → List (Except BusError Unit) → σ → Prop where
  | none {s : σ} : Serves others trigger context cancel [] s [] s
  | next {record : SqsRecord} {records : List SqsRecord} {answer : Except BusError Unit}
      {answers : List (Except BusError Unit)} {s t u : σ} (going : cancel s = false)
      (call : Runs others (trigger.endpoint.process record.toWire context cancel) s answer t)
      (later : Serves others trigger context cancel records
        (Host.report (outcome record answer) t) answers u) :
      Serves others trigger context cancel (record :: records) s (answer :: answers) u

/-- How a batch is accounted for, if its first `count` records are processed with
these answers. -/
structure Accounts (others : σ → σ → Prop) (trigger : SqsTrigger σ κ ς ι)
    (context : FunctionContext κ) (cancel : CancellationToken σ) (records : List SqsRecord)
    (count : Nat) (answers : List (Except BusError Unit)) (s : σ) (failures : List String)
    (t : σ) : Prop where
  bounded : count ≤ records.length
  /-- Only these records have an effect, since the batch ends where they end. -/
  served : Serves others trigger context cancel (records.take count) s answers t
  /-- The next record finds the call cancelled. -/
  stopped : count < records.length → cancel t = true
  reported : failures = named records count answers
  acknowledged : ∀ i record, records[i]? = some record → record.messageId ∉ failures →
    i < count ∧ answers[i]? = some (.ok ())

variable {others : σ → σ → Prop} {trigger : SqsTrigger σ κ ς ι} {context : FunctionContext κ}
  {cancel : CancellationToken σ} {record : SqsRecord} {records : List SqsRecord} {count : Nat}
  {answers : List (Except BusError Unit)} {failures : List String} {s t : σ}

theorem Serves.length_eq (serves : Serves others trigger context cancel records s answers t) :
    answers.length = records.length := by
  induction serves with
  | none => rfl
  | next going call later ih => rw [List.length_cons, List.length_cons, ih]

/-- A record that is not named has been acknowledged. -/
theorem acknowledged_of_not_named
    (served : Serves others trigger context cancel (records.take count) s answers t) {i : Nat}
    (hRecord : records[i]? = some record)
    (hAbsent : record.messageId ∉ named records count answers) :
    i < count ∧ answers[i]? = some (.ok ()) := by
  rw [named, List.mem_append, not_or] at hAbsent
  obtain ⟨hServed, hLeft⟩ := hAbsent
  have hCount : i < count := by
    apply Nat.lt_of_not_le
    intro hLe
    have hDropped : (records.drop count)[i - count]? = some record := by
      rw [List.getElem?_drop, Nat.add_sub_cancel' hLe]
      exact hRecord
    exact hLeft (List.mem_map_of_mem (List.mem_of_getElem? hDropped))
  have hTaken : (records.take count)[i]? = some record := by
    rw [List.getElem?_take_of_lt hCount]
    exact hRecord
  have hAnswers : i < answers.length := by
    rw [served.length_eq]
    exact (List.getElem?_eq_some_iff.mp hTaken).1
  have hAnswer : answers[i]? = some answers[i] := List.getElem?_eq_getElem hAnswers
  cases hOutcome : answers[i] with
  | ok value => exact ⟨hCount, by rw [hAnswer, hOutcome]⟩
  | error error =>
      rw [hOutcome] at hAnswer
      exact absurd (mem_rejected hTaken hAnswer) hServed

theorem accounts_of_served (bounded : count ≤ records.length)
    (served : Serves others trigger context cancel (records.take count) s answers t)
    (stopped : count < records.length → cancel t = true) :
    Accounts others trigger context cancel records count answers s
      (named records count answers) t :=
  ⟨bounded, served, stopped, rfl, fun _ _ => acknowledged_of_not_named served⟩

theorem exists_accounts_nil :
    (∃ count answers, Accounts others trigger context cancel [] count answers s failures t) ↔
      failures = [] ∧ t = s := by
  constructor
  · rintro ⟨count, answers, accounts⟩
    have served := accounts.served
    have reported := accounts.reported
    rw [named, List.drop_nil] at reported
    rw [List.take_nil] at served reported
    cases served
    exact ⟨reported, rfl⟩
  · rintro ⟨rfl, rfl⟩
    exact ⟨0, [], accounts_of_served (Nat.le_refl 0) .none nofun⟩

/-- If the first record finds the call cancelled, none is processed. -/
theorem exists_accounts_of_cancelled (hCancel : cancel s = true) :
    (∃ count answers, Accounts others trigger context cancel (record :: records) count answers s
        failures t) ↔
      failures = (record :: records).map SqsRecord.messageId ∧ t = s := by
  constructor
  · rintro ⟨count, answers, accounts⟩
    have served := accounts.served
    cases count with
    | zero =>
        cases served
        exact ⟨accounts.reported, rfl⟩
    | succ count =>
        rw [List.take_succ_cons] at served
        cases served with
        | next going call later => simp [hCancel] at going
  · rintro ⟨rfl, rfl⟩
    exact ⟨0, [], accounts_of_served (Nat.zero_le _) .none fun _ => hCancel⟩

/-- A batch does not stop before a record unless that record finds the call
cancelled. -/
theorem exists_accounts_cons_of_going (hCancel : cancel s = false) :
    (∃ count answers, Accounts others trigger context cancel (record :: records) count answers s
        failures t) ↔
      ∃ answer middle left,
        Runs others (trigger.endpoint.process record.toWire context cancel) s answer middle ∧
        (∃ count answers, Accounts others trigger context cancel records count answers
          (Host.report (outcome record answer) middle) left t) ∧
        failures = if answer.isOk then left else record.messageId :: left := by
  constructor
  · rintro ⟨count, answers, accounts⟩
    have served := accounts.served
    cases count with
    | zero =>
        cases served
        simp [accounts.stopped (Nat.succ_pos _)] at hCancel
    | succ count =>
        rw [List.take_succ_cons] at served
        cases served with
        | @next _ _ answer answers _ middle _ going call later =>
            have rest := accounts_of_served (Nat.le_of_succ_le_succ accounts.bounded) later
              fun hCount => accounts.stopped (Nat.succ_lt_succ hCount)
            refine ⟨answer, middle, named records count answers, call, ⟨count, answers, rest⟩, ?_⟩
            exact accounts.reported.trans (named_succ ..)
  · rintro ⟨answer, middle, left, call, ⟨count, answers, accounts⟩, rfl⟩
    refine ⟨count + 1, answer :: answers, ?_⟩
    rw [accounts.reported, ← named_succ]
    apply accounts_of_served (Nat.succ_le_succ accounts.bounded)
    · exact .next hCancel call accounts.served
    · intro hCount
      exact accounts.stopped (Nat.lt_of_succ_lt_succ hCount)

/-- A record that finds the call cancelled is neither processed nor
acknowledged. -/
theorem poll_handleRecord_of_cancelled (hCancel : cancel s = true) :
    (trigger.handleRecord context cancel record).poll s = (.finished false, s) := by
  change (if cancel s then (done false : Task σ Bool) else _).poll s = _
  rw [if_pos hCancel]
  rfl

theorem poll_handleRecord_of_going (hCancel : cancel s = false) :
    (trigger.handleRecord context cancel record).poll s =
      ((trigger.endpoint.process record.toWire context cancel).andThen fun answer =>
        (perform (Host.note (outcome record answer))).andThen fun _ =>
          done answer.isOk).poll s := by
  change (if cancel s then done false else _).poll s = _
  rw [if_neg (by simp [hCancel])]
  congr 2
  funext answer
  cases answer <;> rfl

theorem runs_handleRecord_of_going {acknowledged : Bool} {u : σ} (hCancel : cancel s = false) :
    Runs others (trigger.handleRecord context cancel record) s acknowledged u ↔
      ∃ answer t, Runs others (trigger.endpoint.process record.toWire context cancel) s answer t ∧
        acknowledged = answer.isOk ∧ u = Host.report (outcome record answer) t := by
  rw [runs_of_poll_eq (poll_handleRecord_of_going hCancel), runs_andThen_iff]
  simp only [runs_perform_andThen_iff, runs_done_iff]
  rfl

/-- Once a record has found the call cancelled, all that are left are reported
and nothing else is done. -/
theorem poll_handleRecords_of_cancelled (hCancel : cancel s = true) (records : List SqsRecord) :
    (trigger.handleRecords context cancel records).poll s =
      (.finished (records.map SqsRecord.messageId), s) := by
  induction records with
  | nil => rfl
  | cons record records ih =>
      rw [handleRecords, bind_eq, poll_andThen, poll_handleRecord_of_cancelled hCancel]
      simp only [bind_eq, pure_eq]
      rw [poll_andThen, ih]
      rfl

theorem runs_handleRecords_of_cancelled (hCancel : cancel s = true) :
    Runs others (trigger.handleRecords context cancel records) s failures t ↔
      failures = records.map SqsRecord.messageId ∧ t = s :=
  runs_iff_of_finished (poll_handleRecords_of_cancelled hCancel records)

/-- A record that is processed comes before the account of those after it. -/
theorem runs_handleRecords_cons_of_going (hCancel : cancel s = false) :
    Runs others (trigger.handleRecords context cancel (record :: records)) s failures t ↔
      ∃ answer middle left,
        Runs others (trigger.endpoint.process record.toWire context cancel) s answer middle ∧
        Runs others (trigger.handleRecords context cancel records)
          (Host.report (outcome record answer) middle) left t ∧
        failures = if answer.isOk then left else record.messageId :: left := by
  rw [handleRecords, bind_eq, runs_andThen_iff]
  simp only [bind_eq, pure_eq, runs_andThen_iff, runs_done_iff, runs_handleRecord_of_going hCancel]
  constructor
  · rintro ⟨_, _, ⟨answer, middle, call, rfl, rfl⟩, left, _, later, rfl, rfl⟩
    exact ⟨answer, middle, left, call, later, rfl⟩
  · rintro ⟨answer, middle, left, call, later, rfl⟩
    exact ⟨_, _, ⟨answer, middle, call, rfl, rfl⟩, left, t, later, rfl, rfl⟩

theorem runs_handleRecords_iff :
    Runs others (trigger.handleRecords context cancel records) s failures t ↔
      ∃ count answers,
        Accounts others trigger context cancel records count answers s failures t := by
  induction records generalizing s failures with
  | nil => rw [handleRecords, pure_eq, runs_done_iff, exists_accounts_nil]
  | cons record records ih =>
      cases hCancel : cancel s with
      | true =>
          rw [runs_handleRecords_of_cancelled hCancel, exists_accounts_of_cancelled hCancel]
      | false =>
          rw [runs_handleRecords_cons_of_going hCancel, exists_accounts_cons_of_going hCancel]
          simp only [ih]

/-- A batch ends if every call that it makes does. -/
theorem ends_handleRecords
    (ends : ∀ before record after answers t, records = before ++ record :: after →
      Serves others trigger context cancel before s answers t → cancel t = false →
        Ends others (trigger.endpoint.process record.toWire context cancel) t) :
    Ends others (trigger.handleRecords context cancel records) s := by
  induction records generalizing s with
  | nil => exact ends_of_finished rfl
  | cons record records ih =>
      cases hCancel : cancel s with
      | true => exact ends_of_finished (poll_handleRecords_of_cancelled hCancel _)
      | false =>
          rw [handleRecords, bind_eq]
          have first : Ends others (trigger.handleRecord context cancel record) s := by
            apply ends_of_poll_eq (poll_handleRecord_of_going hCancel)
            apply (ends [] record records [] s rfl .none hCancel).andThen
            intro answer t call
            exact ends_of_finished rfl
          apply first.andThen
          intro acknowledged u run
          obtain ⟨answer, t, call, -, rfl⟩ := (runs_handleRecord_of_going hCancel).mp run
          have rest : Ends others (trigger.handleRecords context cancel records)
              (Host.report (outcome record answer) t) := by
            apply ih
            intro before next after answers v hRecords serves
            apply ends (record :: before) next after (answer :: answers) v
            · rw [hRecords, List.cons_append]
            · exact .next hCancel call serves
          apply rest.andThen
          intro failures v later
          exact ends_of_finished rfl

/-- A batch ends if every call that it makes does, and it ends with an account of
all its records: those of a first part have been processed, each once and in
order, and the response names those of them that failed and all that were left
when the call was cancelled. -/
theorem handle_accounts (others : σ → σ → Prop) (trigger : SqsTrigger σ κ ς ι) (event : SqsEvent)
    (invocationId : String) (cancel : CancellationToken σ) (s : σ) :
    ((∀ before record after answers t, event.records = before ++ record :: after →
        Serves others trigger (trigger.invocation invocationId) cancel before s answers t →
        cancel t = false →
          Ends others (trigger.endpoint.process record.toWire (trigger.invocation invocationId)
            cancel) t) →
      Ends others (trigger.handle event invocationId cancel) s) ∧
    ∀ response t, Runs others (trigger.handle event invocationId cancel) s response t ↔
      ∃ count answers, Accounts others trigger (trigger.invocation invocationId) cancel
        event.records count answers s response.failures t := by
  constructor
  · intro ends
    apply (ends_handleRecords ends).andThen
    intro failures t run
    exact ends_of_finished rfl
  · intro response t
    rw [handle, bind_eq, runs_andThen_iff, ← runs_handleRecords_iff]
    simp only [pure_eq, runs_done_iff]
    constructor
    · rintro ⟨failures, _, run, rfl, rfl⟩
      exact run
    · intro run
      exact ⟨response.failures, t, run, rfl, rfl⟩

section Interrupted

open InMemory Scripted

/-- The trigger of an endpoint that gives up control with its second message. -/
def interrupted : SqsTrigger HostState Sink Unit Instance where
  endpoint :=
    { engine :=
        { EngineState.toEngine ⟨HostState.queues, HostState.counter "orders", .empty, .empty⟩ with
          pipeline := fun _ _ => some (PipelineScript.toPipeline ⟨[[], [.suspend]], []⟩) }
      configuration := ⟨"orders", "", none, .receiveOnly, {}, false⟩
      services := ()
      logBook := HostState.logBook "orders"
      gate := HostState.gate "orders" }
  functionName := "orders"

/-- Of three records the first is acknowledged, the second is cut short when the
call is cancelled, and the third is left. -/
theorem handle_accounts_interrupted :
    let event : SqsEvent := ⟨[{ messageId := "a" }, { messageId := "b" }, {}]⟩
    let cancels (s t : HostState) : Prop := t = { s with cancelled := ["batch"] }
    let cancel := HostState.isCancelled "batch"
    Ends cancels (interrupted.handle event "1" cancel) {} ∧
      ∃ t, Runs cancels (interrupted.handle event "1" cancel) {} ⟨["b", ""]⟩ t := by
  intro event cancels cancel
  have accounted := handle_accounts cancels interrupted event "1" cancel {}
  let call (id : String) :=
    interrupted.endpoint.process (SqsRecord.toWire { messageId := id })
      (interrupted.invocation "1") cancel
  obtain ⟨t, hFirst, hGoing⟩ : ∃ t, (call "a").poll {} = (.finished (.ok ()), t) ∧
      cancel t = false := ⟨_, rfl, rfl⟩
  obtain ⟨rest, u, hGaveUp⟩ : ∃ rest u,
      (call "b").poll (Host.report (outcome { messageId := "a" } (.ok ())) t) =
        (.suspended rest, u) := by
    cases hFirst
    exact ⟨_, _, rfl⟩
  obtain ⟨v, hCut, hCancelled⟩ : ∃ v, rest.poll { u with cancelled := ["batch"] } =
      (.finished (.error .cancelled), v) ∧
        cancel (Host.report (outcome { messageId := "b" } (.error .cancelled)) v) = true := by
    cases hFirst
    cases hGaveUp
    exact ⟨_, rfl, rfl⟩
  have second {t' : HostState} {answer : Except BusError Unit}
      (run : Runs cancels (call "b") (Host.report (outcome { messageId := "a" } (.ok ())) t)
        answer t') : answer = .error .cancelled ∧ t' = v := by
    obtain ⟨_, rfl, later⟩ := (runs_iff_of_suspended hGaveUp).mp run
    exact (runs_iff_of_finished hCut).mp later
  constructor
  · apply accounted.1
    intro before record after answers t' hRecords serves going
    cases serves with
    | none =>
        cases hRecords
        exact ends_of_finished hFirst
    | next _ first later =>
        obtain ⟨rfl, hSame⟩ := List.cons.inj hRecords
        obtain ⟨rfl, rfl⟩ := (runs_iff_of_finished hFirst).mp first
        cases later with
        | none =>
            cases hSame
            rw [ends_iff_of_suspended hGaveUp]
            rintro _ rfl
            exact ends_of_finished hCut
        | next _ run later =>
            obtain ⟨rfl, hSame⟩ := List.cons.inj hSame
            obtain ⟨rfl, rfl⟩ := second run
            cases later with
            | none => simp [hCancelled] at going
            | next unharmed _ _ => simp [hCancelled] at unharmed
  · have served : Serves cancels interrupted (interrupted.invocation "1") cancel
        (event.records.take 2) {} [.ok (), .error .cancelled]
        (Host.report (outcome { messageId := "b" } (.error .cancelled)) v) :=
      .next rfl (.finished hFirst) (.next hGoing (.resumed hGaveUp rfl (.finished hCut)) .none)
    have accounts := accounts_of_served (by decide) served fun _ => hCancelled
    exact ⟨_, (accounted.2 ⟨["b", ""]⟩ _).mpr ⟨2, _, accounts⟩⟩

end Interrupted

end BusEndpoint.SqsTrigger

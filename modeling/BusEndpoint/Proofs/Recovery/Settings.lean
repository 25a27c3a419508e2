import BusEndpoint.Proofs.Json.Completion
import BusEndpoint.Recoverability

/-! The JSON form of the retry policy. The base of the delays is written in whole seconds,
so that settings are read as they were written up to the part of it below one second. Each
of the five members has a say for its own field; where it is missing, the field has the
default, whether or not the default is written out. -/

namespace BusEndpoint

open Decode

namespace Duration

/-- The whole seconds of a duration, as a duration. -/
def truncated (d : Duration) : Duration :=
  ⟨d.nanoseconds - d.subsecond, Nat.le_trans (Nat.sub_le ..) d.nanoseconds_le⟩

theorem nanoseconds_truncated (d : Duration) :
    d.truncated.nanoseconds = d.seconds * 1000000000 := by
  simp only [truncated, subsecond, seconds]
  omega

theorem subsecond_truncated (d : Duration) : d.truncated.subsecond = 0 := by
  rw [subsecond, nanoseconds_truncated, Nat.mul_mod_left]

theorem truncated_eq_iff {d : Duration} : d.truncated = d ↔ d.subsecond = 0 := by
  constructor
  · intro hSame
    rw [← hSame, subsecond_truncated]
  · intro hWhole
    apply ext_nanoseconds
    simp only [truncated, hWhole, Nat.sub_zero]

theorem subsecond_ofSeconds (s : UInt64) : (ofSeconds s).subsecond = 0 := by
  rw [subsecond, nanoseconds_ofSeconds, Nat.mul_mod_left]

/-- The whole seconds of every duration fit into a word. -/
theorem ofSeconds_seconds (d : Duration) : ofSeconds (.ofNat d.seconds) = d.truncated := by
  apply ext_nanoseconds
  rw [nanoseconds_ofSeconds, UInt64.toNat_ofNat_of_lt' d.seconds_lt, nanoseconds_truncated]

end Duration

/-- What an object states of the settings; the base in whole seconds. -/
structure StatedSettings where
  immediateRetries : Option UInt32 := none
  delayedRetries : Option UInt32 := none
  delayedRetryBase : Option UInt64 := none
  errorQueue : Option String := none
  sendFailedMessagesToErrorQueue : Option Bool := none

namespace StatedSettings

/-- The members of an object that are read are these, each of them of the right form. Others
may stand beside them. -/
structure IsStatedBy (stated : StatedSettings) (object : Dictionary Json) : Prop where
  immediateRetries : object.get? "immediate_retries" =
    stated.immediateRetries.map fun n => .natural n.toNat
  delayedRetries : object.get? "delayed_retries" =
    stated.delayedRetries.map fun n => .natural n.toNat
  delayedRetryBase : object.get? "delayed_retry_base" =
    stated.delayedRetryBase.map fun s => .natural s.toNat
  errorQueue : object.get? "error_queue" = stated.errorQueue.map .string
  sendFailedMessagesToErrorQueue : object.get? "send_failed_messages_to_error_queue" =
    stated.sendFailedMessagesToErrorQueue.map .boolean

/-- The settings with what is stated in the place of what they have. -/
def appliedTo (stated : StatedSettings) (settings : RecoverabilitySettings) :
    RecoverabilitySettings where
  immediateRetries := stated.immediateRetries.getD settings.immediateRetries
  delayedRetries := stated.delayedRetries.getD settings.delayedRetries
  delayedRetryBase := (stated.delayedRetryBase.map .ofSeconds).getD settings.delayedRetryBase
  errorQueue := stated.errorQueue.getD settings.errorQueue
  sendFailedMessagesToErrorQueue :=
    stated.sendFailedMessagesToErrorQueue.getD settings.sendFailedMessagesToErrorQueue

end StatedSettings

namespace RecoverabilitySettings

/-- A duration in whole seconds. -/
def seconds64 : Decoder Duration := fun json => (word64 json).map .ofSeconds

theorem readsAs_seconds64 :
    ReadsAs seconds64 (fun seconds => .natural seconds.toNat) Duration.ofSeconds :=
  readsAs_word64.map Duration.ofSeconds

theorem seconds64_natural (d : Duration) : seconds64 (.natural d.seconds) = .ok d.truncated := by
  have hWord := UInt64.toNat_ofNat_of_lt' d.seconds_lt
  refine (readsAs_seconds64 _ _).mpr ⟨.ofNat d.seconds, ?_, d.ofSeconds_seconds.symm⟩
  exact congrArg Json.natural hWord.symm

def parts : List (RecordPart RecoverabilitySettings) :=
  [.plain "immediate_retries" word32 (fun n => .natural n.toNat) (·.immediateRetries)
      fun n s => { s with immediateRetries := n },
    .plain "delayed_retries" word32 (fun n => .natural n.toNat) (·.delayedRetries)
      fun n s => { s with delayedRetries := n },
    .plain "delayed_retry_base" seconds64 (fun base => .natural base.seconds) (·.delayedRetryBase)
      fun base s => { s with delayedRetryBase := base },
    .plain "error_queue" text .string (·.errorQueue) fun queue s => { s with errorQueue := queue },
    .plain "send_failed_messages_to_error_queue" boolean .boolean
      (·.sendFailedMessagesToErrorQueue) fun b s => { s with sendFailedMessagesToErrorQueue := b }]

theorem fields_eq : fields = parts.map RecordPart.toField := by
  have hBase (json : Json) (s : RecoverabilitySettings) :
      (word64 json).map (fun n => { s with delayedRetryBase := .ofSeconds n }) =
        (seconds64 json).map fun base => { s with delayedRetryBase := base } := by
    rw [seconds64]
    cases word64 json <;> rfl
  simp only [fields, parts, RecordPart.plain, RecordPart.toField, field, hBase, List.map_cons,
    List.map_nil]

theorem ofJson_eq :
    ofJson = record "RecoverabilitySettings" (parts.map RecordPart.toField) {} := by
  rw [ofJson, fields_eq]

theorem toJson_eq (settings : RecoverabilitySettings) :
    settings.toJson = .ofMembers (written parts settings) := rfl

theorem independent_parts : Independent parts where
  names := by simp [parts, RecordPart.plain]
  get_set := by simp [parts, RecordPart.plain]
  get_set_of_ne := by simp [parts, RecordPart.plain]
  ext first second hSame := by
    cases first
    cases second
    simpa [parts, RecordPart.plain] using hSame

/-- Only the base is not read as it was written. -/
theorem given_written (settings : RecoverabilitySettings) : ∀ part ∈ parts,
    part.given {} (part.write (part.get settings)) = .ok
      (part.get { settings with delayedRetryBase := settings.delayedRetryBase.truncated }) := by
  simp only [parts, List.forall_mem_cons]
  refine ⟨?immediate, ?delayed, ?base, ?queue, ?routing, nofun⟩
  case immediate => exact RecordPart.given_write_plain (inverts_word32 settings.immediateRetries)
  case delayed => exact RecordPart.given_write_plain (inverts_word32 settings.delayedRetries)
  case base => exact RecordPart.given_write_plain (seconds64_natural settings.delayedRetryBase)
  case queue => rfl
  case routing => rfl

theorem truncated_base_eq_iff {settings : RecoverabilitySettings} :
    { settings with delayedRetryBase := settings.delayedRetryBase.truncated } = settings ↔
      settings.delayedRetryBase.subsecond = 0 := by
  rw [← Duration.truncated_eq_iff]
  constructor
  · intro hKept
    exact congrArg delayedRetryBase hKept
  · intro hBase
    rw [hBase]

theorem ofJson_toJson (settings : RecoverabilitySettings) :
    ofJson settings.toJson =
      .ok { settings with delayedRetryBase := settings.delayedRetryBase.truncated } := by
  rw [ofJson_eq, toJson_eq]
  exact record_written independent_parts settings.given_written

theorem ofJson_eq_ok_iff {object : Dictionary Json} {settings : RecoverabilitySettings} :
    ofJson (.ofDictionary object) = .ok settings ↔
      ∃ stated : StatedSettings, stated.IsStatedBy object ∧ settings = stated.appliedTo {} := by
  rw [ofJson_eq, record_eq_ok_iff independent_parts]
  simp only [parts, List.forall_mem_cons]
  constructor
  · rintro ⟨hImmediate, hDelayed, hBase, hQueue, hRouting, -⟩
    obtain ⟨immediate, hImmediate, hI⟩ :=
      (RecordPart.given_plain_id_eq_ok_iff readsAs_word32).mp hImmediate
    obtain ⟨delayed, hDelayed, hD⟩ :=
      (RecordPart.given_plain_id_eq_ok_iff readsAs_word32).mp hDelayed
    obtain ⟨base, hBase, hB⟩ := (RecordPart.given_plain_eq_ok_iff readsAs_seconds64).mp hBase
    obtain ⟨queue, hQueue, hQ⟩ := (RecordPart.given_plain_id_eq_ok_iff readsAs_text).mp hQueue
    obtain ⟨routing, hRouting, hR⟩ :=
      (RecordPart.given_plain_id_eq_ok_iff readsAs_boolean).mp hRouting
    refine ⟨⟨immediate, delayed, base, queue, routing⟩,
      ⟨hImmediate, hDelayed, hBase, hQueue, hRouting⟩, ?_⟩
    cases settings
    exact congr (congr (congr (congrArg₂ mk hI hD) hB) hQ) hR
  · rintro ⟨stated, hStated, rfl⟩
    refine ⟨?immediate, ?delayed, ?base, ?queue, ?routing, nofun⟩
    case immediate =>
      exact (RecordPart.given_plain_id_eq_ok_iff readsAs_word32).mpr
        ⟨_, hStated.immediateRetries, rfl⟩
    case delayed =>
      exact (RecordPart.given_plain_id_eq_ok_iff readsAs_word32).mpr
        ⟨_, hStated.delayedRetries, rfl⟩
    case base =>
      exact (RecordPart.given_plain_eq_ok_iff readsAs_seconds64).mpr
        ⟨_, hStated.delayedRetryBase, rfl⟩
    case queue =>
      exact (RecordPart.given_plain_id_eq_ok_iff readsAs_text).mpr ⟨_, hStated.errorQueue, rfl⟩
    case routing =>
      exact (RecordPart.given_plain_id_eq_ok_iff readsAs_boolean).mpr
        ⟨_, hStated.sendFailedMessagesToErrorQueue, rfl⟩

/-- The default settings are read as they were written, member by member. -/
theorem decode_get?_written_default : ∀ part ∈ parts, ∀ value,
    (Dictionary.ofList (written parts {})).get? part.name = some value →
      part.decode value = .ok (part.get {}) := by
  intro part hPart value hValue
  have hGiven := given_written {} part hPart
  have hWhole : ({} : RecoverabilitySettings).delayedRetryBase.subsecond = 0 :=
    Duration.subsecond_ofSeconds 10
  rw [← get?_written independent_parts.names hPart, hValue,
    truncated_base_eq_iff.mpr hWhole] at hGiven
  exact hGiven

/-- Settings are read as they were written, but for the part of the base below one second.
An object with any of the five members is read as the defaults with what it states, and an
object of other members or members of another form is refused. -/
structure ReadAsStated : Prop where
  truncated : ∀ settings : RecoverabilitySettings, ofJson settings.toJson =
    .ok { settings with delayedRetryBase := settings.delayedRetryBase.truncated }
  kept : ∀ settings : RecoverabilitySettings,
    ofJson settings.toJson = .ok settings ↔ settings.delayedRetryBase.subsecond = 0
  stated : ∀ object settings, ofJson (.ofDictionary object) = .ok settings ↔
    ∃ stated : StatedSettings, stated.IsStatedBy object ∧ settings = stated.appliedTo {}
  /-- The default settings may be written out behind what an object has, also where the
  object is refused. -/
  completed : ∃ defaults : Dictionary Json,
    ({} : RecoverabilitySettings).toJson = .ofDictionary defaults ∧
      ∀ object, ofJson (.ofDictionary (defaults.extend object)) = ofJson (.ofDictionary object)

theorem readAsStated : ReadAsStated where
  truncated := ofJson_toJson
  kept settings := by rw [ofJson_toJson, Except.ok.injEq, truncated_base_eq_iff]
  stated _ _ := ofJson_eq_ok_iff
  completed := by
    refine ⟨.ofList (written parts {}), rfl, fun object => ?_⟩
    rw [ofJson_eq]
    exact record_extend independent_parts decode_get?_written_default

/-- A count of zero is not an absent one. -/
example : ofJson (.ofMembers [("delayed_retries", .natural 0), ("queue", .null)]) =
    .ok { delayedRetries := 0 } := rfl

end RecoverabilitySettings

end BusEndpoint

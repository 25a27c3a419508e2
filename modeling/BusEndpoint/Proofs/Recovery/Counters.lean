import BusEndpoint.Pipeline
import BusEndpoint.Proofs.Delivery.Retries
import BusEndpoint.Proofs.Messages.Headers
import BusEndpoint.Proofs.Text.Numerals

/-! What a decision on a failed message rests on. Of all that a message carries two
counters are looked at, the number of its delivery and the delayed retries behind it,
and the second may be written under its header in any way that JSON has. -/

namespace BusEndpoint

namespace Duration

variable {d product : Duration} {k : Nat}

/-- A duration taken some times, exactly and with seconds and nanoseconds multiplied
apart. Full seconds among the nanoseconds are carried over, and where the seconds no
longer fit there is the longest duration. -/
structure IsProduct (d : Duration) (k : Nat) (product : Duration) : Prop where
  exact : product.nanoseconds = min (k * d.nanoseconds) longest.nanoseconds
  carried : k * d.seconds + k * d.subsecond / 1000000000 < UInt64.size →
    product.seconds = k * d.seconds + k * d.subsecond / 1000000000 ∧
      product.subsecond = k * d.subsecond % 1000000000
  cut : UInt64.size ≤ k * d.seconds + k * d.subsecond / 1000000000 → product = longest

theorem mul_nanoseconds (d : Duration) (k : Nat) :
    k * d.nanoseconds = k * d.seconds * 1000000000 + k * d.subsecond := by
  rw [Nat.mul_assoc, ← Nat.mul_add, seconds, subsecond, Nat.div_add_mod']

theorem isProduct_times (d : Duration) (k : Nat) : d.IsProduct k (d.times k) where
  exact := d.nanoseconds_times k
  carried hFits := by
    have hNanoseconds : (d.times k).nanoseconds =
        k * d.seconds * 1000000000 + k * d.subsecond := by
      rw [nanoseconds_times, d.mul_nanoseconds k]
      simp only [maxNanoseconds, UInt64.size] at hFits ⊢
      omega
    -- Only the nanoseconds are divided: the seconds come with a whole number of seconds.
    rw [seconds.eq_def (d.times k), subsecond.eq_def (d.times k), hNanoseconds]
    omega
  cut hOverflow := by
    apply ext_nanoseconds
    rw [nanoseconds_times, d.mul_nanoseconds k]
    simp only [longest, maxNanoseconds, UInt64.size] at hOverflow ⊢
    omega

theorem IsProduct.eq_times (isProduct : d.IsProduct k product) : product = d.times k :=
  ext_nanoseconds (isProduct.exact.trans (d.isProduct_times k).exact.symm)

theorem IsProduct.mono {k' : Nat} {product' : Duration} (isProduct : d.IsProduct k product)
    (isProduct' : d.IsProduct k' product') (hLe : k ≤ k') :
    product.nanoseconds ≤ product'.nanoseconds := by
  have hProducts := Nat.mul_le_mul_right d.nanoseconds hLe
  rw [isProduct.exact, isProduct'.exact]
  omega

end Duration

/-- What is counted of a message. -/
structure Counters where
  /-- The number of the delivery, from 1. -/
  deliveries : Nat
  /-- The delayed retries behind the message. -/
  retries : Nat

/-- The counters of a message on the wire. -/
structure WireMessage.Counted (wire : WireMessage) (counters : Counters) : Prop where
  deliveries : counters.deliveries = max wire.deliveryCount.toNat 1
  retries : Text.Counts
    ((wire.applicationProperties.get? Header.delayedRetries).map Header.ofProperty) 0
    counters.retries

/-- An endpoint counts a message as the wire does. -/
theorem WireMessage.counted_iff {wire : WireMessage} {counters : Counters} :
    wire.Counted counters ↔ counters = ⟨wire.delivery.toNat, wire.retries.toNat⟩ := by
  have hHeader : (wire.applicationProperties.get? Header.delayedRetries).map Header.ofProperty =
      wire.headers.get? Header.delayedRetries := by
    have hName : Header.delayedRetries ≠ Header.transportEncoding ∧
        Header.delayedRetries ≠ Header.replyToAddress ∧
        Header.delayedRetries ≠ Header.correlationId := by decide
    simp [headers, Header.get?_translate, hName]
  have hRetries : Text.Counts
      ((wire.applicationProperties.get? Header.delayedRetries).map Header.ofProperty) 0
        counters.retries ↔ wire.retries.toNat = counters.retries := by
    rw [hHeader]
    change Text.Counts _ (0 : UInt32).toNat _ ↔ _
    exact Text.counts_iff
  constructor
  · intro counted
    have hBehind := hRetries.mp counted.retries
    obtain ⟨deliveries, retries⟩ := counters
    rw [wire.toNat_delivery, ← counted.deliveries, hBehind]
  · intro hCounters
    subst hCounters
    exact ⟨wire.toNat_delivery, hRetries.mpr rfl⟩

/-- A delivery that has failed. -/
structure FailedDelivery (σ : Type) where
  /-- The identifier for a message without one. -/
  fresh : String
  wire : WireMessage
  failure : Failure
  token : TransportToken σ

variable {σ : Type}

def FailedDelivery.context (delivery : FailedDelivery σ) : ErrorContext σ :=
  (InboundMessage.ofWire delivery.fresh delivery.wire).errorContext delivery.failure delivery.token

namespace RecoverabilitySettings

/-- What the settings decide on a failed delivery. -/
def decision (settings : RecoverabilitySettings) (delivery : FailedDelivery σ) :
    RecoverabilityAction :=
  settings.action delivery.context.deliveryCount delivery.context.headers

/-- The immediate retries come first, then the delayed ones. -/
structure Allots (settings : RecoverabilitySettings) (counters : Counters)
    (action : RecoverabilityAction) : Prop where
  immediate : action = .immediateRetry ↔ counters.deliveries ≤ settings.immediateRetries.toNat
  delayed : ∀ attempt delay, action = .delayedRetry attempt delay ↔
    settings.immediateRetries.toNat < counters.deliveries ∧
      counters.retries < settings.delayedRetries.toNat ∧
      attempt.toNat = counters.retries + 1 ∧
      settings.delayedRetryBase.IsProduct (counters.retries + 1) delay
  moved : ∀ queue, action = .moveToErrorQueue queue ↔
    settings.immediateRetries.toNat < counters.deliveries ∧
      settings.delayedRetries.toNat ≤ counters.retries ∧
      settings.sendFailedMessagesToErrorQueue = true ∧ queue = settings.errorQueue
  failed : action = .fail ↔
    settings.immediateRetries.toNat < counters.deliveries ∧
      settings.delayedRetries.toNat ≤ counters.retries ∧
      settings.sendFailedMessagesToErrorQueue = false

variable {settings : RecoverabilitySettings} {counters counters' : Counters}
  {action action' : RecoverabilityAction}

/-- There is one action for every pair of counters. -/
theorem Allots.eq (allots : settings.Allots counters action)
    (allots' : settings.Allots counters action') : action = action' := by
  cases action with
  | immediateRetry => exact (allots'.immediate.mpr (allots.immediate.mp rfl)).symm
  | delayedRetry attempt delay =>
      exact ((allots'.delayed attempt delay).mpr ((allots.delayed attempt delay).mp rfl)).symm
  | moveToErrorQueue queue =>
      exact ((allots'.moved queue).mpr ((allots.moved queue).mp rfl)).symm
  | fail => exact (allots'.failed.mpr (allots.failed.mp rfl)).symm

theorem allots_immediateRetry (hCount : counters.deliveries ≤ settings.immediateRetries.toNat) :
    settings.Allots counters .immediateRetry where
  immediate := iff_of_true rfl hCount
  delayed attempt delay := iff_of_false nofun fun h => by omega
  moved queue := iff_of_false nofun fun h => by omega
  failed := iff_of_false nofun fun h => by omega

theorem allots_delayedRetry {number : UInt32}
    (hCount : settings.immediateRetries.toNat < counters.deliveries)
    (hRetries : counters.retries < settings.delayedRetries.toNat)
    (hNumber : number.toNat = counters.retries + 1) :
    settings.Allots counters
      (.delayedRetry number (settings.delayedRetryBase.times number.toNat)) where
  immediate := iff_of_false nofun (Nat.not_le.mpr hCount)
  delayed attempt delay := by
    rw [hNumber]
    constructor
    · intro hAction
      injection hAction with hAttempt hDelay
      subst hAttempt hDelay
      exact ⟨hCount, hRetries, hNumber, Duration.isProduct_times _ _⟩
    · intro h
      obtain ⟨-, -, hAttempt, hProduct⟩ := h
      have hSame : number = attempt := UInt32.toNat_inj.mp (hNumber.trans hAttempt.symm)
      rw [hSame, hProduct.eq_times]
  moved queue := iff_of_false nofun fun h => by omega
  failed := iff_of_false nofun fun h => by omega

theorem allots_lastAction (hCount : settings.immediateRetries.toNat < counters.deliveries)
    (hRetries : settings.delayedRetries.toNat ≤ counters.retries) :
    settings.Allots counters settings.lastAction where
  immediate := by
    cases hRouting : settings.sendFailedMessagesToErrorQueue <;> simp [lastAction, hRouting, hCount]
  delayed attempt delay := by
    have hNone : ¬ counters.retries < settings.delayedRetries.toNat := Nat.not_lt.mpr hRetries
    cases hRouting : settings.sendFailedMessagesToErrorQueue <;> simp [lastAction, hRouting, hNone]
  moved queue := by
    cases hRouting : settings.sendFailedMessagesToErrorQueue <;>
      simp [lastAction, hRouting, hCount, hRetries, eq_comm]
  failed := by
    cases hRouting : settings.sendFailedMessagesToErrorQueue <;>
      simp [lastAction, hRouting, hCount, hRetries]

/-- The settings act as the counters call for. -/
theorem allots_action (settings : RecoverabilitySettings) (count : UInt32) (headers : Headers) :
    settings.Allots ⟨count.toNat, (retriesBehind headers).toNat⟩
      (settings.action count headers) := by
  rcases settings.action_cases count headers with
    ⟨hCount, hAction⟩ | ⟨hCount, hRetries, number, hNumber, hAction⟩ | ⟨hCount, hRetries, hAction⟩
  · rw [hAction]
    exact allots_immediateRetry hCount
  · rw [hAction]
    exact allots_delayedRetry hCount hRetries hNumber
  · rw [hAction]
    exact allots_lastAction hCount hRetries

theorem allots_decision (settings : RecoverabilitySettings) {delivery : FailedDelivery σ}
    (counted : delivery.wire.Counted counters) :
    settings.Allots counters (settings.decision delivery) := by
  rw [WireMessage.counted_iff.mp counted]
  exact settings.allots_action delivery.wire.delivery delivery.wire.headers

/-- Deliveries that have failed are told apart by their counters only. -/
structure DecidesByCounters (settings : RecoverabilitySettings)
    (decision : FailedDelivery σ → RecoverabilityAction) : Prop where
  counted : ∀ wire : WireMessage, ∃ counters, wire.Counted counters ∧
    ∀ other, wire.Counted other → other = counters
  /-- The header for the delayed retries is a number if the property is one or tells one. -/
  told : ∀ value n, Text.IsNumeral (Header.ofProperty value) n ↔ value.Tells n
  allots : ∀ delivery counters, delivery.wire.Counted counters →
    settings.Allots counters (decision delivery)
  notAtOnce : settings.immediateRetries = 0 → ∀ delivery, decision delivery ≠ .immediateRetry
  longer : ∀ first second counters counters', first.wire.Counted counters →
    second.wire.Counted counters' → counters.retries ≤ counters'.retries →
    ∀ attempt attempt' delay delay', decision first = .delayedRetry attempt delay →
      decision second = .delayedRetry attempt' delay' → delay.nanoseconds ≤ delay'.nanoseconds
  alike : ∀ first second counters, first.wire.Counted counters → second.wire.Counted counters →
    decision first = decision second

theorem decidesByCounters (settings : RecoverabilitySettings) :
    settings.DecidesByCounters fun delivery : FailedDelivery σ => settings.decision delivery where
  counted wire := ⟨_, WireMessage.counted_iff.mpr rfl, fun _ => WireMessage.counted_iff.mp⟩
  told value n := Header.isNumeral_ofProperty_iff
  allots delivery counters counted := settings.allots_decision counted
  notAtOnce hNone delivery hAtOnce := by
    obtain ⟨counters, counted⟩ : ∃ counters, delivery.wire.Counted counters :=
      ⟨_, WireMessage.counted_iff.mpr rfl⟩
    have hCount := (settings.allots_decision counted).immediate.mp hAtOnce
    rw [hNone, UInt32.toNat_zero, counted.deliveries] at hCount
    omega
  longer first second counters counters' counted counted' hRetries attempt attempt' delay delay'
      hFirst hSecond := by
    obtain ⟨-, -, -, hProduct⟩ := ((settings.allots_decision counted).delayed attempt delay).mp hFirst
    obtain ⟨-, -, -, hProduct'⟩ := ((settings.allots_decision counted').delayed attempt' delay').mp hSecond
    exact hProduct.mono hProduct' (Nat.succ_le_succ hRetries)
  alike first second counters counted counted' :=
    (settings.allots_decision counted).eq (settings.allots_decision counted')

/-- The last of all delayed retries still has a number, and its delay is cut. -/
example : ({ immediateRetries := 0, delayedRetries := 4294967295, delayedRetryBase := .longest } :
    RecoverabilitySettings).action 1 (.ofList [(Header.delayedRetries, "+4294967294")]) =
      .delayedRetry 4294967295 .longest := by decide

end RecoverabilitySettings

end BusEndpoint

import BusEndpoint.Recoverability

/-! What the recoverability settings have in store for a message that fails again
and again: a round of immediate retries, then one delayed retry after the other,
each with a round of its own, and at last the end of all retries. -/

namespace BusEndpoint

namespace Text

theorem digitValue?_eq {c : Char} (hDigit : c.isDigit = true) :
    digitValue? c = some (c.toNat - '0'.toNat) := by
  have hRange : '0' ≤ c ∧ c ≤ '9' := by simpa [Char.isDigit, Char.le_def] using hDigit
  rw [digitValue?, if_pos hRange]

theorem digitsValue?_eq {digits : List Char} (hDigits : ∀ c ∈ digits, c.isDigit = true)
    (value : Nat) : digitsValue? value digits = some (Nat.ofDigitChars 10 digits value) := by
  induction digits generalizing value with
  | nil => rw [digitsValue?, Nat.ofDigitChars_nil]
  | cons c rest ih =>
      obtain ⟨hFirst, hRest⟩ := List.forall_mem_cons.mp hDigits
      rw [digitsValue?, digitValue?_eq hFirst, Nat.ofDigitChars_cons]
      exact ih hRest _

/-- A number can be read off its decimal text. -/
theorem natural?_decimal (n : Nat) : natural? (decimal n) = some n := by
  have hDigits (c : Char) (hMem : c ∈ Nat.toDigits 10 n) : c.isDigit = true :=
    Nat.isDigit_of_mem_toDigits (by decide) (by decide) hMem
  rw [natural?, decimal, String.toList_ofList]
  split
  · rename_i digits hSigned
    have hSign := hDigits '+' (hSigned ▸ List.mem_cons_self)
    cases hSign
  · cases hText : Nat.toDigits 10 n with
    | nil => exact absurd hText Nat.toDigits_ne_nil
    | cons c rest =>
        rw [naturalOfDigits?, ← hText, digitsValue?_eq hDigits, Nat.ofDigitChars_ten_toDigits]
        exact nofun

theorem counter?_decimal (n : UInt32) : counter? (decimal n.toNat) = some n := by
  rw [counter?, natural?_decimal]
  simp [n.toNat_lt]

end Text

namespace RecoverabilityAction

/-- The message is to be delivered again, now or later. -/
def isRetry : RecoverabilityAction → Bool
  | immediateRetry | delayedRetry _ _ => true
  | moveToErrorQueue _ | fail => false

/-- The number of a delayed retry, and its delay. -/
def delayed? : RecoverabilityAction → Option (UInt32 × Duration)
  | delayedRetry attempt delay => some (attempt, delay)
  | immediateRetry | moveToErrorQueue _ | fail => none

end RecoverabilityAction

namespace RecoverabilitySettings

/-- What becomes of a message that has all retries behind it. -/
def lastAction (settings : RecoverabilitySettings) : RecoverabilityAction :=
  if settings.sendFailedMessagesToErrorQueue then .moveToErrorQueue settings.errorQueue else .fail

theorem isRetry_lastAction (settings : RecoverabilitySettings) :
    settings.lastAction.isRetry = false := by
  rw [lastAction]
  split <;> rfl

/-- The immediate retries from a delivery on. -/
def round (settings : RecoverabilitySettings) (count : Nat) : List RecoverabilityAction :=
  List.replicate (settings.immediateRetries.toNat + 1 - count) .immediateRetry

/-- The delayed retries after as many, each with its round. -/
def laterRounds (settings : RecoverabilitySettings) (retries : Nat) : List RecoverabilityAction :=
  (List.range' (retries + 1) (settings.delayedRetries.toNat - retries)).flatMap fun number =>
    .delayedRetry (.ofNat number) (settings.delayedRetryBase.times number) :: settings.round 1

/-- All that is done with a message from a delivery on which has as many delayed
retries behind it. -/
def plan (settings : RecoverabilitySettings) (count retries : Nat) : List RecoverabilityAction :=
  settings.round count ++ settings.laterRounds retries ++ [settings.lastAction]

/-- The number of deliveries. -/
def deliveries (settings : RecoverabilitySettings) (count retries : Nat) : Nat :=
  (if count ≤ settings.immediateRetries.toNat then settings.immediateRetries.toNat + 2 - count
    else 1) +
    (settings.delayedRetries.toNat - retries) * (settings.immediateRetries.toNat + 1)

variable (settings : RecoverabilitySettings) {count retries : Nat}

theorem length_plan (count retries : Nat) :
    (settings.plan count retries).length = settings.deliveries count retries := by
  have hRounds (numbers : List Nat) :
      (numbers.flatMap fun number => .delayedRetry (.ofNat number)
        (settings.delayedRetryBase.times number) :: settings.round 1).length =
          numbers.length * (settings.immediateRetries.toNat + 1) := by
    induction numbers with
    | nil => simp
    | cons number rest ih =>
        rw [List.flatMap_cons, List.length_append, ih]
        simp [round, Nat.succ_mul, Nat.add_comm]
  rw [plan, laterRounds, List.length_append, List.length_append, hRounds, List.length_range']
  simp only [round, List.length_replicate, List.length_singleton, deliveries]
  split <;> omega

theorem plan_of_le (hCount : count ≤ settings.immediateRetries.toNat) :
    settings.plan count retries = .immediateRetry :: settings.plan (count + 1) retries := by
  have hRound : settings.round count = .immediateRetry :: settings.round (count + 1) := by
    rw [round, round, ← List.replicate_succ]
    congr 1
    omega
  rw [plan, hRound]
  rfl

theorem round_of_lt (hCount : settings.immediateRetries.toNat < count) :
    settings.round count = [] := by
  rw [round, Nat.sub_eq_zero_of_le hCount]
  rfl

theorem plan_of_lt (hCount : settings.immediateRetries.toNat < count)
    (hRetries : retries < settings.delayedRetries.toNat) :
    settings.plan count retries =
      .delayedRetry (.ofNat (retries + 1)) (settings.delayedRetryBase.times (retries + 1)) ::
        settings.plan 1 (retries + 1) := by
  have hMore : settings.delayedRetries.toNat - retries =
      settings.delayedRetries.toNat - (retries + 1) + 1 := by omega
  rw [plan, settings.round_of_lt hCount, laterRounds, hMore, List.range'_succ, List.flatMap_cons]
  simp [plan, laterRounds]

theorem plan_of_exhausted (hCount : settings.immediateRetries.toNat < count)
    (hRetries : settings.delayedRetries.toNat ≤ retries) :
    settings.plan count retries = [settings.lastAction] := by
  rw [plan, settings.round_of_lt hCount, laterRounds, Nat.sub_eq_zero_of_le hRetries]
  rfl

/-- What is left of the plan after an action. -/
def rest (count retries : Nat) : RecoverabilityAction → List RecoverabilityAction
  | .immediateRetry => settings.plan (count + 1) retries
  | .delayedRetry _ _ => settings.plan 1 (retries + 1)
  | .moveToErrorQueue _ | .fail => []

/-- There are three kinds of actions, each for deliveries of its own. -/
theorem action_cases (count : UInt32) (headers : Headers) :
    (count.toNat ≤ settings.immediateRetries.toNat ∧
        settings.action count headers = .immediateRetry) ∨
      (settings.immediateRetries.toNat < count.toNat ∧
        (retriesBehind headers).toNat < settings.delayedRetries.toNat ∧
        ∃ number, number.toNat = (retriesBehind headers).toNat + 1 ∧
          settings.action count headers =
            .delayedRetry number (settings.delayedRetryBase.times number.toNat)) ∨
      (settings.immediateRetries.toNat < count.toNat ∧
        settings.delayedRetries.toNat ≤ (retriesBehind headers).toNat ∧
        settings.action count headers = settings.lastAction) := by
  by_cases hCount : count ≤ settings.immediateRetries
  · exact .inl ⟨UInt32.le_iff_toNat_le.mp hCount, by rw [action, if_pos hCount]⟩
  · have hLater := UInt32.lt_iff_toNat_lt.mp (UInt32.not_le.mp hCount)
    by_cases hRetries : retriesBehind headers < settings.delayedRetries
    · have hBehind := UInt32.lt_iff_toNat_lt.mp hRetries
      have hNumber : (retriesBehind headers + 1).toNat = (retriesBehind headers).toNat + 1 := by
        have hBound := settings.delayedRetries.toNat_lt
        rw [UInt32.toNat_add]
        exact Nat.mod_eq_of_lt (by simp only [UInt32.reduceToNat]; omega)
      refine .inr (.inl ⟨hLater, hBehind, _, hNumber, ?_⟩)
      rw [action, if_neg hCount, if_pos hRetries]
    · refine .inr (.inr ⟨hLater, UInt32.le_iff_toNat_le.mp (UInt32.not_lt.mp hRetries), ?_⟩)
      rw [action, if_neg hCount, if_neg hRetries, lastAction]

/-- The settings act as planned. -/
theorem plan_eq (count : UInt32) (headers : Headers) :
    settings.plan count.toNat (retriesBehind headers).toNat =
      settings.action count headers ::
        settings.rest count.toNat (retriesBehind headers).toNat
          (settings.action count headers) := by
  rcases settings.action_cases count headers with
    ⟨hCount, hAction⟩ | ⟨hCount, hRetries, number, hNumber, hAction⟩ | ⟨hCount, hRetries, hAction⟩
  · rw [hAction]
    exact settings.plan_of_le hCount
  · rw [hAction, settings.plan_of_lt hCount hRetries, ← hNumber, UInt32.ofNat_toNat, rest, hNumber]
  · rw [hAction, settings.plan_of_exhausted hCount hRetries, lastAction]
    split <;> rfl

section Shape

variable {action : RecoverabilityAction}

theorem isRetry_of_mem_round (hMem : action ∈ settings.round count) : action.isRetry = true := by
  rw [(List.mem_replicate.mp hMem).2]
  rfl

theorem isRetry_of_mem_laterRounds (hMem : action ∈ settings.laterRounds retries) :
    action.isRetry = true := by
  obtain ⟨number, -, hMem⟩ := List.mem_flatMap.mp hMem
  rcases List.mem_cons.mp hMem with rfl | hMem
  · rfl
  · exact settings.isRetry_of_mem_round hMem

/-- All that is planned but the last is a retry. -/
theorem isRetry_plan {k : Nat} (hAction : (settings.plan count retries)[k]? = some action)
    (hBefore : k + 1 < settings.deliveries count retries) : action.isRetry = true := by
  rw [← settings.length_plan, plan, List.length_append, List.length_singleton] at hBefore
  rw [plan, List.getElem?_append_left (by omega)] at hAction
  rcases List.mem_append.mp (List.mem_of_getElem? hAction) with hMem | hMem
  · exact settings.isRetry_of_mem_round hMem
  · exact settings.isRetry_of_mem_laterRounds hMem

/-- The delayed retries that are planned follow each other in their numbers. -/
theorem delayed_plan (count retries : Nat) :
    (settings.plan count retries).filterMap RecoverabilityAction.delayed? =
      (List.range' (retries + 1) (settings.delayedRetries.toNat - retries)).map fun number =>
        (.ofNat number, settings.delayedRetryBase.times number) := by
  have hRound (count : Nat) :
      (settings.round count).filterMap RecoverabilityAction.delayed? = [] := by
    rw [round, List.filterMap_replicate_of_none rfl]
  have hLast : [settings.lastAction].filterMap RecoverabilityAction.delayed? = [] := by
    rw [lastAction]
    split <;> rfl
  rw [plan, List.filterMap_append, List.filterMap_append, hRound, hLast, laterRounds,
    List.filterMap_flatMap]
  simp only [List.filterMap_cons, RecoverabilityAction.delayed?, hRound, List.nil_append,
    List.append_nil]
  exact (List.map_eq_flatMap ..).symm

end Shape

end RecoverabilitySettings

end BusEndpoint

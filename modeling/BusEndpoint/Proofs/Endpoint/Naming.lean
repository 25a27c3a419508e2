import BusEndpoint.Configuration
import Mathlib.Data.List.Basic

/-! How a configuration is found. The name of an endpoint may come from four places; the
first of them that has more than white space to offer decides, and the places behind it have
no say. The rule is stated without a search: by what each place offers, and by what the
places before it do not. -/

namespace BusEndpoint

namespace Text

/-- There is nothing but white space in the text. -/
def IsWhite (text : String) : Prop := ∀ c ∈ text.toList, isWhiteSpace c = true

theorem isBlank_iff {text : String} : isBlank text = true ↔ IsWhite text := List.all_eq_true

theorem nonBlank_eq_some_iff {text kept : String} :
    nonBlank text = some kept ↔ ¬ IsWhite text ∧ kept = text := by
  rw [nonBlank_eq_some, ← isBlank_iff, Bool.not_eq_true]

theorem nonBlank_eq_none_iff {text : String} : nonBlank text = none ↔ IsWhite text := by
  rw [nonBlank, ← isBlank_iff]
  split <;> simp [*]

end Text

open Text

/-- Where the name of an endpoint may come from. -/
inductive NamePlace where
  | explicit
  | declared
  | setting
  | binding
deriving DecidableEq

namespace NamePlace

/-- The number of places that go before this one. -/
def rank : NamePlace → Nat
  | explicit => 0
  | declared => 1
  | setting => 2
  | binding => 3

def all : List NamePlace := [explicit, declared, setting, binding]

theorem mem_all (place : NamePlace) : place ∈ all := by cases place <;> decide

theorem pairwise_all : all.Pairwise fun first second => first.rank < second.rank := by decide

/-- In the list of all places, those before a place are the ones of lower rank. -/
theorem mem_before_iff {before behind : List NamePlace} {place other : NamePlace}
    (hAll : all = before ++ place :: behind) : other ∈ before ↔ other.rank < place.rank := by
  have hSorted := pairwise_all
  rw [hAll, List.pairwise_append, List.pairwise_cons] at hSorted
  obtain ⟨-, ⟨hBehind, -⟩, hBefore⟩ := hSorted
  constructor
  · intro hOther
    exact hBefore other hOther place List.mem_cons_self
  · intro hLower
    have hMem := mem_all other
    rw [hAll, List.mem_append, List.mem_cons] at hMem
    rcases hMem with hMem | rfl | hMem
    · exact hMem
    · exact absurd hLower (Nat.lt_irrefl _)
    · exact absurd hLower (Nat.lt_asymm (hBehind other hMem))

end NamePlace

namespace ConfigurationDraft

variable {draft other : ConfigurationDraft} {source source' : SettingsSource}
  {place : NamePlace} {name : String}

/-- What a place offers for a name, whether or not there is anything in it. -/
inductive Offers (draft : ConfigurationDraft) (source : SettingsSource) : NamePlace → String → Prop
  where
  | explicit {name : String} (given : draft.explicitName = some name) :
      Offers draft source .explicit name
  | declared {name : String} (given : draft.declaredName = some name) :
      Offers draft source .declared name
  | setting {name : String} (found : source "ENDPOINT_NAME" = some name) :
      Offers draft source .setting name
  | reference {key name : String} (given : draft.bindingExpression = some ("%" ++ key ++ "%"))
      (found : source key = some name) : Offers draft source .binding name
  | expression {name : String} (given : draft.bindingExpression = some name)
      (plain : ∀ key, name ≠ "%" ++ key ++ "%") : Offers draft source .binding name

/-- The name that the first place with something to offer has. -/
structure Chooses (draft : ConfigurationDraft) (source : SettingsSource) (place : NamePlace)
    (name : String) : Prop where
  offered : draft.Offers source place name
  written : ¬ IsWhite name
  first : ∀ earlier, earlier.rank < place.rank →
    ∀ passed, draft.Offers source earlier passed → IsWhite passed

/-- The candidate of a place. -/
def candidate (draft : ConfigurationDraft) (source : SettingsSource) : NamePlace → Option String
  | .explicit => draft.explicitName
  | .declared => draft.declaredName
  | .setting => source endpointNameSetting
  | .binding => draft.bindingExpression.bind (resolveBinding source)

/-- Two percent signs are told apart: a single one refers to nothing. -/
theorem referredSetting?_eq_some_iff {expression key : String} :
    referredSetting? expression = some key ↔ expression = "%" ++ key ++ "%" := by
  have hForm : expression = "%" ++ key ++ "%" ↔
      expression.toList = '%' :: (key.toList ++ ['%']) := by
    rw [← String.toList_inj, String.toList_append, String.toList_append]
    rfl
  rw [hForm, referredSetting?]
  cases expression.toList with
  | nil => simp
  | cons first rest =>
      by_cases hFirst : first = '%'
      · subst hFirst
        constructor
        · intro hKey
          split at hKey
          · rename_i hSame
            obtain rfl := (List.cons.inj hSame).2
            split at hKey
            · rename_i hLast
              obtain rfl := Option.some.inj hKey
              rw [String.toList_ofList, List.dropLast_append_getLast? '%' hLast]
            · cases hKey
          · cases hKey
        · intro hSame
          obtain rfl := (List.cons.inj hSame).2
          simp
      · constructor
        · intro hKey
          split at hKey
          · rename_i hSame
            exact absurd (List.cons.inj hSame).1 hFirst
          · cases hKey
        · intro hSame
          exact absurd (List.cons.inj hSame).1 hFirst

theorem offers_binding_iff : draft.Offers source .binding name ↔
    draft.bindingExpression.bind (resolveBinding source) = some name := by
  rw [Option.bind_eq_some_iff]
  constructor
  · intro offered
    cases offered with
    | reference given found =>
        refine ⟨_, given, ?_⟩
        rw [resolveBinding, referredSetting?_eq_some_iff.mpr rfl]
        exact found
    | expression given plain =>
        refine ⟨_, given, ?_⟩
        cases hRefers : referredSetting? name with
        | some key => exact absurd (referredSetting?_eq_some_iff.mp hRefers) (plain key)
        | none => rw [resolveBinding, hRefers]
  · rintro ⟨expression, given, hResolved⟩
    rw [resolveBinding] at hResolved
    cases hRefers : referredSetting? expression with
    | some key =>
        rw [hRefers] at hResolved
        obtain rfl := referredSetting?_eq_some_iff.mp hRefers
        exact .reference given hResolved
    | none =>
        rw [hRefers] at hResolved
        obtain rfl := Option.some.inj hResolved
        refine .expression given fun key hForm => ?_
        rw [referredSetting?_eq_some_iff.mpr hForm] at hRefers
        cases hRefers

theorem offers_iff : draft.Offers source place name ↔ draft.candidate source place = some name := by
  cases place with
  | explicit => exact ⟨fun | .explicit given => given, .explicit⟩
  | declared => exact ⟨fun | .declared given => given, .declared⟩
  | setting => exact ⟨fun | .setting found => found, .setting⟩
  | binding => exact offers_binding_iff

theorem candidate_bind_eq_some_iff :
    (draft.candidate source place).bind nonBlank = some name ↔
      draft.Offers source place name ∧ ¬ IsWhite name := by
  rw [offers_iff, Option.bind_eq_some_iff]
  constructor
  · rintro ⟨candidate, hCandidate, hKept⟩
    obtain ⟨hWritten, rfl⟩ := nonBlank_eq_some_iff.mp hKept
    exact ⟨hCandidate, hWritten⟩
  · rintro ⟨hCandidate, hWritten⟩
    exact ⟨name, hCandidate, nonBlank_eq_some_iff.mpr ⟨hWritten, rfl⟩⟩

theorem candidate_bind_eq_none_iff :
    (draft.candidate source place).bind nonBlank = none ↔
      ∀ passed, draft.Offers source place passed → IsWhite passed := by
  simp only [Option.bind_eq_none_iff, offers_iff, nonBlank_eq_none_iff]

theorem resolveName_eq (draft : ConfigurationDraft) (source : SettingsSource) :
    draft.resolveName source =
      NamePlace.all.findSome? fun place => (draft.candidate source place).bind nonBlank := rfl

theorem resolveName_eq_some_iff :
    draft.resolveName source = some name ↔ ∃ place, draft.Chooses source place name := by
  rw [resolveName_eq, List.findSome?_eq_some_iff]
  constructor
  · rintro ⟨before, place, behind, hAll, hFound, hBefore⟩
    obtain ⟨offered, written⟩ := candidate_bind_eq_some_iff.mp hFound
    refine ⟨place, offered, written, fun earlier hEarlier => ?_⟩
    exact candidate_bind_eq_none_iff.mp
      (hBefore earlier ((NamePlace.mem_before_iff hAll).mpr hEarlier))
  · rintro ⟨place, chooses⟩
    obtain ⟨before, behind, hAll⟩ := List.append_of_mem place.mem_all
    refine ⟨before, place, behind, hAll,
      candidate_bind_eq_some_iff.mpr ⟨chooses.offered, chooses.written⟩, fun earlier hMem => ?_⟩
    exact candidate_bind_eq_none_iff.mpr
      (chooses.first earlier ((NamePlace.mem_before_iff hAll).mp hMem))

theorem resolveName_eq_none_iff :
    draft.resolveName source = none ↔
      ∀ place passed, draft.Offers source place passed → IsWhite passed := by
  rw [resolveName_eq, List.findSome?_eq_none_iff]
  simp only [NamePlace.mem_all, candidate_bind_eq_none_iff, true_imp_iff]

/-- Whether a place chooses depends on what it and the places before it offer. -/
theorem Chooses.congr (chooses : draft.Chooses source place name)
    (hSame : ∀ earlier, earlier.rank ≤ place.rank → ∀ name,
      other.Offers source' earlier name ↔ draft.Offers source earlier name) :
    other.Chooses source' place name where
  offered := (hSame place (Nat.le_refl _) name).mpr chooses.offered
  written := chooses.written
  first earlier hEarlier passed hPassed := by
    have hOffered := (hSame earlier (Nat.le_of_lt hEarlier) passed).mp hPassed
    exact chooses.first earlier hEarlier passed hOffered

/-- The configuration that a draft asks for, with the settings there are. -/
structure Describes (draft : ConfigurationDraft) (source : SettingsSource)
    (configuration : Configuration) : Prop where
  endpointName : ∃ place, draft.Chooses source place configuration.endpointName
  connectionGiven : ∀ name, draft.connectionName = some name → ¬ IsWhite name →
    configuration.connectionName = name
  connectionDefault : (∀ name, draft.connectionName = some name → IsWhite name) →
    configuration.connectionName = "BUS_CONNECTION_STRING"
  connectionString : configuration.connectionString = source configuration.connectionName
  transactionMode : configuration.transactionMode = draft.transactionMode
  recoverability : configuration.recoverability = draft.recoverability
  sendOnly : configuration.sendOnly = draft.sendOnly

theorem not_isWhite_defaultConnectionName : ¬ IsWhite defaultConnectionName := by
  rw [← isBlank_iff]
  decide

theorem resolveConnectionName_cases (draft : ConfigurationDraft) :
    (∃ name, draft.connectionName = some name ∧ ¬ IsWhite name ∧
      draft.resolveConnectionName = name) ∨
    ((∀ name, draft.connectionName = some name → IsWhite name) ∧
      draft.resolveConnectionName = defaultConnectionName) := by
  rw [resolveConnectionName]
  cases hGiven : draft.connectionName.bind nonBlank with
  | some name =>
      obtain ⟨given, hName, hKept⟩ := Option.bind_eq_some_iff.mp hGiven
      obtain ⟨hWritten, rfl⟩ := nonBlank_eq_some_iff.mp hKept
      exact .inl ⟨name, hName, hWritten, rfl⟩
  | none =>
      refine .inr ⟨fun name hName => ?_, rfl⟩
      rw [hName] at hGiven
      exact nonBlank_eq_none_iff.mp hGiven

theorem not_isWhite_resolveConnectionName (draft : ConfigurationDraft) :
    ¬ IsWhite draft.resolveConnectionName := by
  rcases draft.resolveConnectionName_cases with ⟨name, -, hWritten, hName⟩ | ⟨-, hName⟩
  · exact hName ▸ hWritten
  · exact hName ▸ not_isWhite_defaultConnectionName

/-- The configuration under a name. -/
def configured (draft : ConfigurationDraft) (source : SettingsSource) (endpointName : String) :
    Configuration where
  endpointName := endpointName
  connectionName := draft.resolveConnectionName
  connectionString := source draft.resolveConnectionName
  transactionMode := draft.transactionMode
  recoverability := draft.recoverability
  sendOnly := draft.sendOnly

theorem describes_configured (chooses : draft.Chooses source place name) :
    draft.Describes source (draft.configured source name) where
  endpointName := ⟨place, chooses⟩
  connectionGiven given hGiven hWritten := by
    rcases draft.resolveConnectionName_cases with ⟨name, hName, -, hResolved⟩ | ⟨hNone, -⟩
    · rw [hGiven] at hName
      exact hResolved.trans (Option.some.inj hName).symm
    · exact absurd (hNone given hGiven) hWritten
  connectionDefault hNone := by
    rcases draft.resolveConnectionName_cases with ⟨name, hName, hWritten, -⟩ | ⟨-, hResolved⟩
    · exact absurd (hNone name hName) hWritten
    · exact hResolved
  connectionString := rfl
  transactionMode := rfl
  recoverability := rfl
  sendOnly := rfl

theorem Describes.eq_configured {configuration : Configuration}
    (describes : draft.Describes source configuration) :
    configuration = draft.configured source configuration.endpointName := by
  have hConnection : configuration.connectionName = draft.resolveConnectionName := by
    rcases draft.resolveConnectionName_cases with
      ⟨name, hName, hWritten, hResolved⟩ | ⟨hNone, hResolved⟩
    · rw [hResolved, describes.connectionGiven name hName hWritten]
    · rw [hResolved, describes.connectionDefault hNone]
      rfl
  obtain ⟨-, -, -, hString, hMode, hRecoverability, hSendOnly⟩ := describes
  rw [hConnection] at hString
  cases configuration
  simp only [configured, Configuration.mk.injEq, true_and]
  exact ⟨hConnection, hString, hMode, hRecoverability, hSendOnly⟩

theorem resolve_of_receiveOnly (hMode : draft.transactionMode = .receiveOnly) :
    draft.resolve source =
      match draft.resolveName source with
      | none =>
        .error (.configuration ("endpoint name is required; set it explicitly, declare it, " ++
          "or provide the `ENDPOINT_NAME` setting"))
      | some endpointName => .ok (draft.configured source endpointName) :=
  if_neg (not_not_intro hMode)

theorem resolve_of_ne (hMode : draft.transactionMode ≠ .receiveOnly) :
    draft.resolve source = .error (.configuration ("transaction mode `" ++
      draft.transactionMode.name ++
      "` is not supported by function-hosted endpoints; use `receive_only`")) :=
  if_pos hMode

theorem resolve_eq_ok_iff {configuration : Configuration} :
    draft.resolve source = .ok configuration ↔
      draft.transactionMode = .receiveOnly ∧ draft.Describes source configuration := by
  by_cases hMode : draft.transactionMode = .receiveOnly
  · rw [resolve_of_receiveOnly hMode, and_iff_right hMode]
    cases hName : draft.resolveName source with
    | none =>
        refine iff_of_false nofun fun describes => ?_
        obtain ⟨place, chooses⟩ := describes.endpointName
        rw [resolveName_eq_some_iff.mpr ⟨place, chooses⟩] at hName
        cases hName
    | some name =>
        obtain ⟨place, chooses⟩ := resolveName_eq_some_iff.mp hName
        constructor
        · rintro ⟨⟩
          exact describes_configured chooses
        · intro describes
          have hSame := resolveName_eq_some_iff.mpr describes.endpointName
          rw [describes.eq_configured, Option.some.inj (hName.symm.trans hSame)]
  · rw [resolve_of_ne hMode]
    exact iff_of_false nofun fun described => hMode described.1

theorem exists_resolve_eq_ok_iff : (∃ configuration, draft.resolve source = .ok configuration) ↔
    draft.transactionMode = .receiveOnly ∧
      ∃ place name, draft.Offers source place name ∧ ¬ IsWhite name := by
  constructor
  · rintro ⟨configuration, hResolved⟩
    obtain ⟨hMode, describes⟩ := resolve_eq_ok_iff.mp hResolved
    obtain ⟨place, chooses⟩ := describes.endpointName
    exact ⟨hMode, place, _, chooses.offered, chooses.written⟩
  · rintro ⟨hMode, place, name, offered, hWritten⟩
    cases hName : draft.resolveName source with
    | none => exact absurd (resolveName_eq_none_iff.mp hName place name offered) hWritten
    | some name =>
        obtain ⟨place, chooses⟩ := resolveName_eq_some_iff.mp hName
        exact ⟨_, resolve_eq_ok_iff.mpr ⟨hMode, describes_configured chooses⟩⟩

/-- What comes of a draft. -/
structure Resolves (draft : ConfigurationDraft) (source : SettingsSource)
    (result : Except BusError Configuration) : Prop where
  found : ∀ configuration, result = .ok configuration ↔
    draft.transactionMode = .receiveOnly ∧ draft.Describes source configuration
  succeeds : (∃ configuration, result = .ok configuration) ↔
    draft.transactionMode = .receiveOnly ∧
      ∃ place name, draft.Offers source place name ∧ ¬ IsWhite name
  named : ∀ configuration, result = .ok configuration →
    ¬ IsWhite configuration.endpointName ∧ ¬ IsWhite configuration.connectionName
  /-- The places behind the one that decides may offer anything or nothing. -/
  laterUnread : ∀ configuration place, result = .ok configuration →
    draft.Chooses source place configuration.endpointName →
    ∀ (other : ConfigurationDraft) (source' : SettingsSource),
      other.transactionMode = .receiveOnly →
      (∀ earlier, earlier.rank ≤ place.rank → ∀ name,
        other.Offers source' earlier name ↔ draft.Offers source earlier name) →
      ∃ configuration', other.resolve source' = .ok configuration' ∧
        configuration'.endpointName = configuration.endpointName
  /-- Also where there is no name. -/
  wrongMode : draft.transactionMode ≠ .receiveOnly →
    result = .error (.configuration ("transaction mode `" ++ draft.transactionMode.name ++
      "` is not supported by function-hosted endpoints; use `receive_only`"))
  nameless : draft.transactionMode = .receiveOnly →
    (∀ place passed, draft.Offers source place passed → IsWhite passed) →
    result = .error (.configuration ("endpoint name is required; set it explicitly, declare it, " ++
      "or provide the `ENDPOINT_NAME` setting"))

theorem resolves_resolve (draft : ConfigurationDraft) (source : SettingsSource) :
    draft.Resolves source (draft.resolve source) where
  found _ := resolve_eq_ok_iff
  succeeds := exists_resolve_eq_ok_iff
  named configuration hResolved := by
    obtain ⟨-, describes⟩ := resolve_eq_ok_iff.mp hResolved
    obtain ⟨place, chooses⟩ := describes.endpointName
    refine ⟨chooses.written, ?_⟩
    rw [describes.eq_configured]
    exact draft.not_isWhite_resolveConnectionName
  laterUnread configuration place _ chooses other source' hMode hSame :=
    ⟨_, resolve_eq_ok_iff.mpr ⟨hMode, describes_configured (chooses.congr hSame)⟩, rfl⟩
  wrongMode := resolve_of_ne
  nameless hMode hWhite := by
    rw [resolve_of_receiveOnly hMode, resolveName_eq_none_iff.mpr hWhite]

/-- A single percent sign is a name, and two of them refer to the setting with the empty key. -/
example :
    resolveName { bindingExpression := some "%" } (fun _ => none) = some "%" ∧
    resolveName { bindingExpression := some "%%" }
      (fun key => if key = "" then some " a " else none) = some " a " := by decide

end ConfigurationDraft

end BusEndpoint

import BusEndpoint.Proofs.Messages.Headers

/-! The translation of properties and native fields into headers, as a law for every
name. A translated message can be put on the wire again as it is: its headers are
properties that are translated into themselves. -/

namespace BusEndpoint.Header

/-- The text of a property. -/
inductive PropertyText : Json → String → Prop where
  | text (text : String) : PropertyText (.string text) text
  | null : PropertyText .null ""
  | json {value : Json} (hText : ∀ text, value ≠ .string text) (hNull : value ≠ .null) :
      PropertyText value value.compact

/-- A native field is absent, or there is nothing but white space in it. -/
def IsUnset (field : Option String) : Prop :=
  ∀ text, field = some text → ∀ c ∈ text.toList, Text.isWhiteSpace c = true

/-- The headers of a message with these properties and native fields. -/
inductive Carries (properties : Dictionary Json) (replyTo correlation : Option String) :
    String → String → Prop where
  | replyTo {address : String} (hField : replyTo = some address) (set : ¬ IsUnset replyTo) :
      Carries properties replyTo correlation replyToAddress address
  | correlation {id : String} (hField : correlation = some id) (set : ¬ IsUnset correlation) :
      Carries properties replyTo correlation correlationId id
  | property {name text : String} {value : Json} (hMarker : name ≠ transportEncoding)
      (hReply : name = replyToAddress → IsUnset replyTo)
      (hCorrelation : name = correlationId → IsUnset correlation)
      (hValue : properties.get? name = some value) (hText : PropertyText value text) :
      Carries properties replyTo correlation name text

variable {properties : Dictionary Json} {replyTo correlation field : Option String}
  {name text : String} {headers : Headers}

theorem propertyText_iff {value : Json} : PropertyText value text ↔ ofProperty value = text := by
  constructor
  · intro h
    cases h with
    | text | null => rfl
    | json hText hNull =>
        cases value with
        | string text => exact absurd rfl (hText text)
        | null => exact absurd rfl hNull
        | _ => rfl
  · intro h
    subst h
    cases value with
    | string text => exact .text text
    | null => exact .null
    | _ => exact .json (fun _ => nofun) nofun

theorem bind_nonBlank_eq_none_iff : field.bind Text.nonBlank = none ↔ IsUnset field := by
  cases field with
  | none => simp [IsUnset]
  | some text => simp [IsUnset, Text.nonBlank, Text.isBlank]

theorem bind_nonBlank_eq_some_iff :
    field.bind Text.nonBlank = some text ↔ field = some text ∧ ¬ IsUnset field := by
  rw [← bind_nonBlank_eq_none_iff]
  cases field with
  | none => simp
  | some other =>
      by_cases hBlank : Text.isBlank other
      · simp [Text.nonBlank, hBlank]
      · simp [Text.nonBlank, hBlank]

theorem map_ofProperty_eq_some_iff :
    (properties.get? name).map ofProperty = some text ↔
      ∃ value, properties.get? name = some value ∧ PropertyText value text := by
  simp [propertyText_iff]

/-- A native field has its name for itself; only if it is unset a property is found. -/
theorem native_or_property_eq_some_iff :
    (field.bind Text.nonBlank).or ((properties.get? name).map ofProperty) = some text ↔
      (field = some text ∧ ¬ IsUnset field) ∨
        (IsUnset field ∧ ∃ value, properties.get? name = some value ∧ PropertyText value text) := by
  rw [Option.or_eq_some_iff, bind_nonBlank_eq_some_iff, bind_nonBlank_eq_none_iff,
    map_ofProperty_eq_some_iff]

theorem get?_translate_eq_some_iff :
    (translate properties replyTo correlation).get? name = some text ↔
      Carries properties replyTo correlation name text := by
  rw [get?_translate]
  constructor
  · intro h
    split at h
    · cases h
    · rename_i hMarker
      split at h
      · rename_i hReply
        subst hReply
        rcases native_or_property_eq_some_iff.mp h with ⟨hField, set⟩ | ⟨unset, value, hValue, hText⟩
        · exact .replyTo hField set
        · have hOther (hName : replyToAddress = correlationId) : IsUnset correlation :=
            absurd hName replyToAddress_ne_correlationId
          exact .property hMarker (fun _ => unset) hOther hValue hText
      · rename_i hReply
        split at h
        · rename_i hCorrelation
          subst hCorrelation
          rcases native_or_property_eq_some_iff.mp h with
            ⟨hField, set⟩ | ⟨unset, value, hValue, hText⟩
          · exact .correlation hField set
          · exact .property hMarker (fun hName => absurd hName hReply) (fun _ => unset) hValue hText
        · rename_i hCorrelation
          obtain ⟨value, hValue, hText⟩ := map_ofProperty_eq_some_iff.mp h
          exact .property hMarker (fun hName => absurd hName hReply)
            (fun hName => absurd hName hCorrelation) hValue hText
  · intro h
    cases h with
    | replyTo hField set =>
        rw [if_neg replyToAddress_ne_transportEncoding, if_pos rfl]
        exact native_or_property_eq_some_iff.mpr (.inl ⟨hField, set⟩)
    | correlation hField set =>
        rw [if_neg correlationId_ne_transportEncoding,
          if_neg replyToAddress_ne_correlationId.symm, if_pos rfl]
        exact native_or_property_eq_some_iff.mpr (.inl ⟨hField, set⟩)
    | property hMarker hReply hCorrelation hValue hText =>
        rw [if_neg hMarker]
        split
        · rename_i hName
          exact native_or_property_eq_some_iff.mpr (.inr ⟨hReply hName, _, hValue, hText⟩)
        · split
          · rename_i hName
            exact native_or_property_eq_some_iff.mpr (.inr ⟨hCorrelation hName, _, hValue, hText⟩)
          · exact map_ofProperty_eq_some_iff.mpr ⟨_, hValue, hText⟩

theorem unmarked_translate (properties : Dictionary Json) (replyTo correlation : Option String) :
    (translate properties replyTo correlation).get? transportEncoding = none := by
  rw [get?_translate, if_pos rfl]

/-- A native field that is a header already sets nothing new. -/
theorem setNative_eq_self
    (h : ∀ text, field.bind Text.nonBlank = some text → headers.get? name = some text) :
    setNative name field headers = headers := by
  apply Dictionary.ext_get?
  intro query
  rw [get?_setNative]
  split
  · rename_i hName
    subst hName
    cases hField : field.bind Text.nonBlank with
    | none => rfl
    | some text => exact (h text hField).symm
  · rfl

/-- Headers are translated into themselves, with the native fields they came from or
without them. -/
theorem translate_translate {replyTo' correlation' : Option String}
    (hReply : replyTo' = replyTo ∨ replyTo' = none)
    (hCorrelation : correlation' = correlation ∨ correlation' = none) :
    translate ((translate properties replyTo correlation).map .string) replyTo' correlation' =
      translate properties replyTo correlation := by
  have hReplyKept (text : String) (hField : replyTo'.bind Text.nonBlank = some text) :
      (translate properties replyTo correlation).get? replyToAddress = some text := by
    rcases hReply with rfl | rfl
    · obtain ⟨hText, set⟩ := bind_nonBlank_eq_some_iff.mp hField
      exact get?_translate_eq_some_iff.mpr (.replyTo hText set)
    · cases hField
  have hCorrelationKept (text : String) (hField : correlation'.bind Text.nonBlank = some text) :
      (translate properties replyTo correlation).get? correlationId = some text := by
    rcases hCorrelation with rfl | rfl
    · obtain ⟨hText, set⟩ := bind_nonBlank_eq_some_iff.mp hField
      exact get?_translate_eq_some_iff.mpr (.correlation hText set)
    · cases hField
  rw [translate_texts (unmarked_translate ..), setNative_eq_self hReplyKept,
    setNative_eq_self hCorrelationKept]

/-- The headers into which these properties and native fields are translated. -/
structure IsTranslation (properties : Dictionary Json) (replyTo correlation : Option String)
    (headers : Headers) : Prop where
  carries : ∀ name text, headers.get? name = some text ↔
    Carries properties replyTo correlation name text
  /-- A property with the name of a native field stays if that field is unset. -/
  replyToLeft : IsUnset replyTo → ∀ value text, properties.get? replyToAddress = some value →
    PropertyText value text → headers.get? replyToAddress = some text
  correlationLeft : IsUnset correlation → ∀ value text,
    properties.get? correlationId = some value → PropertyText value text →
    headers.get? correlationId = some text
  again : ∀ replyTo' correlation', (replyTo' = replyTo ∨ replyTo' = none) →
    (correlation' = correlation ∨ correlation' = none) →
    translate (headers.map .string) replyTo' correlation' = headers

theorem isTranslation_translate (properties : Dictionary Json)
    (replyTo correlation : Option String) :
    IsTranslation properties replyTo correlation
      (translate properties replyTo correlation) where
  carries name text := get?_translate_eq_some_iff
  replyToLeft unset value text hValue hText := by
    have hOther (hName : replyToAddress = correlationId) : IsUnset correlation :=
      absurd hName replyToAddress_ne_correlationId
    exact get?_translate_eq_some_iff.mpr
      (.property replyToAddress_ne_transportEncoding (fun _ => unset) hOther hValue hText)
  correlationLeft unset value text hValue hText := by
    have hOther (hName : correlationId = replyToAddress) : IsUnset replyTo :=
      absurd hName.symm replyToAddress_ne_correlationId
    exact get?_translate_eq_some_iff.mpr
      (.property correlationId_ne_transportEncoding hOther (fun _ => unset) hValue hText)
  again replyTo' correlation' := translate_translate

end BusEndpoint.Header

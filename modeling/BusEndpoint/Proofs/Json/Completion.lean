import BusEndpoint.Proofs.Json.Codecs

/-! What is read of members that may be missing. A decoder of a single value reads the
written forms of some values and nothing else. A part of a record is then stated by its
member or is as in the blank record, so that an object may be completed by the members of
the blank record: it is read as before, and if it is refused, then for the same reason. -/

namespace BusEndpoint

namespace Decode

variable {α β ρ : Type} {decode : Decoder α} {encode : β → Json} {meaning : β → α}

theorem map_eq_ok_iff {ε : Type} {f : α → β} {result : Except ε α} {value : β} :
    result.map f = .ok value ↔ ∃ read, result = .ok read ∧ value = f read := by
  cases result with
  | error e => simp [Except.map]
  | ok read => simp [Except.map, eq_comm]

/-- Two results that differ in their values at most. -/
theorem cases_of_map_eq {ε : Type} {first : Except ε α} {second : Except ε β}
    (hSame : first.map (fun _ => ()) = second.map fun _ => ()) :
    (∃ e, first = .error e ∧ second = .error e) ∨
      ∃ value value', first = .ok value ∧ second = .ok value' := by
  cases first with
  | error e =>
      cases second with
      | error e' =>
          cases hSame
          exact .inl ⟨e, rfl, rfl⟩
      | ok value' => cases hSame
  | ok value =>
      cases second with
      | error e' => cases hSame
      | ok value' => exact .inr ⟨value, value', rfl, rfl⟩

/-- What is read are the written forms of values, and each has one meaning. -/
def ReadsAs (decode : Decoder α) (encode : β → Json) (meaning : β → α) : Prop :=
  ∀ json read, decode json = .ok read ↔ ∃ value, json = encode value ∧ read = meaning value

section Values

theorem ReadsAs.map {γ : Type} (reads : ReadsAs decode encode meaning) (f : α → γ) :
    ReadsAs (fun json => (decode json).map f) encode (f ∘ meaning) := by
  intro json read
  rw [map_eq_ok_iff]
  constructor
  · rintro ⟨first, hDecoded, rfl⟩
    obtain ⟨value, hJson, rfl⟩ := (reads json first).mp hDecoded
    exact ⟨value, hJson, rfl⟩
  · rintro ⟨value, hJson, rfl⟩
    exact ⟨meaning value, (reads json _).mpr ⟨value, hJson, rfl⟩, rfl⟩

theorem readsAs_text : ReadsAs text .string id := by
  intro json read
  cases json with
  | string s => simp [text, eq_comm]
  | _ => simp [text]

theorem readsAs_boolean : ReadsAs boolean .boolean id := by
  intro json read
  cases json with
  | boolean b => simp [boolean, eq_comm]
  | _ => simp [boolean]

theorem unsigned_eq_ok_iff {wanted : String} {size n : Nat} {json : Json} :
    unsigned wanted size json = .ok n ↔ json = .natural n ∧ n < size := by
  constructor
  · intro hRead
    rw [unsigned.eq_def] at hRead
    split at hRead
    · split at hRead
      · rename_i hRange
        cases hRead
        obtain ⟨k, rfl⟩ := Int.eq_ofNat_of_zero_le hRange.1
        exact ⟨rfl, by simpa using hRange.2⟩
      · cases hRead
    · cases hRead
  · rintro ⟨rfl, hSize⟩
    exact unsigned_natural hSize

/-- A word is read of the natural numbers below its size. -/
theorem readsAs_word {wanted : String} {size : Nat} {ofNat : Nat → α} {toNat : α → Nat}
    (hOfNat : ∀ n < size, toNat (ofNat n) = n) (hLt : ∀ word, toNat word < size)
    (hToNat : ∀ word, ofNat (toNat word) = word) :
    ReadsAs (fun json => (unsigned wanted size json).map ofNat)
      (fun word => .natural (toNat word)) id := by
  intro json read
  rw [map_eq_ok_iff]
  constructor
  · rintro ⟨n, hNumber, rfl⟩
    obtain ⟨rfl, hSize⟩ := unsigned_eq_ok_iff.mp hNumber
    exact ⟨ofNat n, congrArg Json.natural (hOfNat n hSize).symm, rfl⟩
  · rintro ⟨word, rfl, hRead⟩
    exact ⟨toNat word, unsigned_natural (hLt word), hRead.trans (hToNat word).symm⟩

theorem readsAs_word32 : ReadsAs word32 (fun word => .natural word.toNat) id :=
  readsAs_word (fun _ => UInt32.toNat_ofNat_of_lt') UInt32.toNat_lt_size fun _ => UInt32.ofNat_toNat

theorem readsAs_word64 : ReadsAs word64 (fun word => .natural word.toNat) id :=
  readsAs_word (fun _ => UInt64.toNat_ofNat_of_lt') UInt64.toNat_lt_size fun _ => UInt64.ofNat_toNat

theorem RecordPart.given_write_plain {decode : Decoder α} {encode : α → Json} {name : String}
    {get : ρ → α} {set : α → ρ → ρ} {blank : ρ} {value read : α}
    (hRead : decode (encode value) = .ok read) :
    (plain name decode encode get set).given blank
      ((plain name decode encode get set).write value) = .ok read :=
  hRead

/-- A part is stated by a member of the right form, or it is as it was. -/
theorem RecordPart.given_plain_eq_ok_iff (reads : ReadsAs decode encode meaning) {name : String}
    {write : α → Json} {get : ρ → α} {set : α → ρ → ρ} {current : ρ} {member : Option Json}
    {value : α} :
    (plain name decode write get set).given current member = .ok value ↔
      ∃ stated : Option β, member = stated.map encode ∧
        value = (stated.map meaning).getD (get current) := by
  cases member with
  | none =>
      constructor
      · rintro ⟨⟩
        exact ⟨none, rfl, rfl⟩
      · rintro ⟨stated, hMember, rfl⟩
        rw [Option.map_eq_none_iff.mp hMember.symm]
        rfl
  | some json =>
      refine (reads json value).trans ?_
      constructor
      · rintro ⟨stated, rfl, rfl⟩
        exact ⟨some stated, rfl, rfl⟩
      · rintro ⟨stated, hMember, rfl⟩
        obtain ⟨given, rfl, hJson⟩ := Option.map_eq_some_iff.mp hMember.symm
        exact ⟨given, hJson.symm, rfl⟩

/-- The same for a part whose members mean what they are written for. -/
theorem RecordPart.given_plain_id_eq_ok_iff {encode : α → Json}
    (reads : ReadsAs decode encode id) {name : String} {write : α → Json} {get : ρ → α}
    {set : α → ρ → ρ} {current : ρ} {member : Option Json} {value : α} :
    (plain name decode write get set).given current member = .ok value ↔
      ∃ stated : Option α, member = stated.map encode ∧ value = stated.getD (get current) := by
  simpa only [Option.map_id, id_eq] using given_plain_eq_ok_iff reads

end Values

section Objects

variable {parts : List (RecordPart ρ)} {entries : List (String × Json)} {typeName : String}
  {blank : ρ} {defaults object : Dictionary Json}

/-- Whether a member is refused, and why, does not depend on the record. -/
theorem map_readMember (parts : List (RecordPart ρ)) (current other : ρ)
    (entry : String × Json) :
    (readMember (parts.map RecordPart.toField) current entry).map (fun _ => ()) =
      (readMember (parts.map RecordPart.toField) other entry).map fun _ => () := by
  induction parts with
  | nil => rfl
  | cons part rest ih =>
      rw [List.map_cons, readMember, readMember, findField]
      by_cases hName : part.toField.name = entry.1
      · rw [if_pos hName]
        dsimp only [RecordPart.toField, field]
        cases part.decode entry.2 <;> rfl
      · rw [if_neg hName]
        exact ih

/-- Members that are not refused have no say in why an object is. -/
theorem map_foldlM_readMember_filter {keep : String × Json → Bool}
    (hDropped : ∀ entry ∈ entries, keep entry = false → ∀ current,
      (readMember (parts.map RecordPart.toField) current entry).map (fun _ => ()) = .ok ())
    (current other : ρ) :
    ((entries.filter keep).foldlM (readMember (parts.map RecordPart.toField)) current).map
        (fun _ => ()) =
      (entries.foldlM (readMember (parts.map RecordPart.toField)) other).map fun _ => () := by
  induction entries generalizing current other with
  | nil => rfl
  | cons entry rest ih =>
      obtain ⟨hEntry, hRest⟩ := List.forall_mem_cons.mp hDropped
      rw [List.foldlM_cons]
      cases hKeep : keep entry with
      | true =>
          rw [List.filter_cons_of_pos hKeep, List.foldlM_cons]
          rcases cases_of_map_eq (map_readMember parts current other entry) with
            ⟨e, hCurrent, hOther⟩ | ⟨next, next', hCurrent, hOther⟩
          · rw [hCurrent, hOther]
            rfl
          · rw [hCurrent, hOther]
            exact ih hRest next next'
      | false =>
          obtain ⟨next, hNext, -⟩ := map_eq_ok_iff.mp (hEntry hKeep other)
          rw [List.filter_cons_of_neg (by simp [hKeep]), hNext]
          exact ih hRest current next

/-- A member that is read adds nothing to what the blank record has. -/
theorem given_extend (hDefaults : ∀ part ∈ parts, ∀ value, defaults.get? part.name = some value →
    part.decode value = .ok (part.get blank)) {part : RecordPart ρ} (hPart : part ∈ parts) :
    part.given blank ((defaults.extend object).get? part.name) =
      part.given blank (object.get? part.name) := by
  rw [Dictionary.get?_extend]
  cases object.get? part.name with
  | some value => rfl
  | none =>
      rw [Option.none_or]
      cases hDefault : defaults.get? part.name with
      | none => rfl
      | some value => exact hDefaults part hPart value hDefault

/-- Members with the values of the blank record are not refused. -/
theorem map_readMember_default (independent : Independent parts)
    (hDefaults : ∀ part ∈ parts, ∀ value, defaults.get? part.name = some value →
      part.decode value = .ok (part.get blank)) {entry : String × Json}
    (hEntry : defaults.get? entry.1 = some entry.2) (current : ρ) :
    (readMember (parts.map RecordPart.toField) current entry).map (fun _ => ()) = .ok () := by
  obtain ⟨name, value⟩ := entry
  by_cases hKnown : ∃ part ∈ parts, part.name = name
  · obtain ⟨part, hPart, rfl⟩ := hKnown
    rw [readMember_of_mem independent.names hPart, hDefaults part hPart value hEntry]
    rfl
  · rw [readMember_of_unknown fun part hPart hName => hKnown ⟨part, hPart, hName⟩]
    rfl

/-- An object that is completed by what the blank record has is read as before, and is
refused for the same reason. -/
theorem record_extend (independent : Independent parts)
    (hDefaults : ∀ part ∈ parts, ∀ value, defaults.get? part.name = some value →
      part.decode value = .ok (part.get blank)) :
    record typeName (parts.map RecordPart.toField) blank (.ofDictionary (defaults.extend object)) =
      record typeName (parts.map RecordPart.toField) blank (.ofDictionary object) := by
  have hRefused : (record typeName (parts.map RecordPart.toField) blank
      (.ofDictionary object)).map (fun _ => ()) = (record typeName (parts.map RecordPart.toField)
      blank (.ofDictionary (defaults.extend object))).map fun _ => () := by
    have hKept : (defaults.extend object).filter (fun name _ => object.contains name) = object := by
      apply Dictionary.ext_get?
      intro name
      rw [Dictionary.get?_filter, Dictionary.get?_extend, Dictionary.contains]
      cases object.get? name <;> simp
    have hEntries := congrArg Dictionary.entries hKept
    rw [Json.ofDictionary, Json.ofDictionary, record_object, record_object, ← hEntries]
    refine map_foldlM_readMember_filter ?_ blank blank
    intro entry hEntry hNone
    have hMember := findEntry_of_mem (defaults.extend object).ordered.nodup hEntry
    have hObject : object.get? entry.1 = none := by
      simpa [Dictionary.contains] using hNone
    have hDefault : defaults.get? entry.1 = some entry.2 := by
      rw [← Option.none_or (o := defaults.get? entry.1), ← hObject, ← Dictionary.get?_extend]
      exact hMember
    exact fun current => map_readMember_default independent hDefaults hDefault current
  rcases cases_of_map_eq hRefused with ⟨e, hObject, hExtended⟩ | ⟨result, other, hObject, hExtended⟩
  · rw [hObject, hExtended]
  · rw [hObject, record_eq_ok_iff independent]
    intro part hPart
    rw [given_extend hDefaults hPart]
    exact (record_eq_ok_iff independent).mp hObject part hPart

end Objects

end Decode

end BusEndpoint

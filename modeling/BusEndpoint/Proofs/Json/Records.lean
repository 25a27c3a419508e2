import BusEndpoint.Json.Decode
import BusEndpoint.Proofs.Dictionary

/-! Records in JSON objects. A record has parts that are read and stored apart, each
under a name of its own. So what is read of an object is told part by part: by the
member with its name, or, where there is none, by the blank record. No other member
counts. -/

namespace BusEndpoint

namespace Decode

variable {ρ : Type}

/-- A part of a record, how it is read and how it is written, if it is. -/
structure RecordPart (ρ : Type) where
  kind : Type
  name : String
  decode : Decoder kind
  write : kind → Option Json
  get : ρ → kind
  set : kind → ρ → ρ

namespace RecordPart

/-- A part need not be given. -/
def toField (part : RecordPart ρ) : RecordField ρ := field part.name part.decode part.set

/-- What a part is if an object with this member, or without one, is read over a record. -/
def given (part : RecordPart ρ) (current : ρ) : Option Json → Except DecodeError part.kind
  | none => .ok (part.get current)
  | some value => part.decode value

theorem given_congr (part : RecordPart ρ) {current next : ρ}
    (hSame : part.get next = part.get current) (member : Option Json) :
    part.given next member = part.given current member := by
  cases member with
  | none => exact congrArg Except.ok hSame
  | some value => rfl

end RecordPart

/-- The parts make up the record, and storing one leaves the others alone. -/
structure Independent (parts : List (RecordPart ρ)) : Prop where
  names : (parts.map RecordPart.name).Nodup
  get_set : ∀ part ∈ parts, ∀ value current, part.get (part.set value current) = value
  get_set_of_ne : ∀ part ∈ parts, ∀ other ∈ parts, part.name ≠ other.name →
    ∀ value current, part.get (other.set value current) = part.get current
  ext : ∀ first second, (∀ part ∈ parts, part.get first = part.get second) → first = second

variable {parts : List (RecordPart ρ)} {part : RecordPart ρ} {blank current next result : ρ}
  {entries : List (String × Json)} {entry : String × Json}

section Members

theorem findField_of_mem (distinct : (parts.map RecordPart.name).Nodup) (hPart : part ∈ parts) :
    findField part.name (parts.map RecordPart.toField) = some part.toField := by
  induction parts with
  | nil => simp at hPart
  | cons first rest ih =>
      rw [List.map_cons, List.nodup_cons] at distinct
      rw [List.map_cons, findField]
      rcases List.mem_cons.mp hPart with rfl | hRest
      · exact if_pos rfl
      · have hName : first.name ≠ part.name := fun hSame =>
          distinct.1 (hSame ▸ List.mem_map_of_mem hRest)
        exact (if_neg hName).trans (ih distinct.2 hRest)

theorem findField_eq_none {name : String} (hUnknown : ∀ part ∈ parts, part.name ≠ name) :
    findField name (parts.map RecordPart.toField) = none := by
  induction parts with
  | nil => rfl
  | cons first rest ih =>
      obtain ⟨hFirst, hRest⟩ := List.forall_mem_cons.mp hUnknown
      rw [List.map_cons, findField]
      exact (if_neg hFirst).trans (ih hRest)

/-- A member is stored in the part of its name. -/
theorem readMember_of_mem (distinct : (parts.map RecordPart.name).Nodup) (hPart : part ∈ parts)
    (current : ρ) (value : Json) :
    readMember (parts.map RecordPart.toField) current (part.name, value) =
      (part.decode value).map fun read => part.set read current := by
  rw [readMember, findField_of_mem distinct hPart]
  rfl

/-- A member without a part is passed over. -/
theorem readMember_of_unknown (hUnknown : ∀ part ∈ parts, part.name ≠ entry.1)
    (current : ρ) : readMember (parts.map RecordPart.toField) current entry = .ok current := by
  rw [readMember, findField_eq_none hUnknown]

/-- Taking up a member gives the part of its name and keeps all others. -/
theorem readMember_spec (independent : Independent parts)
    (hStep : readMember (parts.map RecordPart.toField) current entry = .ok next)
    (hPart : part ∈ parts) :
    (part.name = entry.1 → part.decode entry.2 = .ok (part.get next)) ∧
      (part.name ≠ entry.1 → part.get next = part.get current) := by
  by_cases hKnown : ∃ other ∈ parts, other.name = entry.1
  · obtain ⟨other, hOther, hName⟩ := hKnown
    obtain ⟨name, value⟩ := entry
    subst hName
    rw [readMember_of_mem independent.names hOther] at hStep
    cases hRead : other.decode value with
    | error e =>
        rw [hRead] at hStep
        cases hStep
    | ok read =>
        rw [hRead] at hStep
        cases hStep
        constructor
        · intro hSame
          obtain rfl := List.inj_on_of_nodup_map independent.names hPart hOther hSame
          rw [independent.get_set part hPart]
          exact hRead
        · intro hNe
          exact independent.get_set_of_ne part hPart other hOther hNe _ _
  · have hUnknown : ∀ other ∈ parts, other.name ≠ entry.1 := fun other hOther hName =>
      hKnown ⟨other, hOther, hName⟩
    rw [readMember_of_unknown hUnknown] at hStep
    cases hStep
    exact ⟨fun hName => absurd hName (hUnknown part hPart), fun _ => rfl⟩

/-- All members of an object together give every part, or leave it. -/
theorem foldlM_readMember_spec (independent : Independent parts) (ordered : OrderedByName entries)
    (hRead : entries.foldlM (readMember (parts.map RecordPart.toField)) current = .ok result)
    (hPart : part ∈ parts) :
    part.given current (findEntry part.name entries) = .ok (part.get result) := by
  induction entries generalizing current with
  | nil =>
      cases hRead
      rfl
  | cons entry rest ih =>
      obtain ⟨hBehind, hRest⟩ := List.pairwise_cons.mp ordered
      rw [List.foldlM_cons] at hRead
      cases hStep : readMember (parts.map RecordPart.toField) current entry with
      | error e =>
          rw [hStep] at hRead
          cases hRead
      | ok next =>
          rw [hStep] at hRead
          obtain ⟨hGiven, hLeft⟩ := readMember_spec independent hStep hPart
          have hTail := ih hRest hRead
          by_cases hName : part.name = entry.1
          · -- The names go up, so no later member overwrites what this one gave.
            have hNone : findEntry part.name rest = none :=
              findEntry_eq_none_of_lt fun other hMem => hName ▸ hBehind other hMem
            rw [hNone] at hTail
            rw [findEntry, if_pos hName.symm]
            exact (hGiven hName).trans hTail
          · rw [findEntry, if_neg (Ne.symm hName)]
            rw [← part.given_congr (hLeft hName)]
            exact hTail

/-- Members that can be decoded can be taken up, whatever the record. -/
theorem exists_foldlM_readMember (distinct : (parts.map RecordPart.name).Nodup)
    (hDecoded : ∀ entry ∈ entries, ∀ part ∈ parts, part.name = entry.1 →
      ∃ read, part.decode entry.2 = .ok read) (current : ρ) :
    ∃ result,
      entries.foldlM (readMember (parts.map RecordPart.toField)) current = .ok result := by
  induction entries generalizing current with
  | nil => exact ⟨current, rfl⟩
  | cons entry rest ih =>
      obtain ⟨hEntry, hRest⟩ := List.forall_mem_cons.mp hDecoded
      have hStep : ∃ next,
          readMember (parts.map RecordPart.toField) current entry = .ok next := by
        by_cases hKnown : ∃ part ∈ parts, part.name = entry.1
        · obtain ⟨part, hPart, hName⟩ := hKnown
          obtain ⟨read, hRead⟩ := hEntry part hPart hName
          obtain ⟨name, value⟩ := entry
          subst hName
          refine ⟨part.set read current, ?_⟩
          rw [readMember_of_mem distinct hPart, hRead]
          rfl
        · refine ⟨current, readMember_of_unknown (fun part hPart hName => ?_) current⟩
          exact hKnown ⟨part, hPart, hName⟩
      obtain ⟨next, hNext⟩ := hStep
      rw [List.foldlM_cons, hNext]
      exact ih hRest next

end Members

section Objects

variable {typeName : String} {object other : Dictionary Json}

/-- No part is required of an object. -/
theorem record_object (parts : List (RecordPart ρ)) (blank : ρ)
    (entries : List (String × Json)) :
    record typeName (parts.map RecordPart.toField) blank (.object entries) =
      entries.foldlM (readMember (parts.map RecordPart.toField)) blank := by
  have hMissing : firstMissing? (parts.map RecordPart.toField) entries = none := by
    simp [firstMissing?, RecordPart.toField, field]
  rw [record, hMissing]
  cases entries.foldlM (readMember (parts.map RecordPart.toField)) blank <;> rfl

/-- A record is read of an object part by part. -/
theorem record_eq_ok_iff (independent : Independent parts) :
    record typeName (parts.map RecordPart.toField) blank (.ofDictionary object) = .ok result ↔
      ∀ part ∈ parts, part.given blank (object.get? part.name) = .ok (part.get result) := by
  rw [Json.ofDictionary, record_object]
  constructor
  · intro hRead part hPart
    exact foldlM_readMember_spec independent object.ordered hRead hPart
  · intro hGiven
    have hDecoded : ∀ entry ∈ object.entries, ∀ part ∈ parts, part.name = entry.1 →
        ∃ read, part.decode entry.2 = .ok read := by
      intro entry hEntry part hPart hName
      have hMember : object.get? part.name = some entry.2 :=
        hName ▸ findEntry_of_mem object.ordered.nodup hEntry
      have hPartGiven := hGiven part hPart
      rw [hMember] at hPartGiven
      exact ⟨_, hPartGiven⟩
    obtain ⟨read, hRead⟩ := exists_foldlM_readMember independent.names hDecoded blank
    have hSame : read = result := by
      refine independent.ext read result fun part hPart => ?_
      have hPartRead := foldlM_readMember_spec independent object.ordered hRead hPart
      exact Except.ok.inj (hPartRead.symm.trans (hGiven part hPart))
    rw [hRead, hSame]

/-- A part whose member is left out is as in the blank record, and all others stay. -/
theorem record_filter (independent : Independent parts) {kept : ρ} {omitted : String → Bool}
    (hRead : record typeName (parts.map RecordPart.toField) blank (.ofDictionary object) =
      .ok result)
    (hKept : ∀ part ∈ parts,
      part.get kept = if omitted part.name then part.get blank else part.get result) :
    record typeName (parts.map RecordPart.toField) blank
      (.ofDictionary (object.filter fun name _ => !omitted name)) = .ok kept := by
  rw [record_eq_ok_iff independent] at hRead ⊢
  intro part hPart
  have hMember : (object.filter fun name _ => !omitted name).get? part.name =
      if omitted part.name then none else object.get? part.name := by
    rw [Dictionary.get?_filter]
    cases object.get? part.name <;> cases omitted part.name <;> rfl
  rw [hMember, hKept part hPart]
  split
  · rfl
  · exact hRead part hPart

/-- Members without a part are passed over. -/
theorem foldlM_readMember_filter (parts : List (RecordPart ρ)) (entries : List (String × Json))
    (current : ρ) :
    (entries.filter fun entry => parts.any (·.name == entry.1)).foldlM
        (readMember (parts.map RecordPart.toField)) current =
      entries.foldlM (readMember (parts.map RecordPart.toField)) current := by
  induction entries generalizing current with
  | nil => rfl
  | cons entry rest ih =>
      cases hKnown : parts.any (·.name == entry.1) with
      | true =>
          rw [List.filter_cons, if_pos hKnown, List.foldlM_cons, List.foldlM_cons]
          exact congrArg _ (funext ih)
      | false =>
          have hUnknown : ∀ part ∈ parts, part.name ≠ entry.1 := by simpa using hKnown
          rw [List.filter_cons, if_neg (by simp [hKnown]), List.foldlM_cons,
            readMember_of_unknown hUnknown]
          exact ih current

/-- Objects with the same members for all parts are read alike, and are refused for the
same reason. -/
theorem record_congr (hSame : ∀ part ∈ parts, object.get? part.name = other.get? part.name) :
    record typeName (parts.map RecordPart.toField) blank (.ofDictionary object) =
      record typeName (parts.map RecordPart.toField) blank (.ofDictionary other) := by
  have hKnown : object.filter (fun name _ => parts.any (·.name == name)) =
      other.filter fun name _ => parts.any (·.name == name) := by
    apply Dictionary.ext_get?
    intro name
    rw [Dictionary.get?_filter, Dictionary.get?_filter]
    cases hAny : parts.any (·.name == name) with
    | true =>
        obtain ⟨part, hPart, hName⟩ := List.any_eq_true.mp hAny
        rw [← eq_of_beq hName, hSame part hPart]
    | false =>
        cases object.get? name <;> cases other.get? name <;> rfl
  rw [Json.ofDictionary, Json.ofDictionary, record_object, record_object,
    ← foldlM_readMember_filter parts object.entries,
    ← foldlM_readMember_filter parts other.entries]
  exact congrArg (fun known : Dictionary Json =>
    known.entries.foldlM (readMember (parts.map RecordPart.toField)) blank) hKnown

end Objects

end Decode

end BusEndpoint

import BusEndpoint.Proofs.Json.Records

/-! Values that are read as they were written. A record is, if each of its parts is; a part
that is not written has to be as in the blank record. -/

namespace BusEndpoint

namespace Decode

variable {α ρ : Type} {decode : Decoder α} {encode : α → Json}

/-- Whatever value is written, it is read again. -/
def Inverts (decode : Decoder α) (encode : α → Json) : Prop :=
  ∀ value, decode (encode value) = .ok value

section Values

theorem inverts_text : Inverts text .string := fun _ => rfl

theorem unsigned_natural {wanted : String} {size n : Nat} (h : n < size) :
    unsigned wanted size (.natural n) = .ok n := by
  have hRange : (0 : Int) ≤ n ∧ (n : Int) < size := by omega
  exact if_pos hRange

theorem inverts_word8 : Inverts word8 fun byte => .natural byte.toNat := by
  intro byte
  rw [word8, unsigned_natural byte.toNat_lt_size]
  exact congrArg Except.ok UInt8.ofNat_toNat

theorem inverts_word32 : Inverts word32 fun word => .natural word.toNat := by
  intro word
  rw [word32, unsigned_natural word.toNat_lt_size]
  exact congrArg Except.ok UInt32.ofNat_toNat

theorem Inverts.sequence (h : Inverts decode encode) :
    Inverts (sequence decode) fun values => .array (values.map encode) := by
  intro values
  show (values.map encode).mapM decode = .ok values
  induction values with
  | nil => rfl
  | cons value rest ih =>
      rw [List.map_cons, List.mapM_cons, h value, ih]
      rfl

theorem Inverts.foldlM_insert (h : Inverts decode encode) (entries : List (String × α))
    (d : Dictionary α) :
    (entries.map fun entry => (entry.1, encode entry.2)).foldlM
        (fun d entry => (decode entry.2).map (d.insert entry.1)) d =
      .ok (d.insertAll entries) := by
  induction entries generalizing d with
  | nil => rfl
  | cons entry rest ih =>
      rw [List.map_cons, List.foldlM_cons, h entry.2]
      exact ih (d.insert entry.1 entry.2)

theorem Inverts.dictionary (h : Inverts decode encode) :
    Inverts (dictionary decode) fun d => .ofDictionary (d.map encode) := by
  intro d
  show (d.entries.map fun entry => (entry.1, encode entry.2)).foldlM _ _ = _
  rw [h.foldlM_insert]
  exact congrArg Except.ok d.ofList_entries

/-- Values of any kind are kept as they are. -/
theorem inverts_dictionary_any : Inverts (dictionary any) .ofDictionary := by
  intro d
  have hKept : Inverts any id := fun _ => rfl
  simpa only [d.map_id] using hKept.dictionary d

/-- A value that is not written as null is told from an absent one. -/
theorem Inverts.optional (h : Inverts decode encode) (hNull : ∀ value, encode value ≠ .null)
    (value : α) : optional decode (encode value) = .ok (some value) := by
  have hRead := h value
  cases hForm : encode value with
  | null => exact absurd hForm (hNull value)
  | _ =>
      rw [hForm] at hRead
      rw [Decode.optional, hRead]
      · rfl
      · exact nofun

end Values

namespace RecordPart

variable {part : RecordPart ρ} {blank current : ρ}

/-- Over the blank record the part is read as it was written, or left out. -/
def Restores (part : RecordPart ρ) (blank : ρ) : Prop :=
  ∀ value, part.given blank (part.write value) = .ok value

/-- A part that is always written. -/
def plain (name : String) (decode : Decoder α) (encode : α → Json) (get : ρ → α)
    (set : α → ρ → ρ) : RecordPart ρ :=
  ⟨α, name, decode, fun value => some (encode value), get, set⟩

/-- A part that is left out if there is no value. -/
def optional (name : String) (decode : Decoder α) (encode : α → Json) (get : ρ → Option α)
    (set : Option α → ρ → ρ) : RecordPart ρ :=
  ⟨Option α, name, Decode.optional decode, Option.map encode, get, set⟩

theorem plain_restores {name : String} {get : ρ → α} {set : α → ρ → ρ}
    (h : Inverts decode encode) : (plain name decode encode get set).Restores blank := h

theorem optional_restores {name : String} {get : ρ → Option α} {set : Option α → ρ → ρ}
    (h : Inverts decode encode) (hNull : ∀ value, encode value ≠ .null)
    (hBlank : get blank = none) : (optional name decode encode get set).Restores blank := by
  intro value
  cases value with
  | none => exact congrArg Except.ok hBlank
  | some value => exact h.optional hNull value

/-- The member that is written for the part. -/
def member (part : RecordPart ρ) (record : ρ) : List (String × Json) :=
  (part.write (part.get record)).toList.map fun value => (part.name, value)

theorem get?_insertAll_member (part : RecordPart ρ) (record : ρ) (object : Dictionary Json)
    (name : String) :
    (object.insertAll (part.member record)).get? name =
      if part.name = name then (part.write (part.get record)).or (object.get? name)
      else object.get? name := by
  rw [member]
  cases part.write (part.get record) with
  | none => simp [Dictionary.insertAll_nil]
  | some value => simp [Dictionary.insertAll_cons, Dictionary.insertAll_nil, Dictionary.get?_insert]

end RecordPart

section Members

variable {parts : List (RecordPart ρ)} {part : RecordPart ρ} {blank record result : ρ}
  {typeName : String}

/-- The members that are written for a record. -/
def written (parts : List (RecordPart ρ)) (record : ρ) : List (String × Json) :=
  parts.flatMap (·.member record)

theorem get?_insertAll_written_of_unknown {name : String}
    (hUnknown : ∀ part ∈ parts, part.name ≠ name) (object : Dictionary Json) :
    (object.insertAll (written parts record)).get? name = object.get? name := by
  induction parts generalizing object with
  | nil => rfl
  | cons first rest ih =>
      obtain ⟨hFirst, hRest⟩ := List.forall_mem_cons.mp hUnknown
      show (object.insertAll (first.member record ++ written rest record)).get? name = _
      rw [Dictionary.insertAll_append, ih hRest, first.get?_insertAll_member, if_neg hFirst]

theorem get?_insertAll_written (distinct : (parts.map RecordPart.name).Nodup)
    (hPart : part ∈ parts) (object : Dictionary Json) :
    (object.insertAll (written parts record)).get? part.name =
      (part.write (part.get record)).or (object.get? part.name) := by
  induction parts generalizing object with
  | nil => simp at hPart
  | cons first rest ih =>
      rw [List.map_cons, List.nodup_cons] at distinct
      have hOthers : ∀ other ∈ rest, other.name ≠ first.name := fun other hOther hSame =>
        distinct.1 (hSame ▸ List.mem_map_of_mem hOther)
      show (object.insertAll (first.member record ++ written rest record)).get? part.name = _
      rw [Dictionary.insertAll_append]
      rcases List.mem_cons.mp hPart with rfl | hRest
      · rw [get?_insertAll_written_of_unknown hOthers, part.get?_insertAll_member, if_pos rfl]
      · rw [ih distinct.2 hRest, first.get?_insertAll_member, if_neg (hOthers part hRest).symm]

theorem get?_written (distinct : (parts.map RecordPart.name).Nodup) (hPart : part ∈ parts) :
    (Dictionary.ofList (written parts record)).get? part.name = part.write (part.get record) := by
  rw [Dictionary.ofList, get?_insertAll_written distinct hPart, Dictionary.get?_empty,
    Option.or_none]

/-- What is written for a record is read as a record with the parts that come of it. -/
theorem record_written (independent : Independent parts)
    (hGiven : ∀ part ∈ parts,
      part.given blank (part.write (part.get record)) = .ok (part.get result)) :
    Decode.record typeName (parts.map RecordPart.toField) blank
      (.ofMembers (written parts record)) = .ok result := by
  show Decode.record typeName _ blank (.ofDictionary (.ofList (written parts record))) = .ok result
  rw [record_eq_ok_iff independent]
  intro part hPart
  rw [get?_written independent.names hPart]
  exact hGiven part hPart

/-- A record is read as it was written if all its parts are. -/
theorem record_restores {encode : ρ → Json} (independent : Independent parts)
    (restores : ∀ part ∈ parts, part.Restores blank)
    (hWritten : ∀ record, encode record = .ofMembers (written parts record)) :
    Inverts (Decode.record typeName (parts.map RecordPart.toField) blank) encode := by
  intro record
  rw [hWritten]
  exact record_written independent fun part hPart => restores part hPart (part.get record)

end Members

end Decode

end BusEndpoint

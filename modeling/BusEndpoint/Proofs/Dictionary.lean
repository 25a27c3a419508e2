import BusEndpoint.Dictionary
import Mathlib.Data.List.Nodup

/-! Dictionaries and lists of entries. Entries whose names are distinct are told by
lookups in whatever order they are listed. -/

namespace BusEndpoint

section Entries

variable {β γ : Type} {name : String} {value : β} {entries listing : List (String × β)}

theorem findEntry_isSome_iff :
    (findEntry name entries).isSome = true ↔ name ∈ entries.map Prod.fst := by
  induction entries with
  | nil => simp [findEntry]
  | cons head rest ih =>
      by_cases hName : head.1 = name
      · simp [findEntry, hName]
      · simp only [findEntry, if_neg hName, ih, List.map_cons, List.mem_cons, Ne.symm hName,
          false_or]

theorem findEntry_eq_none_iff : findEntry name entries = none ↔ name ∉ entries.map Prod.fst := by
  rw [← findEntry_isSome_iff, Bool.not_eq_true, Option.isSome_eq_false_iff,
    Option.isNone_iff_eq_none]

theorem findEntry_of_mem (distinct : (entries.map Prod.fst).Nodup)
    (hMem : (name, value) ∈ entries) : findEntry name entries = some value := by
  induction entries with
  | nil => simp at hMem
  | cons head rest ih =>
      rw [List.map_cons, List.nodup_cons] at distinct
      rcases List.mem_cons.mp hMem with rfl | hRest
      · exact if_pos rfl
      · have hName : head.1 ≠ name := fun hSame =>
          distinct.1 (hSame ▸ List.mem_map_of_mem hRest)
        exact (if_neg hName).trans (ih distinct.2 hRest)

theorem OrderedByName.nodup (ordered : OrderedByName entries) : (entries.map Prod.fst).Nodup := by
  apply List.Pairwise.map _ _ ordered
  intro first second hLt hSame
  exact String.lt_irrefl _ (hSame ▸ hLt)

/-- Entries with distinct names may stand in any order. -/
theorem findEntry_perm (distinct : (entries.map Prod.fst).Nodup) (hPerm : listing.Perm entries)
    (name : String) : findEntry name listing = findEntry name entries := by
  have hNames := hPerm.map Prod.fst
  by_cases hMem : name ∈ entries.map Prod.fst
  · obtain ⟨⟨_, value⟩, hEntry, rfl⟩ := List.mem_map.mp hMem
    rw [findEntry_of_mem distinct hEntry,
      findEntry_of_mem (hNames.nodup_iff.mpr distinct) (hPerm.mem_iff.mpr hEntry)]
  · rw [findEntry_eq_none_iff.mpr hMem, findEntry_eq_none_iff.mpr (mt hNames.mem_iff.mp hMem)]

theorem map_fst_filterMap_sublist (f : β → Option γ) (entries : List (String × β)) :
    ((entries.filterMap fun entry => (f entry.2).map fun value => (entry.1, value)).map
      Prod.fst).Sublist (entries.map Prod.fst) := by
  induction entries with
  | nil => exact .refl _
  | cons head rest ih =>
      cases hValue : f head.2 with
      | none => simpa [hValue] using ih.cons head.1
      | some value => simpa [hValue] using ih

/-- An entry is found under its name as what has become of it. -/
theorem findEntry_filterMap {f : β → Option γ} (distinct : (entries.map Prod.fst).Nodup) :
    findEntry name (entries.filterMap fun entry => (f entry.2).map fun value => (entry.1, value)) =
      (findEntry name entries).bind f := by
  induction entries with
  | nil => rfl
  | cons head rest ih =>
      rw [List.map_cons, List.nodup_cons] at distinct
      have hRest := ih distinct.2
      by_cases hName : head.1 = name
      · subst hName
        rw [findEntry_eq_none_iff.mpr distinct.1] at hRest
        cases hValue : f head.2 <;> simp [findEntry, hValue, hRest]
      · cases hValue : f head.2 <;> simp [findEntry, hValue, hName, hRest]

end Entries

namespace Dictionary

variable {β : Type} {name : String} {value : β} {entries listing : List (String × β)}

theorem mem_names {d : Dictionary β} : name ∈ d.names ↔ (d.get? name).isSome = true :=
  findEntry_isSome_iff.symm

theorem nodup_names (d : Dictionary β) : d.names.Nodup := d.ordered.nodup

theorem insertAll_nil (d : Dictionary β) : d.insertAll [] = d := rfl

theorem insertAll_cons (d : Dictionary β) (entry : String × β) (rest : List (String × β)) :
    d.insertAll (entry :: rest) = (d.insert entry.1 entry.2).insertAll rest := rfl

theorem get?_insertAll_of_not_mem (d : Dictionary β) (hName : name ∉ entries.map Prod.fst) :
    (d.insertAll entries).get? name = d.get? name := by
  induction entries generalizing d with
  | nil => rfl
  | cons entry rest ih =>
      rw [List.map_cons, List.mem_cons, not_or] at hName
      rw [insertAll_cons, ih _ hName.2, get?_insert_ne _ (Ne.symm hName.1)]

theorem get?_insertAll_of_mem (d : Dictionary β) (distinct : (entries.map Prod.fst).Nodup)
    (hEntry : (name, value) ∈ entries) : (d.insertAll entries).get? name = some value := by
  induction entries generalizing d with
  | nil => simp at hEntry
  | cons entry rest ih =>
      rw [List.map_cons, List.nodup_cons] at distinct
      rw [insertAll_cons]
      rcases List.mem_cons.mp hEntry with rfl | hRest
      · rw [get?_insertAll_of_not_mem _ distinct.1, get?_insert_self]
      · exact ih _ distinct.2 hRest

/-- Of entries with distinct names none goes before another. -/
theorem get?_insertAll_of_nodup (d : Dictionary β) (distinct : (entries.map Prod.fst).Nodup)
    (name : String) :
    (d.insertAll entries).get? name = (findEntry name entries).or (d.get? name) := by
  by_cases hMem : name ∈ entries.map Prod.fst
  · obtain ⟨⟨_, value⟩, hEntry, rfl⟩ := List.mem_map.mp hMem
    rw [get?_insertAll_of_mem d distinct hEntry, findEntry_of_mem distinct hEntry]
    rfl
  · rw [get?_insertAll_of_not_mem d hMem, findEntry_eq_none_iff.mpr hMem, Option.none_or]

theorem insertAll_perm (d : Dictionary β) (distinct : (entries.map Prod.fst).Nodup)
    (hPerm : listing.Perm entries) : d.insertAll listing = d.insertAll entries := by
  apply ext_get?
  intro name
  rw [get?_insertAll_of_nodup d ((hPerm.map Prod.fst).nodup_iff.mpr distinct),
    get?_insertAll_of_nodup d distinct, findEntry_perm distinct hPerm]

section Picked

variable {α : Type} {pick : α → Option (String × β)} {chosen : α} {before after picked : List α}

theorem get?_insertAll_filterMap_of_none (d : Dictionary β)
    (hNone : ∀ other ∈ picked, ∀ value, pick other ≠ some (name, value)) :
    (d.insertAll (picked.filterMap pick)).get? name = d.get? name := by
  apply get?_insertAll_of_not_mem
  intro hName
  obtain ⟨⟨_, value⟩, hEntry, rfl⟩ := List.mem_map.mp hName
  obtain ⟨other, hOther, hPick⟩ := List.mem_filterMap.mp hEntry
  exact hNone other hOther value hPick

/-- Of the entries with one name the last counts. -/
theorem get?_insertAll_filterMap_of_last (d : Dictionary β)
    (hChosen : pick chosen = some (name, value))
    (hLast : ∀ other ∈ after, ∀ value, pick other ≠ some (name, value)) :
    (d.insertAll ((before ++ chosen :: after).filterMap pick)).get? name = some value := by
  rw [List.filterMap_append, List.filterMap_cons_some hChosen, insertAll_append, insertAll_cons,
    get?_insertAll_filterMap_of_none _ hLast, get?_insert_self]

end Picked

theorem ofList_entries (d : Dictionary β) : ofList d.entries = d := by
  apply ext_get?
  intro name
  rw [ofList, get?_insertAll_of_ordered empty d.ordered, get?_empty, Option.or_none]
  rfl

theorem map_id (d : Dictionary β) : d.map id = d := by
  apply ext_get?
  intro name
  rw [get?_map, Option.map_id_fun, id]

end Dictionary

end BusEndpoint

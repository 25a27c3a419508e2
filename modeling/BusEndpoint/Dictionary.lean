/-!
Finite maps from names to values, listed in the code point order of the
names. The order is part of the type, so two dictionaries are equal exactly
when they answer every lookup alike (`Dictionary.ext_get?`).
-/

namespace BusEndpoint

/-- Insert one entry into a list that is ordered by name. An entry that
already has this name is replaced. -/
def insertEntry {β : Type} (name : String) (value : β) :
    List (String × β) → List (String × β)
  | [] => [(name, value)]
  | (k, v) :: rest =>
    if name < k then (name, value) :: (k, v) :: rest
    else if name = k then (name, value) :: rest
    else (k, v) :: insertEntry name value rest

/-- Read one entry of a list of named values. -/
def findEntry {β : Type} (name : String) : List (String × β) → Option β
  | [] => none
  | (k, v) :: rest => if k = name then some v else findEntry name rest

/-- The names of the list are strictly increasing. -/
def OrderedByName {β : Type} (entries : List (String × β)) : Prop :=
  entries.Pairwise (fun a b => a.1 < b.1)

theorem mem_insertEntry {β : Type} {name : String} {value : β} {e : String × β}
    {entries : List (String × β)} (h : e ∈ insertEntry name value entries) :
    e = (name, value) ∨ e ∈ entries := by
  induction entries with
  | nil => simpa [insertEntry] using h
  | cons head rest ih =>
    obtain ⟨k, v⟩ := head
    simp only [insertEntry] at h
    split at h
    · simpa using h
    · split at h
      · rcases List.mem_cons.mp h with h | h
        · exact .inl h
        · exact .inr (List.mem_cons_of_mem _ h)
      · rcases List.mem_cons.mp h with h | h
        · exact .inr (by simp [h])
        · exact (ih h).imp id (List.mem_cons_of_mem _)

theorem lt_of_not_lt_of_ne {a b : String} (hLt : ¬ a < b) (hNe : a ≠ b) : b < a := by
  rcases Classical.em (b < a) with h | h
  · exact h
  · exact absurd (String.le_antisymm (String.not_lt.mp h) (String.not_lt.mp hLt)) hNe

theorem OrderedByName.insertEntry {β : Type} (name : String) (value : β)
    {entries : List (String × β)} (h : OrderedByName entries) :
    OrderedByName (insertEntry name value entries) := by
  induction entries with
  | nil => simp [BusEndpoint.insertEntry, OrderedByName]
  | cons head rest ih =>
    obtain ⟨k, v⟩ := head
    have hRest : OrderedByName rest := (List.pairwise_cons.mp h).2
    have hHead : ∀ e ∈ rest, k < e.1 := fun e he => (List.pairwise_cons.mp h).1 e he
    simp only [BusEndpoint.insertEntry]
    split
    · rename_i hLt
      refine List.pairwise_cons.mpr ⟨fun e he => ?_, h⟩
      rcases List.mem_cons.mp he with rfl | he
      · exact hLt
      · exact String.lt_trans hLt (hHead e he)
    · split
      · rename_i hEq
        subst hEq
        exact List.pairwise_cons.mpr ⟨hHead, hRest⟩
      · rename_i hLt hNe
        refine List.pairwise_cons.mpr ⟨fun e he => ?_, ih hRest⟩
        rcases mem_insertEntry he with rfl | he
        · exact lt_of_not_lt_of_ne hLt hNe
        · exact hHead e he

theorem findEntry_insertEntry {β : Type} (name query : String) (value : β)
    (entries : List (String × β)) :
    findEntry query (insertEntry name value entries) =
      if name = query then some value else findEntry query entries := by
  induction entries with
  | nil => simp [insertEntry, findEntry]
  | cons head rest ih =>
    obtain ⟨k, v⟩ := head
    simp only [insertEntry]
    split
    · simp [findEntry]
    · split
      · rename_i hEq
        subst hEq
        by_cases h : name = query <;> simp [findEntry, h]
      · rename_i hNe
        by_cases hk : k = query
        · subst hk
          simp [findEntry, hNe]
        · simp [findEntry, hk, ih]

theorem findEntry_eq_none_of_lt {β : Type} {name : String} {entries : List (String × β)}
    (h : ∀ e ∈ entries, name < e.1) : findEntry name entries = none := by
  induction entries with
  | nil => rfl
  | cons head rest ih =>
    obtain ⟨k, v⟩ := head
    have hk : k ≠ name := fun hEq => String.lt_irrefl k (hEq ▸ h (k, v) (by simp))
    simp only [findEntry, if_neg hk]
    exact ih fun e he => h e (List.mem_cons_of_mem _ he)

/-- Two ordered lists that answer every lookup alike are the same list. -/
theorem OrderedByName.eq_of_findEntry {β : Type} {left right : List (String × β)}
    (hLeft : OrderedByName left) (hRight : OrderedByName right)
    (h : ∀ name, findEntry name left = findEntry name right) : left = right := by
  induction left generalizing right with
  | nil =>
    cases right with
    | nil => rfl
    | cons head rest => simpa [findEntry] using h head.1
  | cons head rest ih =>
    obtain ⟨k, v⟩ := head
    cases right with
    | nil => simpa [findEntry] using h k
    | cons head' rest' =>
      obtain ⟨k', v'⟩ := head'
      obtain ⟨hk, hRest⟩ := List.pairwise_cons.mp hLeft
      obtain ⟨hk', hRest'⟩ := List.pairwise_cons.mp hRight
      have hSame : k = k' := by
        by_cases hEq : k = k'
        · exact hEq
        · exfalso
          by_cases hLt : k < k'
          · have hNone : findEntry k ((k', v') :: rest') = none :=
              findEntry_eq_none_of_lt fun e he => by
                rcases List.mem_cons.mp he with rfl | he
                · exact hLt
                · exact String.lt_trans hLt (hk' e he)
            have := h k
            rw [hNone] at this
            simp [findEntry] at this
          · have hGt := lt_of_not_lt_of_ne hLt hEq
            have hNone : findEntry k' ((k, v) :: rest) = none :=
              findEntry_eq_none_of_lt fun e he => by
                rcases List.mem_cons.mp he with rfl | he
                · exact hGt
                · exact String.lt_trans hGt (hk e he)
            have := h k'
            rw [hNone] at this
            simp [findEntry] at this
      subst hSame
      have hValue : v = v' := by simpa [findEntry] using h k
      subst hValue
      rw [ih hRest hRest' fun name => ?_]
      by_cases hName : k = name
      · subst hName
        rw [findEntry_eq_none_of_lt hk, findEntry_eq_none_of_lt hk']
      · simpa [findEntry, hName] using h name

/-- A finite map from names to values, listed in the order of the names. -/
structure Dictionary (β : Type) where
  entries : List (String × β)
  ordered : OrderedByName entries
deriving DecidableEq

namespace Dictionary

variable {β γ : Type}

def empty : Dictionary β := ⟨[], List.Pairwise.nil⟩

instance : EmptyCollection (Dictionary β) := ⟨empty⟩

instance : Inhabited (Dictionary β) := ⟨empty⟩

def get? (d : Dictionary β) (name : String) : Option β := findEntry name d.entries

def contains (d : Dictionary β) (name : String) : Bool := (d.get? name).isSome

def size (d : Dictionary β) : Nat := d.entries.length

def names (d : Dictionary β) : List String := d.entries.map (·.1)

/-- Set the value of one name, whether or not it had one. -/
def insert (d : Dictionary β) (name : String) (value : β) : Dictionary β :=
  ⟨insertEntry name value d.entries, d.ordered.insertEntry name value⟩

/-- Keep the entries that pass the test. -/
def filter (keep : String → β → Bool) (d : Dictionary β) : Dictionary β :=
  ⟨d.entries.filter fun e => keep e.1 e.2, d.ordered.sublist List.filter_sublist⟩

def erase (d : Dictionary β) (name : String) : Dictionary β :=
  d.filter fun k _ => !decide (k = name)

/-- Apply a function to every value. -/
def map (f : β → γ) (d : Dictionary β) : Dictionary γ :=
  ⟨d.entries.map fun e => (e.1, f e.2),
    by simpa [OrderedByName, List.pairwise_map] using d.ordered⟩

/-- Apply a function to every value and its name. -/
def mapNamed (f : String → β → γ) (d : Dictionary β) : Dictionary γ :=
  ⟨d.entries.map fun e => (e.1, f e.1 e.2),
    by simpa [OrderedByName, List.pairwise_map] using d.ordered⟩

/-- Insert the entries one after the other: of two with one name the later
stays. -/
def insertAll (d : Dictionary β) (entries : List (String × β)) : Dictionary β :=
  entries.foldl (fun d e => d.insert e.1 e.2) d

def ofList (entries : List (String × β)) : Dictionary β := empty.insertAll entries

/-- All entries of both, where the second has the last word. -/
def extend (d other : Dictionary β) : Dictionary β := d.insertAll other.entries

@[simp] theorem get?_empty (name : String) : (empty : Dictionary β).get? name = none := rfl

@[simp] theorem get?_emptyCollection (name : String) :
    (∅ : Dictionary β).get? name = none := rfl

theorem get?_insert (d : Dictionary β) (name query : String) (value : β) :
    (d.insert name value).get? query = if name = query then some value else d.get? query :=
  findEntry_insertEntry name query value d.entries

@[simp] theorem get?_insert_self (d : Dictionary β) (name : String) (value : β) :
    (d.insert name value).get? name = some value := by simp [get?_insert]

theorem get?_insert_ne (d : Dictionary β) {name query : String} (h : name ≠ query) (value : β) :
    (d.insert name value).get? query = d.get? query := by simp [get?_insert, h]

/-- A dictionary is determined by its lookups. -/
theorem ext_get? {d e : Dictionary β} (h : ∀ name, d.get? name = e.get? name) : d = e := by
  cases d with
  | mk left hLeft =>
    cases e with
    | mk right hRight =>
      have : left = right := OrderedByName.eq_of_findEntry hLeft hRight h
      subst this
      rfl

theorem insert_insert (d : Dictionary β) (name : String) (first second : β) :
    (d.insert name first).insert name second = d.insert name second := by
  apply ext_get?
  intro query
  simp only [get?_insert]
  split <;> rfl

theorem insertAll_append (d : Dictionary β) (first second : List (String × β)) :
    d.insertAll (first ++ second) = (d.insertAll first).insertAll second :=
  List.foldl_append

theorem get?_mapNamed (f : String → β → γ) (d : Dictionary β) (name : String) :
    (d.mapNamed f).get? name = (d.get? name).map (f name) := by
  obtain ⟨entries, _⟩ := d
  show findEntry name (entries.map fun e => (e.1, f e.1 e.2)) = (findEntry name entries).map (f name)
  induction entries with
  | nil => rfl
  | cons head rest ih =>
    by_cases h : head.1 = name
    · simp [findEntry, h]
    · simp only [List.map_cons, findEntry, if_neg h]
      exact ih (by simp_all [OrderedByName])

theorem get?_map (f : β → γ) (d : Dictionary β) (name : String) :
    (d.map f).get? name = (d.get? name).map f :=
  d.get?_mapNamed (fun _ => f) name

theorem findEntry_filter_of_ordered {entries : List (String × β)}
    (ordered : OrderedByName entries) (keep : String → β → Bool) (name : String) :
    findEntry name (entries.filter fun e => keep e.1 e.2) =
      (findEntry name entries).filter (keep name) := by
  induction entries with
  | nil => rfl
  | cons head rest ih =>
    obtain ⟨k, v⟩ := head
    obtain ⟨hk, hRest⟩ := List.pairwise_cons.mp ordered
    have ih := ih hRest
    by_cases hName : k = name
    · subst hName
      by_cases hKeep : keep k v
      · simp [findEntry, hKeep, Option.filter]
      · simp only [Bool.not_eq_true] at hKeep
        simp [findEntry, hKeep, Option.filter, ih,
          findEntry_eq_none_of_lt hk]
    · by_cases hKeep : keep k v
      · simp [findEntry, hKeep, hName, ih]
      · simp [findEntry, hKeep, hName, ih]

theorem get?_filter (keep : String → β → Bool) (d : Dictionary β) (name : String) :
    (d.filter keep).get? name = (d.get? name).filter (keep name) :=
  findEntry_filter_of_ordered d.ordered keep name

theorem get?_erase (d : Dictionary β) (name query : String) :
    (d.erase name).get? query = if name = query then none else d.get? query := by
  rw [erase, get?_filter]
  by_cases h : name = query
  · subst h
    cases d.get? name <;> simp [Option.filter]
  · have h' : query ≠ name := fun e => h e.symm
    cases d.get? query <;> simp [Option.filter, h, h']

theorem get?_insertAll_of_ordered (d : Dictionary β) {entries : List (String × β)}
    (ordered : OrderedByName entries) (name : String) :
    (d.insertAll entries).get? name = (findEntry name entries).or (d.get? name) := by
  induction entries generalizing d with
  | nil => rfl
  | cons head rest ih =>
    obtain ⟨k, v⟩ := head
    obtain ⟨hk, hRest⟩ := List.pairwise_cons.mp ordered
    show ((d.insert k v).insertAll rest).get? name = _
    rw [ih _ hRest, get?_insert]
    by_cases h : k = name
    · subst h
      simp [findEntry, findEntry_eq_none_of_lt hk]
    · simp [findEntry, h]

theorem get?_extend (d other : Dictionary β) (name : String) :
    (d.extend other).get? name = (other.get? name).or (d.get? name) :=
  get?_insertAll_of_ordered d other.ordered name

end Dictionary

end BusEndpoint

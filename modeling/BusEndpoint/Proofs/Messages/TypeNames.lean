import BusEndpoint.MessageType
import Mathlib.Data.List.Infix
import Mathlib.Data.List.TakeWhile

/-! The names of message types. A full name is cut in one place only: behind the longest path
that ends before its generic arguments begin. The search for this place is a scan with a
candidate, and what it finds is stated without one. -/

namespace BusEndpoint.MessageType

/-- What stands between the parts of a path, and at its end. -/
def separator : List Char := [':', ':']

/-- What may be dropped from the front of a full name: nothing, or whole parts of a path, none of
them within generic arguments. -/
structure IsPath (path : List Char) : Prop where
  closed : path = [] ∨ separator <:+ path
  plain : '<' ∉ path

/-- The longest path in front of a text, and the rest of the text. -/
structure Cuts (text path rest : List Char) : Prop where
  whole : path ++ rest = text
  isPath : IsPath path
  longest : ∀ other, other <+: text → IsPath other → other.length ≤ path.length

variable {text path path' rest rest' other : List Char} {c : Char}

theorem isPath_nil : IsPath [] := ⟨.inl rfl, List.not_mem_nil⟩

theorem isPath_separator : IsPath separator := ⟨.inr List.suffix_rfl, by decide⟩

/-- A path behind another one goes on with it. -/
theorem IsPath.append (isPath : IsPath path) (more : IsPath other) : IsPath (path ++ other) where
  closed := by
    rcases more.closed with rfl | hMore
    · simpa using isPath.closed
    · exact .inr (hMore.trans (List.suffix_append path other))
  plain := by simp [isPath.plain, more.plain]

theorem IsPath.two_le_length (isPath : IsPath path) (hPath : path ≠ []) : 2 ≤ path.length :=
  (isPath.closed.resolve_left hPath).length_le

/-- A path in front of a text is empty or a single separator, or it goes on behind the first
character with a path in front of the rest. -/
theorem IsPath.cases_of_prefix (isPath : IsPath other) (hPrefix : other <+: c :: text) :
    other = [] ∨ (other = separator ∧ separator <+: c :: text) ∨
      ∃ tail, other = c :: tail ∧ tail <+: text ∧ IsPath tail ∧ tail ≠ [] ∧ c ≠ '<' := by
  rcases isPath.closed with rfl | hClosed
  · exact .inl rfl
  · obtain ⟨tail, rfl, hTail⟩ : ∃ tail, other = c :: tail ∧ tail <+: text := by
      cases other with
      | nil => simp [separator] at hClosed
      | cons first tail =>
          obtain ⟨rfl, hTail⟩ := List.cons_prefix_cons.mp hPrefix
          exact ⟨tail, rfl, hTail⟩
    obtain ⟨hFirst, hPlain⟩ := List.ne_and_not_mem_of_not_mem_cons isPath.plain
    rcases List.suffix_cons_iff.mp hClosed with hSame | hClosed
    · exact .inr (.inl ⟨hSame.symm, hSame ▸ hPrefix⟩)
    · have hNe : tail ≠ [] := by
        rintro rfl
        simp [separator] at hClosed
      exact .inr (.inr ⟨tail, rfl, hTail, ⟨.inr hClosed, hPlain⟩, hNe, hFirst.symm⟩)

theorem Cuts.eq_nil_of_isPath (uncut : Cuts text [] text) (hPrefix : other <+: text)
    (isPath : IsPath other) : other = [] :=
  List.length_eq_zero_iff.mp (Nat.le_zero.mp (uncut.longest other hPrefix isPath))

theorem cuts_nil : Cuts [] [] [] where
  whole := rfl
  isPath := isPath_nil
  longest _ hPrefix _ := hPrefix.length_le

theorem cuts_bracket (text : List Char) : Cuts ('<' :: text) [] ('<' :: text) where
  whole := rfl
  isPath := isPath_nil
  longest other hPrefix isPath := by
    rcases isPath.cases_of_prefix hPrefix with rfl | ⟨-, hFirst⟩ | ⟨tail, -, -, -, -, hFirst⟩
    · exact Nat.le_refl _
    · simp [separator] at hFirst
    · exact absurd rfl hFirst

theorem Cuts.separated (uncut : Cuts (':' :: text) [] (':' :: text)) :
    Cuts (':' :: ':' :: text) separator text where
  whole := rfl
  isPath := isPath_separator
  longest other hPrefix isPath := by
    rcases isPath.cases_of_prefix hPrefix with rfl | ⟨rfl, -⟩ | ⟨tail, rfl, hTail, more, hNe, -⟩
    · exact Nat.zero_le _
    · exact Nat.le_refl _
    · exact absurd (uncut.eq_nil_of_isPath hTail more) hNe

theorem Cuts.passed (uncut : Cuts text [] text) (hNone : ¬ separator <+: c :: text) :
    Cuts (c :: text) [] (c :: text) where
  whole := rfl
  isPath := isPath_nil
  longest other hPrefix isPath := by
    rcases isPath.cases_of_prefix hPrefix with rfl | ⟨-, hFirst⟩ | ⟨tail, rfl, hTail, more, hNe, -⟩
    · exact Nat.le_refl _
    · exact absurd hFirst hNone
    · exact absurd (uncut.eq_nil_of_isPath hTail more) hNe

theorem Cuts.cons (cuts : Cuts text path rest) (hPath : path ≠ []) (hBracket : c ≠ '<') :
    Cuts (c :: text) (c :: path) rest where
  whole := congrArg (List.cons c) cuts.whole
  isPath :=
    ⟨.inr ((cuts.isPath.closed.resolve_left hPath).trans (List.suffix_cons c path)),
      List.not_mem_cons_of_ne_of_not_mem hBracket.symm cuts.isPath.plain⟩
  longest other hPrefix isPath := by
    have hTwo := cuts.isPath.two_le_length hPath
    rcases isPath.cases_of_prefix hPrefix with rfl | ⟨rfl, -⟩ | ⟨tail, rfl, hTail, more, -, -⟩
    · exact Nat.zero_le _
    · exact Nat.le_succ_of_le hTwo
    · exact Nat.succ_le_succ (cuts.longest tail hTail more)

/-- A scan gives its candidate back if there is no separator ahead, and else what is behind the
last one. -/
theorem cuts_behindPath (candidate text : List Char) :
    behindPath candidate text = candidate ∧ Cuts text [] text ∨
      ∃ path, path ≠ [] ∧ Cuts text path (behindPath candidate text) := by
  fun_induction behindPath candidate text with
  | case1 candidate => exact .inl ⟨rfl, cuts_nil⟩
  | case2 candidate rest => exact .inl ⟨rfl, cuts_bracket rest⟩
  | case3 candidate c rest hBracket hSeparator ih =>
      -- The scan goes on with the second colon, which may begin a separator of its own.
      obtain ⟨rfl, hNext⟩ := hSeparator
      obtain ⟨tail, rfl⟩ : ∃ tail, rest = ':' :: tail := by
        cases rest with
        | nil => simp at hNext
        | cons next tail => exact ⟨tail, by simpa using hNext⟩
      rcases ih with ⟨hLast, uncut⟩ | ⟨path, hPath, cuts⟩
      · rw [hLast]
        exact .inr ⟨separator, by simp [separator], uncut.separated⟩
      · exact .inr ⟨':' :: path, by simp, cuts.cons hPath hBracket⟩
  | case4 candidate c rest hBracket hSeparator ih =>
      rcases ih with ⟨hLast, uncut⟩ | ⟨path, hPath, cuts⟩
      · refine .inl ⟨hLast, uncut.passed fun hFirst => hSeparator ?_⟩
        obtain ⟨tail, hTail⟩ := hFirst
        cases hTail
        exact ⟨rfl, rfl⟩
      · exact .inr ⟨c :: path, by simp, cuts.cons hPath hBracket⟩

theorem exists_cuts (text : List Char) : ∃ path, Cuts text path (behindPath text text) := by
  rcases cuts_behindPath text text with ⟨hSame, uncut⟩ | ⟨path, -, cuts⟩
  · exact ⟨[], hSame.symm ▸ uncut⟩
  · exact ⟨path, cuts⟩

/-- There is one longest path. -/
theorem Cuts.unique (cuts : Cuts text path rest) (cuts' : Cuts text path' rest') :
    path = path' ∧ rest = rest' := by
  have hLength : path.length = path'.length := by
    apply Nat.le_antisymm
    · exact cuts'.longest path ⟨rest, cuts.whole⟩ cuts.isPath
    · exact cuts.longest path' ⟨rest', cuts'.whole⟩ cuts'.isPath
  exact List.append_inj (cuts.whole.trans cuts'.whole.symm) hLength

/-- Behind the longest path there is none. -/
theorem Cuts.uncut_rest (cuts : Cuts text path rest) : Cuts rest [] rest where
  whole := rfl
  isPath := isPath_nil
  longest other hPrefix isPath := by
    have hLonger : path ++ other <+: text := by
      rw [← cuts.whole]
      exact (List.prefix_append_right_inj path).mpr hPrefix
    have hLength := cuts.longest _ hLonger (cuts.isPath.append isPath)
    rw [List.length_append] at hLength
    simp only [List.length_nil]
    omega

/-- Generic arguments do not move the cut. -/
theorem Cuts.append_arguments (cuts : Cuts text path rest) (arguments : List Char) :
    Cuts (text ++ '<' :: arguments) path (rest ++ '<' :: arguments) where
  whole := by rw [← List.append_assoc, cuts.whole]
  isPath := cuts.isPath
  longest other hPrefix isPath := by
    refine cuts.longest other ?_ isPath
    rcases List.prefix_or_prefix_of_prefix hPrefix (List.prefix_append text _) with
      hShorter | ⟨tail, rfl⟩
    · exact hShorter
    · -- What goes beyond the text has the bracket in it.
      cases tail with
      | nil => simp
      | cons first tail =>
          rw [List.prefix_append_right_inj, List.cons_prefix_cons] at hPrefix
          exact absurd isPath.plain (by simp [hPrefix.1])

/-- The characters before the first opening bracket. -/
def stem (text : List Char) : List Char := text.takeWhile (· ≠ '<')

/-- The first opening bracket and all that follows. -/
def arguments (text : List Char) : List Char := text.dropWhile (· ≠ '<')

theorem Cuts.not_separator_infix_stem (cuts : Cuts text path rest) :
    ¬ separator <:+: stem rest := by
  rintro ⟨before, behind, hStem⟩
  have hPrefix : before ++ separator <+: stem rest := ⟨behind, hStem⟩
  have isPath : IsPath (before ++ separator) :=
    { closed := .inr (List.suffix_append before separator)
      plain := fun hBracket => by simpa using List.mem_takeWhile_imp (hPrefix.subset hBracket) }
  have hLength := cuts.uncut_rest.longest _ (hPrefix.trans (List.takeWhile_prefix _)) isPath
  simp [separator] at hLength

theorem Cuts.arguments_eq (cuts : Cuts text path rest) : arguments rest = arguments text := by
  have hPlain : ∀ c ∈ path, decide (c ≠ '<') = true := by
    intro c hMem
    simpa using ne_of_mem_of_not_mem hMem cuts.isPath.plain
  rw [← cuts.whole, arguments, arguments, List.dropWhile_append_of_pos hPlain]

variable {name fullName : String}

/-- How a name comes from the full name of a type. -/
structure IsNameOf (name fullName : String) : Prop where
  /-- The longest path is dropped, and nothing else. -/
  behindPath : ∃ path, Cuts fullName.toList path name.toList
  /-- No path is left in front of the generic arguments. -/
  bare : ¬ separator <:+: stem name.toList
  arguments : arguments name.toList = arguments fullName.toList

theorem toList_ofFullName (fullName : String) :
    (ofFullName fullName).toList = behindPath fullName.toList fullName.toList :=
  String.toList_ofList

theorem exists_cuts_ofFullName (fullName : String) :
    ∃ path, Cuts fullName.toList path (ofFullName fullName).toList := by
  rw [toList_ofFullName]
  exact exists_cuts fullName.toList

theorem eq_ofFullName_of_cuts (cuts : Cuts fullName.toList path name.toList) :
    name = ofFullName fullName := by
  obtain ⟨path', cuts'⟩ := exists_cuts_ofFullName fullName
  exact String.toList_inj.mp (cuts.unique cuts').2

theorem isNameOf_iff : IsNameOf name fullName ↔ name = ofFullName fullName := by
  constructor
  · rintro ⟨⟨path, cuts⟩, -, -⟩
    exact eq_ofFullName_of_cuts cuts
  · rintro rfl
    obtain ⟨path, cuts⟩ := exists_cuts_ofFullName fullName
    exact ⟨⟨path, cuts⟩, cuts.not_separator_infix_stem, cuts.arguments_eq⟩

/-- A name has no path that could be dropped once more. -/
theorem ofFullName_ofFullName (fullName : String) :
    ofFullName (ofFullName fullName) = ofFullName fullName := by
  obtain ⟨path, cuts⟩ := exists_cuts_ofFullName fullName
  exact (eq_ofFullName_of_cuts cuts.uncut_rest).symm

/-- Generic arguments are kept as they are. -/
theorem ofFullName_append_arguments (front arguments : String) :
    ofFullName (front ++ "<" ++ arguments) = ofFullName front ++ "<" ++ arguments := by
  obtain ⟨path, cuts⟩ := exists_cuts_ofFullName front
  have hCuts : Cuts (front ++ "<" ++ arguments).toList path
      (ofFullName front ++ "<" ++ arguments).toList := by
    simpa [String.toList_append] using cuts.append_arguments arguments.toList
  exact (eq_ofFullName_of_cuts hCuts).symm

/-- A path within generic arguments stays, and colons side by side are all dropped. -/
example :
    ofFullName "std::vec::Vec<app::Order>" = "Vec<app::Order>" ∧ ofFullName "a:::b" = "b" ∧
      ofFullName ":a" = ":a" := by decide

end BusEndpoint.MessageType

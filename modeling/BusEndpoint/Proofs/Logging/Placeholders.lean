import BusEndpoint.Logging.Entry

/-! The text of a log entry with arguments. A message is cut at its placeholders in one
way only, however its braces stand, and the arguments are put between the pieces as they
are: nothing of them is read again. -/

namespace BusEndpoint.LogEntry

/-- The placeholder as a text. -/
def mark : String := String.ofList placeholder

/-- A message in pieces: the one before its first placeholder, and those that follow a
placeholder each. -/
structure Template where
  first : String
  rest : List String

namespace Template

/-- No piece has a placeholder in it. -/
def IsCut (template : Template) : Prop :=
  ∀ piece ∈ template.first :: template.rest, ¬ placeholder <:+: piece.toList

/-- The message that was cut. -/
def message (template : Template) : String :=
  template.first ++ String.join (template.rest.map fun piece => mark ++ piece)

/-- The pieces with an argument between each two, as far as there are arguments. -/
def fillWith (template : Template) (args : List String) : String :=
  template.first ++
    String.join (template.rest.mapIdx fun index piece => args.getD index mark ++ piece)

variable {template other : Template} {first piece : String} {rest : List String}

theorem message_cons :
    (Template.mk first (piece :: rest)).message = first ++ (mark ++ (mk piece rest).message) := by
  simp [message, String.append_assoc]

theorem fillWith_cons (args : List String) :
    (Template.mk first (piece :: rest)).fillWith args =
      first ++ (args.headD mark ++ (mk piece rest).fillWith args.tail) := by
  have hHead : args.getD 0 mark = args.headD mark := by cases args <;> rfl
  have hTail (index : Nat) : args.getD (index + 1) mark = args.tail.getD index mark := by
    cases args <;> rfl
  simp only [fillWith, List.mapIdx_cons, String.join_cons, hHead, hTail, String.append_assoc]

/-- Arguments without a placeholder are left out. -/
theorem fillWith_take (template : Template) (args : List String) :
    template.fillWith (args.take template.rest.length) = template.fillWith args := by
  obtain ⟨first, rest⟩ := template
  induction rest generalizing first args with
  | nil => rfl
  | cons piece rest ih =>
      cases args with
      | nil => rw [List.take_nil]
      | cons arg args =>
          rw [List.length_cons, List.take_succ_cons, fillWith_cons, fillWith_cons]
          exact congrArg (fun filled => first ++ (arg ++ filled)) (ih args piece)

theorem fillWith_nil (template : Template) : template.fillWith [] = template.message := by
  obtain ⟨first, rest⟩ := template
  induction rest generalizing first with
  | nil => rfl
  | cons piece rest ih =>
      rw [fillWith_cons, message_cons, ← ih piece]
      rfl

end Template

section Scan

variable {piece rest : List Char} {c : Char}

theorem fill_cons (hMark : ¬ placeholder <+: c :: rest) (args : List String) :
    fill (c :: rest) args = c :: fill rest args := by
  have hOther (tail : List Char) (hFirst : c = '\x7b') (hNext : rest = '\x7d' :: tail) : False := by
    subst hFirst hNext
    exact hMark (List.prefix_append placeholder tail)
  rw [fill]
  · exact fun tail _ _ _ => hOther tail
  · exact fun tail _ => hOther tail

/-- Nothing is put into a text without a placeholder. -/
theorem fill_free (free : ¬ placeholder <:+: piece) (args : List String) :
    fill piece args = piece := by
  induction piece with
  | nil => rfl
  | cons c rest ih =>
      have hMark : ¬ placeholder <+: c :: rest := fun h => free h.isInfix
      have hRest : ¬ placeholder <:+: rest := fun h => free (List.infix_cons h)
      rw [fill_cons hMark, ih hRest]

/-- Up to the first placeholder nothing is put in. -/
theorem fill_free_append (free : ¬ placeholder <:+: piece) (args : List String) :
    fill (piece ++ (placeholder ++ rest)) args = piece ++ fill (placeholder ++ rest) args := by
  induction piece with
  | nil => rfl
  | cons c tail ih =>
      have hMark : ¬ placeholder <+: c :: (tail ++ (placeholder ++ rest)) := by
        intro hPrefix
        rw [placeholder, List.cons_prefix_cons] at hPrefix
        cases tail with
        | nil => simp at hPrefix
        | cons next tail =>
            obtain ⟨rfl, hNext⟩ := hPrefix
            rw [List.cons_append, List.cons_prefix_cons] at hNext
            obtain ⟨rfl, -⟩ := hNext
            exact free (List.prefix_append placeholder tail).isInfix
      have hRest : ¬ placeholder <:+: tail := fun h => free (List.infix_cons h)
      rw [List.cons_append, fill_cons hMark, ih hRest, List.cons_append]

theorem fill_placeholder (args : List String) :
    fill (placeholder ++ rest) args = (args.headD mark).toList ++ fill rest args.tail := by
  cases args <;> simp [placeholder, mark, fill]

theorem eq_nil_of_free {before behind behind' : List Char}
    (free : ¬ placeholder <:+: piece ++ before)
    (hSame : placeholder ++ behind = before ++ (placeholder ++ behind')) : before = [] := by
  cases before with
  | nil => rfl
  | cons x before =>
      cases before with
      | nil => simp [placeholder] at hSame
      | cons y before =>
          obtain ⟨rfl, rfl, -⟩ : '\x7b' = x ∧ '\x7d' = y ∧ _ := by
            simpa [placeholder] using hSame
          exact absurd ⟨piece, before, by simp [placeholder]⟩ free

/-- The first placeholder of a text stands in one place. -/
theorem eq_of_free_append {piece' rest' : List Char} (free : ¬ placeholder <:+: piece)
    (free' : ¬ placeholder <:+: piece')
    (hSame : piece ++ (placeholder ++ rest) = piece' ++ (placeholder ++ rest')) :
    piece = piece' ∧ rest = rest' := by
  rcases List.append_eq_append_iff.mp hSame with ⟨between, hPiece, hRest⟩ | ⟨between, hPiece, hRest⟩
  · obtain rfl := eq_nil_of_free (hPiece ▸ free') hRest
    exact ⟨by simp [hPiece], List.append_cancel_left hRest⟩
  · obtain rfl := eq_nil_of_free (hPiece ▸ free) hRest
    exact ⟨by simp [hPiece], (List.append_cancel_left hRest).symm⟩

end Scan

namespace Template

variable {template other : Template} {first piece : String} {rest : List String}

theorem toList_mark : mark.toList = placeholder := String.toList_ofList

theorem isCut_cons_iff : (Template.mk first (piece :: rest)).IsCut ↔
    ¬ placeholder <:+: first.toList ∧ (mk piece rest).IsCut :=
  List.forall_mem_cons

/-- The arguments are put in from left to right. -/
theorem IsCut.toList_fillWith (cut : template.IsCut) (args : List String) :
    (template.fillWith args).toList = fill template.message.toList args := by
  obtain ⟨first, rest⟩ := template
  induction rest generalizing first args with
  | nil =>
      have free := cut first (by simp)
      simp [fillWith, message, fill_free free]
  | cons piece rest ih =>
      obtain ⟨free, hRest⟩ := isCut_cons_iff.mp cut
      rw [fillWith_cons, message_cons]
      simp only [String.toList_append, toList_mark, fill_free_append free, fill_placeholder,
        ih args.tail piece hRest]

theorem exists_cut_placeholder {text : List Char}
    (h : ∃ template : Template, template.IsCut ∧ template.message.toList = text) :
    ∃ template : Template, template.IsCut ∧ template.message.toList = placeholder ++ text := by
  obtain ⟨⟨first, rest⟩, cut, hText⟩ := h
  have hEmpty : ¬ placeholder <:+: "".toList := by simp [placeholder]
  refine ⟨⟨"", first :: rest⟩, isCut_cons_iff.mpr ⟨hEmpty, cut⟩, ?_⟩
  simp [message_cons, toList_mark, hText]

theorem exists_cut_cons {text : List Char} {c : Char} (hMark : ¬ placeholder <+: c :: text)
    (h : ∃ template : Template, template.IsCut ∧ template.message.toList = text) :
    ∃ template : Template, template.IsCut ∧ template.message.toList = c :: text := by
  obtain ⟨⟨first, rest⟩, cut, hText⟩ := h
  obtain ⟨free, hRest⟩ := List.forall_mem_cons.mp cut
  have hFirst : (String.ofList [c] ++ first).toList = c :: first.toList := by simp
  have hPrefix : c :: first.toList <+: c :: text := by
    rw [← hText]
    simp [message]
  refine ⟨⟨String.ofList [c] ++ first, rest⟩, List.forall_mem_cons.mpr ⟨?_, hRest⟩, ?_⟩
  · rw [hFirst, List.infix_cons_iff, not_or]
    exact ⟨fun h => hMark (h.trans hPrefix), free⟩
  · rw [← hText]
    simp [message]

/-- Every message can be cut. -/
theorem exists_cut (text : List Char) (args : List String) :
    ∃ template : Template, template.IsCut ∧ template.message.toList = text := by
  -- The scan of the message finds the cuts, whatever it puts in there.
  fun_induction fill text args with
  | case1 rest arg args ih => exact exists_cut_placeholder ih
  | case2 rest ih => exact exists_cut_placeholder ih
  | case3 c rest args hArg hNone ih =>
      refine exists_cut_cons (fun hPrefix => ?_) ih
      rw [placeholder, List.cons_prefix_cons] at hPrefix
      obtain ⟨rfl, tail, rfl⟩ := hPrefix
      cases args with
      | nil => exact hNone tail rfl rfl rfl
      | cons arg args => exact hArg tail arg args rfl rfl rfl
  | case4 =>
      have hEmpty : ¬ placeholder <:+: "".toList := by simp [placeholder]
      exact ⟨⟨"", []⟩, List.forall_mem_singleton.mpr hEmpty, rfl⟩

/-- A message without a placeholder is no message with one. -/
theorem IsCut.message_ne {first' : String} (cut : (mk first []).IsCut) :
    (mk first []).message ≠ (mk first' (piece :: rest)).message := by
  intro hMessage
  have hText := congrArg String.toList hMessage
  simp only [message_cons, String.toList_append, toList_mark] at hText
  exact cut first (by simp) ⟨_, _, by simpa [message] using hText.symm⟩

/-- A message is cut in one way. -/
theorem IsCut.unique (cut : template.IsCut) (cut' : other.IsCut)
    (hMessage : template.message = other.message) : template = other := by
  obtain ⟨first, rest⟩ := template
  obtain ⟨first', rest'⟩ := other
  -- Piece by piece: the first placeholder of both is the same, and so are the remainders.
  induction rest generalizing first first' rest' with
  | nil =>
      cases rest' with
      | nil => simpa [message] using hMessage
      | cons piece rest' => exact absurd hMessage cut.message_ne
  | cons piece rest ih =>
      cases rest' with
      | nil => exact absurd hMessage.symm cut'.message_ne
      | cons piece' rest' =>
          obtain ⟨free, hRest⟩ := isCut_cons_iff.mp cut
          obtain ⟨free', hRest'⟩ := isCut_cons_iff.mp cut'
          have hText := congrArg String.toList hMessage
          simp only [message_cons, String.toList_append, toList_mark] at hText
          obtain ⟨hFirst, hOthers⟩ := eq_of_free_append free free' hText
          have hTail := ih piece hRest piece' rest' hRest' (String.toList_inj.mp hOthers)
          injection hTail with hPiece hRests
          rw [String.toList_inj.mp hFirst, hPiece, hRests]

end Template

/-- How the text of an entry comes from its message and its arguments. -/
structure IsRendered (entry : LogEntry) (text : String) : Prop where
  /-- The placeholders of the message are told in one way. -/
  cut : ∃ template : Template, template.IsCut ∧ template.message = entry.message ∧
    ∀ other : Template, other.IsCut → other.message = entry.message → other = template
  filled : ∀ template : Template, template.IsCut → template.message = entry.message →
    ∀ args, entry.args = some args → text = template.fillWith args
  surplus : ∀ template : Template, template.IsCut → template.message = entry.message →
    ∀ args, entry.args = some args → text = template.fillWith (args.take template.rest.length)
  unfilled : entry.args = none ∨ entry.args = some [] → text = entry.message

theorem render_eq_fillWith {entry : LogEntry} {template : Template} {args : List String}
    (cut : template.IsCut) (hMessage : template.message = entry.message)
    (hArgs : entry.args = some args) : entry.render = template.fillWith args := by
  rw [render, hArgs, ← String.toList_inj, String.toList_ofList, cut.toList_fillWith, hMessage]

theorem isRendered_render (entry : LogEntry) : entry.IsRendered entry.render where
  cut := by
    obtain ⟨template, cut, hText⟩ := Template.exists_cut entry.message.toList []
    have hMessage := String.toList_inj.mp hText
    refine ⟨template, cut, hMessage, fun other cut' hOther => ?_⟩
    exact cut'.unique cut (hOther.trans hMessage.symm)
  filled template cut hMessage args hArgs := render_eq_fillWith cut hMessage hArgs
  surplus template cut hMessage args hArgs := by
    rw [template.fillWith_take]
    exact render_eq_fillWith cut hMessage hArgs
  unfilled hArgs := by
    rcases hArgs with hNone | hEmpty
    · rw [render, hNone]
    · obtain ⟨template, cut, hText⟩ := Template.exists_cut entry.message.toList []
      have hMessage := String.toList_inj.mp hText
      rw [render_eq_fillWith cut hMessage hEmpty, template.fillWith_nil, hMessage]

/-- Neither the braces around the first placeholder nor those of its argument make
another one. -/
example : ({ level := .info, message := "\x7b\x7b\x7d\x7d, \x7b\x7d\x7b\x7d"
             args := some ["\x7b\x7d", "\x7d"] } : LogEntry).render =
    "\x7b\x7b\x7d\x7d, \x7d\x7b\x7d" := by decide

end BusEndpoint.LogEntry

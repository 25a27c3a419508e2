import BusEndpoint.InMemory.Transport
import Mathlib.Data.List.Perm.Basic

/-! What a transport holds. The messages of all queues are counted together;
putting a message into a queue adds it, taking one out removes it, and releasing
the deferred messages moves them into the queues. -/

namespace BusEndpoint

/-- The values of one name, and those of all others. -/
theorem OrderedByName.flatMap_perm {β : Type} {entries : List (String × List β)}
    (ordered : OrderedByName entries) (name : String) :
    (entries.flatMap (·.2)).Perm ((findEntry name entries).getD [] ++
      (entries.filter fun e => !decide (e.1 = name)).flatMap (·.2)) := by
  induction entries with
  | nil => exact .refl _
  | cons head rest ih =>
      obtain ⟨k, values⟩ := head
      obtain ⟨hHead, hRest⟩ := List.pairwise_cons.mp ordered
      by_cases hName : k = name
      · subst hName
        have hOthers : rest.filter (fun e => !decide (e.1 = k)) = rest := by
          apply List.filter_eq_self.mpr
          intro e he
          have hLater : e.1 ≠ k := fun hSame => String.lt_irrefl k (hSame ▸ hHead e he)
          simp [hLater]
        simp [findEntry, hOthers]
      · simp only [List.flatMap_cons, findEntry, List.filter_cons, decide_false, Bool.not_false,
          if_true, hName]
        exact ((ih hRest).append_left values).trans (List.perm_append_comm_assoc _ _ _)

/-- Every value is one of some name. -/
theorem OrderedByName.exists_of_mem_flatMap {β : Type} {entries : List (String × List β)}
    {value : β} (ordered : OrderedByName entries) (hMem : value ∈ entries.flatMap (·.2)) :
    ∃ name, value ∈ (findEntry name entries).getD [] := by
  induction entries with
  | nil => cases hMem
  | cons head rest ih =>
      obtain ⟨k, values⟩ := head
      obtain ⟨hHead, hRest⟩ := List.pairwise_cons.mp ordered
      rcases List.mem_append.mp hMem with hFirst | hLater
      · exact ⟨k, by simpa [findEntry] using hFirst⟩
      · obtain ⟨name, hName⟩ := ih hRest hLater
        have hOther : k ≠ name := by
          rintro rfl
          rw [findEntry_eq_none_of_lt hHead] at hName
          cases hName
        exact ⟨name, by simpa [findEntry, hOther] using hName⟩

theorem Dictionary.erase_insert {β : Type} (d : Dictionary β) (name : String) (value : β) :
    (d.insert name value).erase name = d.erase name := by
  apply ext_get?
  intro query
  rw [get?_erase, get?_erase, get?_insert]
  split <;> rfl

namespace Transport

variable {transport next : Transport} {queue other : String} {message : WireMessage}

/-- The messages in the queues. -/
def queued (transport : Transport) : List WireMessage := transport.queues.entries.flatMap (·.2)

/-- The messages in the queues but one. -/
def queuedBut (queue : String) (transport : Transport) : List WireMessage :=
  (transport.queues.erase queue).entries.flatMap (·.2)

/-- The messages that are deferred. -/
def waiting (transport : Transport) : List WireMessage := transport.deferred.map (·.message)

theorem queued_perm (transport : Transport) (queue : String) :
    transport.queued.Perm (transport.contents queue ++ transport.queuedBut queue) :=
  transport.queues.ordered.flatMap_perm queue

theorem queuedBut_setContents (transport : Transport) (queue : String)
    (messages : List WireMessage) :
    (transport.setContents queue messages).queuedBut queue = transport.queuedBut queue := by
  rw [queuedBut, setContents, Dictionary.erase_insert, queuedBut]

theorem queued_setContents (transport : Transport) (queue : String)
    (messages : List WireMessage) :
    (transport.setContents queue messages).queued.Perm
      (messages ++ transport.queuedBut queue) := by
  have hSplit := (transport.setContents queue messages).queued_perm queue
  rwa [contents_setContents, if_pos rfl, queuedBut_setContents] at hSplit

/-- Putting a message into a queue adds it to what is queued. -/
theorem queued_enqueue (transport : Transport) (queue : String) (message : WireMessage) :
    (transport.enqueue queue message).queued.Perm (message :: transport.queued) :=
  calc List.Perm (transport.enqueue queue message).queued
        (transport.contents queue ++ [message] ++ transport.queuedBut queue) :=
      transport.queued_setContents queue _
    List.Perm _ (message :: (transport.contents queue ++ transport.queuedBut queue)) := by
      rw [List.append_assoc]
      exact List.perm_middle
    List.Perm _ (message :: transport.queued) := (transport.queued_perm queue).symm.cons message

/-- Taking a message out of a queue removes it from what is queued. -/
theorem queued_receive (received : transport.receive queue = (some message, next)) :
    transport.queued.Perm (message :: next.queued) ∧ next.waiting = transport.waiting := by
  rw [receive] at received
  split at received
  · cases received
  · rename_i head rest hContents
    cases received
    have hSplit := transport.queued_perm queue
    rw [hContents] at hSplit
    exact ⟨hSplit.trans ((transport.queued_setContents queue rest).symm.cons message), rfl⟩

/-- A released message is a queued one, and none stays behind. -/
theorem queued_releaseDeferred (transport : Transport) :
    transport.releaseDeferred.2.queued.Perm (transport.queued ++ transport.waiting) ∧
      transport.releaseDeferred.2.waiting = [] := by
  have hReleased (deferred : List DeferredMessage) (transport : Transport) :
      (deferred.foldl (fun t d => t.enqueue d.queue d.message) transport).queued.Perm
          (transport.queued ++ deferred.map (·.message)) ∧
        (deferred.foldl (fun t d => t.enqueue d.queue d.message) transport).waiting =
          transport.waiting := by
    induction deferred generalizing transport with
    | nil => simp
    | cons head rest ih =>
        obtain ⟨hQueued, hWaiting⟩ := ih (transport.enqueue head.queue head.message)
        refine ⟨?_, hWaiting⟩
        refine hQueued.trans (((transport.queued_enqueue _ _).append_right _).trans ?_)
        exact List.perm_middle.symm
  exact hReleased transport.deferred { transport with deferred := [] }

theorem exists_mem_contents (hMem : message ∈ transport.queued) :
    ∃ queue, message ∈ transport.contents queue :=
  transport.queues.ordered.exists_of_mem_flatMap hMem

section Counts

variable {β : Type} [BEq β] (f : WireMessage → β) (value : β)

theorem count_contents_le (transport : Transport) (queue : String) :
    ((transport.contents queue).map f).count value ≤ (transport.queued.map f).count value := by
  rw [((transport.queued_perm queue).map f).count_eq, List.map_append, List.count_append]
  exact Nat.le_add_right _ _

/-- What is in two queues is queued for both. -/
theorem count_contents_add_le (transport : Transport) (hOther : queue ≠ other) :
    ((transport.contents queue).map f).count value + ((transport.contents other).map f).count value ≤
      (transport.queued.map f).count value := by
  let others : Transport := { transport with queues := transport.queues.erase queue }
  have hContents : others.contents other = transport.contents other := by
    simp only [others, contents, Dictionary.get?_erase, if_neg hOther]
  have hOthers := count_contents_le f value others other
  rw [hContents] at hOthers
  rw [((transport.queued_perm queue).map f).count_eq, List.map_append, List.count_append]
  exact Nat.add_le_add_left hOthers _

end Counts

end Transport

end BusEndpoint

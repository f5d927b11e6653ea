import Usbipdcpp.Foundation.FifoLedger
import Usbipdcpp.Foundation.FirstMatch

namespace Usbipdcpp.Foundation.KeyedQueues

open Usbipdcpp.Foundation.FifoLedger Usbipdcpp.Foundation.KeyedList

universe u v w

variable {κ : Type u} [DecidableEq κ] {α : Type v}

/-- A queue for each of some keys, in the order in which a traversal meets them. -/
abbrev Queues (κ : Type u) (α : Type v) : Type (max u v) := List (κ × List α)

namespace Queues

def queue (k : κ) (queues : Queues κ α) : List α := valueOf [] k queues

def enqueue (k : κ) (a : α) (queues : Queues κ α) : Queues κ α :=
  upsert k (queue k queues ++ [a]) queues

def dequeue (k : κ) (queues : Queues κ α) : Option (α × Queues κ α) :=
  match queue k queues with
  | [] => none
  | a :: rest => some (a, upsert k rest queues)

/-- The front of the first queue that has one. -/
def dequeueAny : Queues κ α → Option ((κ × α) × Queues κ α)
  | [] => none
  | (k, []) :: queues => (dequeueAny queues).map fun (taken, rest) => (taken, (k, []) :: rest)
  | (k, a :: queue) :: queues => some ((k, a), (k, queue) :: queues)

/-- Takes the first element with `p` out of a queue. -/
def takeFirst (p : α → Bool) : List α → Option (α × List α)
  | [] => none
  | a :: queue => if p a then some (a, queue)
      else (takeFirst p queue).map fun (taken, rest) => (taken, a :: rest)

/-- Takes the first element with `p` out of the first queue that has one. -/
def takeFirstOfAny (p : α → Bool) : Queues κ α → Option ((κ × α) × Queues κ α)
  | [] => none
  | (k, queue) :: queues =>
      match takeFirst p queue with
      | some (a, rest) => some ((k, a), (k, rest) :: queues)
      | none => (takeFirstOfAny p queues).map fun (taken, rest) => (taken, (k, queue) :: rest)

section FirstMatch

open Usbipdcpp.Foundation.FirstMatch

theorem eraseFirst_map {α β : Type} (f : α → β) (p : β → Bool) (l : List α) :
    eraseFirst p (l.map f) =
      (takeFirst (fun a => p (f a)) l).map fun taken => taken.2.map f := by
  induction l with
  | nil => rfl
  | cons a l ih =>
      unfold takeFirst
      unfold eraseFirst at ih ⊢
      cases hp : p (f a) with
      | true => simp [hp]
      | false =>
          simp only [List.map_cons, List.any_cons, hp, Bool.false_or, List.eraseP_cons,
            Bool.false_eq_true, if_false, Option.map_map]
          split at ih
          next hany =>
            obtain ⟨taken, htaken, hrest⟩ := Option.map_eq_some_iff.mp ih.symm
            rw [if_pos hany, htaken, Option.map_some]
            simp [hrest]
          next hany =>
            rw [if_neg hany, Option.map_eq_none_iff.mp ih.symm]
            rfl

theorem updateFirstValue_map {κ α β : Type} (f : α → β) (p : β → Bool) (queues : Queues κ α) :
    updateFirstValue (eraseFirst p) (queues.map fun entry => (entry.1, entry.2.map f)) =
      (takeFirstOfAny (fun a => p (f a)) queues).map fun taken =>
        taken.2.map fun entry => (entry.1, entry.2.map f) := by
  induction queues with
  | nil => rfl
  | cons entry queues ih =>
      obtain ⟨k, queue⟩ := entry
      have herase := eraseFirst_map f p queue
      unfold takeFirstOfAny
      unfold updateFirstValue at ih ⊢
      rw [List.map_cons, updateFirst]
      dsimp only
      rw [herase]
      cases takeFirst (fun a => p (f a)) queue with
      | some taken => rfl
      | none =>
          simp only [Option.map_none, ih, Option.map_map]
          rfl

end FirstMatch

variable {queues queues' : Queues κ α} {k k' : κ} {a : α} {before after : List α}

/-- `a` has been taken out of the queue of `k`, between `before` and `after`. -/
structure Without (queues queues' : Queues κ α) (k : κ) (before : List α) (a : α)
    (after : List α) : Prop where
  distinct : Distinct Prod.fst queues'
  queue_eq : queue k queues = before ++ a :: after
  left : ∀ k', queue k' queues' = if k' = k then before ++ after else queue k' queues

theorem Without.mem (h : Without queues queues' k before a after) : a ∈ queue k queues := by
  rw [h.queue_eq]
  exact List.mem_append_right _ List.mem_cons_self

theorem Without.mem_of_mem {b : α} (h : Without queues queues' k before a after)
    (hmem : b ∈ queue k' queues') : b ∈ queue k' queues := by
  rw [h.left] at hmem
  split at hmem
  next heq =>
    rw [heq, h.queue_eq]
    rcases List.mem_append.mp hmem with hmem | hmem
    · exact List.mem_append_left _ hmem
    · exact List.mem_append_right _ (List.mem_cons_of_mem _ hmem)
  next => exact hmem

theorem distinct_enqueue (hdistinct : Distinct Prod.fst queues) :
    Distinct Prod.fst (enqueue k a queues) :=
  distinct_upsert hdistinct

theorem queue_enqueue :
    queue k' (enqueue k a queues) = if k' = k then queue k' queues ++ [a] else queue k' queues := by
  rw [enqueue, queue, valueOf_upsert]
  split
  next heq => rw [heq]
  next => rfl

theorem without_of_dequeue (hdistinct : Distinct Prod.fst queues)
    (h : dequeue k queues = some (a, queues')) :
    ∃ after, Without queues queues' k [] a after := by
  unfold dequeue at h
  split at h
  next => cases h
  next first after hqueue =>
    obtain ⟨rfl, rfl⟩ := Prod.mk.inj (Option.some.inj h)
    exact ⟨after, distinct_upsert hdistinct, hqueue, fun k' => valueOf_upsert []⟩

theorem queue_cons (queue' : List α) :
    queue k' ((k, queue') :: queues) = if k = k' then queue' else queue k' queues :=
  valueOf_cons [] _

theorem queue_eq_nil_of_notMem (h : k ∉ queues.map Prod.fst) : queue k queues = [] := by
  have hnone : lookup Prod.fst k queues = none := lookup_eq_none_iff.mpr fun entry hmem heq =>
    h (List.mem_map.mpr ⟨entry, hmem, heq⟩)
  rw [queue, valueOf, hnone]
  rfl

/-- Taking an element out of the queue at the head of the traversal. -/
theorem without_head (hdistinct : Distinct Prod.fst ((k, before ++ a :: after) :: queues)) :
    Without ((k, before ++ a :: after) :: queues) ((k, before ++ after) :: queues) k before a
      after where
  distinct := hdistinct
  queue_eq := by rw [queue_cons, if_pos rfl]
  left k' := by
    rw [queue_cons, queue_cons]
    rcases eq_or_ne k k' with rfl | hne
    · simp
    · rw [if_neg hne, if_neg hne.symm, if_neg hne]

/-- Taking an element out of a queue behind the head of the traversal. -/
theorem Without.cons {queue' : List α} (hdistinct : Distinct Prod.fst ((k', queue') :: queues))
    (hkeys : queues'.map Prod.fst = queues.map Prod.fst)
    (h : Without queues queues' k before a after) :
    Without ((k', queue') :: queues) ((k', queue') :: queues') k before a after := by
  have hcons := List.nodup_cons.mp hdistinct
  have hne : k' ≠ k := by
    rintro rfl
    have hnone := queue_eq_nil_of_notMem hcons.1
    rw [h.queue_eq] at hnone
    simp at hnone
  refine ⟨?_, ?_, fun k'' => ?_⟩
  · rw [Distinct, List.map_cons, hkeys]
    exact hdistinct
  · rw [queue_cons, if_neg hne, h.queue_eq]
  · rw [queue_cons, queue_cons, h.left]
    rcases eq_or_ne k' k'' with rfl | hne'
    · simp [hne]
    · simp [hne']

omit [DecidableEq κ] in
theorem keys_dequeueAny {taken : κ × α} (h : dequeueAny queues = some (taken, queues')) :
    queues'.map Prod.fst = queues.map Prod.fst := by
  induction queues generalizing queues' with
  | nil => cases h
  | cons entry queues ih =>
      obtain ⟨k, _ | ⟨a, queue⟩⟩ := entry
      · obtain ⟨⟨taken', rest⟩, hrest, heq⟩ := Option.map_eq_some_iff.mp h
        obtain ⟨rfl, rfl⟩ := Prod.mk.inj heq
        rw [List.map_cons, List.map_cons, ih hrest]
      · obtain ⟨-, rfl⟩ := Prod.mk.inj (Option.some.inj h)
        rfl

theorem without_of_dequeueAny (hdistinct : Distinct Prod.fst queues)
    (h : dequeueAny queues = some ((k, a), queues')) :
    ∃ after, Without queues queues' k [] a after := by
  induction queues generalizing queues' with
  | nil => cases h
  | cons entry queues ih =>
      obtain ⟨k', _ | ⟨a', queue⟩⟩ := entry
      · obtain ⟨⟨taken, rest⟩, hrest, heq⟩ := Option.map_eq_some_iff.mp h
        obtain ⟨rfl, rfl⟩ := Prod.mk.inj heq
        obtain ⟨after, hwithout⟩ := ih (List.nodup_cons.mp hdistinct).2 hrest
        exact ⟨after, hwithout.cons hdistinct (keys_dequeueAny hrest)⟩
      · obtain ⟨htaken, rfl⟩ := Prod.mk.inj (Option.some.inj h)
        obtain ⟨rfl, rfl⟩ := Prod.mk.inj htaken
        exact ⟨queue, @without_head _ _ _ _ _ _ [] _ hdistinct⟩

/-- The number of elements in all queues. -/
def size : Queues κ α → Nat
  | [] => 0
  | (_, queue) :: queues => queue.length + size queues

omit [DecidableEq κ] in
theorem size_dequeueAny {taken : κ × α} (h : dequeueAny queues = some (taken, queues')) :
    size queues = size queues' + 1 := by
  induction queues generalizing queues' with
  | nil => cases h
  | cons entry queues ih =>
      obtain ⟨k, _ | ⟨a, queue⟩⟩ := entry
      · obtain ⟨⟨taken', rest⟩, hrest, heq⟩ := Option.map_eq_some_iff.mp h
        obtain ⟨rfl, rfl⟩ := Prod.mk.inj heq
        simpa [size] using ih hrest
      · obtain ⟨-, rfl⟩ := Prod.mk.inj (Option.some.inj h)
        simp only [size, List.length_cons]
        omega

omit [DecidableEq κ] in
theorem dequeueAny_eq_none_iff : dequeueAny queues = none ↔ size queues = 0 := by
  induction queues with
  | nil => simp [dequeueAny, size]
  | cons entry queues ih =>
      obtain ⟨k, _ | ⟨a, queue⟩⟩ := entry
      · simpa [dequeueAny, size] using ih
      · simp [dequeueAny, size]

omit [DecidableEq κ] in
theorem size_perm (hperm : queues.Perm queues') : size queues' = size queues := by
  induction hperm with
  | nil => rfl
  | cons entry _ ih => simp only [size, ih]
  | swap entry entry' queues => simp only [size, Nat.add_left_comm]
  | trans _ _ ih ih' => exact ih'.trans ih

theorem queue_perm (hdistinct : Distinct Prod.fst queues) (hperm : queues.Perm queues') :
    queue k queues' = queue k queues :=
  valueOf_perm hdistinct hperm []

theorem takeFirst_cases {p : α → Bool} {queue rest : List α}
    (h : takeFirst p queue = some (a, rest)) :
    ∃ before after, queue = before ++ a :: after ∧ rest = before ++ after ∧ p a = true ∧
      ∀ b ∈ before, p b = false := by
  induction queue generalizing rest with
  | nil => cases h
  | cons b queue ih =>
      unfold takeFirst at h
      split at h
      next hb =>
        obtain ⟨rfl, rfl⟩ := Prod.mk.inj (Option.some.inj h)
        exact ⟨[], queue, rfl, rfl, hb, fun _ hmem => absurd hmem List.not_mem_nil⟩
      next hb =>
        obtain ⟨⟨taken, left⟩, hleft, heq⟩ := Option.map_eq_some_iff.mp h
        obtain ⟨rfl, rfl⟩ := Prod.mk.inj heq
        obtain ⟨before, after, rfl, rfl, hp, hbefore⟩ := ih hleft
        refine ⟨b :: before, after, rfl, rfl, hp, fun c hc => ?_⟩
        rcases List.mem_cons.mp hc with rfl | hmem
        · simpa using hb
        · exact hbefore c hmem

theorem takeFirst_eq_none_iff {p : α → Bool} {queue : List α} :
    takeFirst p queue = none ↔ ∀ a ∈ queue, p a = false := by
  induction queue with
  | nil => simp [takeFirst]
  | cons a queue ih =>
      unfold takeFirst
      cases hp : p a with
      | true => simp [hp]
      | false => simp [hp, ih]

omit [DecidableEq κ] in
theorem takeFirstOfAny_eq_none_of_size {p : α → Bool} (h : size queues = 0) :
    takeFirstOfAny p queues = none := by
  induction queues with
  | nil => rfl
  | cons entry queues ih =>
      obtain ⟨k, queue⟩ := entry
      obtain ⟨hqueue, hqueues⟩ : queue = [] ∧ size queues = 0 := by simpa [size] using h
      rw [hqueue, takeFirstOfAny, takeFirst, ih hqueues]
      rfl

omit [DecidableEq κ] in
theorem keys_takeFirstOfAny {p : α → Bool} {taken : κ × α}
    (h : takeFirstOfAny p queues = some (taken, queues')) :
    queues'.map Prod.fst = queues.map Prod.fst := by
  induction queues generalizing queues' with
  | nil => cases h
  | cons entry queues ih =>
      obtain ⟨k, queue⟩ := entry
      unfold takeFirstOfAny at h
      split at h
      next =>
        obtain ⟨-, rfl⟩ := Prod.mk.inj (Option.some.inj h)
        rfl
      next =>
        obtain ⟨⟨taken', rest⟩, hrest, heq⟩ := Option.map_eq_some_iff.mp h
        obtain ⟨rfl, rfl⟩ := Prod.mk.inj heq
        rw [List.map_cons, List.map_cons, ih hrest]

theorem without_of_takeFirstOfAny {p : α → Bool} (hdistinct : Distinct Prod.fst queues)
    (h : takeFirstOfAny p queues = some ((k, a), queues')) :
    ∃ before after, Without queues queues' k before a after ∧ p a = true := by
  induction queues generalizing queues' with
  | nil => cases h
  | cons entry queues ih =>
      obtain ⟨k', queue⟩ := entry
      unfold takeFirstOfAny at h
      split at h
      next taken rest htake =>
        obtain ⟨htaken, rfl⟩ := Prod.mk.inj (Option.some.inj h)
        obtain ⟨rfl, rfl⟩ := Prod.mk.inj htaken
        obtain ⟨before, after, rfl, rfl, hp, -⟩ := takeFirst_cases htake
        exact ⟨before, after, without_head hdistinct, hp⟩
      next =>
        obtain ⟨⟨taken, rest⟩, hrest, heq⟩ := Option.map_eq_some_iff.mp h
        obtain ⟨rfl, rfl⟩ := Prod.mk.inj heq
        obtain ⟨before, after, hwithout, hp⟩ := ih (List.nodup_cons.mp hdistinct).2 hrest
        exact ⟨before, after, hwithout.cons hdistinct (keys_takeFirstOfAny hrest), hp⟩

theorem not_of_takeFirstOfAny_eq_none {p : α → Bool} (h : takeFirstOfAny p queues = none)
    (hmem : a ∈ queue k queues) : p a = false := by
  induction queues with
  | nil => exact absurd hmem List.not_mem_nil
  | cons entry queues ih =>
      obtain ⟨k', queue'⟩ := entry
      unfold takeFirstOfAny at h
      split at h
      next => cases h
      next hnone =>
        rw [queue_cons] at hmem
        split at hmem
        next => exact takeFirst_eq_none_iff.mp hnone a hmem
        next => exact ih (Option.map_eq_none_iff.mp h) hmem

/-- The elements of all queues. -/
def elements (queues : Queues κ α) : List α := queues.flatMap Prod.snd

theorem mem_elements_iff (hdistinct : Distinct Prod.fst queues) :
    a ∈ elements queues ↔ ∃ k, a ∈ queue k queues := by
  rw [elements, List.mem_flatMap]
  constructor
  · rintro ⟨⟨k, queue'⟩, hmem, ha⟩
    exact ⟨k, by rwa [queue, valueOf_of_mem hdistinct hmem]⟩
  · rintro ⟨k, ha⟩
    exact ⟨_, mem_of_valueOf_ne (List.ne_nil_of_mem ha), ha⟩

section Numbers

variable {number : α → Nat}

/-- The numbers of the elements of all queues. -/
def numbered (number : α → Nat) (queues : Queues κ α) : List (κ × Nat) :=
  items (List.map number) queues

theorem ofKey_numbered (hdistinct : Distinct Prod.fst queues) :
    ofKey k (numbered number queues) = (queue k queues).map number :=
  ofKey_items rfl hdistinct

theorem sameOrder_enqueue (hdistinct : Distinct Prod.fst queues) :
    SameOrder (numbered number (enqueue k a queues))
      (numbered number queues ++ [(k, number a)]) := by
  intro k'
  rw [ofKey_numbered (distinct_enqueue hdistinct), queue_enqueue, ofKey_append,
    ofKey_numbered hdistinct, ofKey_cons]
  rcases eq_or_ne k k' with rfl | hne
  · simp
  · rw [if_neg hne.symm, if_neg hne, ofKey_nil, List.append_nil]

theorem Without.ofKey_numbered_left (h : Without queues queues' k before a after) :
    ofKey k (numbered number queues') = before.map number ++ after.map number := by
  rw [ofKey_numbered h.distinct, h.left, if_pos rfl, List.map_append]

theorem Without.ofKey_numbered_other (hdistinct : Distinct Prod.fst queues)
    (h : Without queues queues' k before a after) (hne : k' ≠ k) :
    ofKey k' (numbered number queues') = ofKey k' (numbered number queues) := by
  rw [ofKey_numbered h.distinct, h.left, if_neg hne, ofKey_numbered hdistinct]

/-- Taking the front of a queue is serving the first of the elements that wait. -/
theorem Without.sameOrder (hdistinct : Distinct Prod.fst queues)
    (h : Without queues queues' k [] a after) :
    SameOrder (numbered number queues) ([(k, number a)] ++ numbered number queues') := by
  intro k'
  rw [ofKey_append, ofKey_cons, ofKey_nil]
  rcases eq_or_ne k k' with rfl | hne
  · rw [if_pos rfl, ofKey_numbered hdistinct, h.queue_eq, h.ofKey_numbered_left]
    rfl
  · rw [if_neg hne, h.ofKey_numbered_other hdistinct hne.symm, List.nil_append]

theorem Without.withdraw {d : Ledger κ} (hd : d.Accounted) (hdistinct : Distinct Prod.fst queues)
    (hwaiting : d.waiting = numbered number queues)
    (h : Without queues queues' k before a after) :
    Ledger.Accounted { d with
      waiting := numbered number queues', withdrawn := d.withdrawn ++ [(k, number a)] } := by
  have hbefore : ofKey k d.waiting =
      before.map number ++ number a :: after.map number := by
    rw [hwaiting, ofKey_numbered hdistinct, h.queue_eq, List.map_append, List.map_cons]
  refine hd.withdraw hbefore h.ofKey_numbered_left fun k' hne => ?_
  rw [hwaiting, h.ofKey_numbered_other hdistinct hne]

end Numbers

end Queues

end Usbipdcpp.Foundation.KeyedQueues

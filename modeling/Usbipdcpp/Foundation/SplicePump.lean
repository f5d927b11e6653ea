import Mathlib.Data.List.Basic

namespace Usbipdcpp.Foundation.SplicePump

universe u v

/-- The result of a call that moves bytes through a pipe: some have been moved, there are none to
come, or it has failed. -/
inductive SpliceResult where
  | moved (n : Nat)
  | endOfStream
  | failed
  deriving DecidableEq, Repr

def SpliceResult.count : SpliceResult → Nat
  | moved n => n
  | endOfStream => 0
  | failed => 0

/-- What the calls into the pipe have moved, which take turns with those out of it. -/
def taken : List SpliceResult → Nat
  | [] => 0
  | [first] => first.count
  | first :: _ :: results => first.count + taken results

/-- What the calls out of the pipe have moved. -/
def delivered : List SpliceResult → Nat
  | [] => 0
  | [_] => 0
  | _ :: second :: results => second.count + delivered results

theorem getLast?_failed_iff {first second : SpliceResult} {results : List SpliceResult}
    (h : second ≠ .failed) :
    (first :: second :: results).getLast? = some .failed ↔
      results.getLast? = some .failed := by
  cases results with
  | nil => simp [h]
  | cons third results => simp

variable {α : Type u} {S : Type v}

/-- A loop that fills a pipe with up to `remaining` bytes, drains it of up to as many as have just
gone in, and takes what has come out for done, with the results that its calls have: none where
they are not the results of one such run.  No more to come ends the loop well. -/
def spliceLoop (fill : (asked n : Nat) → S → Option S)
    (drain : (remaining asked m : Nat) → S → Option S) :
    List SpliceResult → (remaining : Nat) → S → Option (Bool × S)
  | [], remaining, s => if remaining = 0 then some (true, s) else none
  | [first], remaining, s =>
      if remaining = 0 then none
      else
        match first with
        | .moved _ => none
        | .endOfStream => some (true, s)
        | .failed => some (false, s)
  | first :: second :: results, remaining, s =>
      if remaining = 0 then none
      else
        match first with
        | .moved n =>
            (fill remaining n s).bind fun t =>
              match second with
              | .moved m =>
                  (drain remaining n m t).bind fun u =>
                    spliceLoop fill drain results (remaining - m) u
              | .endOfStream => spliceLoop fill drain results remaining t
              | .failed => if results = [] then some (false, t) else none
        | _ => none

/-- A run of the loop, by what its last calls come to. -/
inductive Splices (fill : (asked n : Nat) → S → Option S)
    (drain : (remaining asked m : Nat) → S → Option S) :
    List SpliceResult → (remaining : Nat) → S → Bool → S → Prop
  | done {s : S} : Splices fill drain [] 0 s true s
  | closed {k : Nat} {s : S} : Splices fill drain [.endOfStream] (k + 1) s true s
  | unfilled {k : Nat} {s : S} : Splices fill drain [.failed] (k + 1) s false s
  | undrained {k n : Nat} {s u : S} (hfill : fill (k + 1) n s = some u) :
      Splices fill drain [.moved n, .failed] (k + 1) s false u
  | filled {k n : Nat} {s t u : S} {ok : Bool} {results : List SpliceResult}
      (hfill : fill (k + 1) n s = some u) (hrest : Splices fill drain results (k + 1) u ok t) :
      Splices fill drain (.moved n :: .endOfStream :: results) (k + 1) s ok t
  | round {k n m : Nat} {s t u v : S} {ok : Bool} {results : List SpliceResult}
      (hfill : fill (k + 1) n s = some u) (hdrain : drain (k + 1) n m u = some v)
      (hrest : Splices fill drain results (k + 1 - m) v ok t) :
      Splices fill drain (.moved n :: .moved m :: results) (k + 1) s ok t

theorem splices_of_spliceLoop {fill : (asked n : Nat) → S → Option S}
    {drain : (remaining asked m : Nat) → S → Option S} {results : List SpliceResult}
    {remaining : Nat} {s t : S} {ok : Bool}
    (ht : spliceLoop fill drain results remaining s = some (ok, t)) :
    Splices fill drain results remaining s ok t := by
  induction results using taken.induct generalizing remaining s with
  | case1 =>
      unfold spliceLoop at ht
      split at ht
      next hdone =>
        cases ht
        exact hdone ▸ .done
      next => cases ht
  | case2 first =>
      unfold spliceLoop at ht
      split at ht
      next => cases ht
      next hmore =>
        obtain ⟨k, rfl⟩ := Nat.exists_eq_succ_of_ne_zero hmore
        cases first with
        | moved n => cases ht
        | endOfStream =>
            cases ht
            exact .closed
        | failed =>
            cases ht
            exact .unfilled
  | case3 first second results ih =>
      unfold spliceLoop at ht
      split at ht
      next => cases ht
      next hmore =>
        obtain ⟨k, rfl⟩ := Nat.exists_eq_succ_of_ne_zero hmore
        cases first with
        | endOfStream => cases ht
        | failed => cases ht
        | moved n =>
            obtain ⟨u, hu, ht⟩ := Option.bind_eq_some_iff.mp ht
            cases second with
            | moved m =>
                obtain ⟨v, hv, ht⟩ := Option.bind_eq_some_iff.mp ht
                exact .round hu hv (ih ht)
            | endOfStream => exact .filled hu (ih ht)
            | failed =>
                dsimp only at ht
                split at ht
                next hlast =>
                  cases ht
                  exact hlast ▸ .undrained hu
                next => cases ht

/-- Bytes on their way from a source through a pipe to a sink. -/
structure Pump (α : Type u) where
  source : List α
  pipe : List α
  sink : List α

namespace Pump

def fill (n : Nat) (p : Pump α) : Pump α :=
  { p with source := p.source.drop n, pipe := p.pipe ++ p.source.take n }

def drain (m : Nat) (p : Pump α) : Pump α :=
  { p with pipe := p.pipe.drop m, sink := p.sink ++ p.pipe.take m }

/-- What results have made of a pump: bytes are neither lost nor reordered. -/
structure Advanced (p : Pump α) (results : List SpliceResult) (q : Pump α) : Prop where
  source : q.source = p.source.drop (taken results)
  available : taken results ≤ p.source.length
  order : q.sink ++ q.pipe = p.sink ++ p.pipe ++ p.source.take (taken results)
  sink : q.sink.length = p.sink.length + delivered results
  short : delivered results ≤ taken results

variable {p q t : Pump α} {n m : Nat} {results : List SpliceResult}

theorem Advanced.refl (htaken : taken results = 0) (hdelivered : delivered results = 0) :
    p.Advanced results p :=
  ⟨by simp [htaken], by simp [htaken], by simp [htaken], by simp [hdelivered],
    by simp [htaken, hdelivered]⟩

/-- A round comes before what the further results make of the pump. -/
theorem Advanced.round (hn : n ≤ p.source.length) (hm : m ≤ (p.fill n).pipe.length)
    (hmn : m ≤ n) {second : SpliceResult} (hsecond : second.count = m)
    (h : ((p.fill n).drain m).Advanced results q) :
    p.Advanced (.moved n :: second :: results) q where
  source := by
    rw [h.source, taken, SpliceResult.count, ← List.drop_drop]
    rfl
  available := by
    have havailable := h.available
    simp only [drain, fill, List.length_drop] at havailable
    rw [taken, SpliceResult.count]
    omega
  order := by
    have horder := h.order
    simp only [drain, fill] at horder
    rw [horder, taken, SpliceResult.count, List.take_add, List.append_assoc p.sink,
      List.take_append_drop]
    simp only [List.append_assoc]
  sink := by
    have hsink := h.sink
    simp only [drain, List.length_append, List.length_take_of_le hm] at hsink
    rw [hsink, delivered, hsecond, fill, Nat.add_assoc]
  short := by
    have hshort := h.short
    rw [taken, delivered, hsecond, SpliceResult.count]
    omega

/-- A round may leave all in the pipe that it has filled in. -/
theorem Advanced.filled (hn : n ≤ p.source.length) {second : SpliceResult}
    (hsecond : second.count = 0) (h : (p.fill n).Advanced results q) :
    p.Advanced (.moved n :: second :: results) q := by
  have hnone : (p.fill n).drain 0 = p.fill n := by simp [drain]
  refine .round hn (Nat.zero_le _) (Nat.zero_le _) hsecond ?_
  rwa [hnone]

end Pump

/-- The calls of a loop work as the pump does, in states that stand for one. -/
structure Pumps (fill : (asked n : Nat) → S → Option S)
    (drain : (remaining asked m : Nat) → S → Option S) (R : Nat → Pump α → S → Prop) : Prop where
  fill : ∀ remaining p s n t, R remaining p s → fill remaining n s = some t →
    n ≤ remaining ∧ n ≤ p.source.length ∧ R remaining (p.fill n) t
  drain : ∀ remaining p s n m t, R remaining p s → n ≤ remaining →
    drain remaining n m s = some t →
    m ≤ n ∧ m ≤ p.pipe.length ∧ R (remaining - m) (p.drain m) t

/-- A run of the loop is one of the pump.  It fails where its last call does. -/
theorem Pumps.run {fill : (asked n : Nat) → S → Option S}
    {drain : (remaining asked m : Nat) → S → Option S} {R : Nat → Pump α → S → Prop}
    (h : Pumps fill drain R) {results : List SpliceResult} {remaining : Nat} {p : Pump α} {s t : S}
    {ok : Bool} (hs : R remaining p s)
    (ht : spliceLoop fill drain results remaining s = some (ok, t)) :
    (∃ left q, R left q t ∧ p.Advanced results q) ∧
      (ok = false ↔ results.getLast? = some .failed) := by
  have hrun := splices_of_spliceLoop ht
  clear ht
  induction hrun generalizing p with
  | done => exact ⟨⟨0, p, hs, .refl rfl rfl⟩, by simp⟩
  | @closed k => exact ⟨⟨k + 1, p, hs, .refl rfl rfl⟩, by simp⟩
  | @unfilled k => exact ⟨⟨k + 1, p, hs, .refl rfl rfl⟩, by simp⟩
  | @undrained k n s u hu =>
      obtain ⟨-, hn, hfilled⟩ := h.fill _ p s n u hs hu
      have hrefl : (p.fill n).Advanced [] (p.fill n) := .refl rfl rfl
      exact ⟨⟨k + 1, p.fill n, hfilled, hrefl.filled hn rfl⟩, by simp⟩
  | @filled k n s t u ok results hu hrest ih =>
      obtain ⟨-, hn, hfilled⟩ := h.fill _ p s n u hs hu
      obtain ⟨⟨left, q, hq, hadvanced⟩, hok⟩ := ih hfilled
      exact ⟨⟨left, q, hq, hadvanced.filled hn rfl⟩,
        hok.trans (getLast?_failed_iff SpliceResult.noConfusion).symm⟩
  | @round k n m s t u v ok results hu hv hrest ih =>
      obtain ⟨hasked, hn, hfilled⟩ := h.fill _ p s n u hs hu
      obtain ⟨hmn, hm, hdrained⟩ := h.drain _ _ u n m v hfilled hasked hv
      obtain ⟨⟨left, q, hq, hadvanced⟩, hok⟩ := ih hdrained
      exact ⟨⟨left, q, hq, hadvanced.round hn hm hmn rfl⟩,
        hok.trans (getLast?_failed_iff SpliceResult.noConfusion).symm⟩

end Usbipdcpp.Foundation.SplicePump

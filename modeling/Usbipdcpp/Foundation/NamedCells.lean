import Mathlib.Data.List.Count
import Mathlib.Logic.Function.Basic

namespace Usbipdcpp.Foundation.NamedCells

universe u v w

variable {ι : Type u} {τ : Type v} {ν : Type w}

/-- The first place of a list that holds nothing. -/
def firstFree (order : List ι) (cells : ι → Option τ) : Option ι :=
  order.find? fun i => (cells i).isNone

/-- How many places of a list hold something. -/
def taken (order : List ι) (cells : ι → Option τ) : Nat :=
  order.countP fun i => (cells i).isSome

theorem firstFree_eq_none_iff {order : List ι} {cells : ι → Option τ} :
    firstFree order cells = none ↔ taken order cells = order.length := by
  simp [firstFree, taken, List.countP_eq_length, Option.isSome_iff_ne_none]

theorem mem_of_firstFree {order : List ι} {cells : ι → Option τ} {i : ι}
    (h : firstFree order cells = some i) : i ∈ order ∧ cells i = none :=
  ⟨List.mem_of_find?_eq_some h, by simpa using List.find?_some h⟩

theorem taken_le (order : List ι) (cells : ι → Option τ) : taken order cells ≤ order.length :=
  List.countP_le_length

section Update

variable [DecidableEq ι]

/-- Of the places of a list without repetition one that changes counts once. -/
theorem taken_update {order : List ι} (hnodup : order.Nodup) (cells : ι → Option τ) {i : ι}
    (hi : i ∈ order) (t : Option τ) :
    taken order (Function.update cells i t) + (if (cells i).isSome then 1 else 0) =
      taken order cells + if t.isSome then 1 else 0 := by
  obtain ⟨before, after, rfl⟩ := List.append_of_mem hi
  rw [List.nodup_append, List.nodup_cons] at hnodup
  obtain ⟨-, ⟨hafter, -⟩, hdisjoint⟩ := hnodup
  have hbefore : ∀ j ∈ before, j ≠ i := fun j hj => hdisjoint j hj i List.mem_cons_self
  have hleft : before.countP (fun j => (Function.update cells i t j).isSome) =
      before.countP fun j => (cells j).isSome :=
    List.countP_congr fun j hj => by rw [Function.update_of_ne (hbefore j hj)]
  have hright : after.countP (fun j => (Function.update cells i t j).isSome) =
      after.countP fun j => (cells j).isSome :=
    List.countP_congr fun j hj => by
      rw [Function.update_of_ne (ne_of_mem_of_not_mem hj hafter)]
  rw [taken, taken, List.countP_append, List.countP_append, List.countP_cons, List.countP_cons,
    hleft, hright, Function.update_self]
  omega

theorem taken_fill {order : List ι} (hnodup : order.Nodup) {cells : ι → Option τ} {i : ι}
    (hfree : firstFree order cells = some i) (t : τ) :
    taken order (Function.update cells i (some t)) = taken order cells + 1 := by
  obtain ⟨hi, hnone⟩ := mem_of_firstFree hfree
  simpa [hnone] using taken_update hnodup cells hi (some t)

theorem taken_replace {order : List ι} (hnodup : order.Nodup) {cells : ι → Option τ} {i : ι}
    (hi : i ∈ order) (hsome : (cells i).isSome) (t : τ) :
    taken order (Function.update cells i (some t)) = taken order cells := by
  simpa [hsome] using taken_update hnodup cells hi (some t)

theorem taken_clear {order : List ι} (hnodup : order.Nodup) {cells : ι → Option τ} {i : ι}
    (hi : i ∈ order) (hsome : (cells i).isSome) :
    taken order (Function.update cells i none) + 1 = taken order cells := by
  simpa [hsome] using taken_update hnodup cells hi none

end Update

/-- Variables of their own, which names stand for, some of them for the same one: what each holds,
how many there have been, and how many places they take. -/
structure Variables (ν : Type w) (τ : Type v) where
  cell : ν → Option Nat
  text : Nat → τ
  next : Nat
  used : Nat

namespace Variables

variable [DecidableEq ν]

/-- Some name stands for the variable. -/
def Live (v : Variables ν τ) (c : Nat) : Prop := ∃ name, v.cell name = some c

/-- The name stands for a variable that no other name stands for. -/
def create (v : Variables ν τ) (name : ν) (t : τ) : Variables ν τ where
  cell := Function.update v.cell name (some v.next)
  text := Function.update v.text v.next t
  next := v.next + 1
  used := v.used + 1

/-- A place is taken for which there is no name. -/
def leak (v : Variables ν τ) : Variables ν τ := { v with used := v.used + 1 }

def assign (v : Variables ν τ) (c : Nat) (t : τ) : Variables ν τ :=
  { v with text := Function.update v.text c t }

/-- The name stands for what the other one does; what it stood for keeps its place. -/
def share (v : Variables ν τ) (name other : ν) : Variables ν τ :=
  { v with cell := Function.update v.cell name (v.cell other) }

/-- The name stands for nothing, and what it stood for keeps its place. -/
def forget (v : Variables ν τ) (name : ν) : Variables ν τ :=
  { v with cell := Function.update v.cell name none }

/-- The name stands for nothing, and what it stood for gives its place up. -/
def drop (v : Variables ν τ) (name : ν) : Variables ν τ :=
  { v.forget name with used := v.used - 1 }

def read (v : Variables ν τ) (name : ν) : Option τ := (v.cell name).map v.text

/-- No other name stands for the variable. -/
def Unshared (v : Variables ν τ) (name : ν) : Prop :=
  ∀ other c, v.cell name = some c → v.cell other = some c → other = name

end Variables

/-- The names lead to the places of what they stand for, which hold what it holds, each variable
in a place of its own; a name that stands for nothing leads nowhere. -/
structure Holds (order : List ι) (nowhere : ι) (cells : ι → Option τ) (index : ν → ι)
    (v : Variables ν τ) (place : Nat → ι) : Prop where
  used : taken order cells = v.used
  index_eq : ∀ name, index name = (v.cell name).elim nowhere place
  held : ∀ c, v.Live c → place c ∈ order ∧ cells (place c) = some (v.text c) ∧ c < v.next
  injective : ∀ c d, v.Live c → v.Live d → place c = place d → c = d

variable {order : List ι} {nowhere : ι} {cells : ι → Option τ} {index : ν → ι}
  {v : Variables ν τ} {place : Nat → ι} {i : ι}

theorem Holds.read_eq (h : Holds order nowhere cells index v place) {name : ν} {c : Nat}
    (hc : v.cell name = some c) : index name = place c ∧ cells (index name) = v.read name := by
  have hindex : index name = place c := by rw [h.index_eq, hc]; rfl
  refine ⟨hindex, ?_⟩
  rw [hindex, (h.held c ⟨name, hc⟩).2.1, Variables.read, hc]
  rfl

theorem Holds.nowhere_eq (h : Holds order nowhere cells index v place) {name : ν}
    (hc : v.cell name = none) : index name = nowhere := by
  rw [h.index_eq, hc]
  rfl

theorem Holds.ne_of_free (h : Holds order nowhere cells index v place)
    (hfree : firstFree order cells = some i) {c : Nat} (hc : v.Live c) :
    place c ≠ i ∧ c ≠ v.next := by
  obtain ⟨-, hsome, hlt⟩ := h.held c hc
  refine ⟨fun heq => ?_, Nat.ne_of_lt hlt⟩
  rw [heq, (mem_of_firstFree hfree).2] at hsome
  cases hsome

/-- With fewer names to stand for something, what is left holds as before. -/
theorem Holds.of_live (h : Holds order nowhere cells index v place) {index' : ν → ι}
    {cell : ν → Option Nat} (hlive : ∀ name c, cell name = some c → v.Live c)
    (hindex : ∀ name, index' name = (cell name).elim nowhere place) :
    Holds order nowhere cells index' { v with cell } place where
  used := h.used
  index_eq := hindex
  held c hc := h.held c (hc.elim fun name hname => hlive name c hname)
  injective c d hc hd :=
    h.injective c d (hc.elim fun name hname => hlive name c hname)
      (hd.elim fun name hname => hlive name d hname)

section Naming

variable [DecidableEq ν]

theorem Variables.live_create {name : ν} {t : τ} {c : Nat} (h : (v.create name t).Live c) :
    c = v.next ∨ v.Live c := by
  obtain ⟨other, hother⟩ := h
  by_cases hname : other = name
  · exact .inl (by simpa [create, hname, eq_comm] using hother)
  · exact .inr ⟨other, by simpa [create, hname] using hother⟩

theorem Holds.share (h : Holds order nowhere cells index v place) (name other : ν) :
    Holds order nowhere cells (Function.update index name (index other)) (v.share name other)
      place := by
  refine h.of_live (fun third c hc => ?_) fun third => ?_
  · by_cases hname : third = name
    · exact ⟨other, by simpa [hname] using hc⟩
    · exact ⟨third, by simpa [hname] using hc⟩
  · by_cases hname : third = name
    · simp [hname, h.index_eq other]
    · simp [hname, h.index_eq third]

theorem Holds.forget (h : Holds order nowhere cells index v place) (name : ν) :
    Holds order nowhere cells (Function.update index name nowhere) (v.forget name) place := by
  refine h.of_live (fun third c hc => ?_) fun third => ?_
  · by_cases hname : third = name
    · simp [hname] at hc
    · exact ⟨third, by simpa [hname] using hc⟩
  · by_cases hname : third = name
    · simp [hname]
    · simp [hname, h.index_eq third]

theorem Variables.unshared_create {name third : ν} (hlt : ∀ c, v.Live c → c < v.next)
    (h : v.Unshared third) (t : τ) : (v.create name t).Unshared third := by
  have hold : ∀ other, other ≠ name → (v.create name t).cell other = v.cell other :=
    fun other hname => Function.update_of_ne hname _ _
  have hnew : (v.create name t).cell name = some v.next := Function.update_self _ _ _
  intro other c hthird hother
  by_cases hname : third = name <;> by_cases hname' : other = name
  · rw [hname, hname']
  · rw [hname, hnew] at hthird
    rw [hold other hname', ← hthird] at hother
    exact absurd (hlt _ ⟨other, hother⟩) (Nat.lt_irrefl _)
  · rw [hname', hnew] at hother
    rw [hold third hname, ← hother] at hthird
    exact absurd (hlt _ ⟨third, hthird⟩) (Nat.lt_irrefl _)
  · rw [hold third hname] at hthird
    rw [hold other hname'] at hother
    exact h other c hthird hother

theorem Variables.unshared_share {name other third : ν} (hname : third ≠ name)
    (hother : third ≠ other) (h : v.Unshared third) : (v.share name other).Unshared third := by
  have hold : ∀ fourth, fourth ≠ name → (v.share name other).cell fourth = v.cell fourth :=
    fun fourth hne => Function.update_of_ne hne _ _
  have hnew : (v.share name other).cell name = v.cell other := Function.update_self _ _ _
  intro fourth c hthird hfourth
  rw [hold third hname] at hthird
  by_cases heq : fourth = name
  · rw [heq, hnew] at hfourth
    exact absurd (h other c hthird hfourth).symm hother
  · rw [hold fourth heq] at hfourth
    exact h fourth c hthird hfourth

theorem Variables.unshared_forget {name third : ν} (h : v.Unshared third) :
    (v.forget name).Unshared third := by
  intro other c hthird hother
  have hold : ∀ other, (v.forget name).cell other = some c → v.cell other = some c := by
    intro other hcell
    by_cases hname : other = name
    · simp [forget, hname] at hcell
    · simpa [forget, hname] using hcell
  exact h other c (hold third hthird) (hold other hother)

end Naming

section Filling

variable [DecidableEq ι]

theorem Holds.leak (h : Holds order nowhere cells index v place) (hnodup : order.Nodup)
    (hfree : firstFree order cells = some i) (t : τ) :
    Holds order nowhere (Function.update cells i (some t)) index v.leak place where
  used := by
    rw [taken_fill hnodup hfree, h.used]
    rfl
  index_eq := h.index_eq
  held c hc := by
    obtain ⟨hmem, hsome, hlt⟩ := h.held c hc
    rw [Function.update_of_ne (h.ne_of_free hfree hc).1]
    exact ⟨hmem, hsome, hlt⟩
  injective := h.injective

theorem Holds.assign (h : Holds order nowhere cells index v place) (hnodup : order.Nodup)
    {name : ν} {c : Nat} (hc : v.cell name = some c) (t : τ) :
    Holds order nowhere (Function.update cells (index name) (some t)) index (v.assign c t)
      place where
  used := by
    obtain ⟨hmem, hsome, -⟩ := h.held c ⟨name, hc⟩
    rw [(h.read_eq hc).1, taken_replace hnodup hmem (by rw [hsome]; rfl), h.used]
    rfl
  index_eq := h.index_eq
  held d hd := by
    obtain ⟨hmem, hsome, hlt⟩ := h.held d hd
    refine ⟨hmem, ?_, hlt⟩
    rw [(h.read_eq hc).1]
    by_cases heq : d = c
    · simp [heq, Variables.assign]
    · rw [Function.update_of_ne fun hplace => heq (h.injective d c hd ⟨name, hc⟩ hplace), hsome]
      exact congrArg some (Function.update_of_ne heq _ _).symm
  injective := h.injective

variable [DecidableEq ν]

theorem Holds.create (h : Holds order nowhere cells index v place) (hnodup : order.Nodup)
    (hfree : firstFree order cells = some i) (name : ν) (t : τ) :
    Holds order nowhere (Function.update cells i (some t)) (Function.update index name i)
      (v.create name t) (Function.update place v.next i) where
  used := by
    rw [taken_fill hnodup hfree, h.used]
    rfl
  index_eq other := by
    by_cases hname : other = name
    · simp [Variables.create, hname]
    · have hcell : (v.create name t).cell other = v.cell other := by
        simp [Variables.create, hname]
      rw [Function.update_of_ne hname, hcell, h.index_eq]
      cases hc : v.cell other with
      | none => rfl
      | some c =>
          rw [Option.elim_some, Option.elim_some,
            Function.update_of_ne (h.ne_of_free hfree ⟨other, hc⟩).2]
  held c hc := by
    rcases Variables.live_create hc with rfl | hlive
    · simp [Variables.create, (mem_of_firstFree hfree).1]
    · obtain ⟨hplace, hnext⟩ := h.ne_of_free hfree hlive
      obtain ⟨hmem, hsome, hlt⟩ := h.held c hlive
      rw [Function.update_of_ne hnext, Function.update_of_ne hplace]
      refine ⟨hmem, hsome.trans ?_, Nat.lt_succ_of_lt hlt⟩
      exact congrArg some (Function.update_of_ne hnext _ _).symm
  injective c d hc hd heq := by
    rcases Variables.live_create hc with rfl | hlive <;>
      rcases Variables.live_create hd with rfl | hlive'
    · rfl
    · obtain ⟨hplace, hnext⟩ := h.ne_of_free hfree hlive'
      rw [Function.update_self, Function.update_of_ne hnext] at heq
      exact absurd heq.symm hplace
    · obtain ⟨hplace, hnext⟩ := h.ne_of_free hfree hlive
      rw [Function.update_self, Function.update_of_ne hnext] at heq
      exact absurd heq hplace
    · rw [Function.update_of_ne (h.ne_of_free hfree hlive).2,
        Function.update_of_ne (h.ne_of_free hfree hlive').2] at heq
      exact h.injective c d hlive hlive' heq

theorem Holds.drop (h : Holds order nowhere cells index v place) (hnodup : order.Nodup)
    {name : ν} {c : Nat} (hc : v.cell name = some c) (hunshared : v.Unshared name) :
    Holds order nowhere (Function.update cells (index name) none)
      (Function.update index name nowhere) (v.drop name) place := by
  obtain ⟨hmem, hsome, -⟩ := h.held c ⟨name, hc⟩
  have hforget := h.forget name
  have hgone : ¬ (v.forget name).Live c := by
    rintro ⟨other, hother⟩
    by_cases hname : other = name
    · simp [Variables.forget, hname] at hother
    · exact hname (hunshared other c hc (by simpa [Variables.forget, hname] using hother))
  refine ⟨?_, hforget.index_eq, fun d hd => ?_, hforget.injective⟩
  · have htaken := taken_clear hnodup hmem (by rw [hsome]; rfl : (cells (place c)).isSome)
    rw [(h.read_eq hc).1]
    change _ = v.used - 1
    rw [← h.used, ← htaken, Nat.add_sub_cancel]
  · obtain ⟨hmem', hsome', hlt⟩ := hforget.held d hd
    refine ⟨hmem', ?_, hlt⟩
    rw [(h.read_eq hc).1, Function.update_of_ne, hsome']
    · rfl
    · intro heq
      have hlive : v.Live d := by
        obtain ⟨other, hother⟩ := hd
        by_cases hname : other = name
        · simp [Variables.drop, Variables.forget, hname] at hother
        · exact ⟨other, by simpa [Variables.drop, Variables.forget, hname] using hother⟩
      obtain rfl := h.injective d c hlive ⟨name, hc⟩ heq
      exact hgone hd

end Filling

end Usbipdcpp.Foundation.NamedCells

import Mathlib.Data.List.Basic

namespace Usbipdcpp.Foundation.Acquisition

variable {α κ ε : Type*}

/-- Attempts at the items of a list in order, each of which makes some calls and may report an
error.  The first error ends them, with the calls that undo what has been done. -/
def acquire (attempt : Nat → α → List κ × Option ε) (undo : Nat → List κ) (i : Nat) :
    List α → List κ × Option (Nat × ε)
  | [] => ([], none)
  | a :: as =>
      match attempt i a with
      | (calls, none) =>
          let (rest, failure) := acquire attempt undo (i + 1) as
          (calls ++ rest, failure)
      | (calls, some error) => (calls ++ undo i, some (i, error))

/-- The calls of the attempts at all items of a list. -/
def attempted (attempt : Nat → α → List κ × Option ε) (i : Nat) (as : List α) : List κ :=
  (as.zipIdx i).flatMap fun (a, j) => (attempt j a).1

variable {attempt : Nat → α → List κ × Option ε} {undo : Nat → List κ} {i : Nat}

theorem attempted_cons (a : α) (as : List α) :
    attempted attempt i (a :: as) = (attempt i a).1 ++ attempted attempt (i + 1) as := by
  rw [attempted, List.zipIdx_cons, List.flatMap_cons]
  rfl

theorem mem_attempted {call : κ} {as : List α} :
    call ∈ attempted attempt 0 as ↔ ∃ j a, as[j]? = some a ∧ call ∈ (attempt j a).1 := by
  rw [attempted, List.mem_flatMap]
  constructor
  · rintro ⟨⟨a, j⟩, hmem, hcall⟩
    exact ⟨j, a, List.mem_zipIdx_iff_getElem?.mp hmem, hcall⟩
  · rintro ⟨j, a, ha, hcall⟩
    exact ⟨(a, j), List.mem_zipIdx_iff_getElem?.mpr ha, hcall⟩

theorem acquire_of_succeeded {a : α} {as : List α} (h : (attempt i a).2 = none) :
    acquire attempt undo i (a :: as) =
      ((attempt i a).1 ++ (acquire attempt undo (i + 1) as).1,
        (acquire attempt undo (i + 1) as).2) := by
  obtain ⟨calls, hcalls⟩ : ∃ calls, attempt i a = (calls, none) := ⟨_, Prod.ext rfl h⟩
  rw [acquire, hcalls]

/-- What has been done where an attempt fails and none before it does. -/
theorem acquire_of_failed {before after : List α} {a : α} {error : ε}
    (hbefore : ∀ j b, before[j]? = some b → (attempt (i + j) b).2 = none)
    (ha : (attempt (i + before.length) a).2 = some error) :
    acquire attempt undo i (before ++ a :: after) =
      (attempted attempt i before ++ (attempt (i + before.length) a).1 ++
        undo (i + before.length), some (i + before.length, error)) := by
  induction before generalizing i with
  | nil =>
      rw [List.length_nil, Nat.add_zero] at ha ⊢
      obtain ⟨calls, hcalls⟩ : ∃ calls, attempt i a = (calls, some error) :=
        ⟨_, Prod.ext rfl ha⟩
      rw [List.nil_append, acquire, hcalls]
      rfl
  | cons b before ih =>
      have hlength : i + (b :: before).length = i + 1 + before.length := by
        rw [List.length_cons]
        omega
      rw [hlength] at ha ⊢
      have hrest := ih (i := i + 1) (fun j c hc => by
        have hnext := hbefore (j + 1) c hc
        rwa [show i + (j + 1) = i + 1 + j by omega] at hnext) ha
      have hfirst : (attempt i b).2 = none := hbefore 0 b rfl
      rw [List.cons_append, acquire_of_succeeded hfirst, hrest, attempted_cons]
      simp only [List.append_assoc]

/-- Wherever `call` is made, `answer` is made later. -/
def FollowedBy (call answer : κ) (calls : List κ) : Prop :=
  ∀ before after, calls = before ++ call :: after → answer ∈ after

theorem followedBy_append {call answer : κ} {calls later : List κ} (hcall : call ∉ later)
    (hanswer : answer ∈ later) : FollowedBy call answer (calls ++ later) := by
  intro before after heq
  obtain ⟨rest, hbefore, hlater⟩ | ⟨rest, -, hrest⟩ := List.append_eq_append_iff.mp heq
  · exact absurd (hlater ▸ List.mem_append_right rest List.mem_cons_self) hcall
  · cases rest with
    | nil =>
        rw [List.nil_append] at hrest
        exact absurd (hrest ▸ List.mem_cons_self) hcall
    | cons first rest =>
        obtain ⟨-, rfl⟩ := List.cons.inj hrest
        exact List.mem_append_right rest hanswer

theorem followedBy_of_notMem {call answer : κ} {calls : List κ} (h : call ∉ calls) :
    FollowedBy call answer calls := by
  rintro before after rfl
  exact absurd (List.mem_append_right before List.mem_cons_self) h

theorem FollowedBy.mem {call answer : κ} {calls : List κ} (h : FollowedBy call answer calls)
    (hcall : call ∈ calls) : answer ∈ calls := by
  obtain ⟨before, after, rfl⟩ := List.append_of_mem hcall
  exact List.mem_append_right before (List.mem_cons_of_mem call (h before after rfl))

end Usbipdcpp.Foundation.Acquisition

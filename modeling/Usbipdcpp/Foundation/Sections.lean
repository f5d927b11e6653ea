import Mathlib.Data.List.TakeWhile
import Mathlib.Data.List.Flatten

namespace Usbipdcpp.Foundation.Sections

variable {α : Type} (isHead isStop : α → Bool)

/-- Every head with what follows it up to the next stop. -/
def sections : List α → List (α × List α)
  | [] => []
  | a :: as =>
      if isHead a then (a, as.takeWhile fun b => !isStop b) :: sections as else sections as

/-- A list that consists of sections, with stops between them that are not heads. -/
inductive LaidOut : List α → List (α × List α) → Prop
  | nil : LaidOut [] []
  | skip {a : α} {as : List α} {parts : List (α × List α)} (hhead : isHead a = false)
      (hstop : isStop a = true) (h : LaidOut as parts) : LaidOut (a :: as) parts
  | cons {a : α} {body as : List α} {parts : List (α × List α)} (hhead : isHead a = true)
      (hstop : isStop a = true) (hbody : ∀ b ∈ body, isStop b = false) (h : LaidOut as parts) :
      LaidOut (a :: body ++ as) ((a, body) :: parts)

variable {isHead isStop} {as bs : List α} {parts parts' : List (α × List α)}

namespace LaidOut

theorem append (h : LaidOut isHead isStop as parts) (h' : LaidOut isHead isStop bs parts') :
    LaidOut isHead isStop (as ++ bs) (parts ++ parts') := by
  induction h with
  | nil => exact h'
  | skip hhead hstop _ ih => exact .skip hhead hstop ih
  | cons hhead hstop hbody _ ih =>
      rw [List.append_assoc]
      exact .cons hhead hstop hbody ih

theorem single {a : α} {body : List α} (hhead : isHead a = true) (hstop : isStop a = true)
    (hbody : ∀ b ∈ body, isStop b = false) :
    LaidOut isHead isStop (a :: body) [(a, body)] := by
  simpa using LaidOut.cons hhead hstop hbody .nil

theorem flatMap {ι : Type} {listOf : ι → List α} {partsOf : ι → List (α × List α)}
    {is : List ι} (h : ∀ i ∈ is, LaidOut isHead isStop (listOf i) (partsOf i)) :
    LaidOut isHead isStop (is.flatMap listOf) (is.flatMap partsOf) := by
  induction is with
  | nil => exact .nil
  | cons i is ih =>
      rw [List.flatMap_cons, List.flatMap_cons]
      exact (h i List.mem_cons_self).append (ih fun j hj => h j (List.mem_cons_of_mem i hj))

/-- What precedes a laid out list keeps to itself. -/
theorem takeWhile_append (h : LaidOut isHead isStop as parts) {body : List α}
    (hbody : ∀ b ∈ body, isStop b = false) :
    (body ++ as).takeWhile (fun b => !isStop b) = body := by
  have hnone : as.takeWhile (fun b => !isStop b) = [] := by
    cases h with
    | nil => rfl
    | skip _ hstop _ => simp [hstop]
    | cons _ hstop _ _ => simp [hstop]
  rw [List.takeWhile_append_of_pos fun b hb => by simp [hbody b hb], hnone, List.append_nil]

end LaidOut

/-- What precedes the first head is in no section. -/
theorem sections_append_of_no_head {before : List α} (h : ∀ a ∈ before, isHead a = false) :
    sections isHead isStop (before ++ as) = sections isHead isStop as := by
  induction before with
  | nil => rfl
  | cons a before ih =>
      have hhead : isHead a = false := h a List.mem_cons_self
      rw [List.cons_append, sections, if_neg (by simp [hhead])]
      exact ih fun b hb => h b (List.mem_cons_of_mem a hb)

/-- A list that consists of sections is read as these. -/
theorem sections_eq (hstop : ∀ a, isHead a = true → isStop a = true)
    (h : LaidOut isHead isStop as parts) : sections isHead isStop as = parts := by
  induction h with
  | nil => rfl
  | skip hhead _ _ ih =>
      rw [sections, if_neg (by simp [hhead])]
      exact ih
  | @cons a body as parts hhead _ hbody hrest ih =>
      have hnone : ∀ b ∈ body, isHead b = false := by
        intro b hb
        have hno := hbody b hb
        cases hisHead : isHead b with
        | false => rfl
        | true => rw [hstop b hisHead] at hno; cases hno
      rw [List.cons_append, sections, if_pos hhead, hrest.takeWhile_append hbody,
        sections_append_of_no_head hnone, ih]

end Usbipdcpp.Foundation.Sections

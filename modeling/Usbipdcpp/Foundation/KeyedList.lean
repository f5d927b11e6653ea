import Mathlib.Data.List.Nodup

namespace Usbipdcpp.Foundation.KeyedList

universe u v w

variable {α : Type u} {κ : Type v} [DecidableEq κ] (key : α → κ)

/-- The first element of a list that has key `k`. -/
def lookup (k : κ) (l : List α) : Option α :=
  l.find? fun a => key a = k

/-- A list without its first element that has key `k`. -/
def remove (k : κ) (l : List α) : List α :=
  l.eraseP fun a => key a = k

/-- No two elements of a list have the same key. -/
def Distinct (l : List α) : Prop :=
  (l.map key).Nodup

variable {key} {k : κ} {a b : α} {l : List α}

theorem mem_of_lookup (h : lookup key k l = some a) : a ∈ l :=
  List.mem_of_find?_eq_some h

theorem key_of_lookup (h : lookup key k l = some a) : key a = k := by
  simpa using List.find?_some h

theorem lookup_eq_none_iff : lookup key k l = none ↔ ∀ a ∈ l, key a ≠ k := by
  simp [lookup]

theorem remove_subset : remove key k l ⊆ l :=
  fun _ => List.mem_of_mem_eraseP

theorem mem_remove_of_key_ne (hne : key a ≠ k) : a ∈ remove key k l ↔ a ∈ l :=
  List.mem_eraseP_of_neg (by simpa using hne)

omit [DecidableEq κ] in
theorem eq_of_mem_of_key_eq (hdistinct : Distinct key l) (ha : a ∈ l) (hb : b ∈ l)
    (hkey : key a = key b) : a = b :=
  List.inj_on_of_nodup_map hdistinct ha hb hkey

theorem lookup_of_mem (hdistinct : Distinct key l) (ha : a ∈ l) (hkey : key a = k) :
    lookup key k l = some a := by
  cases hlookup : lookup key k l with
  | none => exact absurd hkey (lookup_eq_none_iff.mp hlookup a ha)
  | some b =>
      rw [eq_of_mem_of_key_eq hdistinct (mem_of_lookup hlookup) ha
        ((key_of_lookup hlookup).trans hkey.symm)]

theorem distinct_remove (hdistinct : Distinct key l) : Distinct key (remove key k l) :=
  hdistinct.sublist (List.eraseP_sublist.map key)

theorem key_ne_of_mem_remove (hdistinct : Distinct key l) (ha : a ∈ remove key k l) :
    key a ≠ k := by
  induction l with
  | nil => simp [remove] at ha
  | cons b l ih =>
      have hcons := List.nodup_cons.mp hdistinct
      by_cases hb : key b = k
      · have hmem : a ∈ l := by simpa [remove, List.eraseP_cons, hb] using ha
        rintro rfl
        exact hcons.1 (hb ▸ List.mem_map_of_mem hmem)
      · rcases (by simpa [remove, List.eraseP_cons, hb] using ha :
          a = b ∨ a ∈ remove key k l) with rfl | hmem
        · exact hb
        · exact ih hcons.2 hmem

theorem mem_remove_iff (hdistinct : Distinct key l) :
    a ∈ remove key k l ↔ a ∈ l ∧ key a ≠ k :=
  ⟨fun h => ⟨remove_subset h, key_ne_of_mem_remove hdistinct h⟩,
    fun ⟨hmem, hne⟩ => (mem_remove_of_key_ne hne).mpr hmem⟩

theorem perm_cons_remove (h : lookup key k l = some a) : l.Perm (a :: remove key k l) := by
  induction l with
  | nil => cases h
  | cons b l ih =>
      by_cases hb : key b = k
      · obtain rfl : b = a := by simpa [lookup, hb] using h
        simp [remove, hb]
      · have hrest : lookup key k l = some a := by simpa [lookup, hb] using h
        have hremove : remove key k (b :: l) = b :: remove key k l := by simp [remove, hb]
        rw [hremove]
        exact ((ih hrest).cons b).trans (.swap a b _)

omit [DecidableEq κ] in
theorem distinct_concat_iff :
    Distinct key (l ++ [a]) ↔ Distinct key l ∧ ∀ b ∈ l, key b ≠ key a := by
  simp only [Distinct, List.map_append, List.map_cons, List.map_nil, List.nodup_append,
    List.nodup_singleton, true_and, List.mem_map, List.mem_singleton, forall_eq,
    forall_exists_index, and_imp, forall_apply_eq_imp_iff₂]

section Values

variable {σ : Type w} {k' : κ} {v : σ} {l l' : List (κ × σ)}

/-- The value that a list of keys and values has for a key, or `default` where it has none. -/
def valueOf (default : σ) (k : κ) (l : List (κ × σ)) : σ :=
  ((lookup Prod.fst k l).map Prod.snd).getD default

/-- The list with the value for a key replaced, or added behind the others where it has
none. -/
def upsert (k : κ) (v : σ) : List (κ × σ) → List (κ × σ)
  | [] => [(k, v)]
  | entry :: l => if entry.1 = k then (entry.1, v) :: l else entry :: upsert k v l

theorem valueOf_cons (default : σ) (entry : κ × σ) :
    valueOf default k (entry :: l) = if entry.1 = k then entry.2 else valueOf default k l := by
  unfold valueOf lookup
  by_cases h : entry.1 = k <;> simp [h]

theorem valueOf_upsert (default : σ) :
    valueOf default k' (upsert k v l) = if k' = k then v else valueOf default k' l := by
  induction l with
  | nil =>
      rw [upsert, valueOf_cons]
      exact if_congr eq_comm rfl rfl
  | cons entry l ih =>
      unfold upsert
      split
      next hentry =>
        rw [valueOf_cons, valueOf_cons, hentry]
        rcases eq_or_ne k k' with rfl | hne
        · simp
        · rw [if_neg hne, if_neg hne, if_neg hne.symm]
      next hentry =>
        rw [valueOf_cons, valueOf_cons, ih]
        split <;> simp_all

theorem keys_upsert :
    (upsert k v l).map Prod.fst =
      if k ∈ l.map Prod.fst then l.map Prod.fst else l.map Prod.fst ++ [k] := by
  induction l with
  | nil => rfl
  | cons entry l ih =>
      unfold upsert
      split
      next hentry => simp [hentry]
      next hentry =>
        have hne : k ≠ entry.1 := fun h => hentry h.symm
        simp only [List.map_cons, ih, List.mem_cons, or_iff_right hne]
        split <;> rfl

theorem distinct_upsert (hdistinct : Distinct Prod.fst l) :
    Distinct Prod.fst (upsert k v l) := by
  rw [Distinct, keys_upsert]
  split
  next => exact hdistinct
  next hnone =>
    refine List.nodup_append.mpr ⟨hdistinct, List.nodup_singleton k, fun a ha b hb => ?_⟩
    rw [List.mem_singleton.mp hb]
    rintro rfl
    exact hnone ha

theorem valueOf_of_mem (hdistinct : Distinct Prod.fst l) (hmem : (k, v) ∈ l) (default : σ) :
    valueOf default k l = v := by
  rw [valueOf, lookup_of_mem hdistinct hmem rfl]
  rfl

theorem mem_of_valueOf_ne {default : σ} (h : valueOf default k l ≠ default) :
    (k, valueOf default k l) ∈ l := by
  cases hlookup : lookup Prod.fst k l with
  | none => simp [valueOf, hlookup] at h
  | some entry =>
      have hkey := key_of_lookup hlookup
      have hvalue : valueOf default k l = entry.2 := by simp [valueOf, hlookup]
      rw [hvalue, ← hkey]
      exact mem_of_lookup hlookup

theorem valueOf_map (f : κ → σ → σ) {default : σ} (hdefault : f k default = default) :
    valueOf default k (l.map fun entry => (entry.1, f entry.1 entry.2)) =
      f k (valueOf default k l) := by
  induction l with
  | nil => exact hdefault.symm
  | cons entry l ih =>
      rw [List.map_cons, valueOf_cons, valueOf_cons, ih]
      split
      next hentry => rw [hentry]
      next => rfl

theorem valueOf_perm (hdistinct : Distinct Prod.fst l) (hperm : l.Perm l') (default : σ) :
    valueOf default k l' = valueOf default k l := by
  have hdistinct' : Distinct Prod.fst l' := (hperm.map Prod.fst).nodup_iff.mp hdistinct
  by_cases h : valueOf default k l = default
  · rw [h]
    by_contra hne
    have hmem := hperm.mem_iff.mpr (mem_of_valueOf_ne hne)
    exact hne ((valueOf_of_mem hdistinct hmem default).symm.trans h)
  · exact valueOf_of_mem hdistinct' (hperm.mem_iff.mp (mem_of_valueOf_ne h)) default

omit [DecidableEq κ] in
theorem distinct_replace {before after : List (κ × σ)} {v' : σ}
    (hdistinct : Distinct Prod.fst (before ++ (k, v) :: after)) :
    Distinct Prod.fst (before ++ (k, v') :: after) := by
  simpa [Distinct] using hdistinct

/-- Replacing one entry changes the value of its key only. -/
theorem valueOf_replace {before after : List (κ × σ)} {v' : σ} (default : σ)
    (hdistinct : Distinct Prod.fst (before ++ (k, v) :: after)) :
    valueOf default k' (before ++ (k, v') :: after) =
      if k' = k then v' else valueOf default k' (before ++ (k, v) :: after) := by
  induction before with
  | nil =>
      rw [List.nil_append, List.nil_append, valueOf_cons, valueOf_cons]
      rcases eq_or_ne k k' with rfl | hne
      · simp
      · simp [hne, hne.symm]
  | cons entry before ih =>
      rw [List.cons_append] at hdistinct
      obtain ⟨hentry, hrest⟩ := List.nodup_cons.mp hdistinct
      have hne : k ≠ entry.1 := by
        rintro rfl
        exact hentry (by simp)
      rw [List.cons_append, List.cons_append, valueOf_cons, valueOf_cons, ih hrest]
      rcases eq_or_ne entry.1 k' with rfl | hkey
      · simp [hne.symm]
      · simp [hkey]

end Values

section Items

variable {σ : Type w} {ι : Type u} {k' : κ} {l l' : List (κ × ι)}

/-- The elements that belong to a key, in their order. -/
def ofKey (k : κ) (l : List (κ × ι)) : List ι :=
  (l.filter fun item => item.1 = k).map Prod.snd

/-- The elements of the queues of all keys, each with its key. -/
def items (queue : σ → List ι) (entries : List (κ × σ)) : List (κ × ι) :=
  entries.flatMap fun entry => (queue entry.2).map (entry.1, ·)

@[simp] theorem ofKey_nil : ofKey k ([] : List (κ × ι)) = [] := rfl

@[simp] theorem ofKey_append : ofKey k (l ++ l') = ofKey k l ++ ofKey k l' := by
  simp [ofKey]

theorem ofKey_cons (item : κ × ι) :
    ofKey k (item :: l) = if item.1 = k then item.2 :: ofKey k l else ofKey k l := by
  by_cases h : item.1 = k <;> simp [ofKey, h]

theorem ofKey_map_same (queue : List ι) : ofKey k (queue.map (k, ·)) = queue := by
  induction queue with
  | nil => rfl
  | cons i queue ih => rw [List.map_cons, ofKey_cons, if_pos rfl, ih]

theorem ofKey_map_of_ne (hne : k' ≠ k) (queue : List ι) : ofKey k (queue.map (k', ·)) = [] := by
  induction queue with
  | nil => rfl
  | cons i queue ih => rw [List.map_cons, ofKey_cons, if_neg hne, ih]

theorem mem_ofKey_iff {i : ι} : i ∈ ofKey k l ↔ (k, i) ∈ l := by
  simp [ofKey]

theorem ofKey_erase [DecidableEq ι] (l : List (κ × ι)) (i : ι) :
    ofKey k (l.erase (k', i)) = if k' = k then (ofKey k l).erase i else ofKey k l := by
  induction l with
  | nil => simp
  | cons item l ih =>
      obtain ⟨k'', j⟩ := item
      rw [List.erase_cons, ofKey_cons]
      by_cases hitem : (k'', j) = (k', i)
      · obtain ⟨rfl, rfl⟩ := Prod.mk.inj hitem
        by_cases hk : k'' = k <;> simp [hk]
      · rw [if_neg (by simpa using hitem), ofKey_cons, ih]
        by_cases hk : k' = k
        · subst hk
          by_cases hk'' : k'' = k'
          · subst hk''
            have hne : j ≠ i := fun h => hitem (by rw [h])
            simp [hne]
          · simp [hk'']
        · simp [hk]

theorem ofKey_items_eq_nil {queue : σ → List ι} {entries : List (κ × σ)}
    (h : k ∉ entries.map Prod.fst) : ofKey k (items queue entries) = [] := by
  induction entries with
  | nil => rfl
  | cons entry entries ih =>
      rw [List.map_cons, List.mem_cons, not_or] at h
      rw [items, List.flatMap_cons, ofKey_append, ofKey_map_of_ne (Ne.symm h.1)]
      exact ih h.2

/-- The elements taken out of some entries, of which those of a key are taken out of its value. -/
theorem ofKey_filterMap (f : κ → σ → Option ι) {entries : List (κ × σ)} (default : σ)
    (hdefault : f k default = none) (hdistinct : Distinct Prod.fst entries) :
    ofKey k (entries.filterMap fun entry => (f entry.1 entry.2).map (entry.1, ·)) =
      (f k (valueOf default k entries)).toList := by
  have hflat : (entries.filterMap fun entry => (f entry.1 entry.2).map (entry.1, ·)) =
      entries.flatMap fun entry => ((f entry.1 entry.2).toList.map (entry.1, ·)) := by
    rw [List.filterMap_eq_flatMap_toList]
    congr 1
    funext entry
    cases f entry.1 entry.2 <;> rfl
  rw [hflat]
  clear hflat
  induction entries with
  | nil => simp [valueOf, lookup, hdefault]
  | cons entry entries ih =>
      have hcons := List.nodup_cons.mp hdistinct
      rw [List.flatMap_cons, ofKey_append, valueOf_cons, ih hcons.2]
      split
      next hentry =>
        have hrest : valueOf default k entries = default := by
          by_contra hne
          exact hcons.1 (List.mem_map.mpr ⟨_, mem_of_valueOf_ne hne, hentry.symm⟩)
        rw [hrest, hdefault, hentry, ofKey_map_same]
        simp
      next hentry => rw [ofKey_map_of_ne hentry, List.nil_append]

/-- The elements that belong to a key are those of its queue. -/
theorem ofKey_items {queue : σ → List ι} {entries : List (κ × σ)} {default : σ}
    (hdefault : queue default = []) (hdistinct : Distinct Prod.fst entries) :
    ofKey k (items queue entries) = queue (valueOf default k entries) := by
  induction entries with
  | nil => exact hdefault.symm
  | cons entry entries ih =>
      have hcons := List.nodup_cons.mp hdistinct
      rw [items, List.flatMap_cons, ofKey_append, valueOf_cons]
      split
      next hentry =>
        have hnone : ofKey k (entries.flatMap fun entry => (queue entry.2).map (entry.1, ·)) = [] :=
          ofKey_items_eq_nil (hentry ▸ hcons.1)
        rw [hnone, hentry, ofKey_map_same, List.append_nil]
      next hentry =>
        rw [ofKey_map_of_ne hentry, List.nil_append]
        exact ih hcons.2

end Items

end Usbipdcpp.Foundation.KeyedList

/-
  Lists of records with a key.
-/
import Mathlib.Data.List.Nodup
import Mathlib.Data.List.Perm.Basic

namespace LocalMoe.Foundation

namespace Table

variable {ρ κ : Type*} [DecidableEq κ] (key : ρ → κ)

/-- The row stored under a key. -/
def lookup (rows : List ρ) (k : κ) : Option ρ := rows.find? fun r => key r = k

/-- No two rows share a key. -/
def UniqueKeys (rows : List ρ) : Prop := (rows.map key).Nodup

/-- A rewriting of rows that may drop a row but never renames one. -/
def KeepsKeys (g : ρ → Option ρ) : Prop := ∀ r r', g r = some r' → key r' = key r

variable {key}

theorem lookup_cons (r : ρ) (rows : List ρ) (k : κ) :
    lookup key (r :: rows) k = if key r = k then some r else lookup key rows k := by
  by_cases h : key r = k <;> simp [lookup, h]

variable {rows : List ρ}

theorem mem_of_lookup {k : κ} {r : ρ} (h : lookup key rows k = some r) : r ∈ rows ∧ key r = k := by
  refine ⟨List.mem_of_find?_eq_some h, ?_⟩
  have := List.find?_some h
  simpa using this

theorem lookup_eq_none_iff {k : κ} : lookup key rows k = none ↔ k ∉ rows.map key := by
  simp [lookup, List.find?_eq_none]

theorem lookup_eq_some_of_mem (hu : UniqueKeys key rows) {r : ρ} (h : r ∈ rows) :
    lookup key rows (key r) = some r := by
  induction rows with
  | nil => cases h
  | cons head rest ih =>
    rw [lookup_cons]
    have hnodup := List.nodup_cons.mp hu
    rcases List.mem_cons.mp h with rfl | hr
    · simp
    · have hne : key head ≠ key r := by
        intro heq
        exact hnodup.1 (heq ▸ List.mem_map_of_mem hr)
      rw [if_neg hne]
      exact ih hnodup.2 hr

theorem lookup_eq_some_iff (hu : UniqueKeys key rows) {k : κ} {r : ρ} :
    lookup key rows k = some r ↔ r ∈ rows ∧ key r = k := by
  constructor
  · exact mem_of_lookup
  · rintro ⟨hr, rfl⟩
    exact lookup_eq_some_of_mem hu hr

theorem lookup_append_single (rows : List ρ) (r : ρ) (k : κ) : lookup key (rows ++ [r]) k =
      (lookup key rows k).or (if key r = k then some r else none) := by
  simp only [lookup, List.find?_append]
  congr 1
  by_cases h : key r = k <;> simp [h]

theorem UniqueKeys.append_single (hu : UniqueKeys key rows) {r : ρ}
    (hr : lookup key rows (key r) = none) : UniqueKeys key (rows ++ [r]) := by
  unfold UniqueKeys
  rw [List.map_append, List.map_singleton]
  exact List.Nodup.append hu (List.nodup_singleton _) (by simpa using lookup_eq_none_iff.mp hr)

variable {g : ρ → Option ρ}

omit [DecidableEq κ] in
theorem keys_filterMap_sublist (hg : KeepsKeys key g) (rows : List ρ) :
    ((rows.filterMap g).map key).Sublist (rows.map key) := by
  induction rows with
  | nil => exact List.Sublist.refl _
  | cons head rest ih =>
    cases hh : g head with
    | none =>
      rw [List.filterMap_cons_none hh, List.map_cons]
      exact ih.cons _
    | some head' =>
      rw [List.filterMap_cons_some hh, List.map_cons, List.map_cons, hg head head' hh]
      exact ih.cons_cons _

omit [DecidableEq κ] in
theorem UniqueKeys.filterMap (hu : UniqueKeys key rows) (hg : KeepsKeys key g) :
    UniqueKeys key (rows.filterMap g) := (keys_filterMap_sublist hg rows).nodup hu

theorem lookup_filterMap (hu : UniqueKeys key rows) (hg : KeepsKeys key g) (k : κ) :
    lookup key (rows.filterMap g) k = (lookup key rows k).bind g := by
  induction rows with
  | nil => rfl
  | cons head rest ih =>
    have hnodup := List.nodup_cons.mp hu
    have hrest := ih hnodup.2
    rw [lookup_cons]
    by_cases hk : key head = k
    · rw [if_pos hk, Option.bind_some]
      cases hh : g head with
      | none =>
        rw [List.filterMap_cons_none hh, hrest]
        have hnone : lookup key rest k = none := lookup_eq_none_iff.mpr (hk ▸ hnodup.1)
        rw [hnone, Option.bind_none]
      | some head' =>
        rw [List.filterMap_cons_some hh, lookup_cons, if_pos ((hg head head' hh).trans hk)]
    · rw [if_neg hk]
      cases hh : g head with
      | none => rw [List.filterMap_cons_none hh, hrest]
      | some head' =>
        rw [List.filterMap_cons_some hh, lookup_cons,
          if_neg (fun e => hk ((hg head head' hh).symm.trans e)), hrest]

variable {f : ρ → ρ}

theorem lookup_map (hf : ∀ r, key (f r) = key r) (rows : List ρ) (k : κ) :
    lookup key (rows.map f) k = (lookup key rows k).map f := by
  induction rows with
  | nil => rfl
  | cons head rest ih =>
    rw [List.map_cons, lookup_cons, lookup_cons, hf head, ih]
    by_cases hk : key head = k
    · rw [if_pos hk, if_pos hk, Option.map_some]
    · rw [if_neg hk, if_neg hk]

/-! ## Single-row statements -/

/-- `UPDATE ... WHERE key = k`. -/
def update (key : ρ → κ) (rows : List ρ) (k : κ) (f : ρ → ρ) : List ρ :=
  rows.map fun r => if key r = k then f r else r

/-- `DELETE ... WHERE key = k`. -/
def delete (key : ρ → κ) (rows : List ρ) (k : κ) : List ρ :=
  rows.filter fun r => key r ≠ k

theorem update_eq_filterMap (rows : List ρ) (k : κ) (f : ρ → ρ) : update key rows k f =
      rows.filterMap fun r => some (if key r = k then f r else r) := by
  simp [update]

theorem delete_eq_filterMap (rows : List ρ) (k : κ) :
    delete key rows k = rows.filterMap fun r => if key r = k then none else some r := by
  rw [delete, ← List.filterMap_eq_filter]
  congr 1
  funext r
  by_cases h : key r = k <;> simp [h]

theorem keepsKeys_update {k : κ} (hf : ∀ r, key (f r) = key r) :
    KeepsKeys key fun r => some (if key r = k then f r else r) := by
  intro r r' h
  cases h
  by_cases hk : key r = k
  · rw [if_pos hk, hf r]
  · rw [if_neg hk]

theorem keepsKeys_delete {k : κ} :
    KeepsKeys key fun r : ρ => if key r = k then none else some r := by
  intro r r' h
  by_cases hk : key r = k
  · simp only [if_pos hk, reduceCtorEq] at h
  · simp only [if_neg hk, Option.some.injEq] at h
    rw [h]

theorem UniqueKeys.update (hu : UniqueKeys key rows) (k : κ) (hf : ∀ r, key (f r) = key r) :
    UniqueKeys key (update key rows k f) := by
  rw [update_eq_filterMap]
  exact hu.filterMap (keepsKeys_update hf)

theorem UniqueKeys.delete (hu : UniqueKeys key rows) (k : κ) :
    UniqueKeys key (delete key rows k) := by
  rw [delete_eq_filterMap]
  exact hu.filterMap keepsKeys_delete

theorem lookup_update (hu : UniqueKeys key rows) (k : κ) (hf : ∀ r, key (f r) = key r) (j : κ) :
    lookup key (update key rows k f) j =
      if j = k then (lookup key rows j).map f else lookup key rows j := by
  rw [update_eq_filterMap, lookup_filterMap hu (keepsKeys_update hf)]
  cases h : lookup key rows j with
  | none => simp
  | some r =>
    have hr := (mem_of_lookup h).2
    by_cases hj : j = k
    · simp [hj, hr.trans hj]
    · have hrk : key r ≠ k := fun e => hj (hr.symm.trans e)
      simp [hj, hrk]

theorem lookup_delete (hu : UniqueKeys key rows) (k j : κ) :
    lookup key (delete key rows k) j = if j = k then none else lookup key rows j := by
  rw [delete_eq_filterMap, lookup_filterMap hu keepsKeys_delete]
  cases h : lookup key rows j with
  | none => simp
  | some r =>
    have hr := (mem_of_lookup h).2
    by_cases hj : j = k
    · simp [hj, hr.trans hj]
    · have hrk : key r ≠ k := fun e => hj (hr.symm.trans e)
      simp [hj, hrk]

/-! ## Insert or replace -/

/-- `rows[key(r)] = r` of a dictionary that keeps the place of a key it has. -/
def put (key : ρ → κ) (rows : List ρ) (r : ρ) : List ρ :=
  if (lookup key rows (key r)).isSome then update key rows (key r) fun _ => r else rows ++ [r]

theorem update_const_eq_filterMap (rows : List ρ) (r : ρ) : update key rows (key r) (fun _ => r) =
      rows.filterMap fun r' => some (if key r' = key r then r else r') := update_eq_filterMap _ _ _

theorem keepsKeys_put (r : ρ) : KeepsKeys key fun r' => some (if key r' = key r then r else r') := by
  intro r₁ r₂ h
  cases h
  by_cases hk : key r₁ = key r
  · rw [if_pos hk, hk]
  · rw [if_neg hk]

theorem UniqueKeys.put {rows : List ρ} (hu : UniqueKeys key rows) (r : ρ) :
    UniqueKeys key (put key rows r) := by
  unfold Table.put
  cases h : lookup key rows (key r) with
  | none => exact hu.append_single h
  | some old =>
    rw [Option.isSome_some, if_pos rfl, update_const_eq_filterMap]
    exact hu.filterMap (keepsKeys_put r)

theorem lookup_put (hu : UniqueKeys key rows) (r : ρ) (k : κ) :
    lookup key (put key rows r) k = if key r = k then some r else lookup key rows k := by
  unfold put
  cases h : lookup key rows (key r) with
  | none =>
    rw [Option.isSome_none, if_neg (by decide), lookup_append_single]
    by_cases hk : key r = k
    · rw [if_pos hk, if_pos hk, ← hk, h, Option.none_or]
    · rw [if_neg hk, if_neg hk, Option.or_none]
  | some old =>
    rw [Option.isSome_some, if_pos rfl, update_const_eq_filterMap,
      lookup_filterMap hu (keepsKeys_put r)]
    by_cases hk : key r = k
    · rw [if_pos hk, ← hk, h, Option.bind_some, if_pos (mem_of_lookup h).2]
    · rw [if_neg hk]
      cases hj : lookup key rows k with
      | none => rfl
      | some other =>
        have hne : key other ≠ key r := fun e => hk (e.symm.trans (mem_of_lookup hj).2)
        rw [Option.bind_some, if_neg hne]

theorem mem_put (hu : UniqueKeys key rows) {r r' : ρ} (h : r' ∈ put key rows r) :
    r' = r ∨ r' ∈ rows := by
  have hfound := lookup_eq_some_of_mem (hu.put r) h
  rw [lookup_put hu] at hfound
  split at hfound
  · exact .inl (Option.some.inj hfound).symm
  · exact .inr (mem_of_lookup hfound).1

theorem mem_put_of_ne (hu : UniqueKeys key rows) {r r' : ρ} (h : r' ∈ rows) (hne : key r ≠ key r') :
    r' ∈ put key rows r := by
  have hfound := lookup_put hu r (key r')
  rw [if_neg hne, lookup_eq_some_of_mem hu h] at hfound
  exact (mem_of_lookup hfound).1

theorem length_put_le (rows : List ρ) (r : ρ) : (put key rows r).length ≤ rows.length + 1 := by
  unfold put update
  split
  · rw [List.length_map]
    exact Nat.le_succ _
  · rw [List.length_append]
    exact Nat.le_refl _

end Table

end LocalMoe.Foundation

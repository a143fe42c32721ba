/-
  Dictionaries of records.
-/
import LocalMoe.Foundation.Table

namespace LocalMoe.Foundation

namespace Table

variable {ρ κ : Type*} [DecidableEq κ] (key : ρ → κ)

/-- `{key(r): r for r in rows}`. -/
def build (rows : List ρ) : List ρ := rows.foldl (put key) []

variable {key}

theorem foldl_put_of_unique (rows : List ρ) {dict : List ρ} (hu : UniqueKeys key (dict ++ rows)) :
    rows.foldl (put key) dict = dict ++ rows := by
  induction rows generalizing dict with
  | nil => exact (List.append_nil dict).symm
  | cons r rest ih =>
    have hnew : lookup key dict (key r) = none := by
      rw [lookup_eq_none_iff]
      intro hmem
      rw [UniqueKeys, List.map_append, List.map_cons] at hu
      exact (List.disjoint_of_nodup_append hu) hmem List.mem_cons_self
    have hput : put key dict r = dict ++ [r] := by
      unfold put
      rw [hnew]
      rfl
    rw [List.foldl_cons, hput, ih (by rwa [List.append_assoc, List.singleton_append]),
      List.append_assoc, List.singleton_append]

theorem build_of_unique {rows : List ρ} (hu : UniqueKeys key rows) : build key rows = rows :=
  foldl_put_of_unique rows hu

theorem perm_of_lookup {rows other : List ρ} (hu : UniqueKeys key rows)
    (hu' : UniqueKeys key other) (h : ∀ k, lookup key rows k = lookup key other k) :
    rows.Perm other := by
  have hnodup := List.Nodup.of_map key hu
  have hnodup' := List.Nodup.of_map key hu'
  rw [List.perm_ext_iff_of_nodup hnodup hnodup']
  intro r
  constructor
  · intro hmem
    have hfound := lookup_eq_some_of_mem hu hmem
    rw [h] at hfound
    exact (mem_of_lookup hfound).1
  · intro hmem
    have hfound := lookup_eq_some_of_mem hu' hmem
    rw [← h] at hfound
    exact (mem_of_lookup hfound).1

end Table

end LocalMoe.Foundation

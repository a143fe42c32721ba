/-
  Loops over a list whose rounds may fail.
-/
import LocalMoe.Foundation.Checked
import Mathlib.Data.List.Forall2

namespace LocalMoe.Foundation

universe u v

variable {ε : Type u} {ι β : Type v}

variable {l : List ι}

theorem forM_ok_iff {f : ι → Except ε PUnit} {u : PUnit} :
    l.forM f = .ok u ↔ ∀ i ∈ l, f i = .ok ⟨⟩ := by
  constructor
  · intro h
    induction l with
    | nil => exact fun _ hi => by cases hi
    | cons i rest ih =>
      obtain ⟨_, hfirst, hrest⟩ := bind_eq_ok.mp (show (f i >>= fun _ => rest.forM f) = _ from h)
      intro j hj
      rcases List.mem_cons.mp hj with rfl | hj
      · exact hfirst
      · exact ih hrest j hj
  · exact fun h => forM_eq_ok h

variable {f : ι → Except ε β}

theorem mapM_ok_iff {out : List β} :
    l.mapM f = .ok out ↔ List.Forall₂ (fun i b => f i = .ok b) l out := by
  induction l generalizing out with
  | nil =>
    rw [List.mapM_nil, pure_eq_ok_iff, List.forall₂_nil_left_iff]
    exact eq_comm
  | cons i rest ih =>
    rw [List.mapM_cons, bind_eq_ok]
    constructor
    · rintro ⟨b, hb, h⟩
      obtain ⟨bs, hbs, h⟩ := bind_eq_ok.mp h
      cases h
      exact .cons hb (ih.mp hbs)
    · rintro (_ | ⟨hb, hbs⟩)
      exact ⟨_, hb, bind_eq_ok.mpr ⟨_, ih.mpr hbs, rfl⟩⟩

theorem forall₂_mem {R : ι → β → Prop} {out : List β} (h : List.Forall₂ R l out) {i : ι}
    (hi : i ∈ l) : ∃ b ∈ out, R i b := by
  induction h with
  | nil => cases hi
  | cons hb _ ih =>
    rcases List.mem_cons.mp hi with rfl | hi
    · exact ⟨_, List.mem_cons_self, hb⟩
    · obtain ⟨b, hmem, hb⟩ := ih hi
      exact ⟨b, List.mem_cons_of_mem _ hmem, hb⟩

theorem mapM_ok_left {out : List β} (h : l.mapM f = .ok out) {i : ι} (hi : i ∈ l) :
    ∃ b ∈ out, f i = .ok b :=
  forall₂_mem (mapM_ok_iff.mp h) hi

theorem mapM_ok_right {out : List β} (h : l.mapM f = .ok out) {b : β} (hb : b ∈ out) :
    ∃ i ∈ l, f i = .ok b :=
  forall₂_mem (mapM_ok_iff.mp h).flip hb

end LocalMoe.Foundation

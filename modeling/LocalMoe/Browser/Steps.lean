/-
  The invariant through every action of the provider.
-/
import LocalMoe.Browser.Approved

namespace LocalMoe.Browser

open Foundation Contracts

variable {E : Environment} {α : Type}

/-! ## Triples about the provider -/

def Of (P : Cell → Prop) (w : World) : Prop := P w.cell

variable {P Q : Cell → Prop} {R : Raised → World → Prop}

theorem ask_kept (answer : Replies → Except Raised α) :
    Effect.Triple (Of P) (ask E answer) (fun _ => Of P) (fun _ => Of P) := by
  intro w hw
  exact ⟨fun _ _ h => (Prod.mk.inj h).1 ▸ hw, fun _ _ h => (Prod.mk.inj h).1 ▸ hw⟩

theorem peek_kept (answer : Replies → α) :
    Effect.Triple (Of P) (peek E answer) (fun _ => Of P) R := by
  intro w hw
  exact ⟨fun _ _ h => (Prod.mk.inj h).1 ▸ hw, fun _ _ h => by cases h⟩

theorem refuse_of {F : Cell → Prop} {Q : α → World → Prop} (message : String) (h : ∀ c, P c → F c) :
    Effect.Triple (Of P) (refuse message : Action α) Q (fun _ => Of F) :=
  .fail fun w hw => h w.cell hw

theorem require_kept (condition : Prop) [Decidable condition] (message : String) :
    Effect.Triple (Of P) (require condition message) (fun _ => Of fun c => condition ∧ P c)
      (fun _ => Of P) :=
  .ite (fun h => .pure fun _ hw => ⟨h, hw⟩) fun _ => refuse_of _ fun _ hw => hw

theorem ofExcept_kept (x : Except Raised α) :
    Effect.Triple (Of P) (Effect.ofExcept x) (fun a => Of fun c => x = .ok a ∧ P c)
      (fun _ => Of P) := .ofExcept (fun _ hx _ hw => ⟨hx, hw⟩) fun _ _ _ hw => hw

theorem self_kept : Effect.Triple (Of P) self (fun c => Of fun c' => c' = c ∧ P c') R := by
  intro w hw
  refine ⟨fun c v h => ?_, fun _ _ h => by cases h⟩
  cases h
  exact ⟨rfl, hw⟩

theorem update_of {f : Cell → Cell} (h : ∀ c, P c → Q (f c)) :
    Effect.Triple (Of P) (update f) (fun _ => Of Q) R := .modify fun _ hw => h _ hw

variable {x : Action α}

theorem weaken_of {P' : Cell → Prop} {Q : α → World → Prop} (h : Effect.Triple (Of P) x Q R)
    (hP : ∀ c, P' c → P c) : Effect.Triple (Of P') x Q R :=
  h.weaken (fun w => hP w.cell) (fun _ _ h => h) fun _ _ h => h

theorem conseq {P' F F' : Cell → Prop} {Q Q' : α → Cell → Prop}
    (h : Effect.Triple (Of P) x (fun a => Of (Q a)) fun _ => Of F) (hP : ∀ c, P' c → P c)
    (hQ : ∀ a c, Q a c → Q' a c) (hF : ∀ c, F c → F' c) :
    Effect.Triple (Of P') x (fun a => Of (Q' a)) fun _ => Of F' :=
  h.weaken (fun w => hP w.cell) (fun a w => hQ a w.cell) fun _ w => hF w.cell

theorem closing_closed {Q : α → World → Prop} (h : Effect.Triple (Of P) x Q fun _ => Of (Kept E)) :
    Effect.Triple (Of P) (closing x) Q fun _ => Of (Closed E) :=
  h.handle fun _ => .bind (update_of fun _ hkept => hkept.close) fun _ => .fail fun _ h => h

/-! ## Requirements -/

theorem requireSession_kept : Effect.Triple (Of P) (requireSession E)
      (fun session => Of fun c => c.session = some session ∧ P c) (fun _ => Of P) := by
  refine .bind self_kept fun c => ?_
  rcases hsession : c.session with _ | session
  · exact refuse_of _ fun _ h => h.2
  · refine .bind (R := fun _ => Of fun c' => c'.session = some session ∧ P c')
      (weaken_of (peek_kept _) fun c' h => ⟨by rw [h.1, hsession], h.2⟩) fun active => ?_
    exact .ite (fun _ => .pure fun _ h => h) fun _ => refuse_of _ fun _ h => h.2

theorem requireProxy_kept :
    Effect.Triple (Of P) (requireProxy E) (fun _ => Of P) (fun _ => Of P) := by
  refine .bind self_kept fun c => ?_
  rcases c.proxy with _ | proxy
  · exact refuse_of _ fun _ h => h.2
  · refine .bind (R := fun _ => Of P) (weaken_of (peek_kept _) fun _ h => h.2) fun active => ?_
    exact .ite (fun _ => .pure fun _ h => h) fun _ => refuse_of _ fun _ h => h

theorem requireOrigin_kept : Effect.Triple (Of P) requireOrigin
      (fun origin => Of fun c => c.origin = some origin ∧ P c) (fun _ => Of P) := by
  refine .bind self_kept fun c => ?_
  rcases horigin : c.origin with _ | origin
  · exact refuse_of _ fun _ h => h.2
  · exact .pure fun _ h => ⟨by rw [h.1, horigin], h.2⟩

theorem requireHealthyState_kept : Effect.Triple (Of P) (requireHealthyState E)
      (fun _ => Of fun c => c.session.isSome ∧ P c) (fun _ => Of P) := by
  refine .bind requireSession_kept fun session => ?_
  refine .bind (R := fun _ => Of fun c => c.session.isSome = true ∧ P c) ?_ fun _ => ?_
  · refine conseq requireProxy_kept (fun c h => ⟨?_, h.2⟩) (fun _ _ h => h) fun c h => h.2
    rw [h.1, Option.isSome_some]
  · refine .bind (R := fun _ => Of fun c => c.session.isSome = true ∧ P c) ?_ fun _ => ?_
    · exact conseq requireOrigin_kept (fun _ h => h) (fun _ _ h => h.2) fun _ h => h.2
    · refine .bind self_kept fun c => ?_
      exact conseq (require_kept _ _) (fun _ h => h.2) (fun _ _ h => h.2) fun _ h => h.2

/-! ## Upstream calls -/

theorem callUpstream_kept (event : Option Event)
    (hnote : ∀ c session, c.session = some session → P c → match event with
      | none => Q c
      | some event => Q { c with trace := c.trace ++ [event] }) (hkept : ∀ c, P c → Kept E c)
    (hkept' : ∀ c, Q c → Kept E c) :
    Effect.Triple (Of P) (callUpstream E event) (fun _ => Of Q) (fun _ => Of (Kept E)) := by
  refine .bind (conseq requireSession_kept (fun _ h => h) (fun _ _ h => h) hkept) fun session => ?_
  refine .bind (R := fun _ => Of Q) ?_ fun _ => ?_
  · cases event with
    | none => exact .pure fun w h => hnote w.cell session h.1 h.2
    | some event => exact update_of fun c h => hnote c session h.1 h.2
  · refine .bind (R := fun _ => Of Q) ?_ fun result => ?_
    · refine .handle (F := fun _ => Of Q) (ask_kept _) fun raised => ?_
      split
      · exact refuse_of _ hkept'
      · exact .fail fun w h => hkept' _ h
    · exact .ite (fun _ => refuse_of _ hkept') fun _ => .pure fun _ h => h

theorem fetch_kept (hkept : ∀ c, P c → Kept E c) : Effect.Triple (Of P) (callUpstream E none)
      (fun _ => Of fun c => c.session.isSome = true ∧ P c) (fun _ => Of (Kept E)) :=
  callUpstream_kept none (fun c session hsession h => ⟨by rw [hsession, Option.isSome_some], h⟩)
    hkept fun c h => hkept c h.2

theorem browserObservationText_kept (result : CallResult) :
    Effect.Triple (Of P) (browserObservationText E result) (fun _ => Of P) (fun _ => Of P) := by
  refine .bind self_kept fun c => ?_
  refine .bind (R := fun _ => Of P) ?_ fun _ => ?_
  · exact conseq (require_kept _ _) (fun _ h => h.2) (fun _ _ h => h.2) fun _ h => h
  · split
    · exact .pure fun _ h => h
    · refine .bind (R := fun _ => Of P) ?_ fun _ => ?_
      · exact conseq (require_kept _ _) (fun _ h => h) (fun _ _ h => h.2) fun _ h => h
      · exact .bind (ask_kept _) fun _ => .pure fun _ h => h
    · exact refuse_of _ fun _ h => h

theorem parseObservation_kept (result : CallResult) :
    Effect.Triple (Of P) (parseObservation E result)
      (fun parsed => Of fun c => (∃ origin, c.origin = some origin ∧
        parseLocalOrigin E.library E.config.allowedHosts parsed.2 = .ok origin) ∧ P c)
      (fun _ => Of P) := by
  refine .bind (browserObservationText_kept result) fun observation => ?_
  refine .bind requireOrigin_kept fun origin => ?_
  refine .bind (R := fun url => Of fun c => validatedPageUrl E.library E.config.allowedHosts origin
    observation = .ok url ∧ c.origin = some origin ∧ P c) ?_ fun url => ?_
  · exact conseq (ofExcept_kept _) (fun _ h => h) (fun _ _ h => h) fun _ h => h.2
  · exact .pure fun w h => ⟨⟨origin, h.2.1, validatedPageUrl_ok _ h.1⟩, h.2.2⟩

end LocalMoe.Browser

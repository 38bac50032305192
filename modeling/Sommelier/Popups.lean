import Sommelier.Collection
import Sommelier.Unmanaged

/-!
# Popups have parents

`xdg_surface_get_popup` takes the popup's `xdg_surface` and its parent's; a popup created with
no parent must get one from another protocol before its first commit, which this file never gives.
`sl_window_update` asks for a popup only in the popup branch of its role stage
(`assignRole_popup`), on the window's own `xdg_surface`, created just before, and under the
`xdg_surface` of the window it resolved as the parent. That window is the updated window itself
or a live window with an `xdg_toplevel` or realized, and such a window has an `xdg_surface`
(`updateParent_ready`, from the collection's invariant). So along every run, every popup request
names both surfaces (`popups_have_parents`).
-/

namespace Sommelier

/-- Whether a message asks for a popup. -/
def Msg.isPopup : Msg → Bool
  | .getPopup .. => true
  | _ => false

/-- A message that only uses objects creates no popup. -/
theorem Msg.Uses.isPopup {m : Msg} {xs : List Nat} (h : m.Uses xs) : m.isPopup = false := by
  cases m <;> first | rfl | cases h.1

/-- Creating the `xdg_surface` creates no popup. -/
theorem ensureXdgSurface_isPopup (hs : SlHostSurface) (n : Nat) (w : SlWindow) :
    ∀ m ∈ (ensureXdgSurface hs n w).2.2, m.isPopup = false := by
  unfold ensureXdgSurface
  split
  · exact fun _ h => nomatch h
  · intro m hm
    rw [List.mem_singleton.mp hm]
    rfl

/-- The aura stage of `sl_window_update` creates no popup. -/
theorem auraStage_isPopup (X : Extern) (ctx : SlContext) (hs : SlHostSurface) (n : Nat)
    (w : SlWindow) : ∀ m ∈ (auraStage X ctx hs n w).2.2, m.isPopup = false := by
  unfold auraStage
  split
  · obtain ⟨rest, hsent, hrest⟩ := auraBlock_sent X ctx ‹_› hs n w
    rw [hsent]
    intro m hm
    rcases List.mem_append.mp hm with hm | hm
    · split at hm
      · cases hm
      · rw [List.mem_singleton.mp hm]
        rfl
    · exact (hrest m hm).1.isPopup
  · exact fun _ h => nomatch h

/-- Giving a window the toplevel role creates no popup. -/
theorem assignToplevel_isPopup (X : Extern) (heap : Nat → Option SlWindow) (p : Nat)
    (parent : Option Nat) (sc : Option SurfaceScale) (n : Nat) (w : SlWindow) :
    ∀ m ∈ (assignToplevel X heap p parent sc n w).2.2, m.isPopup = false := by
  obtain ⟨rest, hsent, hrest⟩ := @assignToplevel_sent heap p X parent sc n w
  rw [hsent]
  intro m hm
  rcases List.mem_append.mp hm with hm | hm
  · split at hm
    · cases hm
    · rw [List.mem_singleton.mp hm]
      rfl
  · exact (hrest m hm).1.isPopup

/-- The role stage asks for a popup only in its popup branch: on the window's `xdg_surface`, under
the `xdg_surface` of the parent as `peek` shows it. -/
theorem assignRole_popup {X : Extern} {ctx : SlContext} {heap : Nat → Option SlWindow} {p : Nat}
    {par : Option Nat} {sc : Option SurfaceScale} {fresh : Nat} {w : SlWindow} {n : Nat}
    {x parent : Option Nat} {dx dy : Int}
    (h : .getPopup n x parent dx dy ∈ (assignRole X ctx heap p par sc fresh w).2.2) :
    ∃ q, par = some q ∧ x = w.xdgSurface ∧ parent = (peek heap p w q).bind (·.xdgSurface) := by
  unfold assignRole at h
  split at h
  · exact Bool.noConfusion (assignToplevel_isPopup _ _ _ _ _ _ _ _ h)
  · split at h
    · rename_i q _ _
      split at h
      obtain ⟨-, rfl, rfl, -, -⟩ := Msg.getPopup.inj (List.mem_singleton.mp h)
      exact ⟨q, rfl, rfl, rfl⟩
    · cases h

/-- The stages of `sl_window_update` ask for a popup only on the window's `xdg_surface`, and under
the window itself or under the `xdg_surface` of the live window they resolved as the parent. -/
theorem reconcile_popup {X : Extern} {W : World} {ctx : SlContext} {p : Nat} {w : SlWindow}
    {hs : SlHostSurface} {n : Nat} {x parent : Option Nat} {dx dy : Int}
    (h : .getPopup n x parent dx dy ∈ (reconcile X W ctx p w hs).sent) :
    x.isSome ∧ (parent.isSome ∨ ∃ q, (reconcile X W ctx p w hs).parent = some q ∧ q ≠ p ∧
      parent = (W.heap q).bind (·.xdgSurface)) := by
  obtain ⟨ps, hps⟩ := bindPairedSurface_window X hs w
  obtain ⟨d, hd⟩ := queryDepth_eq W.depthReply { w with pairedSurface := ps }
  simp only [reconcile, hps, hd, List.mem_append] at h ⊢
  rcases h with ((h | h) | h) | h
  · exact Bool.noConfusion (ensureXdgSurface_isPopup _ _ _ _ h)
  · exact Bool.noConfusion (auraStage_isPopup _ _ _ _ _ _ h)
  · obtain ⟨q, hq, rfl, rfl⟩ := assignRole_popup h
    simp only [auraStage_window, ensureXdgSurface_window, Option.isSome_some, true_and]
    by_cases hqp : q = p
    · left
      simp [peek, hqp]
    · exact .inr ⟨q, hq, hqp, by simp [peek, hqp]⟩
  · exact Bool.noConfusion (auraParent_uses X ctx _ _ _ _ h).isPopup

/-- Every popup that a move asks for is on an `xdg_surface` and under a parent `xdg_surface`. -/
theorem Moves.popup {X : Extern} {W : World} {p : Nat} {w w' : SlWindow} {sent : List Msg}
    {ctx : SlContext} {fresh : Nat} (hm : Moves X W p w w' sent ctx fresh) (hi : CollectionInv W)
    (hp : W.heap p = some w) {n : Nat} {x parent : Option Nat} {dx dy : Int}
    (h : .getPopup n x parent dx dy ∈ sent) : x.isSome ∧ parent.isSome := by
  have none_of_uses : ∀ {xs : List Nat} {sent : List Msg}, (∀ m ∈ sent, m.Uses xs) →
      .getPopup n x parent dx dy ∉ sent := fun hs h => Bool.noConfusion (hs _ h).isPopup
  cases hm with
  | surfaceConfigure _ h' =>
    rcases List.mem_cons.mp h with h | h
    · cases h
    · exact absurd h (none_of_uses (slInternalXdgSurfaceConfigure_uses h'))
  | toplevelConfigure => cases mem_overrunRecord h
  | close => cases List.mem_singleton.mp h
  | commit h' => exact absurd h (none_of_uses (slCommit_uses h'))
  | teardown _ => simp [Sommelier.teardown] at h
  | @update ctx w₁ w₂ hs sent hr h' =>
    rcases List.mem_append.mp h with h | h
    · obtain ⟨hx, hpar | ⟨q, hq, hqp, rfl⟩⟩ := reconcile_popup h
      · exact ⟨hx, hpar⟩
      · have hu : updateParent X W p = some q := by simp only [updateParent, hp, hr]; exact hq
        obtain ⟨s, hs', hsurf, -⟩ := updateParent_ready hi hu
        exact ⟨hx, by simpa [hs'] using hsurf⟩
    · exact absurd h (none_of_uses (finishUpdate_uses h'))
  | pair => cases h
  | properties => cases h

/-- Along every run, every `xdg_surface_get_popup` the window code sends is on an `xdg_surface` and
names a parent `xdg_surface`: no popup is created without a parent. -/
theorem popups_have_parents {X : Extern} {W : World} (hW : Reachable X W) :
    ∀ q n x parent dx dy, (q, Msg.getPopup n x parent dx dy) ∈ W.log → x.isSome ∧ parent.isSome := by
  induction hW with
  | init => exact fun _ _ _ _ _ _ h => nomatch h
  | @step W W' op hW hs ih =>
    intro q n x parent dx dy he
    rcases step_cases hs with ⟨-, h₂, -⟩ | ⟨_, _, _, _, _, _, _, _, -, h₂, -⟩ |
      ⟨_, _, -, -, h₂, -⟩ | ⟨p, w, w', sent, hp, hm, -, h₂, -⟩ <;> rw [h₂] at he
    · exact ih q n x parent dx dy he
    · exact ih q n x parent dx dy he
    · exact ih q n x parent dx dy he
    · rcases mem_emit.mp he with ⟨-, he⟩ | he
      · exact hm.popup hW.collectionInv hp he
      · exact ih q n x parent dx dy he

/-- After `unmanagedRun`, window `1` has asked for popup `4` on `xdg_surface` `3`, under
`xdg_surface` `1`. -/
theorem popups_have_parents_unmanaged :
    (1, Msg.getPopup 4 (some 3) (some 1) 3 4) ∈ unmanagedState.log ∧
      (some 3 : Option Nat).isSome ∧ (some 1 : Option Nat).isSome :=
  ⟨by decide, popups_have_parents (W := unmanagedState) (reachable_run_getD _ (by decide)) 1 4 _ _ 3 4
    (by decide)⟩

end Sommelier

import Sommelier.Objects

/-!
# Roles under Xwayland

An `xdg_surface` takes one role for its whole life; asking for a second one is a protocol error.
`sl_window_update` asks for a toplevel when the window has none and, without Xwayland, for a popup
when it has a parent and no popup, so a window can ask twice (`window_update_second_role`). With
Xwayland it always takes the toplevel branch, and this module proves that it then never asks
twice: `roles` lists, newest first, the `xdg_surface` of every role request of the log, and along
every run under Xwayland it has no duplicates, while no live window holds a popup
(`xwayland_roles_once`).

The argument is the object lifecycle's: under Xwayland, a window holds a toplevel whenever it
holds an `xdg_surface`, so the only update that asks for a toplevel is one that has just created
the `xdg_surface`, as the fresh object, which no older message names (`ObjectsInv.named`).
-/

namespace Sommelier

/-- The `xdg_surface` that a message gives a role. -/
def Msg.roleOn : Msg → Option Nat
  | .getToplevel _ x | .getPopup _ x .. => x
  | _ => none

/-- The `xdg_surface`s that the role requests of a log name, newest first. -/
def roles (log : List (Nat × Msg)) : List Nat :=
  log.filterMap (·.2.roleOn)

/-- A message that creates no object gives no role. -/
theorem Msg.roleOn_of_creates {m : Msg} (h : m.creates = none) : m.roleOn = none := by
  cases m <;> first | rfl | cases h

/-- The `xdg_surface` a role request names is one of the message's objects. -/
theorem Msg.roleOn_mem_objects {m : Msg} {x : Nat} (h : m.roleOn = some x) : x ∈ m.objects := by
  cases m <;> simp_all [Msg.roleOn, Msg.objects]

/-- Emitting messages puts their role requests, newest first, before the log's. -/
theorem roles_emit (p : Nat) (sent : List Msg) (log : List (Nat × Msg)) :
    roles (emit p sent log) = (sent.filterMap Msg.roleOn).reverse ++ roles log := by
  simp only [roles, emit, List.filterMap_append, List.filterMap_reverse, List.filterMap_map]
  rfl

/-- Every `xdg_surface` given a role is named by the log. -/
theorem named_of_mem_roles {x : Nat} {log : List (Nat × Msg)} (h : x ∈ roles log) : Named x log := by
  obtain ⟨e, he, hx⟩ := List.mem_filterMap.mp h
  exact ⟨e, he, .inr (Msg.roleOn_mem_objects hx)⟩

/-- Messages that create nothing request no role. -/
theorem roles_eq_nil {sent : List Msg} (h : ∀ m ∈ sent, m.creates = none) :
    sent.filterMap Msg.roleOn = [] :=
  List.filterMap_eq_nil_iff.mpr fun m hm => Msg.roleOn_of_creates (h m hm)

/-! ## What each stage asks for -/

section Stages

variable {heap : Nat → Option SlWindow} {p : Nat}

/-- Creating the `xdg_surface` requests no role. -/
theorem ensureXdgSurface_roles (hs : SlHostSurface) (n : Nat) (w : SlWindow) :
    (ensureXdgSurface hs n w).2.2.filterMap Msg.roleOn = [] := by
  cases h : w.xdgSurface <;> simp [ensureXdgSurface, h, Msg.roleOn]

/-- The aura stage of `sl_window_update` requests no role. -/
theorem auraStage_roles (X : Extern) (ctx : SlContext) (hs : SlHostSurface) (n : Nat)
    (w : SlWindow) : (auraStage X ctx hs n w).2.2.filterMap Msg.roleOn = [] := by
  unfold auraStage
  split
  · obtain ⟨rest, hsent, hrest⟩ := auraBlock_sent X ctx ‹_› hs n w
    rw [hsent, List.filterMap_append, roles_eq_nil fun m hm => (hrest m hm).1.1]
    split <;> rfl
  · rfl

/-- The toplevel branch asks for a role only when the window has no toplevel, and then on its
`xdg_surface`. -/
theorem assignToplevel_roles (X : Extern) (parent : Option Nat) (sc : Option SurfaceScale)
    (n : Nat) (w : SlWindow) :
    (assignToplevel X heap p parent sc n w).2.2.filterMap Msg.roleOn =
      if w.xdgToplevel.isSome then [] else w.xdgSurface.toList := by
  obtain ⟨rest, hsent, hrest⟩ := @assignToplevel_sent heap p X parent sc n w
  rw [hsent, List.filterMap_append, roles_eq_nil fun m hm => (hrest m hm).1.1, List.append_nil]
  split
  · rfl
  · cases w.xdgSurface <;> rfl

/-- Setting the aura surface's parent requests no role. -/
theorem auraParent_roles (X : Extern) (ctx : SlContext) (parent : Option Nat)
    (sc : Option SurfaceScale) (w : SlWindow) :
    (auraParent X ctx heap p parent sc w).filterMap Msg.roleOn = [] :=
  roles_eq_nil fun m hm => (auraParent_uses X ctx parent sc w m hm).1

end Stages

/-- Tearing down a window's objects requests no role. -/
theorem teardown_roles (w : SlWindow) : (teardown w).2.filterMap Msg.roleOn = [] := by
  refine roles_eq_nil ?_
  simp only [teardown, List.mem_append, Option.mem_toList, Option.mem_map]
  rintro m (((⟨_, _, rfl⟩ | ⟨_, _, rfl⟩) | ⟨_, _, rfl⟩) | ⟨_, _, rfl⟩) <;> rfl

/-- The commit that ends `sl_window_update` requests no role. -/
theorem finishUpdate_roles {X : Extern} {hs : SlHostSurface} {w w' : SlWindow} {sent : List Msg}
    (h : finishUpdate X hs w = some (w', sent)) : sent.filterMap Msg.roleOn = [] :=
  roles_eq_nil fun m hm => (finishUpdate_uses h m hm).1

/-- Under Xwayland, the stages of `sl_window_update` ask for one role, on the window's
`xdg_surface` or the fresh one, exactly when the window has no toplevel. -/
theorem reconcile_roles {X : Extern} {W : World} {ctx : SlContext} {p : Nat} {w : SlWindow}
    {hs : SlHostSurface} (hx : ctx.xwayland = true) :
    (reconcile X W ctx p w hs).sent.filterMap Msg.roleOn =
      if w.xdgToplevel.isSome then [] else [w.xdgSurface.getD W.fresh] := by
  obtain ⟨ps, hps⟩ := bindPairedSurface_window X hs w
  obtain ⟨d, hd⟩ := queryDepth_eq W.depthReply { w with pairedSurface := ps }
  simp only [reconcile, hps, hd, List.filterMap_append, ensureXdgSurface_roles, auraStage_roles,
    auraParent_roles, assignRole, hx, true_or, if_true, assignToplevel_roles, auraStage_window,
    ensureXdgSurface_window, List.nil_append, List.append_nil]
  rfl

/-! ## Runs under Xwayland -/

/-- A window with no popup that holds a toplevel whenever it holds an `xdg_surface`. -/
def SlWindow.ToplevelOnly (w : SlWindow) : Prop :=
  w.xdgPopup = none ∧ (w.xdgToplevel = none → w.xdgSurface = none)

/-- Under Xwayland, a move keeps a window toplevel-only and asks for no role, or for one on the
fresh object. -/
theorem Moves.roles {X : Extern} {W : World} {p : Nat} {w w' : SlWindow} {sent : List Msg}
    {ctx : SlContext} {fresh : Nat} (hm : Moves X W p w w' sent ctx fresh)
    (hx : W.ctx.xwayland = true) (hw : w.ToplevelOnly) :
    w'.ToplevelOnly ∧ (sent.filterMap Msg.roleOn = [] ∨ sent.filterMap Msg.roleOn = [W.fresh]) := by
  have hx' : ctx.xwayland = true := by
    obtain ⟨_, _, _, _, hc⟩ := hm.ctx_eq
    rw [hc]
    exact hx
  cases hm with
  | surfaceConfigure _ h =>
    obtain ⟨g, pc, nc, rfl⟩ := slInternalXdgSurfaceConfigure_engine h
    exact ⟨hw, .inl (roles_eq_nil fun m hm => (List.mem_cons.mp hm).elim (· ▸ rfl)
      fun hm => (slInternalXdgSurfaceConfigure_uses h m hm).1)⟩
  | toplevelConfigure width height states =>
    obtain ⟨_, _, _, _, _, _, _, h⟩ := slInternalXdgToplevelConfigure_window X W.ctx p w
      (getObject W.objects (w.pairedSurface.getD 0)) width height states
    rw [h]
    exact ⟨hw, .inl (roles_eq_nil fun m hm => by rw [mem_overrunRecord hm]; rfl)⟩
  | close => exact ⟨hw, .inl rfl⟩
  | commit h =>
    obtain ⟨g, pc, nc, rfl⟩ := slCommit_engine h
    exact ⟨hw, .inl (roles_eq_nil fun m hm => (slCommit_uses h m hm).1)⟩
  | teardown _ => exact ⟨⟨rfl, fun _ => rfl⟩, .inl (teardown_roles _)⟩
  | @update ctx w₁ w₂ hs sent hr h =>
    obtain ⟨u, ps, rfl⟩ := pairingTransition_window_of hr
    obtain ⟨-, -, hrole, -, hpopup⟩ :=
      reconcile_window X W ctx p { w with unpaired := u, pairedSurface := ps } hs
    obtain ⟨g, pc, nc, r, rfl⟩ := finishUpdate_frame h
    rw [List.filterMap_append, finishUpdate_roles h, List.append_nil, reconcile_roles hx']
    generalize (reconcile X W ctx p { w with unpaired := u, pairedSurface := ps } hs).window = v
      at hrole hpopup ⊢
    have hv : v.xdgPopup = none := (hpopup hx').trans hw.1
    refine ⟨⟨hv, fun ht => ?_⟩, ?_⟩
    · simp [hv] at ht hrole
      simp [ht] at hrole
    · cases ht : w.xdgToplevel
      · simp [hw.2 ht]
      · simp
  | pair id => exact ⟨hw, .inl rfl⟩
  | properties props => exact ⟨hw, .inl rfl⟩

/-- What Xwayland keeps along every run: no `xdg_surface` is given two roles, and every live
window is toplevel-only. -/
structure RolesInv (W : World) : Prop where
  /-- No `xdg_surface` is named by two role requests. -/
  once : (roles W.log).Nodup
  /-- Every live window has no popup, and has an `xdg_surface` only with a toplevel. -/
  toplevelOnly : ∀ p w, W.heap p = some w → w.ToplevelOnly

/-- Under Xwayland every step keeps the invariant. -/
theorem RolesInv.step {X : Extern} {W W' : World} {op : Op} (hi : RolesInv W) (ho : ObjectsInv W)
    (hx : W.ctx.xwayland = true) (h : step X W op = some W') : RolesInv W' := by
  rcases step_cases h with ⟨h₁, h₂, -⟩ | ⟨_, _, _, _, _, _, _, _, h₁, h₂, -⟩ |
    ⟨p, w, hp, h₁, h₂, -⟩ | ⟨p, w, w', sent, hp, hm, h₁, h₂, -⟩
  · exact ⟨h₂ ▸ hi.once, fun q v hq => hi.toplevelOnly q v (h₁ ▸ hq)⟩
  · refine ⟨h₂ ▸ hi.once, fun q v hq => ?_⟩
    rw [h₁] at hq
    rcases update_eq_some hq with ⟨-, ⟨⟩⟩ | ⟨-, hq⟩
    · exact ⟨rfl, fun _ => rfl⟩
    · exact hi.toplevelOnly q v hq
  · refine ⟨h₂ ▸ hi.once, fun q v hq => ?_⟩
    rw [h₁] at hq
    rcases update_eq_some hq with ⟨-, ⟨⟩⟩ | ⟨-, hq⟩
    exact hi.toplevelOnly q v hq
  · obtain ⟨hw', hroles⟩ := hm.roles hx (hi.toplevelOnly p w hp)
    refine ⟨?_, fun q v hq => ?_⟩
    · rw [h₂, roles_emit, List.nodup_append]
      rcases hroles with hr | hr <;> rw [hr]
      · exact ⟨List.nodup_nil, hi.once, List.disjoint_nil_left _⟩
      · refine ⟨List.nodup_singleton _, hi.once, ?_⟩
        simp only [List.reverse_singleton, List.singleton_disjoint]
        exact fun hx => Nat.lt_irrefl _ (ho.named _ (named_of_mem_roles hx))
    · rw [h₁] at hq
      rcases update_eq_some hq with ⟨-, ⟨⟩⟩ | ⟨-, hq⟩
      · exact hw'
      · exact hi.toplevelOnly q v hq

/-- Under Xwayland every reachable world meets the invariant. -/
theorem Reachable.rolesInv {X : Extern} {W : World} (hW : Reachable X W)
    (hx : W.ctx.xwayland = true) : RolesInv W := by
  induction hW with
  | init => exact ⟨List.nodup_nil, fun _ _ h => nomatch h⟩
  | @step W W' op hW hs ih =>
    have hx₀ : W.ctx.xwayland = true := by
      obtain ⟨_, _, _, _, hc⟩ := step_ctx hs
      rw [hc] at hx
      exact hx
    exact (ih hx₀).step hW.objectsInv hx₀ hs

/-- With Xwayland, along every run no `xdg_surface` is given a role twice, and every live window
holds no popup and holds a toplevel whenever it holds an `xdg_surface`. -/
theorem xwayland_roles_once {X : Extern} {W : World} (hW : Reachable X W)
    (hx : W.ctx.xwayland = true) :
    (roles W.log).Nodup ∧ ∀ p w, W.heap p = some w →
      w.xdgPopup = none ∧ (w.xdgSurface.isSome → w.xdgToplevel.isSome) := by
  have hi := hW.rolesInv hx
  refine ⟨hi.once, fun p w hp => ⟨(hi.toplevelOnly p w hp).1, fun hs => ?_⟩⟩
  cases ht : w.xdgToplevel
  · simp [(hi.toplevelOnly p w hp).2 ht] at hs
  · rfl

/-- The state after `lostSurfaceRun`, whose log holds a teardown, meets
`xwayland_roles_once`. -/
theorem xwayland_roles_once_lost_surface :
    (roles lostSurfaceState.log).Nodup ∧ ∀ p w, lostSurfaceState.heap p = some w →
      w.xdgPopup = none ∧ (w.xdgSurface.isSome → w.xdgToplevel.isSome) :=
  xwayland_roles_once (W := lostSurfaceState) (reachable_run_getD _ (by decide)) (by decide)

end Sommelier

import Sommelier.Roles

/-!
# Unmanaged windows

An unmanaged (override-redirect) window places itself: the window manager must not move, resize
or restate it. In this file, only `sl_configure_window` configures X windows, through its mask
and, for a managed window, `_NET_WM_STATE`; its assertion lets an unmanaged window through only
with an empty mask, and `sl_internal_xdg_toplevel_configure` returns at once for one. So each
operation leaves an unmanaged window `Untouched`: the same geometry, managed flag and activation,
and no message that configures an X window (`Msg.XConfigure`). Along every run, an unmanaged window
is never activated (so never the host's focus), nothing has configured it, and no operation moves
it (`unmanaged_untouched`).
-/

namespace Sommelier

/-- The X requests and events that configure a window: `ConfigureWindow` on its frame or on the
client, the synthetic `ConfigureNotify`, and the `_NET_WM_STATE` property. -/
def Msg.XConfigure : Msg → Prop
  | .configureWindow .. | .configureNotify .. | .changeNetWmState .. => True
  | _ => False

/-! ## `sl_window_update` configures no X window -/

/-- Creating the `xdg_surface` configures no X window. -/
theorem ensureXdgSurface_xconfigure (hs : SlHostSurface) (n : Nat) (w : SlWindow) :
    ∀ m ∈ (ensureXdgSurface hs n w).2.2, ¬m.XConfigure := by
  unfold ensureXdgSurface
  split
  · exact fun _ h => nomatch h
  · intro m hm hx
    rw [List.mem_singleton.mp hm] at hx
    exact hx

/-- An X request or event names no compositor object. -/
theorem Msg.XConfigure.objects {m : Msg} (h : m.XConfigure) : m.objects = [] := by
  cases m <;> first | rfl | exact h.elim

/-- The aura stage of `sl_window_update` configures no X window. -/
theorem auraStage_xconfigure (X : Extern) (ctx : SlContext) (hs : SlHostSurface) (n : Nat)
    (w : SlWindow) : ∀ m ∈ (auraStage X ctx hs n w).2.2, ¬m.XConfigure := by
  unfold auraStage
  split
  · obtain ⟨rest, hsent, hrest⟩ := auraBlock_sent X ctx ‹_› hs n w
    rw [hsent]
    intro m hm hx
    rcases List.mem_append.mp hm with hm | hm
    · split at hm
      · cases hm
      · rw [List.mem_singleton.mp hm] at hx
        exact hx
    · exact (hrest m hm).2 hx.objects
  · exact fun _ h => nomatch h

/-- Giving the window its role configures no X window. -/
theorem assignRole_xconfigure (X : Extern) (ctx : SlContext) (heap : Nat → Option SlWindow)
    (p : Nat) (parent : Option Nat) (sc : Option SurfaceScale) (n : Nat) (w : SlWindow) :
    ∀ m ∈ (assignRole X ctx heap p parent sc n w).2.2, ¬m.XConfigure := by
  unfold assignRole
  split
  · obtain ⟨rest, hsent, hrest⟩ := @assignToplevel_sent heap p X parent sc n w
    rw [hsent]
    intro m hm hx
    rcases List.mem_append.mp hm with hm | hm
    · split at hm
      · cases hm
      · rw [List.mem_singleton.mp hm] at hx
        exact hx
    · exact (hrest m hm).2 hx.objects
  · split
    · intro m hm hx
      rw [List.mem_singleton.mp hm] at hx
      exact hx
    · exact fun _ h => nomatch h

/-- Setting the aura surface's parent configures no X window. -/
theorem auraParent_xconfigure (X : Extern) (ctx : SlContext) (heap : Nat → Option SlWindow)
    (p : Nat) (parent : Option Nat) (sc : Option SurfaceScale) (w : SlWindow) :
    ∀ m ∈ auraParent X ctx heap p parent sc w, ¬m.XConfigure := by
  unfold auraParent
  split
  · split
    · intro m hm hx
      rw [List.mem_singleton.mp hm] at hx
      exact hx
    · exact fun _ h => nomatch h
  · exact fun _ h => nomatch h

/-- The stages of `sl_window_update` before its commit configure no X window. -/
theorem reconcile_xconfigure (X : Extern) (W : World) (ctx : SlContext) (p : Nat) (w : SlWindow)
    (hs : SlHostSurface) : ∀ m ∈ (reconcile X W ctx p w hs).sent, ¬m.XConfigure := by
  simp only [reconcile, List.forall_mem_append]
  exact ⟨⟨⟨ensureXdgSurface_xconfigure _ _ _, auraStage_xconfigure _ _ _ _ _⟩,
    assignRole_xconfigure _ _ _ _ _ _ _ _⟩, auraParent_xconfigure _ _ _ _ _ _ _⟩

/-! ## The configure engine on an unmanaged window -/

/-- What an operation does to an unmanaged window: it keeps its geometry, its managed flag and
its activation, and sends nothing that configures an X window. -/
structure Untouched (w w' : SlWindow) (sent : List Msg) : Prop where
  geometry : w'.geometry = w.geometry
  managed : w'.managed = w.managed
  activated : w'.activated = w.activated
  quiet : ∀ m ∈ sent, ¬m.XConfigure

/-- Two steps that each leave a window untouched leave it untouched one after the other. -/
theorem Untouched.trans {w₁ w₂ w₃ : SlWindow} {s₁ s₂ : List Msg} (h₁ : Untouched w₁ w₂ s₁)
    (h₂ : Untouched w₂ w₃ s₂) : Untouched w₁ w₃ (s₁ ++ s₂) :=
  ⟨h₂.geometry.trans h₁.geometry, h₂.managed.trans h₁.managed, h₂.activated.trans h₁.activated,
    fun m hm => (List.mem_append.mp hm).elim (h₁.quiet m) (h₂.quiet m)⟩

/-- On an unmanaged window, `sl_configure_window` gets past its assertion only with an empty
mask: it moves nothing and sends only its ghost record. -/
theorem slConfigureWindow_untouched {w w' : SlWindow} {sent : List Msg} (hm : w.managed = false)
    (h : slConfigureWindow w = some (w', sent)) : Untouched w w' sent := by
  obtain ⟨-, hmask, rfl, -⟩ := slConfigureWindow_some h
  have h0 : w.nextConfig.mask = 0 := by
    by_contra h0
    simp [hmask h0] at hm
  unfold slConfigureWindow at h
  simp only [h0, hm, if_true, Bool.false_eq_true, if_false, List.nil_append] at h
  split at h
  · cases h
  · obtain ⟨-, rfl⟩ := Prod.mk.inj (Option.some.inj h)
    refine ⟨by simp only [installedGeometry, h0, if_true, SlWindow.withGeometry_self]; rfl, rfl, rfl,
      fun m hm => ?_⟩
    rw [List.mem_singleton.mp hm]
    exact id

/-- On an unmanaged window, `sl_process_pending_configure_acks` leaves it untouched: the
acknowledgment configures no X window, and neither does the chained `sl_configure_window`. -/
theorem slProcessPendingConfigureAcks_untouched {fix b : Bool} {w w' : SlWindow}
    {hs : Option SlHostSurface} {sent : List Msg} (hm : w.managed = false)
    (h : slProcessPendingConfigureAcks fix w hs = some (b, w', sent)) : Untouched w w' sent := by
  have hack : Untouched w w.clearPending (ackOf w hs) := by
    refine ⟨rfl, rfl, rfl, ?_⟩
    simp only [ackOf, Option.mem_toList, Option.mem_map]
    rintro _ ⟨_, _, rfl⟩
    exact id
  rcases slProcessPendingConfigureAcks_cases h with ⟨-, -, rfl, rfl⟩ | ⟨-, -, ⟨-, rfl, rfl⟩ | ⟨-, rest, hc, rfl⟩⟩
  · exact ⟨rfl, rfl, rfl, fun _ h => nomatch h⟩
  · exact hack
  · exact hack.trans (slConfigureWindow_untouched hm hc)

/-- On an unmanaged window, `sl_commit` leaves it untouched. -/
theorem slCommit_untouched {fix : Bool} {w w' : SlWindow} {hs : Option SlHostSurface}
    {sent : List Msg} (hm : w.managed = false) (h : slCommit fix w hs = some (w', sent)) :
    Untouched w w' sent := by
  obtain ⟨b, sent₀, h₁, rfl⟩ := slCommit_some h
  refine (slProcessPendingConfigureAcks_untouched hm h₁).trans ⟨rfl, rfl, rfl, fun m hm => ?_⟩
  split at hm
  · obtain ⟨s, -, rfl⟩ := Option.mem_map.mp (Option.mem_toList.mp hm)
    exact id
  · cases hm

/-- On an unmanaged window, the surface listener leaves it untouched. -/
theorem slInternalXdgSurfaceConfigure_untouched {fix : Bool} {w w' : SlWindow}
    {hs : Option SlHostSurface} {serial : Nat} {sent : List Msg} (hm : w.managed = false)
    (h : slInternalXdgSurfaceConfigure fix w hs serial = some (w', sent)) : Untouched w w' sent := by
  rcases slInternalXdgSurfaceConfigure_cases h with ⟨-, rfl, rfl⟩ | ⟨-, w₁, s₁, s₂, h₁, h₂, rfl⟩
  · exact ⟨rfl, rfl, rfl, fun _ h => nomatch h⟩
  · have h₃ : Untouched w w₁ s₁ :=
      (⟨rfl, rfl, rfl, fun _ h => nomatch h⟩ : Untouched w (w.queue serial) []).trans
        (slConfigureWindow_untouched hm h₁)
    exact h₃.trans (slCommit_untouched (h₃.managed.trans hm) h₂)

/-- On an unmanaged window, the commit that ends `sl_window_update` leaves it untouched. -/
theorem finishUpdate_untouched {X : Extern} {hs : SlHostSurface} {w w' : SlWindow} {sent : List Msg}
    (hm : w.managed = false) (h : finishUpdate X hs w = some (w', sent)) : Untouched w w' sent := by
  obtain ⟨w₁, hc, rfl⟩ := finishUpdate_some h
  have h₁ : Untouched w w₁ sent := by
    rcases hc with ⟨-, hc⟩ | ⟨-, rfl, rfl⟩
    · exact slCommit_untouched hm hc
    · exact ⟨rfl, rfl, rfl, fun m hm => by rw [List.mem_singleton.mp hm]; exact id⟩
  split
  · exact ⟨h₁.geometry, h₁.managed, h₁.activated, h₁.quiet⟩
  · exact h₁

/-- Every move of an unmanaged window leaves it untouched. -/
theorem Moves.untouched {X : Extern} {W : World} {p : Nat} {w w' : SlWindow} {sent : List Msg}
    {ctx : SlContext} {fresh : Nat} (hm : Moves X W p w w' sent ctx fresh) (hw : w.managed = false) :
    Untouched w w' sent := by
  cases hm with
  | surfaceConfigure _ h =>
    exact (⟨rfl, rfl, rfl, fun m hm => by rw [List.mem_singleton.mp hm]; exact id⟩ :
      Untouched w w [.configure _ _]).trans (slInternalXdgSurfaceConfigure_untouched hw h)
  | toplevelConfigure width height states =>
    rw [slInternalXdgToplevelConfigure_unmanaged X W.ctx p _ width height states hw,
      overrunRecord_unmanaged W.ctx states hw]
    exact ⟨rfl, rfl, rfl, fun _ h => nomatch h⟩
  | close => exact ⟨rfl, rfl, rfl, fun m hm => by rw [List.mem_singleton.mp hm]; exact id⟩
  | commit h => exact slCommit_untouched hw h
  | teardown hr =>
    obtain ⟨u, ps, rfl⟩ := pairingTransition_window_of hr
    refine ⟨rfl, rfl, rfl, ?_⟩
    simp only [Sommelier.teardown, List.mem_append, Option.mem_toList, Option.mem_map]
    rintro m (((⟨_, _, rfl⟩ | ⟨_, _, rfl⟩) | ⟨_, _, rfl⟩) | ⟨_, _, rfl⟩) <;> exact id
  | @update ctx w₁ w₂ hs sent hr h =>
    obtain ⟨u, ps, rfl⟩ := pairingTransition_window_of hr
    obtain ⟨hcore, -⟩ := reconcile_window X W ctx p { w with unpaired := u, pairedSurface := ps } hs
    have h₁ : Untouched w (reconcile X W ctx p { w with unpaired := u, pairedSurface := ps } hs).window
        (reconcile X W ctx p { w with unpaired := u, pairedSurface := ps } hs).sent :=
      ⟨(congrArg SlWindow.geometry hcore :), (SlWindow.core_configs hcore).2.2,
        (congrArg SlWindow.activated hcore :), reconcile_xconfigure _ _ _ _ _ _⟩
    exact h₁.trans (finishUpdate_untouched (h₁.managed.trans hw) h)
  | pair id => exact ⟨rfl, rfl, rfl, fun _ h => nomatch h⟩
  | properties props => exact ⟨rfl, rfl, rfl, fun _ h => nomatch h⟩

/-- No move changes whether a window is managed. -/
theorem Moves.managed_eq {X : Extern} {W : World} {p : Nat} {w w' : SlWindow} {sent : List Msg}
    {ctx : SlContext} {fresh : Nat} (hm : Moves X W p w w' sent ctx fresh) : w'.managed = w.managed := by
  rcases hm.engine_cases with ⟨he, -⟩ | ⟨_, _, _, -, -, h⟩ | ⟨_, h⟩ |
    ⟨w₀, w₁, _, _, _, _, -, he, -, h, -, rfl⟩ | ⟨_, -, -, -, he⟩
  · exact congrArg Prod.fst he
  · obtain ⟨g, pc, nc, rfl⟩ := slInternalXdgSurfaceConfigure_engine h
    rfl
  · obtain ⟨g, pc, nc, rfl⟩ := slCommit_engine h
    rfl
  · obtain ⟨g, pc, nc, rfl⟩ := slCommit_engine h
    exact congrArg Prod.fst he
  · exact congrArg Prod.fst he

/-! ## Runs -/

/-- Along every run, an unmanaged window is never activated and the file has sent nothing that
configures it: no `ConfigureWindow`, no synthetic `ConfigureNotify` and no `_NET_WM_STATE`; and
no operation moves or resizes it or makes it managed. -/
theorem unmanaged_untouched {X : Extern} {W : World} (hW : Reachable X W) {p : Nat} {w : SlWindow}
    (hp : W.heap p = some w) (hm : w.managed = false) :
    w.activated = false ∧ (∀ e ∈ W.log, e.1 = p → ¬e.2.XConfigure) ∧
      ∀ op W' w', step X W op = some W' → W'.heap p = some w' →
        w'.geometry = w.geometry ∧ w'.managed = false := by
  have hlog := hW.window_log_induction
    (P := fun p w log => w.managed = false → w.activated = false ∧ ∀ e ∈ log, e.1 = p → ¬e.2.XConfigure)
    (fun _ _ _ _ _ _ _ _ _ _ habs _ => ⟨rfl, fun e he hq => absurd hq (habs e he)⟩)
    (fun hq hi hw => ⟨(hi hw).1, fun e he hpe => (mem_emit.mp he).elim
      (fun h => absurd (h.1.symm.trans hpe) hq) fun he => (hi hw).2 e he hpe⟩)
    (fun _ _ hmv hi hw => by
      have hw₀ := hmv.managed_eq.symm.trans hw
      have hu := hmv.untouched hw₀
      refine ⟨hu.activated.trans (hi hw₀).1, fun e he hpe => ?_⟩
      rcases mem_emit.mp he with ⟨-, hm'⟩ | he
      · exact hu.quiet _ hm'
      · exact (hi hw₀).2 e he hpe) p w hp hm
  refine ⟨hlog.1, hlog.2, fun op W' w' h hq => ?_⟩
  rcases step_cases h with ⟨h₁, -⟩ | ⟨_, _, _, _, _, _, _, _, h₁, -⟩ |
    ⟨q, v, -, h₁, -⟩ | ⟨q, v, v', sent, hq', hmv, h₁, -⟩ <;> rw [h₁] at hq
  · rw [hp, Option.some.injEq] at hq
    exact ⟨hq ▸ rfl, hq ▸ hm⟩
  · rcases update_eq_some hq with ⟨rfl, -⟩ | ⟨-, hq⟩
    · exact absurd hp (by rw [hW.bounds.heap _ le_rfl]; exact Option.noConfusion)
    · rw [hp, Option.some.injEq] at hq
      exact ⟨hq ▸ rfl, hq ▸ hm⟩
  · rcases update_eq_some hq with ⟨-, ⟨⟩⟩ | ⟨-, hq⟩
    rw [hp, Option.some.injEq] at hq
    exact ⟨hq ▸ rfl, hq ▸ hm⟩
  · rcases update_eq_some hq with ⟨rfl, ⟨⟩⟩ | ⟨-, hq⟩
    · rw [hp, Option.some.injEq] at hq'
      subst hq'
      have hu := hmv.untouched hm
      exact ⟨hu.geometry, hu.managed.trans hm⟩
    · rw [hp, Option.some.injEq] at hq
      exact ⟨hq ▸ rfl, hq ▸ hm⟩

/-- Without Xwayland, a realized managed window `0` and an unmanaged window `1`, which gets a popup
under it; the compositor activates window `1` at 20 × 20 pixels and configures it with serial 9,
and the client commits it. -/
def unmanagedRun : List Op :=
  [.create 100 0 0 10 10 0 true Props.unset, .surface 5 (some (SlHostSurface.sample 50 10 10 0)),
    .pair 0 5, .windowUpdate 0, .create 101 3 4 10 10 0 false Props.unset,
    .surface 6 (some (SlHostSurface.sample 60 10 10 0)), .pair 1 6, .windowUpdate 1,
    .xdgToplevelConfigure 1 20 20 [XDG_TOPLEVEL_STATE_ACTIVATED], .xdgSurfaceConfigure 1 9,
    .commit 1 (some (SlHostSurface.sample 60 10 10 0))]

/-- The state after `unmanagedRun`, without `COMMIT_LOOP_FIX`. -/
def unmanagedState : World :=
  (run (Extern.unscaled false) (World.init (SlContext.sample false) fun _ => none) unmanagedRun).getD
    (World.init (SlContext.sample false) fun _ => none)

/-- After `unmanagedRun`, the unmanaged window `1`, which the compositor activated and configured,
is not activated, nothing has configured it on the X side, and no operation moves it. -/
theorem unmanaged_untouched_popup :
    ((unmanagedState.heap 1).getD (SlWindow.blank false Props.unset)).activated = false ∧
      (∀ e ∈ unmanagedState.log, e.1 = 1 → ¬e.2.XConfigure) ∧
      ∀ op W' w', step (Extern.unscaled false) unmanagedState op = some W' → W'.heap 1 = some w' →
        w'.geometry = ((unmanagedState.heap 1).getD (SlWindow.blank false Props.unset)).geometry ∧
          w'.managed = false :=
  unmanaged_untouched (W := unmanagedState) (reachable_run_getD _ (by decide))
    (Option.getD_of_ne_none (Option.ne_none_iff_isSome.mpr (by decide)) _).symm (by decide)

end Sommelier

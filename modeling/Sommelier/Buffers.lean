import Sommelier.Step

/-!
# The configure buffers

`sl_configure_window` asserts that no acknowledgment is owed (`pending_config.serial == 0`) and
that only a managed window has a proposal in `next_config`. `ConfigureInv` is what makes both hold
whenever it is entered: a queued serial waits behind an owed one, and an unmanaged window's mask
stays clear. Each function of the configure engine keeps it (`slProcessPendingConfigureAcks_inv`,
`slInternalXdgSurfaceConfigure_inv`, ...), every move of a window keeps it (`Moves.configureInv`),
and so it holds of every live window of every reachable state. On such a state no operation fails
an assertion (`step_ne_none`).
-/

namespace Sommelier

/-- The configure buffers' invariant, under which `sl_configure_window`'s assertions hold. -/
structure ConfigureInv (w : SlWindow) : Prop where
  /-- A queued serial waits behind an owed acknowledgment. -/
  queued : w.nextConfig.serial ≠ 0 → w.pendingConfig.serial ≠ 0
  /-- Only a managed window has a proposal. -/
  unmanaged : w.managed = false → w.nextConfig.mask = 0

/-- Only a managed window has a nonzero mask in `next_config`. -/
theorem ConfigureInv.mask {w : SlWindow} (hi : ConfigureInv w) : w.nextConfig.mask ≠ 0 → w.managed = true :=
  fun hm => by cases h : w.managed; exact absurd (hi.unmanaged h) hm; rfl

/-- The invariant reads nothing but the two serials, the mask and the managed flag. -/
theorem ConfigureInv.of_eq {w w' : SlWindow} (hi : ConfigureInv w)
    (hn : w'.nextConfig = w.nextConfig) (hp : w'.pendingConfig = w.pendingConfig)
    (hm : w'.managed = w.managed) : ConfigureInv w' :=
  ⟨fun h => hp ▸ hi.queued (hn ▸ h), fun h => hn ▸ hi.unmanaged (hm ▸ h)⟩

/-- A new window meets the invariant: both configurations are empty. -/
theorem ConfigureInv.new (id : Nat) (x y width height borderWidth : Int) (managed : Bool)
    (props : Props) : ConfigureInv (SlWindow.new id x y width height borderWidth managed props) :=
  ⟨fun h => absurd rfl h, fun _ => rfl⟩

/-- `sl_configure_window` empties `next_config`. -/
theorem slConfigureWindow_inv {w w' : SlWindow} {sent : List Msg}
    (h : slConfigureWindow w = some (w', sent)) : ConfigureInv w' := by
  obtain ⟨-, -, rfl, -⟩ := slConfigureWindow_some h
  exact ⟨fun h => absurd rfl h, fun _ => rfl⟩

/-- `sl_process_pending_configure_acks` keeps the invariant. -/
theorem slProcessPendingConfigureAcks_inv {fix b : Bool} {w w' : SlWindow}
    {hs : Option SlHostSurface} {sent : List Msg} (hi : ConfigureInv w)
    (h : slProcessPendingConfigureAcks fix w hs = some (b, w', sent)) : ConfigureInv w' := by
  rcases slProcessPendingConfigureAcks_cases h with ⟨-, -, rfl, -⟩ | ⟨-, -, ⟨hn, rfl, -⟩ | ⟨-, _, h', -⟩⟩
  · exact hi
  · exact ⟨fun h => absurd hn h, hi.unmanaged⟩
  · exact slConfigureWindow_inv h'

/-- `sl_commit` keeps the invariant. -/
theorem slCommit_inv {fix : Bool} {w w' : SlWindow} {hs : Option SlHostSurface} {sent : List Msg}
    (hi : ConfigureInv w) (h : slCommit fix w hs = some (w', sent)) : ConfigureInv w' := by
  obtain ⟨b, sent₀, h₁, -⟩ := slCommit_some h
  exact slProcessPendingConfigureAcks_inv hi h₁

/-- The surface listener keeps the invariant. -/
theorem slInternalXdgSurfaceConfigure_inv {fix : Bool} {w w' : SlWindow}
    {hs : Option SlHostSurface} {serial : Nat} {sent : List Msg} (hi : ConfigureInv w)
    (h : slInternalXdgSurfaceConfigure fix w hs serial = some (w', sent)) : ConfigureInv w' := by
  rcases slInternalXdgSurfaceConfigure_cases h with ⟨h0, rfl, -⟩ | ⟨-, w₁, s₁, s₂, h₁, h₂, -⟩
  · exact ⟨fun _ => h0, hi.unmanaged⟩
  · exact slCommit_inv (slConfigureWindow_inv h₁) h₂

/-- The toplevel listener only writes a proposal into a managed window, and the atoms it writes
over `pending_config.serial` are nonzero. -/
theorem slInternalXdgToplevelConfigure_inv (X : Extern) (ctx : SlContext) (p : Nat) {w : SlWindow}
    (paired : Option SlHostSurface) (width height : Int) (states : List Nat) (hi : ConfigureInv w) :
    ConfigureInv (slInternalXdgToplevelConfigure X ctx p w paired width height states).2.1 := by
  cases hw : w.managed
  · rw [slInternalXdgToplevelConfigure_unmanaged X ctx p paired width height states hw]
    exact hi
  · obtain ⟨mask, values, h, -⟩ :=
      slInternalXdgToplevelConfigure_managed X ctx p paired width height states hw
    rw [h]
    exact ⟨fun hn => SlConfig.writeFrom_serial_ne_zero (overrunWords_ne_zero ctx w states)
      (hi.queued hn), fun h => by simp [SlWindow.withProposal, hw] at h⟩

/-- The stages of `sl_window_update` keep the configure buffers, and its commit keeps the
invariant. -/
theorem finishUpdate_inv {X : Extern} {hs : SlHostSurface} {w w' : SlWindow} {sent : List Msg}
    (hi : ConfigureInv w) (h : finishUpdate X hs w = some (w', sent)) : ConfigureInv w' := by
  obtain ⟨w₁, hc, rfl⟩ := finishUpdate_some h
  have h₁ : ConfigureInv w₁ := by
    rcases hc with ⟨-, hc⟩ | ⟨-, rfl, -⟩
    · exact slCommit_inv hi hc
    · exact hi
  split
  · exact h₁.of_eq rfl rfl rfl
  · exact h₁

/-- Windows with the same core have the same configurations and managed flag. -/
theorem SlWindow.core_configs {w w' : SlWindow} (h : w'.core = w.core) :
    w'.nextConfig = w.nextConfig ∧ w'.pendingConfig = w.pendingConfig ∧ w'.managed = w.managed := by
  have := congrArg (fun w : SlWindow => (w.nextConfig, w.pendingConfig, w.managed)) h
  simpa [SlWindow.core] using this

/-- Pairing a window changes neither configuration nor the managed flag. -/
theorem pairingTransition_configs (objects : Nat → Option SlHostSurface) (ctx : SlContext) (p : Nat)
    (w : SlWindow) :
    (pairingTransition objects ctx p w).2.1.nextConfig = w.nextConfig ∧
      (pairingTransition objects ctx p w).2.1.pendingConfig = w.pendingConfig ∧
      (pairingTransition objects ctx p w).2.1.managed = w.managed := by
  obtain ⟨u, ps, h⟩ := pairingTransition_window objects ctx p w
  rw [h]
  exact ⟨rfl, rfl, rfl⟩

/-- The window that the stages of `sl_window_update` hand to its commit keeps the invariant. -/
theorem reconcile_inv (X : Extern) (W : World) {ctx : SlContext} {p : Nat} {w w₁ : SlWindow}
    {hs : SlHostSurface} (hi : ConfigureInv w)
    (hr : pairingTransition W.objects W.ctx p w = (ctx, w₁, some hs)) :
    ConfigureInv (reconcile X W ctx p w₁ hs).window := by
  obtain ⟨hn, hp, hm⟩ := pairingTransition_configs W.objects W.ctx p w
  obtain ⟨hn', hp', hm'⟩ := SlWindow.core_configs (reconcile_window X W ctx p w₁ hs).1
  rw [hr] at hn hp hm
  exact hi.of_eq (hn'.trans hn) (hp'.trans hp) (hm'.trans hm)

/-- Every move of a window keeps the invariant. -/
theorem Moves.configureInv {X : Extern} {W : World} {p : Nat} {w w' : SlWindow} {sent : List Msg}
    {ctx : SlContext} {fresh : Nat} (hm : Moves X W p w w' sent ctx fresh) (hi : ConfigureInv w) :
    ConfigureInv w' := by
  cases hm with
  | surfaceConfigure _ h => exact slInternalXdgSurfaceConfigure_inv hi h
  | toplevelConfigure width height states =>
    exact slInternalXdgToplevelConfigure_inv X W.ctx p _ width height states hi
  | close => exact hi
  | commit h => exact slCommit_inv hi h
  | @teardown ctx w₁ hr =>
    obtain ⟨hn, hp, hm⟩ := pairingTransition_configs W.objects W.ctx p w
    rw [hr] at hn hp hm
    exact hi.of_eq hn hp hm
  | update hr h => exact finishUpdate_inv (reconcile_inv X W hi hr) h
  | pair id => exact hi.of_eq rfl rfl rfl
  | properties props => exact hi.of_eq rfl rfl rfl

/-- Every window of a reachable world meets the invariant. -/
theorem Reachable.configureInv {X : Extern} {W : World} (hW : Reachable X W) :
    ∀ p w, W.heap p = some w → ConfigureInv w :=
  hW.window_induction ConfigureInv.new fun _ _ hm hi => hm.configureInv hi

/-! ## No assertion fails -/

theorem slInternalXdgSurfaceConfigure_ne_none (fix : Bool) {w : SlWindow}
    (hs : Option SlHostSurface) (serial : Nat) (hi : ConfigureInv w) :
    slInternalXdgSurfaceConfigure fix w hs serial ≠ none := by
  unfold slInternalXdgSurfaceConfigure
  dsimp only
  split
  · rename_i h0
    obtain ⟨⟨w₁, s₁⟩, h₁⟩ := Option.ne_none_iff_exists'.mp
      ((slConfigureWindow_ne_none (w.queue serial)).mpr ⟨h0, hi.mask⟩)
    rw [h₁, Option.some_bind]
    simp only [ne_eq, Option.map_eq_none']
    exact slCommit_ne_none fix hs (slConfigureWindow_inv h₁).mask
  · simp

/-- Under the invariant, the commit that ends `sl_window_update` never fails its assertion. -/
theorem finishUpdate_ne_none (X : Extern) (hs : SlHostSurface) {w : SlWindow}
    (hi : ConfigureInv w) : finishUpdate X hs w ≠ none := by
  unfold finishUpdate
  split
  · simpa using slCommit_ne_none true (some hs) hi.mask
  · simp

/-- From a state whose live windows keep the invariant, no operation fails an assertion. -/
theorem step_ne_none {X : Extern} {W : World} (hi : ∀ p w, W.heap p = some w → ConfigureInv w)
    (op : Op) : step X W op ≠ none := by
  cases op with
  | xdgSurfaceConfigure p serial =>
    cases hp : W.heap p with
    | none => simp [step, hp]
    | some w =>
      cases hx : w.xdgSurface <;> simp only [step, hp, hx, ne_eq, reduceCtorEq, not_false_eq_true,
        Option.map_eq_none']
      exact slInternalXdgSurfaceConfigure_ne_none _ _ serial (hi p w hp)
  | commit p hs =>
    cases hp : W.heap p with
    | none => simp [step, hp]
    | some w =>
      simpa [step, hp] using slCommit_ne_none X.commitLoopFix hs (hi p w hp).mask
  | windowUpdate p =>
    cases hp : W.heap p with
    | none => simp [step, slWindowUpdate, hp]
    | some w =>
      rcases hr : pairingTransition W.objects W.ctx p w with ⟨ctx, w₁, _ | hs⟩
      · simp [step, slWindowUpdate, hp, hr]
      · simpa [step, slWindowUpdate, hp, hr] using
          finishUpdate_ne_none X _ (reconcile_inv X W (hi p w hp) hr)
  | _ =>
    simp only [step]
    try split
    all_goals simp

/-- On every reachable state, a queued serial waits behind an owed one and only managed windows
have a proposal, so no operation makes `sl_configure_window` fail an assertion: it is only ever
entered with no acknowledgment owed. -/
theorem configure_assertions_hold {X : Extern} {W : World} (hW : Reachable X W) :
    (∀ p w, W.heap p = some w →
      (w.nextConfig.serial ≠ 0 → w.pendingConfig.serial ≠ 0) ∧
        (w.managed = false → w.nextConfig.mask = 0)) ∧
      ∀ op, step X W op ≠ none :=
  ⟨fun p w hp => ⟨(hW.configureInv p w hp).queued, (hW.configureInv p w hp).unmanaged⟩,
    step_ne_none hW.configureInv⟩

/-- A managed window is paired and updated, proposed 20 × 20 pixels and configured with serial 7,
which its 10 × 10 host surface cannot acknowledge, then proposed 30 × 30 pixels and configured with
serial 8, which waits behind it. -/
def blockedRun : List Op :=
  [.create 100 0 0 10 10 0 true Props.unset, .surface 5 (some (SlHostSurface.sample 50 10 10 0)),
    .pair 0 5, .windowUpdate 0, .xdgToplevelConfigure 0 20 20 [], .xdgSurfaceConfigure 0 7,
    .xdgToplevelConfigure 0 30 30 [], .xdgSurfaceConfigure 0 8]

/-- The state after `blockedRun`, with `COMMIT_LOOP_FIX`. -/
def blockedState : World :=
  (run (Extern.unscaled true) (World.init (SlContext.sample true) fun _ => none) blockedRun).getD
    (World.init (SlContext.sample true) fun _ => none)

/-- After `blockedRun` window `0` has serial `8` in `next_config` behind serial `7` in
`pending_config`, and the state meets `configure_assertions_hold`. -/
theorem configure_assertions_hold_blocked :
    (∃ w, blockedState.heap 0 = some w ∧ w.nextConfig.serial = 8 ∧ w.pendingConfig.serial = 7) ∧
      (∀ p w, blockedState.heap p = some w →
        (w.nextConfig.serial ≠ 0 → w.pendingConfig.serial ≠ 0) ∧
          (w.managed = false → w.nextConfig.mask = 0)) ∧
        ∀ op, step (Extern.unscaled true) blockedState op ≠ none :=
  ⟨⟨(blockedState.heap 0).getD (SlWindow.blank true Props.unset), by decide, by decide, by decide⟩,
    configure_assertions_hold (reachable_run_getD _ (by decide))⟩

end Sommelier

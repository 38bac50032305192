import Sommelier.Acks

/-!
# Deliveries

The compositor delivers serials on a window's `xdg_surface`; the window queues the newest one in
`next_config`, moves it to `pending_config` when it applies it, and acknowledges it from there.
As long as no toplevel configure overruns the window's `next_config.states`, the newest serial
delivered on the window's current `xdg_surface` is never lost: it has been acknowledged, or it is
held in one of the two buffers (`latest_delivery_kept`). A queued serial leaves `next_config` only
to become pending or when a new delivery overwrites it, and the chain of
`sl_process_pending_configure_acks` makes the queued serial pending right after acknowledging. An
overrun writes a state atom over the pending serial, and the newest delivery is then held nowhere
(`latest_delivery_lost`).

`latestDelivery` reads a window's deliveries and acknowledgments on one `xdg_surface` off the
log. A fresh `xdg_surface` has none: every handle the log names was created before
(`DeliveryInv.logged`).

The teardown of `sl_window_update` keeps both buffers, so a serial owed to a destroyed
`xdg_surface` is acknowledged on the next one (`ack_on_new_xdg_surface`).
-/

namespace Sommelier

/-- The `xdg_surface` that a delivery or an acknowledgment is on. -/
def Msg.surfaceHandle : Msg → Option Nat
  | .configure h _ => some h
  | .ackConfigure h _ _ => some h
  | _ => none

/-- A plain message is on no `xdg_surface`. -/
theorem Msg.Plain.surfaceHandle {m : Msg} (h : m.Plain) : m.surfaceHandle = none := by
  cases m <;> first | rfl | exact h.elim

/-- The newest serial delivered to window `p` on `xdg_surface` `h` in a log, newest first, and
whether the window acknowledged it on `h` since. -/
def latestDelivery (p h : Nat) : List (Nat × Msg) → Option (Nat × Bool)
  | [] => none
  | (q, m) :: log =>
    if q = p then
      match m with
      | .configure h' s => if h' = h then some (s, false) else latestDelivery p h log
      | .ackConfigure h' s _ =>
        (latestDelivery p h log).map fun d => (d.1, d.2 || decide (h' = h ∧ s = d.1))
      | _ => latestDelivery p h log
    else latestDelivery p h log

/-- An entry on no `xdg_surface` does not change the newest delivery. -/
theorem latestDelivery_cons_none (p h q : Nat) {m : Msg} (hm : m.surfaceHandle = none)
    (log : List (Nat × Msg)) : latestDelivery p h ((q, m) :: log) = latestDelivery p h log := by
  cases m <;> simp_all [latestDelivery, Msg.surfaceHandle]

/-- Messages on no `xdg_surface` do not change the newest delivery. -/
theorem latestDelivery_emit_none (p h q : Nat) {sent : List Msg}
    (hs : ∀ m ∈ sent, m.surfaceHandle = none) (log : List (Nat × Msg)) :
    latestDelivery p h (emit q sent log) = latestDelivery p h log := by
  induction sent generalizing log with
  | nil => rfl
  | cons m ms ih =>
    rw [emit_cons, ih (fun m' hm' => hs m' (List.mem_cons_of_mem _ hm')),
      latestDelivery_cons_none p h q (hs m (List.mem_cons_self _ _))]

/-- Another window's messages do not change the newest delivery of `p`. -/
theorem latestDelivery_emit_ne {p q : Nat} (hq : q ≠ p) (h : Nat) (sent : List Msg)
    (log : List (Nat × Msg)) : latestDelivery p h (emit q sent log) = latestDelivery p h log := by
  induction sent generalizing log with
  | nil => rfl
  | cons m ms ih =>
    rw [emit_cons, ih]
    simp [latestDelivery, hq]

/-- A handle that the log does not name yet has no deliveries. -/
theorem latestDelivery_of_lt {p f : Nat} {log : List (Nat × Msg)}
    (hl : ∀ e ∈ log, ∀ h, e.2.surfaceHandle = some h → h < f) : latestDelivery p f log = none := by
  induction log with
  | nil => rfl
  | cons e log ih =>
    obtain ⟨q, m⟩ := e
    have ih' := ih fun e he => hl e (List.mem_cons_of_mem _ he)
    have hm := hl (q, m) (List.mem_cons_self _ _)
    unfold latestDelivery
    split_ifs
    · cases m with
      | configure h' s =>
        have : h' < f := hm h' rfl
        simp only [Nat.ne_of_lt this, if_false, ih']
      | ackConfigure h' s _ => simp only [ih', Option.map_none']
      | _ => exact ih'
    · exact ih'

/-! ## One window -/

/-- What window `p`'s newest delivery needs of the window and the log: on the window's current
`xdg_surface`, it is acknowledged or held in a buffer. -/
def DeliveryOk (p : Nat) (w : SlWindow) (log : List (Nat × Msg)) : Prop :=
  ∀ h s b, w.xdgSurface = some h → latestDelivery p h log = some (s, b) →
    b = true ∨ w.pendingConfig.serial = s ∨ w.nextConfig.serial = s

/-- The invariant reads only the `xdg_surface` and the two buffers' serials. -/
theorem DeliveryOk.of_eq {p : Nat} {w w' : SlWindow} {log : List (Nat × Msg)} (hd : DeliveryOk p w log)
    (hx : w'.xdgSurface = w.xdgSurface) (hp : w'.pendingConfig.serial = w.pendingConfig.serial)
    (hn : w'.nextConfig.serial = w.nextConfig.serial) : DeliveryOk p w' log := by
  intro h s b hh hl
  rw [hp, hn]
  exact hd h s b (hx ▸ hh) hl

/-- Messages on no `xdg_surface` keep the invariant. -/
theorem DeliveryOk.emit_none {p : Nat} {w : SlWindow} {log : List (Nat × Msg)}
    (hd : DeliveryOk p w log) {sent : List Msg} (hs : ∀ m ∈ sent, m.surfaceHandle = none) :
    DeliveryOk p w (emit p sent log) := by
  intro h s b hh hl
  rw [latestDelivery_emit_none p h p hs] at hl
  exact hd h s b hh hl

/-- `sl_configure_window`, entered with no serial owed, makes the queued serial pending. -/
theorem slConfigureWindow_delivery {p : Nat} {w w' : SlWindow} {log : List (Nat × Msg)}
    {sent : List Msg} (hd : DeliveryOk p w log) (h : slConfigureWindow w = some (w', sent)) :
    DeliveryOk p w' (emit p sent log) := by
  obtain ⟨h0, -, rfl, pre, hpre, rfl⟩ := slConfigureWindow_some h
  have hs : ∀ m ∈ pre ++ [.pending w.nextConfig.serial (installedGeometry w)], m.surfaceHandle = none := by
    intro m hm
    rcases List.mem_append.mp hm with hm | hm
    · exact (hpre m hm).surfaceHandle
    · rw [List.mem_singleton.mp hm]; rfl
  intro x s b hx hl
  rw [latestDelivery_emit_none p x p hs] at hl
  rcases hd x s b hx hl with hb | hp | hn
  · exact .inl hb
  · exact .inr (.inr (by rw [← hp, h0]; rfl))
  · exact .inr (.inl hn)

/-- The acknowledgment of the pending serial marks it acknowledged. -/
theorem ackOf_delivery {p : Nat} {w : SlWindow} {hs : Option SlHostSurface}
    {log : List (Nat × Msg)} (hd : DeliveryOk p w log) :
    DeliveryOk p w.clearPending (emit p (ackOf w hs) log) := by
  intro x s b hx hl
  have hx' : w.xdgSurface = some x := hx
  rw [show ackOf w hs = [.ackConfigure x w.pendingConfig.serial hs] by simp [ackOf, hx']] at hl
  change latestDelivery p x ((p, .ackConfigure x w.pendingConfig.serial hs) :: log) = _ at hl
  simp only [latestDelivery, if_true, true_and] at hl
  obtain ⟨⟨s₀, b₀⟩, hl₀, he⟩ := Option.map_eq_some'.mp hl
  simp only [Prod.mk.injEq] at he
  obtain ⟨rfl, rfl⟩ := he
  rcases hd x s₀ b₀ hx' hl₀ with hb | hp | hn
  · exact .inl (by simp [hb])
  · exact .inl (by simp [hp])
  · exact .inr (.inr hn)

/-- `sl_process_pending_configure_acks` keeps the invariant. -/
theorem slProcessPendingConfigureAcks_delivery {fix b : Bool} {p : Nat} {w w' : SlWindow}
    {hs : Option SlHostSurface} {log : List (Nat × Msg)} {sent : List Msg}
    (hd : DeliveryOk p w log) (h : slProcessPendingConfigureAcks fix w hs = some (b, w', sent)) :
    DeliveryOk p w' (emit p sent log) := by
  rcases slProcessPendingConfigureAcks_cases h with ⟨-, -, rfl, rfl⟩ | ⟨-, -, hrest⟩
  · exact hd
  · rcases hrest with ⟨-, rfl, rfl⟩ | ⟨-, rest, hc, rfl⟩
    · exact ackOf_delivery hd
    · rw [emit_append]
      exact slConfigureWindow_delivery (ackOf_delivery hd) hc

/-- `sl_commit` keeps the invariant. -/
theorem slCommit_delivery {fix : Bool} {p : Nat} {w w' : SlWindow} {hs : Option SlHostSurface}
    {log : List (Nat × Msg)} {sent : List Msg} (hd : DeliveryOk p w log)
    (h : slCommit fix w hs = some (w', sent)) : DeliveryOk p w' (emit p sent log) := by
  obtain ⟨b, sent₀, h₁, rfl⟩ := slCommit_some h
  rw [emit_append]
  refine (slProcessPendingConfigureAcks_delivery hd h₁).emit_none fun m hm => ?_
  split at hm
  · cases hs <;> simp_all [Msg.surfaceHandle]
  · cases hm

/-- A delivery is queued, and applied at once when no serial is owed: either way it is held in a
buffer or acknowledged, whatever came before. -/
theorem slInternalXdgSurfaceConfigure_delivery {fix : Bool} {p x serial : Nat} {w w' : SlWindow}
    {hs : Option SlHostSurface} {log : List (Nat × Msg)} {sent : List Msg}
    (hx : w.xdgSurface = some x)
    (h : slInternalXdgSurfaceConfigure fix w hs serial = some (w', sent)) :
    DeliveryOk p w' (emit p (.configure x serial :: sent) log) := by
  have hq : DeliveryOk p (w.queue serial) ((p, .configure x serial) :: log) := by
    intro y s b hy hl
    have hy' : w.xdgSurface = some y := hy
    rw [hx, Option.some.injEq] at hy'
    subst hy'
    simp only [latestDelivery, if_true, Option.some.injEq, Prod.mk.injEq] at hl
    exact .inr (.inr hl.1)
  rw [emit_cons]
  rcases slInternalXdgSurfaceConfigure_cases h with ⟨-, rfl, rfl⟩ | ⟨-, w₁, s₁, s₂, h₁, h₂, rfl⟩
  · exact hq
  · rw [emit_append]
    exact slCommit_delivery (slConfigureWindow_delivery hq h₁) h₂

/-! ## Moves -/

/-- The messages of `sl_commit` name no `xdg_surface` but the window's, which it keeps. -/
theorem slCommit_surface {fix : Bool} {w w' : SlWindow} {hs : Option SlHostSurface}
    {sent : List Msg} (h : slCommit fix w hs = some (w', sent)) :
    w'.xdgSurface = w.xdgSurface ∧ ∀ m ∈ sent, ∀ x, m.surfaceHandle = some x → w.xdgSurface = some x := by
  refine ⟨by obtain ⟨g, pc, nc, rfl⟩ := slCommit_engine h; rfl, fun m hm x hx => ?_⟩
  obtain ⟨b, sent₀, h₁, rfl⟩ := slCommit_some h
  have hack : ∀ m ∈ ackOf w hs, ∀ x, m.surfaceHandle = some x → w.xdgSurface = some x := by
    simp only [ackOf, Option.mem_toList, Option.mem_map]
    rintro _ ⟨h, hw, rfl⟩ x ⟨⟩
    exact hw
  rcases List.mem_append.mp hm with hm | hm
  · rcases slProcessPendingConfigureAcks_cases h₁ with ⟨-, -, -, rfl⟩ | ⟨-, -, ⟨-, -, rfl⟩ | ⟨-, rest, hc, rfl⟩⟩
    · cases hm
    · exact hack m hm x hx
    · rcases List.mem_append.mp hm with hm | hm
      · exact hack m hm x hx
      · obtain ⟨-, -, -, pre, hpre, rfl⟩ := slConfigureWindow_some hc
        rcases List.mem_append.mp hm with hm | hm
        · rw [(hpre m hm).surfaceHandle] at hx; cases hx
        · rw [List.mem_singleton.mp hm] at hx; cases hx
  · split at hm
    · obtain ⟨s, -, rfl⟩ := Option.mem_map.mp (Option.mem_toList.mp hm)
      cases hx
    · cases hm

/-- The surface listener keeps the `xdg_surface`, and its messages are on it. -/
theorem slInternalXdgSurfaceConfigure_surface {fix : Bool} {w w' : SlWindow}
    {hs : Option SlHostSurface} {serial : Nat} {sent : List Msg}
    (h : slInternalXdgSurfaceConfigure fix w hs serial = some (w', sent)) :
    w'.xdgSurface = w.xdgSurface ∧ ∀ m ∈ sent, ∀ x, m.surfaceHandle = some x → w.xdgSurface = some x := by
  rcases slInternalXdgSurfaceConfigure_cases h with ⟨-, rfl, rfl⟩ | ⟨-, w₁, s₁, s₂, h₁, h₂, rfl⟩
  · exact ⟨rfl, fun _ h => absurd h (List.not_mem_nil _)⟩
  · obtain ⟨-, -, rfl, pre, hpre, rfl⟩ := slConfigureWindow_some h₁
    have h₃ := slCommit_surface h₂
    refine ⟨h₃.1, fun m hm x hx => ?_⟩
    rcases List.mem_append.mp hm with hm | hm
    · rcases List.mem_append.mp hm with hm | hm
      · rw [(hpre m hm).surfaceHandle] at hx; cases hx
      · rw [List.mem_singleton.mp hm] at hx; cases hx
    · exact h₃.2 m hm x hx

/-- A move keeps the window's `xdg_surface`, destroys it, or creates object `W.fresh` for a window
without one; every delivery or acknowledgment it sends is on the window's `xdg_surface` after
it; and it never takes back a fresh object. -/
theorem Moves.surface {X : Extern} {W : World} {p : Nat} {w w' : SlWindow} {sent : List Msg}
    {ctx : SlContext} {fresh : Nat} (hm : Moves X W p w w' sent ctx fresh) :
    W.fresh ≤ fresh ∧
      (w'.xdgSurface = w.xdgSurface ∨ w'.xdgSurface = none ∨
        (w.xdgSurface = none ∧ w'.xdgSurface = some W.fresh ∧ W.fresh < fresh)) ∧
      ∀ m ∈ sent, ∀ x, m.surfaceHandle = some x → w'.xdgSurface = some x := by
  cases hm with
  | surfaceConfigure hx h =>
    obtain ⟨h₁, h₂⟩ := slInternalXdgSurfaceConfigure_surface h
    refine ⟨le_rfl, .inl h₁, fun m hm x hx' => ?_⟩
    rw [h₁]
    rcases List.mem_cons.mp hm with rfl | hm
    · simp only [Msg.surfaceHandle, Option.some.injEq] at hx'
      exact hx' ▸ hx
    · exact h₂ m hm x hx'
  | toplevelConfigure width height states =>
    obtain ⟨m, v, sl, st, a, c, act, h⟩ := slInternalXdgToplevelConfigure_window X W.ctx p w
      (getObject W.objects (w.pairedSurface.getD 0)) width height states
    rw [h]
    refine ⟨le_rfl, .inl rfl, fun m hm x hx => ?_⟩
    rw [mem_overrunRecord hm] at hx
    cases hx
  | close =>
    refine ⟨le_rfl, .inl rfl, fun m hm x hx => ?_⟩
    rw [List.mem_singleton.mp hm] at hx
    cases hx
  | commit h =>
    obtain ⟨h₁, h₂⟩ := slCommit_surface h
    exact ⟨le_rfl, .inl h₁, fun m hm x hx => h₁ ▸ h₂ m hm x hx⟩
  | teardown _ =>
    exact ⟨le_rfl, .inr (.inl rfl), fun m hm x hx => by rw [(teardown_plain _ m hm).surfaceHandle] at hx; cases hx⟩
  | @update ctx w₁ w₂ hs sent hr h =>
    obtain ⟨u, ps, rfl⟩ := pairingTransition_window_of hr
    obtain ⟨-, hsurf, -⟩ := reconcile_window X W ctx p { w with unpaired := u, pairedSurface := ps } hs
    obtain ⟨hle, hlt⟩ := reconcile_fresh X W ctx p { w with unpaired := u, pairedSurface := ps } hs
    -- The window that the commit sees, and the one it leaves.
    obtain ⟨w₃, hc, hw₂⟩ := finishUpdate_some h
    have hx : w'.xdgSurface = w₃.xdgSurface := by rw [hw₂]; split <;> rfl
    have hw₃ : w₃.xdgSurface = some (w.xdgSurface.getD W.fresh) ∧
        ∀ m ∈ sent, ∀ x, m.surfaceHandle = some x → w₃.xdgSurface = some x := by
      rcases hc with ⟨-, hc⟩ | ⟨-, rfl, rfl⟩
      · obtain ⟨h₁, h₂⟩ := slCommit_surface hc
        exact ⟨h₁.trans hsurf, fun m hm x hx => h₁ ▸ h₂ m hm x hx⟩
      · refine ⟨hsurf, fun m hm x hx => ?_⟩
        rw [List.mem_singleton.mp hm] at hx
        cases hx
    refine ⟨hle, ?_, fun m hm x hx' => ?_⟩
    · rw [hx, hw₃.1]
      rcases Option.eq_none_or_eq_some w.xdgSurface with hn | ⟨y, hy⟩
      · exact .inr (.inr ⟨hn, by rw [hn]; rfl, hlt hn⟩)
      · exact .inl (by rw [hy]; rfl)
    · rw [hx]
      rcases List.mem_append.mp hm with hm | hm
      · rw [(reconcile_plain _ _ _ _ _ _ m hm).surfaceHandle] at hx'
        cases hx'
      · exact hw₃.2 m hm x hx'
  | pair id => exact ⟨le_rfl, .inl rfl, fun _ h => absurd h (List.not_mem_nil _)⟩
  | properties props => exact ⟨le_rfl, .inl rfl, fun _ h => absurd h (List.not_mem_nil _)⟩

/-- Every move that overruns nothing keeps the window's newest delivery acknowledged or held, given
that the log names no object from `W.fresh` on. -/
theorem Moves.delivery {X : Extern} {W : World} {p : Nat} {w w' : SlWindow} {sent : List Msg}
    {ctx : SlContext} {fresh : Nat} (hm : Moves X W p w w' sent ctx fresh)
    (hl : ∀ e ∈ W.log, ∀ x, e.2.surfaceHandle = some x → x < W.fresh) (hd : DeliveryOk p w W.log)
    (ho : ∀ m ∈ sent, m.isOverrun = false) : DeliveryOk p w' (emit p sent W.log) := by
  cases hm with
  | surfaceConfigure hx h => exact slInternalXdgSurfaceConfigure_delivery hx h
  | toplevelConfigure width height states =>
    obtain ⟨m, v, sl, st, a, c, act, h⟩ := slInternalXdgToplevelConfigure_window X W.ctx p w
      (getObject W.objects (w.pairedSurface.getD 0)) width height states
    rw [h]
    rcases overrunRecord_cases W.ctx w states with ⟨h₁, h₂⟩ | ⟨-, h₂⟩ <;> rw [h₂] at ho ⊢
    · rw [h₁]
      exact hd.of_eq rfl rfl rfl
    · cases ho _ (List.mem_singleton_self _)
  | close =>
    refine hd.emit_none fun m hm => ?_
    rw [List.mem_singleton.mp hm]
    rfl
  | commit h => exact slCommit_delivery hd h
  | teardown _ => exact fun _ _ _ hx => nomatch hx
  | @update ctx w₁ w₂ hs sent hr h =>
    obtain ⟨u, ps, rfl⟩ := pairingTransition_window_of hr
    obtain ⟨hcore, hsurf, -⟩ := reconcile_window X W ctx p { w with unpaired := u, pairedSurface := ps } hs
    obtain ⟨hn, hp, -⟩ := SlWindow.core_configs hcore
    -- The window that the commit sees has `w`'s buffers, and `w`'s `xdg_surface` or a fresh one.
    have h₀ : DeliveryOk p (reconcile X W ctx p { w with unpaired := u, pairedSurface := ps } hs).window
        (emit p (reconcile X W ctx p { w with unpaired := u, pairedSurface := ps } hs).sent W.log) := by
      refine DeliveryOk.emit_none (fun x s b hx hlast => ?_) fun m hm =>
        (reconcile_plain _ _ _ _ _ _ m hm).surfaceHandle
      rw [hsurf, Option.some.injEq] at hx
      rw [hp, hn]
      rcases Option.eq_none_or_eq_some w.xdgSurface with hnone | ⟨y, hy⟩
      · have : x = W.fresh := by rw [← hx]; simp [hnone]
        rw [this, latestDelivery_of_lt hl] at hlast
        cases hlast
      · exact hd x s b (by rw [hy, ← hx]; simp [hy]) hlast
    obtain ⟨w₃, hc, hw₂⟩ := finishUpdate_some h
    rw [emit_append]
    have h₃ : DeliveryOk p w₃ (emit p sent (emit p
        (reconcile X W ctx p { w with unpaired := u, pairedSurface := ps } hs).sent W.log)) := by
      rcases hc with ⟨-, hc⟩ | ⟨-, rfl, rfl⟩
      · exact slCommit_delivery h₀ hc
      · exact h₀.emit_none fun m hm => by rw [List.mem_singleton.mp hm]; rfl
    rw [hw₂]
    split
    · exact h₃.of_eq rfl rfl rfl
    · exact h₃
  | pair id => exact hd.of_eq rfl rfl rfl
  | properties props => exact hd.of_eq rfl rfl rfl

/-! ## Runs -/

/-- The deliveries' invariant over the whole proxy. -/
structure DeliveryInv (W : World) : Prop where
  /-- Every `xdg_surface` that a logged delivery or acknowledgment names was already created. -/
  logged : ∀ e ∈ W.log, ∀ x, e.2.surfaceHandle = some x → x < W.fresh
  /-- Every live `xdg_surface` was already created. -/
  live : ∀ p w x, W.heap p = some w → w.xdgSurface = some x → x < W.fresh
  /-- Every live window whose log records no overrun has its newest delivery acknowledged or
  held. -/
  latest : ∀ p w, W.heap p = some w → overran p W.log = false → DeliveryOk p w W.log

/-- Every step keeps the deliveries' invariant. -/
theorem DeliveryInv.step {X : Extern} {W W' : World} {op : Op} (hi : DeliveryInv W)
    (h : step X W op = some W') : DeliveryInv W' := by
  rcases step_cases h with ⟨h₁, h₂, -, -, h₅⟩ | ⟨_, _, _, _, _, _, _, _, h₁, h₂, -, -, h₅⟩ |
    ⟨p, w, hp, h₁, h₂, -, -, h₅⟩ | ⟨p, w, w', sent, hp, hm, h₁, h₂, -⟩
  · refine ⟨?_, ?_, ?_⟩ <;> simp only [h₁, h₂, h₅]
    exacts [hi.logged, hi.live, hi.latest]
  · refine ⟨?_, fun q w' x hq hx => ?_, fun q w' hq => ?_⟩ <;> simp only [h₁, h₂, h₅] at *
    · exact hi.logged
    · rcases update_eq_some hq with ⟨-, ⟨⟩⟩ | ⟨-, hq⟩
      · cases hx
      · exact hi.live q w' x hq hx
    · rcases update_eq_some hq with ⟨-, ⟨⟩⟩ | ⟨-, hq⟩
      · exact fun _ _ _ _ hx => nomatch hx
      · exact hi.latest q w' hq
  · refine ⟨?_, fun q w' x hq hx => ?_, fun q w' hq => ?_⟩ <;> simp only [h₁, h₂, h₅] at *
    · exact hi.logged
    · rcases update_eq_some hq with ⟨-, ⟨⟩⟩ | ⟨-, hq⟩
      exact hi.live q w' x hq hx
    · rcases update_eq_some hq with ⟨-, ⟨⟩⟩ | ⟨-, hq⟩
      exact hi.latest q w' hq
  · obtain ⟨hle, hsurf, hsent⟩ := hm.surface
    have hlive' : ∀ x, w'.xdgSurface = some x → x < W'.fresh := by
      intro x hx
      rcases hsurf with h' | h' | ⟨-, h', hlt⟩
      · exact Nat.lt_of_lt_of_le (hi.live p w x hp (h' ▸ hx)) hle
      · rw [h'] at hx; cases hx
      · rw [h', Option.some.injEq] at hx
        exact hx ▸ hlt
    refine ⟨fun e he x hx => ?_, fun q w₁ x hq hx => ?_, fun q w₁ hq => ?_⟩
    · rw [h₂, mem_emit] at he
      rcases he with ⟨-, hm'⟩ | he
      · exact hlive' x (hsent _ hm' x hx)
      · exact Nat.lt_of_lt_of_le (hi.logged e he x hx) hle
    · rw [h₁] at hq
      rcases update_eq_some hq with ⟨-, ⟨⟩⟩ | ⟨-, hq⟩
      · exact hlive' x hx
      · exact Nat.lt_of_lt_of_le (hi.live q w₁ x hq hx) hle
    · rw [h₁] at hq
      rw [h₂]
      intro ho
      obtain ⟨hsent, hold⟩ := (overran_emit _ _ _ _).mp ho
      rcases update_eq_some hq with ⟨rfl, ⟨⟩⟩ | ⟨hq', hq⟩
      · exact hm.delivery hi.logged (hi.latest _ w hp hold) (hsent rfl)
      · intro x s b hx hl
        rw [latestDelivery_emit_ne (Ne.symm hq')] at hl
        exact hi.latest q w₁ hq hold x s b hx hl

/-- Every reachable world meets the deliveries' invariant. -/
theorem Reachable.deliveryInv {X : Extern} {W : World} (hW : Reachable X W) : DeliveryInv W := by
  induction hW with
  | init => exact ⟨fun _ h => absurd h (List.not_mem_nil _), (fun _ _ _ h => nomatch h),
      (fun _ _ h => nomatch h)⟩
  | step _ _ hs ih => exact ih.step hs

/-! ## The queued serial -/

/-- The chain of `sl_process_pending_configure_acks`: an acknowledgment that finds a serial queued
makes it pending at once, after the acknowledgment's message. -/
theorem slProcessPendingConfigureAcks_chain {fix : Bool} {w w' : SlWindow}
    {hs : Option SlHostSurface} {sent : List Msg}
    (h : slProcessPendingConfigureAcks fix w hs = some (true, w', sent)) (hn : w.nextConfig.serial ≠ 0) :
    w'.pendingConfig.serial = w.nextConfig.serial ∧ w'.nextConfig.serial = 0 ∧
      ∃ rest, sent = ackOf w hs ++ rest := by
  rcases slProcessPendingConfigureAcks_cases h with ⟨-, h', -⟩ | ⟨-, -, ⟨h0, -⟩ | ⟨-, rest, hc, rfl⟩⟩
  · cases h'
  · exact absurd h0 hn
  · obtain ⟨-, -, rfl, -⟩ := slConfigureWindow_some hc
    exact ⟨rfl, rfl, rest, rfl⟩

/-- `sl_commit` keeps a queued serial in `next_config` or hands it to `pending_config`. -/
theorem slCommit_queued {fix : Bool} {w w' : SlWindow} {hs : Option SlHostSurface} {sent : List Msg}
    (h : slCommit fix w hs = some (w', sent)) (hn : w.nextConfig.serial ≠ 0) :
    w'.nextConfig.serial = w.nextConfig.serial ∨ w'.pendingConfig.serial = w.nextConfig.serial := by
  obtain ⟨b, sent₀, h₁, -⟩ := slCommit_some h
  rcases slProcessPendingConfigureAcks_cases h₁ with ⟨-, -, rfl, -⟩ | ⟨-, -, ⟨h0, -⟩ | ⟨-, rest, hc, -⟩⟩
  · exact .inl rfl
  · exact absurd h0 hn
  · obtain ⟨-, -, rfl, -⟩ := slConfigureWindow_some hc
    exact .inr rfl

/-- A move keeps a queued serial queued, makes it pending, or overwrites it with the serial it
delivers. -/
theorem Moves.queued {X : Extern} {W : World} {p : Nat} {w w' : SlWindow} {sent : List Msg}
    {ctx : SlContext} {fresh : Nat} (hm : Moves X W p w w' sent ctx fresh) (hi : ConfigureInv w)
    (hn : w.nextConfig.serial ≠ 0) :
    w'.nextConfig.serial = w.nextConfig.serial ∨ w'.pendingConfig.serial = w.nextConfig.serial ∨
      ∃ x s, sent = [.configure x s] ∧ w'.nextConfig.serial = s := by
  rcases hm.engine_cases with ⟨he, -⟩ | ⟨x, serial, s, -, rfl, hc⟩ | ⟨hs, hc⟩ |
    ⟨w₀, w₁, hs, pre, s, r, -, he, -, hc, -, rfl⟩ | ⟨ws, -, -, -, he⟩
  · exact .inl (congrArg (·.2.2.2) he)
  · rcases slInternalXdgSurfaceConfigure_cases hc with ⟨-, rfl, rfl⟩ | ⟨h0, -⟩
    · exact .inr (.inr ⟨x, serial, rfl, rfl⟩)
    · exact absurd h0 (hi.queued hn)
  · exact (slCommit_queued hc hn).imp_right .inl
  · have hn₀ : w₀.nextConfig.serial = w.nextConfig.serial := congrArg (·.2.2.2) he
    rcases slCommit_queued hc (hn₀ ▸ hn) with h' | h'
    · exact .inl (h'.trans hn₀)
    · exact .inr (.inl (h'.trans hn₀))
  · exact .inl (congrArg (·.2.2.2) he)

/-- In every reachable state, the newest serial delivered on the current `xdg_surface` of a window
whose `next_config.states` was never overrun has been acknowledged on it or is held in
`pending_config` or `next_config`; an operation takes a queued serial out of `next_config` only by
making it pending or by delivering a new one; and an acknowledgment that finds a serial queued
makes it pending right after it. -/
theorem latest_delivery_kept {X : Extern} {W : World} (hW : Reachable X W) :
    (∀ p w x s b, W.heap p = some w → overran p W.log = false → w.xdgSurface = some x →
      latestDelivery p x W.log = some (s, b) →
        b = true ∨ w.pendingConfig.serial = s ∨ w.nextConfig.serial = s) ∧
    (∀ op W' p w w', step X W op = some W' → W.heap p = some w → W'.heap p = some w' →
      w.nextConfig.serial ≠ 0 →
        w'.nextConfig.serial = w.nextConfig.serial ∨ w'.pendingConfig.serial = w.nextConfig.serial ∨
          ∃ x s, W'.log = (p, .configure x s) :: W.log ∧ w'.nextConfig.serial = s) ∧
    (∀ fix w hs w' sent, slProcessPendingConfigureAcks fix w hs = some (true, w', sent) →
      w.nextConfig.serial ≠ 0 →
        w'.pendingConfig.serial = w.nextConfig.serial ∧ w'.nextConfig.serial = 0 ∧
          ∃ rest, sent = ackOf w hs ++ rest) := by
  refine ⟨fun p w x s b hp ho hx hl => hW.deliveryInv.latest p w hp ho x s b hx hl,
    fun op W' p w w' h hp hp' hn => ?_, fun _ _ _ _ _ h hn => slProcessPendingConfigureAcks_chain h hn⟩
  rcases step_cases h with ⟨h₁, -⟩ | ⟨_, _, _, _, _, _, _, _, h₁, -⟩ |
    ⟨q, w₀, hq, h₁, -⟩ | ⟨q, w₀, w₁, sent, hq, hm, h₁, h₂, -⟩ <;> rw [h₁] at hp'
  · rw [hp, Option.some.injEq] at hp'
    exact .inl (hp' ▸ rfl)
  · rw [Function.update_noteq (Nat.ne_of_lt (hW.bounds.lt hp)), hp, Option.some.injEq] at hp'
    exact .inl (hp' ▸ rfl)
  · rcases update_eq_some hp' with ⟨-, ⟨⟩⟩ | ⟨-, hp'⟩
    rw [hp, Option.some.injEq] at hp'
    exact .inl (hp' ▸ rfl)
  · rcases update_eq_some hp' with ⟨rfl, ⟨⟩⟩ | ⟨-, hp'⟩
    · rw [hq, Option.some.injEq] at hp
      subst hp
      rcases hm.queued (hW.configureInv _ w₀ hq) hn with h' | h' | ⟨x, s, rfl, h'⟩
      · exact .inl h'
      · exact .inr (.inl h')
      · exact .inr (.inr ⟨x, s, h₂, h'⟩)
    · rw [hp, Option.some.injEq] at hp'
      exact .inl (hp' ▸ rfl)

/-- The state after `ackRun` meets the three parts of `latest_delivery_kept`. -/
theorem latest_delivery_kept_run :
    (∀ p w x s b, ackState.heap p = some w → overran p ackState.log = false →
      w.xdgSurface = some x →
      latestDelivery p x ackState.log = some (s, b) →
        b = true ∨ w.pendingConfig.serial = s ∨ w.nextConfig.serial = s) ∧
    (∀ op W' p w w', step (Extern.unscaled true) ackState op = some W' → ackState.heap p = some w →
      W'.heap p = some w' → w.nextConfig.serial ≠ 0 →
        w'.nextConfig.serial = w.nextConfig.serial ∨ w'.pendingConfig.serial = w.nextConfig.serial ∨
          ∃ x s, W'.log = (p, .configure x s) :: ackState.log ∧ w'.nextConfig.serial = s) ∧
    (∀ fix w hs w' sent, slProcessPendingConfigureAcks fix w hs = some (true, w', sent) →
      w.nextConfig.serial ≠ 0 →
        w'.pendingConfig.serial = w.nextConfig.serial ∧ w'.nextConfig.serial = 0 ∧
          ∃ rest, sent = ackOf w hs ++ rest) :=
  latest_delivery_kept (reachable_run_getD _ (by decide))

/-- After `overrunRun`, the newest serial delivered on the window's `xdg_surface`, 7, is not
acknowledged, and neither buffer holds it: the overrun wrote the focused atom, 14, over the pending
serial, and no serial is queued. -/
theorem latest_delivery_lost :
    ∃ W, Reachable (Extern.unscaled true) W ∧ latestDelivery 0 1 W.log = some (7, false) ∧
      (W.heap 0).map (fun w => (w.xdgSurface, w.pendingConfig.serial, w.nextConfig.serial)) =
        some (some 1, 14, 0) := by
  obtain ⟨W, hW, h⟩ := reach_of_run (Extern.unscaled true) (SlContext.sample true) (fun _ => none)
    overrunRun (fun W => decide (latestDelivery 0 1 W.log = some (7, false) ∧
      (W.heap 0).map (fun w => (w.xdgSurface, w.pendingConfig.serial, w.nextConfig.serial)) =
        some (some 1, 14, 0))) (by decide)
  exact ⟨W, hW, of_decide_eq_true h⟩

/-! ## A serial acknowledged on the wrong `xdg_surface` -/

/-- A managed window gets serial 7 on its first `xdg_surface` while its host surface has no
contents; the host resource goes away, so `sl_window_update` tears the `xdg_surface` down; a new
host surface with contents of the proposed size appears, and the next update creates a second
`xdg_surface` and commits. -/
def lostSurfaceRun : List Op :=
  [.create 100 0 0 10 10 0 true Props.unset, .surface 5 (some (SlHostSurface.sample 50 0 0 0)),
    .pair 0 5, .windowUpdate 0, .xdgToplevelConfigure 0 20 20 [], .xdgSurfaceConfigure 0 7,
    .surface 5 none, .windowUpdate 0, .surface 6 (some (SlHostSurface.sample 60 20 20 0)),
    .pair 0 6, .windowUpdate 0]

/-- After `lostSurfaceRun`, serial 7, delivered on `xdg_surface` 1, is acknowledged on
`xdg_surface` 3, the window's current one, on which nothing was ever delivered. -/
theorem ack_on_new_xdg_surface :
    ∃ W, Reachable (Extern.unscaled true) W ∧ (0, Msg.configure 1 7) ∈ W.log ∧
      (0, Msg.ackConfigure 3 7 (some (SlHostSurface.sample 60 20 20 0))) ∈ W.log ∧
      (W.heap 0).bind (·.xdgSurface) = some 3 ∧ latestDelivery 0 3 W.log = none := by
  obtain ⟨W, hW, h⟩ := reach_of_run (Extern.unscaled true) (SlContext.sample true) (fun _ => none)
    lostSurfaceRun (fun W => decide ((0, Msg.configure 1 7) ∈ W.log ∧
      (0, Msg.ackConfigure 3 7 (some (SlHostSurface.sample 60 20 20 0))) ∈ W.log ∧
      (W.heap 0).bind (·.xdgSurface) = some 3 ∧ latestDelivery 0 3 W.log = none)) (by decide)
  exact ⟨W, hW, of_decide_eq_true h⟩

end Sommelier

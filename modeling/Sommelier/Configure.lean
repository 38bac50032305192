import Sommelier.Basic

/-!
# The configure engine

`sl_configure_window` applies the queued configure `next_config` and hands it over to
`pending_config`, whose serial is then owed an acknowledgment. `sl_process_pending_configure_acks`
sends that acknowledgment once the host surface's contents have the window's size, and chains the
next queued configure; `sl_commit` follows an acknowledgment with a surface commit, and
`sl_internal_xdg_surface_configure` queues a compositor configure and applies it at once when no
acknowledgment is owed.

The functions return `none` exactly where an `assert` of `sl_configure_window` fails. The
`COMMIT_LOOP_FIX` build flag is the Boolean `commitLoopFix`.

Each function comes with the lemma that says everything it can do (`slConfigureWindow_some`,
`slProcessPendingConfigureAcks_cases`, ...), and the later modules use only those.
-/

namespace Sommelier

/-! ## `sl_configure_window` -/

/-- `sl_send_configure_notify`: a `ConfigureNotify` with the window's geometry. -/
def slSendConfigureNotify (w : SlWindow) : Msg :=
  .configureNotify w.id (i16 w.x) (i16 w.y) (u16 w.width) (u16 w.height) (u16 w.borderWidth)

/-- One positional read of `sl_configure_window`: when `bit` is set in `mask`, the value at index
`i` and the next index (`values[i++]`); otherwise `old` and `i`. -/
def readValue (mask bit : Nat) (values : List Int) (i : Nat) (old : Int) : Int × Nat :=
  if mask &&& bit ≠ 0 then (values.getD i 0, i + 1) else (old, i)

/-- The geometry that `sl_configure_window` reads from a configure: each field whose bit is set in
the mask takes the next positional value, in the order x, y, width, height, border width. -/
def configuredGeometry (c : SlConfig) (g : Geometry) : Geometry :=
  let (x, i) := readValue c.mask XCB_CONFIG_WINDOW_X c.values 0 g.x
  let (y, i) := readValue c.mask XCB_CONFIG_WINDOW_Y c.values i g.y
  let (width, i) := readValue c.mask XCB_CONFIG_WINDOW_WIDTH c.values i g.width
  let (height, i) := readValue c.mask XCB_CONFIG_WINDOW_HEIGHT c.values i g.height
  let (borderWidth, _) := readValue c.mask XCB_CONFIG_WINDOW_BORDER_WIDTH c.values i g.borderWidth
  ⟨x, y, width, height, borderWidth⟩

/-- A window moved and resized to `g`. -/
def SlWindow.withGeometry (w : SlWindow) (g : Geometry) : SlWindow :=
  { w with x := g.x, y := g.y, width := g.width, height := g.height, borderWidth := g.borderWidth }

/-- The `if (window->next_config.mask)` block of `sl_configure_window`: the frame is configured
with the mask and its values, the window takes the new size and border, its client window is
configured at the frame's origin, and when its position changed the window moves and the client
is told by a synthetic `ConfigureNotify`. -/
def applyMask (c : SlConfig) (w : SlWindow) : SlWindow × List Msg :=
  let g := configuredGeometry c w.geometry
  let resized := { w with width := g.width, height := g.height, borderWidth := g.borderWidth }
  let sent := [.configureWindow w.props.frameId c.mask c.values,
    .configureWindow w.id (XCB_CONFIG_WINDOW_X ||| XCB_CONFIG_WINDOW_Y ||| XCB_CONFIG_WINDOW_WIDTH |||
      XCB_CONFIG_WINDOW_HEIGHT ||| XCB_CONFIG_WINDOW_BORDER_WIDTH)
      [0, 0, g.width, g.height, g.borderWidth]]
  if g.x ≠ w.x ∨ g.y ≠ w.y then
    let moved := { resized with x := g.x, y := g.y }
    (moved, sent ++ [slSendConfigureNotify moved])
  else (resized, sent)

/-- The hand-over at the end of `sl_configure_window`: `pending_config = next_config`, and
`next_config` keeps its values and states but loses its serial, mask and state count. -/
def SlWindow.handOver (w : SlWindow) : SlWindow :=
  { w with pendingConfig := w.nextConfig,
           nextConfig := { w.nextConfig with serial := 0, mask := 0, statesLength := 0 } }

/-- The words of a configure buffer in the order of `struct sl_config`: the serial, the mask, the
five values, the state count and the three state atoms. -/
def SlConfig.words (c : SlConfig) : List Nat :=
  c.serial :: c.mask :: c.values.map u32 ++ c.statesLength :: c.states

/-- The `states_length` atoms that `xcb_change_property` reads from `next_config.states`: past its
three entries it reads on into `pending_config`, the next member of `struct sl_window`. -/
def statesProperty (w : SlWindow) : List Nat :=
  (w.nextConfig.states ++ w.pendingConfig.words).take w.nextConfig.statesLength

/-- `sl_configure_window`: `none` when `pending_config.serial` is set, or when the mask is set on
an unmanaged window (its two assertions). -/
def slConfigureWindow (w : SlWindow) : Option (SlWindow × List Msg) :=
  if w.pendingConfig.serial ≠ 0 ∨ (w.nextConfig.mask ≠ 0 ∧ w.managed = false) then none
  else
    let applied := if w.nextConfig.mask = 0 then (w, []) else applyMask w.nextConfig w
    let sent := if w.managed then applied.2 ++ [.changeNetWmState w.id (statesProperty w)]
      else applied.2
    some (applied.1.handOver, sent ++ [.pending w.nextConfig.serial applied.1.geometry])

/-! ## Acknowledgment and commit -/

/-- The early out of `sl_process_pending_configure_acks` for a managed window: the host surface's
contents differ from the window's size with its borders, as `uint32_t`s. -/
def contentsMismatch (w : SlWindow) : Option SlHostSurface → Bool
  | none => false
  | some hs => u32 (w.width + w.borderWidth * 2) ≠ hs.contentsWidth ∨
      u32 (w.height + w.borderWidth * 2) ≠ hs.contentsHeight

/-- `window->pending_config.serial = 0`: the pending serial is no longer owed. -/
def SlWindow.clearPending (w : SlWindow) : SlWindow :=
  { w with pendingConfig := { w.pendingConfig with serial := 0 } }

/-- The acknowledgment of the pending serial, sent when the window has an `xdg_surface`. -/
def ackOf (w : SlWindow) (hs : Option SlHostSurface) : List Msg :=
  (w.xdgSurface.map fun h => Msg.ackConfigure h w.pendingConfig.serial hs).toList

/-- `sl_process_pending_configure_acks`: whether the pending serial was acknowledged, the window,
and the messages; `none` when the chained `sl_configure_window` fails. -/
def slProcessPendingConfigureAcks (commitLoopFix : Bool) (w : SlWindow)
    (hs : Option SlHostSurface) : Option (Bool × SlWindow × List Msg) :=
  if w.pendingConfig.serial = 0 then some (false, w, [])
  else if commitLoopFix ∧ w.pendingConfig.mask = 0 ∧ w.pendingConfig.statesLength = 0 then
    some (false, w, [])
  else if w.managed ∧ contentsMismatch w hs then some (false, w, [])
  else if w.nextConfig.serial ≠ 0 then
    (slConfigureWindow w.clearPending).map fun (w', sent) => (true, w', ackOf w hs ++ sent)
  else some (true, w.clearPending, ackOf w hs)

/-- `sl_commit`: an acknowledgment is followed by a commit of the host surface. -/
def slCommit (commitLoopFix : Bool) (w : SlWindow) (hs : Option SlHostSurface) :
    Option (SlWindow × List Msg) :=
  (slProcessPendingConfigureAcks commitLoopFix w hs).map fun (acked, w', sent) =>
    (w', if acked then sent ++ (hs.map fun s => Msg.surfaceCommit s.proxy).toList else sent)

/-- `window->next_config.serial = serial`. -/
def SlWindow.queue (w : SlWindow) (serial : Nat) : SlWindow :=
  { w with nextConfig := { w.nextConfig with serial := serial } }

/-- `sl_internal_xdg_surface_configure` on the window whose `xdg_surface` received the event, with
the host surface that `wl_client_get_object` returns for its `host_surface_id`. -/
def slInternalXdgSurfaceConfigure (commitLoopFix : Bool) (w : SlWindow)
    (hs : Option SlHostSurface) (serial : Nat) : Option (SlWindow × List Msg) :=
  let w := w.queue serial
  if w.pendingConfig.serial = 0 then
    (slConfigureWindow w).bind fun (w', sent) =>
      (slCommit commitLoopFix w' hs).map fun (w'', sent') => (w'', sent ++ sent')
  else some (w, [])

/-! ## What each function can do -/

/-- The geometry that `sl_configure_window` leaves the window at. -/
def installedGeometry (w : SlWindow) : Geometry :=
  if w.nextConfig.mask = 0 then w.geometry else configuredGeometry w.nextConfig w.geometry

/-- A window with its geometry replaced has the new geometry. -/
@[simp] theorem SlWindow.withGeometry_geometry (w : SlWindow) (g : Geometry) :
    (w.withGeometry g).geometry = g := rfl

/-- Setting the geometry to what it is changes nothing. -/
@[simp] theorem SlWindow.withGeometry_self (w : SlWindow) : w.withGeometry w.geometry = w := rfl

/-- The window that `applyMask` leaves is the window at the configured geometry, whether it
moved or not. -/
theorem applyMask_fst (c : SlConfig) (w : SlWindow) :
    (applyMask c w).1 = w.withGeometry (configuredGeometry c w.geometry) := by
  simp only [applyMask]
  split
  · rfl
  · rename_i h
    obtain ⟨hx, hy⟩ := not_or.mp h
    cases w
    simp_all [SlWindow.withGeometry, SlWindow.geometry]

/-- The mask block of `sl_configure_window` sends only plain messages. -/
theorem applyMask_plain (c : SlConfig) (w : SlWindow) : ∀ m ∈ (applyMask c w).2, m.Plain := by
  simp only [applyMask]
  split <;> simp <;> trivial

/-- `sl_configure_window` succeeds exactly when neither assertion fails. -/
theorem slConfigureWindow_ne_none (w : SlWindow) :
    slConfigureWindow w ≠ none ↔
      w.pendingConfig.serial = 0 ∧ (w.nextConfig.mask ≠ 0 → w.managed = true) := by
  unfold slConfigureWindow
  by_cases h : w.pendingConfig.serial ≠ 0 ∨ (w.nextConfig.mask ≠ 0 ∧ w.managed = false)
  · simp only [h, if_true, ne_eq, not_true_eq_false, false_iff]
    rintro ⟨h0, hm⟩
    rcases h with h | ⟨h1, h2⟩
    · exact h h0
    · simp [hm h1] at h2
  · simp only [h, if_false, ne_eq, reduceCtorEq, not_false_eq_true, true_iff]
    simp only [ne_eq, not_or, not_and, Bool.not_eq_false, not_not] at h
    exact h

/-- Everything `sl_configure_window` can do: the window is moved to `installedGeometry` and hands
`next_config` over, and the messages are requests to the X server followed by the ghost record
of the new pending serial. -/
theorem slConfigureWindow_some {w w' : SlWindow} {sent : List Msg}
    (h : slConfigureWindow w = some (w', sent)) :
    w.pendingConfig.serial = 0 ∧ (w.nextConfig.mask ≠ 0 → w.managed = true) ∧
      w' = (w.withGeometry (installedGeometry w)).handOver ∧
      ∃ pre, (∀ m ∈ pre, m.Plain) ∧
        sent = pre ++ [.pending w.nextConfig.serial (installedGeometry w)] := by
  have hne : slConfigureWindow w ≠ none := by rw [h]; exact Option.some_ne_none _
  obtain ⟨h0, hm⟩ := (slConfigureWindow_ne_none w).mp hne
  refine ⟨h0, hm, ?_⟩
  -- The window and the X requests of the two branches on the mask.
  have happ : (if w.nextConfig.mask = 0 then (w, []) else applyMask w.nextConfig w).1 =
      w.withGeometry (installedGeometry w) := by
    unfold installedGeometry; split
    · simp
    · exact applyMask_fst _ _
  have hplain : ∀ m ∈ (if w.nextConfig.mask = 0 then (w, []) else applyMask w.nextConfig w).2,
      m.Plain := by
    split
    · simp
    · exact applyMask_plain _ _
  unfold slConfigureWindow at h
  rw [if_neg (by simp [h0]; exact hm)] at h
  dsimp only at h
  rw [happ, Option.some.injEq, Prod.mk.injEq] at h
  obtain ⟨rfl, rfl⟩ := h
  refine ⟨rfl, _, ?_, rfl⟩
  intro m hm'
  split at hm'
  · rcases List.mem_append.mp hm' with hm' | hm'
    · exact hplain m hm'
    · rw [List.mem_singleton.mp hm']; trivial
  · exact hplain m hm'

/-- The windows on which `sl_process_pending_configure_acks` returns early: no serial is owed;
with `COMMIT_LOOP_FIX`, the pending configure changes nothing; or the window is managed and the
host surface's contents do not have its size yet. -/
def AckBlocked (commitLoopFix : Bool) (w : SlWindow) (hs : Option SlHostSurface) : Prop :=
  w.pendingConfig.serial = 0 ∨
    (commitLoopFix = true ∧ w.pendingConfig.mask = 0 ∧ w.pendingConfig.statesLength = 0) ∨
    (w.managed = true ∧ contentsMismatch w hs = true)

/-- On a blocked window `sl_process_pending_configure_acks` returns early and changes nothing. -/
theorem slProcessPendingConfigureAcks_blocked {fix : Bool} {w : SlWindow}
    {hs : Option SlHostSurface} (h : AckBlocked fix w hs) :
    slProcessPendingConfigureAcks fix w hs = some (false, w, []) := by
  unfold slProcessPendingConfigureAcks
  rcases h with h | h | h <;> simp_all

/-- Everything `sl_process_pending_configure_acks` can do: return early, or acknowledge the
pending serial and, when a configure is queued, apply it at once. -/
theorem slProcessPendingConfigureAcks_cases {fix b : Bool} {w w' : SlWindow}
    {hs : Option SlHostSurface} {sent : List Msg}
    (h : slProcessPendingConfigureAcks fix w hs = some (b, w', sent)) :
    (AckBlocked fix w hs ∧ b = false ∧ w' = w ∧ sent = []) ∨
      (¬AckBlocked fix w hs ∧ b = true ∧
        ((w.nextConfig.serial = 0 ∧ w' = w.clearPending ∧ sent = ackOf w hs) ∨
          (w.nextConfig.serial ≠ 0 ∧ ∃ rest, slConfigureWindow w.clearPending = some (w', rest) ∧
            sent = ackOf w hs ++ rest))) := by
  by_cases hb : AckBlocked fix w hs
  · rw [slProcessPendingConfigureAcks_blocked hb] at h
    simp only [Option.some.injEq, Prod.mk.injEq] at h
    exact .inl ⟨hb, h.1.symm, h.2.1.symm, h.2.2.symm⟩
  · refine .inr ⟨hb, ?_⟩
    simp only [AckBlocked, not_or, not_and] at hb
    obtain ⟨h0, hfix, hmis⟩ := hb
    unfold slProcessPendingConfigureAcks at h
    rw [if_neg h0, if_neg (by simpa using hfix), if_neg (by simpa using hmis)] at h
    split at h
    · rename_i hn
      obtain ⟨⟨w₁, rest⟩, h₁, h₂⟩ := Option.map_eq_some'.mp h
      simp only [Prod.mk.injEq] at h₂
      exact ⟨h₂.1.symm, .inr ⟨hn, rest, h₂.2.1 ▸ h₁, h₂.2.2.symm⟩⟩
    · rename_i hn
      simp only [Option.some.injEq, Prod.mk.injEq] at h
      exact ⟨h.1.symm, .inl ⟨not_not.mp hn, h.2.1.symm, h.2.2.symm⟩⟩

/-- `sl_process_pending_configure_acks` never fails on a window whose mask is clear unless it is
managed: its chained `sl_configure_window` runs with no serial owed. -/
theorem slProcessPendingConfigureAcks_ne_none (fix : Bool) {w : SlWindow}
    (hs : Option SlHostSurface) (hm : w.nextConfig.mask ≠ 0 → w.managed = true) :
    slProcessPendingConfigureAcks fix w hs ≠ none := by
  unfold slProcessPendingConfigureAcks
  split_ifs <;> simp only [ne_eq, reduceCtorEq, not_false_eq_true, Option.map_eq_none']
  exact (slConfigureWindow_ne_none _).mpr ⟨rfl, hm⟩

/-- Everything `sl_commit` can do: the acknowledgment step, followed by a commit of the host
surface when it acknowledged. -/
theorem slCommit_some {fix : Bool} {w w' : SlWindow} {hs : Option SlHostSurface}
    {sent : List Msg} (h : slCommit fix w hs = some (w', sent)) :
    ∃ b sent₀, slProcessPendingConfigureAcks fix w hs = some (b, w', sent₀) ∧
      sent = sent₀ ++ (if b then (hs.map fun s => Msg.surfaceCommit s.proxy).toList else []) := by
  obtain ⟨⟨b, w₁, sent₀⟩, h₁, h₂⟩ := Option.map_eq_some'.mp h
  simp only [Prod.mk.injEq] at h₂
  refine ⟨b, sent₀, h₂.1 ▸ h₁, ?_⟩
  rw [← h₂.2]
  split <;> simp

/-- `sl_commit` never fails its assertion on a window whose mask only a managed window has. -/
theorem slCommit_ne_none (fix : Bool) {w : SlWindow} (hs : Option SlHostSurface)
    (hm : w.nextConfig.mask ≠ 0 → w.managed = true) : slCommit fix w hs ≠ none := by
  simpa [slCommit] using slProcessPendingConfigureAcks_ne_none fix hs hm

/-- Everything `sl_internal_xdg_surface_configure` can do: queue the serial behind an owed one, or
apply it at once and commit. -/
theorem slInternalXdgSurfaceConfigure_cases {fix : Bool} {w w' : SlWindow}
    {hs : Option SlHostSurface} {serial : Nat} {sent : List Msg}
    (h : slInternalXdgSurfaceConfigure fix w hs serial = some (w', sent)) :
    (w.pendingConfig.serial ≠ 0 ∧ w' = w.queue serial ∧ sent = []) ∨
      (w.pendingConfig.serial = 0 ∧ ∃ w₁ s₁ s₂, slConfigureWindow (w.queue serial) = some (w₁, s₁) ∧
        slCommit fix w₁ hs = some (w', s₂) ∧ sent = s₁ ++ s₂) := by
  unfold slInternalXdgSurfaceConfigure at h
  dsimp only at h
  split at h
  · rename_i h0
    obtain ⟨⟨w₁, s₁⟩, h₁, h₂⟩ := Option.bind_eq_some.mp h
    obtain ⟨⟨w₂, s₂⟩, h₃, h₄⟩ := Option.map_eq_some'.mp h₂
    simp only [Prod.mk.injEq] at h₄
    exact .inr ⟨h0, w₁, s₁, s₂, h₁, h₄.1 ▸ h₃, h₄.2.symm⟩
  · rename_i h0
    simp only [Option.some.injEq, Prod.mk.injEq] at h
    exact .inl ⟨h0, h.1.symm, h.2.symm⟩

/-! ## What the configure engine leaves alone -/

/-- A window with its geometry and configure buffers replaced: all that the configure engine
changes. -/
def SlWindow.withEngine (w : SlWindow) (g : Geometry) (pending next : SlConfig) : SlWindow :=
  { w.withGeometry g with pendingConfig := pending, nextConfig := next }

/-- A second engine step overrides the first. -/
@[simp] theorem SlWindow.withEngine_withEngine (w : SlWindow) (g g' : Geometry)
    (pc nc pc' nc' : SlConfig) : (w.withEngine g pc nc).withEngine g' pc' nc' = w.withEngine g' pc' nc' :=
  rfl

/-- Setting the engine's state to what it is changes nothing. -/
@[simp] theorem SlWindow.withEngine_self (w : SlWindow) :
    w.withEngine w.geometry w.pendingConfig w.nextConfig = w := rfl

/-- What the engine sets: the geometry and both configure buffers. -/
@[simp] theorem SlWindow.withEngine_engine (w : SlWindow) (g : Geometry) (pc nc : SlConfig) :
    (w.withEngine g pc nc).geometry = g ∧ (w.withEngine g pc nc).pendingConfig = pc ∧
      (w.withEngine g pc nc).nextConfig = nc := ⟨rfl, rfl, rfl⟩

/-- What the engine leaves alone: the managed flag and the window's compositor objects. -/
@[simp] theorem SlWindow.withEngine_objects (w : SlWindow) (g : Geometry) (pc nc : SlConfig) :
    (w.withEngine g pc nc).managed = w.managed ∧ (w.withEngine g pc nc).xdgSurface = w.xdgSurface ∧
      (w.withEngine g pc nc).xdgToplevel = w.xdgToplevel ∧
      (w.withEngine g pc nc).xdgPopup = w.xdgPopup ∧
      (w.withEngine g pc nc).auraSurface = w.auraSurface := ⟨rfl, rfl, rfl, rfl, rfl⟩

/-- Handing `next_config` over to `pending_config` is an engine step. -/
@[simp] theorem SlWindow.handOver_eq (w : SlWindow) : w.handOver = w.withEngine w.geometry
    w.nextConfig { w.nextConfig with serial := 0, mask := 0, statesLength := 0 } := rfl

/-- Clearing the owed serial is an engine step. -/
@[simp] theorem SlWindow.clearPending_eq (w : SlWindow) : w.clearPending = w.withEngine w.geometry
    { w.pendingConfig with serial := 0 } w.nextConfig := rfl

/-- Queueing a serial is an engine step. -/
@[simp] theorem SlWindow.queue_eq (w : SlWindow) (serial : Nat) : w.queue serial =
    w.withEngine w.geometry w.pendingConfig { w.nextConfig with serial := serial } := rfl

/-- `sl_configure_window` changes only the engine's state. -/
theorem slConfigureWindow_engine {w w' : SlWindow} {sent : List Msg}
    (h : slConfigureWindow w = some (w', sent)) : ∃ g pc nc, w' = w.withEngine g pc nc := by
  obtain ⟨-, -, rfl, -⟩ := slConfigureWindow_some h
  exact ⟨_, _, _, rfl⟩

/-- `sl_process_pending_configure_acks` changes only the engine's state. -/
theorem slProcessPendingConfigureAcks_engine {fix b : Bool} {w w' : SlWindow}
    {hs : Option SlHostSurface} {sent : List Msg}
    (h : slProcessPendingConfigureAcks fix w hs = some (b, w', sent)) :
    ∃ g pc nc, w' = w.withEngine g pc nc := by
  rcases slProcessPendingConfigureAcks_cases h with ⟨-, -, rfl, -⟩ | ⟨-, -, ⟨-, rfl, -⟩ | ⟨-, rest, h', -⟩⟩
  · exact ⟨_, _, _, (SlWindow.withEngine_self _).symm⟩
  · exact ⟨_, _, _, SlWindow.clearPending_eq w⟩
  · obtain ⟨g, pc, nc, rfl⟩ := slConfigureWindow_engine h'
    exact ⟨g, pc, nc, rfl⟩

/-- `sl_commit` changes only the engine's state. -/
theorem slCommit_engine {fix : Bool} {w w' : SlWindow} {hs : Option SlHostSurface}
    {sent : List Msg} (h : slCommit fix w hs = some (w', sent)) :
    ∃ g pc nc, w' = w.withEngine g pc nc := by
  obtain ⟨b, sent₀, h₁, -⟩ := slCommit_some h
  exact slProcessPendingConfigureAcks_engine h₁

/-- The surface listener changes only the engine's state. -/
theorem slInternalXdgSurfaceConfigure_engine {fix : Bool} {w w' : SlWindow}
    {hs : Option SlHostSurface} {serial : Nat} {sent : List Msg}
    (h : slInternalXdgSurfaceConfigure fix w hs serial = some (w', sent)) :
    ∃ g pc nc, w' = w.withEngine g pc nc := by
  rcases slInternalXdgSurfaceConfigure_cases h with ⟨-, rfl, -⟩ | ⟨-, w₁, s₁, s₂, h₁, h₂, -⟩
  · exact ⟨_, _, _, SlWindow.queue_eq w serial⟩
  · obtain ⟨g, pc, nc, rfl⟩ := slConfigureWindow_engine h₁
    obtain ⟨g', pc', nc', rfl⟩ := slCommit_engine h₂
    exact ⟨g', pc', nc', rfl⟩

end Sommelier

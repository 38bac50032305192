import Sommelier.Toplevel

/-!
# The reconciliation of a window

`sl_window_update` is the file's central transition. It moves the window between the paired and
unpaired lists as its host surface resource comes and goes, tears its compositor-side handles
down when there is no resource, and otherwise resolves its parent, creates its `xdg_surface`, its
aura surface and its role, and commits.

The function is cut into its stages, each a definition of its own: `pairingTransition`,
`teardown`, the two scans of `resolveParent` (`transientScan`, `fallbackScan`), `ensureXdgSurface`,
`auraBlock` with `slUpdateApplicationId`, `assignRole` and `auraParent`. The windows of the
context are read through `peek`, the heap with the window being updated in its current state, so
that a window that is its own parent reads its own new handles, as the C code does through the
one pointer.
-/

namespace Sommelier

/-- `wl_client_get_object(ctx->client, id)` on the client's surface resources; id `0` names no
object. -/
def getObject (objects : Nat → Option SlHostSurface) (id : Nat) : Option SlHostSurface :=
  if id = 0 then none else objects id

/-- `wl_list_remove(&window->link)`: the window leaves the list it is in. -/
def SlContext.unlink (ctx : SlContext) (p : Nat) : SlContext :=
  { ctx with windows := ctx.windows.erase p, unpairedWindows := ctx.unpairedWindows.erase p }

/-- The first block of `sl_window_update`: with a host surface id whose resource exists, an
unpaired window moves to the head of `ctx->windows`; with no host surface id, a paired window
moves to the head of `ctx->unpaired_windows` and forgets its paired surface. Returns the context,
the window and the resource's host surface. -/
def pairingTransition (objects : Nat → Option SlHostSurface) (ctx : SlContext) (p : Nat)
    (w : SlWindow) : SlContext × SlWindow × Option SlHostSurface :=
  if w.hostSurfaceId ≠ 0 then
    let res := getObject objects w.hostSurfaceId
    if res.isSome ∧ w.unpaired then
      let c := ctx.unlink p
      ({ c with windows := p :: c.windows }, { w with unpaired := false }, res)
    else (ctx, w, res)
  else if w.unpaired = false then
    let c := ctx.unlink p
    ({ c with unpairedWindows := p :: c.unpairedWindows },
      { w with unpaired := true, pairedSurface := none }, none)
  else (ctx, w, none)

/-- The branch of `sl_window_update` without a host resource: the aura surface, the toplevel, the
popup and the `xdg_surface` are destroyed, in that order, and the window is no longer realized. -/
def teardown (w : SlWindow) : SlWindow × List Msg :=
  let bare := { w with auraSurface := none, xdgToplevel := none, xdgPopup := none }
  ({ bare with xdgSurface := none, realized := false },
    (w.auraSurface.map Msg.auraDestroy).toList ++ (w.xdgToplevel.map Msg.toplevelDestroy).toList ++
      (w.xdgPopup.map Msg.popupDestroy).toList ++ (w.xdgSurface.map Msg.xdgSurfaceDestroy).toList)

/-- The scan of `ctx->windows` for the window that `transient_for` names: the first window with
that id, if it has an `xdg_toplevel` (the scan stops at the first match either way). -/
def transientScan (peek : Nat → Option SlWindow) (transientFor : Nat) : List Nat → Option Nat
  | [] => none
  | q :: qs =>
    match peek q with
    | some s =>
      if s.id = transientFor then (if s.xdgToplevel.isSome then some q else none)
      else transientScan peek transientFor qs
    | none => transientScan peek transientFor qs

/-- One sibling `q` of the fallback scan, with the best parent so far and its event serial: a
realized sibling with a live host resource whose last event serial is not below the best one and
whose host surface id is not the window's own (`self`) becomes the best. -/
def fallbackStep (peek : Nat → Option SlWindow) (objects : Nat → Option SlHostSurface) (self : Nat)
    (acc : Option Nat × Nat) (q : Nat) : Option Nat × Nat :=
  match peek q with
  | none => acc
  | some s =>
    if s.realized = false then acc else
    match getObject objects s.hostSurfaceId with
    | none => acc
    | some hs =>
      if acc.2 > hs.lastEventSerial then acc
      else if s.hostSurfaceId = self then acc
      else (some q, hs.lastEventSerial)

/-- The fallback scan of `sl_window_update` over `ctx->windows`, from no parent and serial `0`. -/
def fallbackScan (peek : Nat → Option SlWindow) (objects : Nat → Option SlHostSurface)
    (self : Nat) (windows : List Nat) : Option Nat :=
  (windows.foldl (fallbackStep peek objects self) (none, 0)).1

/-- The parent that `sl_window_update` resolves: for a managed transient window, the toplevel
window that `transient_for` names; failing that, or for an unmanaged window, the fallback scan. -/
def resolveParent (peek : Nat → Option SlWindow) (objects : Nat → Option SlHostSurface)
    (ctx : SlContext) (w : SlWindow) : Option Nat :=
  let parent := if w.managed ∧ w.props.transientFor ≠ XCB_WINDOW_NONE then
      transientScan peek w.props.transientFor ctx.windows
    else none
  if w.managed = false ∨ (parent.isNone ∧ w.props.transientFor ≠ XCB_WINDOW_NONE) then
    fallbackScan peek objects w.hostSurfaceId ctx.windows
  else parent

/-- The depth query of `sl_window_update`: an unknown depth is asked of the X server, and kept
unknown when there is no reply. -/
def queryDepth (depthReply : Nat → Option Nat) (w : SlWindow) : SlWindow :=
  if w.depth = 0 then
    match depthReply w.id with
    | some d => { w with depth := d }
    | none => w
  else w

/-- The `xdg_surface` of `sl_window_update`, created from the host surface (as object `fresh`)
when the window has none. Returns the next fresh object, the window and the messages, as every
stage after it does. -/
def ensureXdgSurface (hs : SlHostSurface) (fresh : Nat) (w : SlWindow) : Nat × SlWindow × List Msg :=
  match w.xdgSurface with
  | some _ => (fresh, w, [])
  | none => (fresh + 1, { w with xdgSurface := some fresh }, [.getXdgSurface fresh hs.proxy])

/-- `printf`'s `%s`: the characters of the string before its first NUL, where `c_str()` of a
`std::string` ends. -/
def formatS (s : String) : String := ⟨s.data.takeWhile (· != Char.ofNat 0)⟩

/-- `APPLICATION_ID_FORMAT_PREFIX` with the VM id. -/
def applicationIdPrefix (vmId : String) : String := "org.chromium.guest_os." ++ formatS vmId

/-- `printf`'s `%d` of a 32-bit X id: its value as a signed `int`. -/
def formatD (n : Nat) : String :=
  toString (if n % 2 ^ 32 < 2 ^ 31 then (n % 2 ^ 32 : Int) else (n % 2 ^ 32 : Int) - 2 ^ 32)

/-- The application id of `sl_update_application_id` when no fixed one is configured: from the
window's app id property, else its `WM_CLASS`, else its client leader, else its own id. -/
def applicationIdOf (ctx : SlContext) (w : SlWindow) : String :=
  if w.props.appIdProperty ≠ "" then
    applicationIdPrefix ctx.vmId ++ ".xprop." ++ formatS w.props.appIdProperty
  else match w.props.clazz with
    | some c => applicationIdPrefix ctx.vmId ++ ".wmclass." ++ formatS c
    | none =>
      if w.props.clientLeader ≠ XCB_WINDOW_NONE then
        applicationIdPrefix ctx.vmId ++ ".wmclientleader." ++ formatD w.props.clientLeader
      else applicationIdPrefix ctx.vmId ++ ".xid." ++ formatD w.id

/-- `sl_update_application_id`: nothing without an aura surface; the configured application id if
there is one; otherwise, except for an unmanaged X11 window, the derived one. -/
def slUpdateApplicationId (ctx : SlContext) (w : SlWindow) : List Msg :=
  match w.auraSurface with
  | none => []
  | some a =>
    match ctx.applicationId with
    | some id => [.auraSetApplicationId a id]
    | none => if ctx.xwayland = false ∨ w.managed then [.auraSetApplicationId a (applicationIdOf ctx w)]
      else []

/-- The aura block of `sl_window_update` when the aura shell is bound at `version`: the aura
surface is created if absent (as object `fresh`), and gets its frame, frame colors, startup id,
application id and, from the version that has it, the fullscreen mode. -/
def auraBlock (X : Extern) (ctx : SlContext) (version : Nat) (hs : SlHostSurface) (fresh : Nat)
    (w : SlWindow) : Nat × SlWindow × List Msg :=
  let (fresh, a, created) := match w.auraSurface with
    | some a => (fresh, a, [])
    | none => (fresh + 1, fresh, [Msg.getAuraSurface fresh hs.proxy])
  let w := { w with auraSurface := some a }
  let frame := if w.props.decorated then ZAURA_SURFACE_FRAME_TYPE_NORMAL
    else if w.depth = 32 then ZAURA_SURFACE_FRAME_TYPE_NONE else ZAURA_SURFACE_FRAME_TYPE_SHADOW
  let color := if w.props.darkFrame then ctx.darkFrameColor else ctx.frameColor
  (fresh, w, created ++ [.auraSetFrame a frame, .auraSetFrameColors a color,
      .auraSetStartupId a w.props.startupId] ++ slUpdateApplicationId ctx w ++
    (if version ≥ X.fullscreenModeSinceVersion then [.auraSetFullscreenMode a ctx.fullscreenMode]
      else []))

/-- The `if (ctx->aura_shell)` block of `sl_window_update`. -/
def auraStage (X : Extern) (ctx : SlContext) (hs : SlHostSurface) (fresh : Nat) (w : SlWindow) :
    Nat × SlWindow × List Msg :=
  match ctx.auraShell with
  | some version => auraBlock X ctx version hs fresh w
  | none => (fresh, w, [])

/-- The window as `sl_window_update` reads it through a pointer: window `p` is `w`, its current
state, and every other window is the heap's. -/
def peek (heap : Nat → Option SlWindow) (p : Nat) (w : SlWindow) (q : Nat) : Option SlWindow :=
  if q = p then some w else heap q

/-- The toplevel branch of `sl_window_update`: the toplevel is created if absent (as object
`fresh`), and gets the parent's toplevel as parent, the title, the size limits in host
coordinates, and the maximized and fullscreen states. -/
def assignToplevel (X : Extern) (heap : Nat → Option SlWindow) (p : Nat) (parent : Option Nat)
    (sc : Option SurfaceScale) (fresh : Nat) (w : SlWindow) : Nat × SlWindow × List Msg :=
  let (fresh, t, created) := match w.xdgToplevel with
    | some t => (fresh, t, [])
    | none => (fresh + 1, fresh, [Msg.getToplevel fresh w.xdgSurface])
  let w := { w with xdgToplevel := some t }
  let link := match parent with
    | some q => [Msg.setParent t ((peek heap p w q).bind (·.xdgToplevel))]
    | none => []
  let title := (w.props.name.map (Msg.setTitle t)).toList
  let minSize := if w.props.sizeFlags &&& P_MIN_SIZE ≠ 0 then
      let (mw, mh) := X.guestToHost sc w.props.minWidth w.props.minHeight
      [Msg.setMinSize t mw mh]
    else []
  let maxSize := if w.props.sizeFlags &&& P_MAX_SIZE ≠ 0 then
      let (mw, mh) := X.guestToHost sc w.props.maxWidth w.props.maxHeight
      [Msg.setMaxSize t mw mh]
    else []
  (fresh, w, created ++ link ++ title ++ minSize ++ maxSize ++
    (if w.props.maximized then [Msg.setMaximized t] else []) ++
    (if w.props.fullscreen then [Msg.setFullscreen t] else []))

/-- The offset of window `w` from its parent `q`, in host coordinates. -/
def parentOffset (X : Extern) (heap : Nat → Option SlWindow) (p : Nat) (sc : Option SurfaceScale)
    (w : SlWindow) (q : Nat) : Int × Int :=
  match peek heap p w q with
  | some pw => X.guestToHost sc (w.x - pw.x) (w.y - pw.y)
  | none => X.guestToHost sc w.x w.y

/-- The role assignment of `sl_window_update`: with Xwayland or without a parent, the toplevel
branch; otherwise, when the window has no popup yet, a popup (object `fresh`) positioned at the
window's offset from its parent, relative to the parent's `xdg_surface`. -/
def assignRole (X : Extern) (ctx : SlContext) (heap : Nat → Option SlWindow) (p : Nat)
    (parent : Option Nat) (sc : Option SurfaceScale) (fresh : Nat) (w : SlWindow) :
    Nat × SlWindow × List Msg :=
  if ctx.xwayland ∨ parent.isNone then assignToplevel X heap p parent sc fresh w
  else match w.xdgPopup, parent with
    | none, some q =>
      let (dx, dy) := parentOffset X heap p sc w q
      (fresh + 1, { w with xdgPopup := some fresh },
        [.getPopup fresh w.xdgSurface ((peek heap p w q).bind (·.xdgSurface)) dx dy])
    | _, _ => (fresh, w, [])

/-- The aura parent of `sl_window_update`: a window with a position hint and a parent, when the
aura shell is bound, tells the aura surface its parent's aura surface and its offset from it. -/
def auraParent (X : Extern) (ctx : SlContext) (heap : Nat → Option SlWindow) (p : Nat)
    (parent : Option Nat) (sc : Option SurfaceScale) (w : SlWindow) : List Msg :=
  match parent, ctx.auraShell, w.auraSurface with
  | some q, some _, some a =>
    if w.props.sizeFlags &&& (US_POSITION ||| P_POSITION) ≠ 0 then
      let (dx, dy) := parentOffset X heap p sc w q
      [.auraSetParent a ((peek heap p w q).bind (·.auraSurface)) dx dy]
    else []
  | _, _, _ => []

/-! ## What each stage changes -/

/-- A window without its depth, its compositor-side handles and its paired surface: what the
stages after the pairing transition leave alone. -/
def SlWindow.core (w : SlWindow) : SlWindow :=
  { w with depth := 0, xdgSurface := none, xdgToplevel := none, xdgPopup := none,
           auraSurface := none, pairedSurface := none }

/-- Querying the depth changes only the window's depth. -/
theorem queryDepth_eq (depthReply : Nat → Option Nat) (w : SlWindow) :
    ∃ d, queryDepth depthReply w = { w with depth := d } := by
  unfold queryDepth
  split
  · split
    · exact ⟨_, rfl⟩
    · exact ⟨w.depth, rfl⟩
  · exact ⟨w.depth, rfl⟩

/-- Creating the `xdg_surface` sets it to the fresh object when the window has none. -/
theorem ensureXdgSurface_window (hs : SlHostSurface) (fresh : Nat) (w : SlWindow) :
    (ensureXdgSurface hs fresh w).2.1 = { w with xdgSurface := some (w.xdgSurface.getD fresh) } := by
  cases h : w.xdgSurface with
  | none => simp [ensureXdgSurface, h]
  | some d => simp only [ensureXdgSurface, h, Option.getD_some]; rw [← h]

/-- Creating the `xdg_surface` never lowers the fresh counter, and raises it when it creates one. -/
theorem ensureXdgSurface_fresh (hs : SlHostSurface) (fresh : Nat) (w : SlWindow) :
    fresh ≤ (ensureXdgSurface hs fresh w).1 ∧
      (w.xdgSurface = none → fresh < (ensureXdgSurface hs fresh w).1) := by
  cases h : w.xdgSurface <;> simp [ensureXdgSurface, h]

/-- Creating the `xdg_surface` sends only plain messages. -/
theorem ensureXdgSurface_plain (hs : SlHostSurface) (fresh : Nat) (w : SlWindow) :
    ∀ m ∈ (ensureXdgSurface hs fresh w).2.2, m.Plain := by
  cases h : w.xdgSurface with
  | none => simp only [ensureXdgSurface, h, List.forall_mem_singleton]; trivial
  | some => simp [ensureXdgSurface, h]

/-- The aura stage sets the aura surface to the fresh object when the aura shell is bound and
the window has none, and changes nothing else of the window. -/
theorem auraStage_window (X : Extern) (ctx : SlContext) (hs : SlHostSurface) (fresh : Nat)
    (w : SlWindow) : (auraStage X ctx hs fresh w).2.1 = { w with auraSurface :=
      (if ctx.auraShell.isSome then some (w.auraSurface.getD fresh) else w.auraSurface) } := by
  cases hv : ctx.auraShell with
  | none => simp [auraStage, hv]
  | some v =>
    cases ha : w.auraSurface with
    | none => simp [auraStage, auraBlock, hv, ha]
    | some a => simp only [auraStage, auraBlock, hv, ha, Option.isSome_some, if_true, Option.getD_some]

/-- The aura stage never lowers the fresh counter. -/
theorem auraStage_fresh (X : Extern) (ctx : SlContext) (hs : SlHostSurface) (fresh : Nat)
    (w : SlWindow) : fresh ≤ (auraStage X ctx hs fresh w).1 := by
  cases hv : ctx.auraShell with
  | none => simp [auraStage, hv]
  | some v => cases ha : w.auraSurface <;> simp [auraStage, auraBlock, hv, ha]

/-- `sl_update_application_id` sends only plain messages. -/
theorem slUpdateApplicationId_plain (ctx : SlContext) (w : SlWindow) :
    ∀ m ∈ slUpdateApplicationId ctx w, m.Plain := by
  unfold slUpdateApplicationId
  repeat' split
  all_goals simp <;> trivial

/-- The aura stage sends only plain messages. -/
theorem auraStage_plain (X : Extern) (ctx : SlContext) (hs : SlHostSurface) (fresh : Nat)
    (w : SlWindow) : ∀ m ∈ (auraStage X ctx hs fresh w).2.2, m.Plain := by
  cases hv : ctx.auraShell with
  | none => simp [auraStage, hv]
  | some v =>
    cases ha : w.auraSurface <;>
    · simp only [auraStage, auraBlock, hv, ha, List.forall_mem_append]
      refine ⟨⟨⟨?_, ?_⟩, slUpdateApplicationId_plain _ _⟩, ?_⟩ <;> (try split) <;> simp <;> trivial

/-- Giving the window its role sets the toplevel, when it has none, under Xwayland or with no
parent, and the popup otherwise. -/
theorem assignRole_window (X : Extern) (ctx : SlContext) (heap : Nat → Option SlWindow) (p : Nat)
    (parent : Option Nat) (sc : Option SurfaceScale) (fresh : Nat) (w : SlWindow) :
    (assignRole X ctx heap p parent sc fresh w).2.1 =
      if ctx.xwayland ∨ parent.isNone then { w with xdgToplevel := some (w.xdgToplevel.getD fresh) }
      else { w with xdgPopup := some (w.xdgPopup.getD fresh) } := by
  by_cases hc : ctx.xwayland ∨ parent.isNone
  · simp only [assignRole, assignToplevel, if_pos hc]
    cases h : w.xdgToplevel <;> simp [h]
  · simp only [assignRole, if_neg hc]
    obtain ⟨q, rfl⟩ : ∃ q, parent = some q :=
      Option.ne_none_iff_exists'.mp (by simpa using (not_or.mp hc).2)
    cases h : w.xdgPopup with
    | none => simp [h]
    | some pp => simp only [h, Option.getD_some]; rw [← h]

/-- The role stage keeps the window's core, `xdg_surface` and aura surface, leaves it with a role,
and on Xwayland never gives it a popup. -/
theorem assignRole_handles (X : Extern) (ctx : SlContext) (heap : Nat → Option SlWindow) (p : Nat)
    (parent : Option Nat) (sc : Option SurfaceScale) (fresh : Nat) (w : SlWindow) :
    (assignRole X ctx heap p parent sc fresh w).2.1.core = w.core ∧
      (assignRole X ctx heap p parent sc fresh w).2.1.xdgSurface = w.xdgSurface ∧
      (assignRole X ctx heap p parent sc fresh w).2.1.auraSurface = w.auraSurface ∧
      ((assignRole X ctx heap p parent sc fresh w).2.1.xdgToplevel.isSome ∨
        (assignRole X ctx heap p parent sc fresh w).2.1.xdgPopup.isSome) ∧
      (ctx.xwayland = true → (assignRole X ctx heap p parent sc fresh w).2.1.xdgPopup = w.xdgPopup) := by
  rw [assignRole_window]
  split
  · exact ⟨rfl, rfl, rfl, .inl rfl, fun _ => rfl⟩
  · rename_i hc
    exact ⟨rfl, rfl, rfl, .inr rfl, fun h => absurd (.inl h) hc⟩

/-- Giving the window its role never lowers the fresh counter. -/
theorem assignRole_fresh (X : Extern) (ctx : SlContext) (heap : Nat → Option SlWindow) (p : Nat)
    (parent : Option Nat) (sc : Option SurfaceScale) (fresh : Nat) (w : SlWindow) :
    fresh ≤ (assignRole X ctx heap p parent sc fresh w).1 := by
  by_cases hc : ctx.xwayland ∨ parent.isNone
  · simp only [assignRole, assignToplevel, if_pos hc]
    cases h : w.xdgToplevel <;> simp [h]
  · simp only [assignRole, if_neg hc]
    cases h : w.xdgPopup <;> cases parent <;> simp [h]

/-- Giving the window the toplevel role sends only plain messages. -/
theorem assignToplevel_plain (X : Extern) (heap : Nat → Option SlWindow) (p : Nat)
    (parent : Option Nat) (sc : Option SurfaceScale) (fresh : Nat) (w : SlWindow) :
    ∀ m ∈ (assignToplevel X heap p parent sc fresh w).2.2, m.Plain := by
  simp only [assignToplevel, List.forall_mem_append]
  refine ⟨⟨⟨⟨⟨⟨?_, ?_⟩, ?_⟩, ?_⟩, ?_⟩, ?_⟩, ?_⟩ <;> (try split) <;> simp <;> intros <;> trivial

/-- Giving the window its role sends only plain messages. -/
theorem assignRole_plain (X : Extern) (ctx : SlContext) (heap : Nat → Option SlWindow) (p : Nat)
    (parent : Option Nat) (sc : Option SurfaceScale) (fresh : Nat) (w : SlWindow) :
    ∀ m ∈ (assignRole X ctx heap p parent sc fresh w).2.2, m.Plain := by
  unfold assignRole
  split
  · exact assignToplevel_plain _ _ _ _ _ _ _
  · split
    · simp only [List.forall_mem_singleton]; trivial
    · simp

/-- Setting the aura surface's parent sends only plain messages. -/
theorem auraParent_plain (X : Extern) (ctx : SlContext) (heap : Nat → Option SlWindow) (p : Nat)
    (parent : Option Nat) (sc : Option SurfaceScale) (w : SlWindow) :
    ∀ m ∈ auraParent X ctx heap p parent sc w, m.Plain := by
  unfold auraParent
  split
  · split
    · simp only [List.forall_mem_singleton]; trivial
    · simp
  · simp

end Sommelier

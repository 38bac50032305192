import Mathlib.Algebra.Order.Ring.Int
import Mathlib.Algebra.Order.Ring.Nat
import Mathlib.Data.List.Forall2
import Mathlib.Data.List.Sort

/-!
# The data of `sommelier-window.cc`

The records that the window code of sommelier reads and writes: the configure buffer
`sl_config`, the host surface and its output, the window `sl_window`, and the part of
`sl_context` that the file uses. Pointers to windows and protocol objects are natural numbers;
a window's compositor-side handles (`xdg_surface`, `xdg_toplevel`, `xdg_popup`,
`aura_surface`) are `Option`s of the protocol object they name, `none` for `NULL`.

The wire is a list of `Msg`: the requests the file sends to the X server and to the compositor,
the `xdg_surface.configure` events it receives, and one ghost record, `Msg.pending`, that marks
where `sl_configure_window` makes a configure the one owed an acknowledgment. The acknowledgment
is recorded with the host surface that `sl_process_pending_configure_acks` was given, so that a
trace says which contents size each acknowledgment was checked against.
-/

namespace Sommelier

/-! ## Constants of the protocols -/

/-- `XCB_CONFIG_WINDOW_X` of xcb's `xproto.h`. -/
def XCB_CONFIG_WINDOW_X : Nat := 1
/-- `XCB_CONFIG_WINDOW_Y`. -/
def XCB_CONFIG_WINDOW_Y : Nat := 2
/-- `XCB_CONFIG_WINDOW_WIDTH`. -/
def XCB_CONFIG_WINDOW_WIDTH : Nat := 4
/-- `XCB_CONFIG_WINDOW_HEIGHT`. -/
def XCB_CONFIG_WINDOW_HEIGHT : Nat := 8
/-- `XCB_CONFIG_WINDOW_BORDER_WIDTH`. -/
def XCB_CONFIG_WINDOW_BORDER_WIDTH : Nat := 16

/-- `XCB_WINDOW_NONE`. -/
def XCB_WINDOW_NONE : Nat := 0

/-- The ICCCM `WM_SIZE_HINTS` flags of sommelier-window.h: `US_POSITION`. -/
def US_POSITION : Nat := 1
/-- `P_POSITION`. -/
def P_POSITION : Nat := 4
/-- `P_MIN_SIZE`. -/
def P_MIN_SIZE : Nat := 16
/-- `P_MAX_SIZE`. -/
def P_MAX_SIZE : Nat := 32

/-- `XDG_TOPLEVEL_STATE_MAXIMIZED` of the xdg-shell protocol. -/
def XDG_TOPLEVEL_STATE_MAXIMIZED : Nat := 1
/-- `XDG_TOPLEVEL_STATE_FULLSCREEN`. -/
def XDG_TOPLEVEL_STATE_FULLSCREEN : Nat := 2
/-- `XDG_TOPLEVEL_STATE_RESIZING`. -/
def XDG_TOPLEVEL_STATE_RESIZING : Nat := 3
/-- `XDG_TOPLEVEL_STATE_ACTIVATED`. -/
def XDG_TOPLEVEL_STATE_ACTIVATED : Nat := 4

/-- `ZAURA_SURFACE_FRAME_TYPE_NONE` of the aura-shell protocol. -/
def ZAURA_SURFACE_FRAME_TYPE_NONE : Nat := 0
/-- `ZAURA_SURFACE_FRAME_TYPE_NORMAL`. -/
def ZAURA_SURFACE_FRAME_TYPE_NORMAL : Nat := 1
/-- `ZAURA_SURFACE_FRAME_TYPE_SHADOW`. -/
def ZAURA_SURFACE_FRAME_TYPE_SHADOW : Nat := 2

/-- A C `uint32_t` conversion of an `int`. -/
def u32 (z : Int) : Nat := (z % 2 ^ 32).toNat

/-- A C `uint16_t` cast. -/
def u16 (z : Int) : Nat := (z % 2 ^ 16).toNat

/-- A C `int16_t` cast. -/
def i16 (z : Int) : Int := (z + 2 ^ 15) % 2 ^ 16 - 2 ^ 15

/-- The atoms that the file sends, interned at start-up: `ctx->atoms[...]`. -/
structure Atoms where
  netWmState : Nat
  netWmStateFullscreen : Nat
  netWmStateMaximizedVert : Nat
  netWmStateMaximizedHorz : Nat
  netWmStateFocused : Nat
  wmProtocols : Nat
  wmDeleteWindow : Nat
  /-- An interned atom is never `XCB_ATOM_NONE`, so the state atoms are nonzero. -/
  states_ne_zero : netWmStateFullscreen ≠ 0 ∧ netWmStateMaximizedVert ≠ 0 ∧
    netWmStateMaximizedHorz ≠ 0 ∧ netWmStateFocused ≠ 0
deriving DecidableEq, Repr

/-! ## Records -/

/-- `struct sl_config`: a configure buffer. `values` are the positional geometry values of
`mask`, and the first `statesLength` of `states` the `_NET_WM_STATE` atoms. -/
structure SlConfig where
  serial : Nat
  mask : Nat
  values : List Int
  statesLength : Nat
  states : List Nat
deriving DecidableEq, Repr

/-- Modelled from the spec: the default value of a configure buffer in sommelier-window.h, which
is not in src/. A new buffer is zeroed: serial `0`, an empty mask, no states, and five values and
three state atoms of `0`. -/
def SlConfig.empty : SlConfig := ⟨0, 0, [0, 0, 0, 0, 0], 0, [0, 0, 0]⟩

/-- The fields of `struct sl_host_output` that the file reads. -/
structure SlOutput where
  virtX : Int
  virtY : Int
  width : Int
  height : Int
deriving DecidableEq, Repr

/-- The scale state that sommelier-transform.cc keeps in a host surface: whether the surface has
a scale of its own, the logical size it cached, and the rest of the transform's state, which this
file does not read. -/
structure SurfaceScale where
  hasOwnScale : Bool
  cachedLogicalWidth : Int
  cachedLogicalHeight : Int
  factor : Nat
deriving DecidableEq, Repr

/-- The fields of `struct sl_host_surface` that the file reads: the `wl_surface` proxy it wraps,
the size of its last committed contents, the serial of its last input event, its scale state and
its output. -/
structure SlHostSurface where
  proxy : Nat
  contentsWidth : Nat
  contentsHeight : Nat
  lastEventSerial : Nat
  scale : SurfaceScale
  output : Option SlOutput
deriving DecidableEq, Repr

/-- The properties of a window that sommelier.cc reads from the X server (`WM_TRANSIENT_FOR`,
`WM_NORMAL_HINTS`, `WM_NAME`, `WM_CLASS`, ...) and stores in `struct sl_window`. -/
structure Props where
  frameId : Nat
  transientFor : Nat
  clientLeader : Nat
  sizeFlags : Nat
  minWidth : Int
  minHeight : Int
  maxWidth : Int
  maxHeight : Int
  name : Option String
  clazz : Option String
  startupId : Option String
  appIdProperty : String
  decorated : Bool
  darkFrame : Bool
  maximized : Bool
  fullscreen : Bool
deriving DecidableEq, Repr

/-- `struct sl_window`, with the fields that the file reads or writes. `pairedSurface` is the id
of the host surface resource that `paired_surface` points to. -/
structure SlWindow where
  id : Nat
  hostSurfaceId : Nat
  unpaired : Bool
  x : Int
  y : Int
  width : Int
  height : Int
  borderWidth : Int
  depth : Nat
  managed : Bool
  realized : Bool
  activated : Bool
  compositorFullscreen : Bool
  allowResize : Bool
  props : Props
  nextConfig : SlConfig
  pendingConfig : SlConfig
  xdgSurface : Option Nat
  xdgToplevel : Option Nat
  xdgPopup : Option Nat
  auraSurface : Option Nat
  pairedSurface : Option Nat
deriving DecidableEq, Repr

/-- The window geometry `x, y, width, height, border_width`. -/
structure Geometry where
  x : Int
  y : Int
  width : Int
  height : Int
  borderWidth : Int
deriving DecidableEq, Repr

/-- The geometry of a window. -/
def SlWindow.geometry (w : SlWindow) : Geometry := ⟨w.x, w.y, w.width, w.height, w.borderWidth⟩

/-- Modelled from the spec: the members of a new `struct sl_window` that its constructor leaves to
the defaults of sommelier-window.h, which is not in src/. A new window is unpaired (§3, Lifecycle),
has no host surface id and no compositor-side handles, is neither realized nor activated, its depth
is not yet known, and both configure buffers are empty. `managed` and the X properties are those
that sommelier.cc gives the window before its first update. -/
def SlWindow.blank (managed : Bool) (props : Props) : SlWindow where
  id := 0
  hostSurfaceId := 0
  unpaired := true
  x := 0
  y := 0
  width := 0
  height := 0
  borderWidth := 0
  depth := 0
  managed := managed
  realized := false
  activated := false
  compositorFullscreen := false
  allowResize := true
  props := props
  nextConfig := SlConfig.empty
  pendingConfig := SlConfig.empty
  xdgSurface := none
  xdgToplevel := none
  xdgPopup := none
  auraSurface := none
  pairedSurface := none

/-- `sl_window::sl_window`: the window's id and geometry over the defaults of `SlWindow.blank`. -/
def SlWindow.new (id : Nat) (x y width height borderWidth : Int) (managed : Bool)
    (props : Props) : SlWindow :=
  { SlWindow.blank managed props with id, x, y, width, height, borderWidth }

/-- The part of `struct sl_context` that the file uses. `windows` and `unpairedWindows` are the
two `wl_list`s of windows, head first; `auraShell` is the bound aura shell's version, `none` when
it is not bound. -/
structure SlContext where
  windows : List Nat
  unpairedWindows : List Nat
  hostFocusWindow : Option Nat
  needsSetInputFocus : Bool
  xwayland : Bool
  auraShell : Option Nat
  applicationId : Option String
  vmId : String
  screenWidthInPixels : Nat
  screenHeightInPixels : Nat
  frameColor : Nat
  darkFrameColor : Nat
  fullscreenMode : Nat
  atoms : Atoms
deriving DecidableEq, Repr

/-- What the file takes from outside it: the `COMMIT_LOOP_FIX` build flag, the geometry transform
of sommelier-transform.cc (`sl_transform_try_window_scale`, `sl_transform_host_to_guest`,
`sl_transform_guest_to_host`, on a host surface's scale state or on none), and
`ZAURA_SURFACE_SET_FULLSCREEN_MODE_SINCE_VERSION` of the aura-shell protocol. -/
structure Extern where
  commitLoopFix : Bool
  tryWindowScale : SurfaceScale → Int → Int → SurfaceScale
  hostToGuest : Option SurfaceScale → Int → Int → Int × Int
  guestToHost : Option SurfaceScale → Int → Int → Int × Int
  fullscreenModeSinceVersion : Nat

/-! ## The wire -/

/-- A message of the file: a request to the X server or to the compositor, an event from the
compositor, or one of the ghost records `pending` and `overrun`. -/
inductive Msg where
  /-- `xcb_configure_window(connection, window, mask, values)`. -/
  | configureWindow (window mask : Nat) (values : List Int)
  /-- `sl_send_configure_notify`: a synthetic `ConfigureNotify` event with the window's geometry,
  cast to the event's 16-bit fields. -/
  | configureNotify (window : Nat) (x y : Int) (width height borderWidth : Nat)
  /-- `xcb_change_property` of `_NET_WM_STATE` with the atoms of a state list. -/
  | changeNetWmState (window : Nat) (states : List Nat)
  /-- The `WM_PROTOCOLS` client message with `WM_DELETE_WINDOW` of `sl_internal_xdg_toplevel_close`. -/
  | deleteWindow (window type protocol : Nat)
  /-- The compositor's `xdg_surface.configure` event with its serial. -/
  | configure (xdgSurface serial : Nat)
  /-- `xdg_surface_ack_configure(xdg_surface, serial)`, recorded with the host surface that
  `sl_process_pending_configure_acks` was given. -/
  | ackConfigure (xdgSurface serial : Nat) (host : Option SlHostSurface)
  /-- Ghost: `sl_configure_window` has made `serial` the pending serial, leaving the window at
  geometry `g`. -/
  | pending (serial : Nat) (g : Geometry)
  /-- Ghost: the states loop of `sl_internal_xdg_toplevel_configure` wrote the atoms `words` past
  the end of `next_config.states`, over `pending_config`. -/
  | overrun (words : List Nat)
  /-- `wl_surface_commit`. -/
  | surfaceCommit (surface : Nat)
  /-- `xdg_wm_base_get_xdg_surface`, creating object `id`. -/
  | getXdgSurface (id surface : Nat)
  /-- `xdg_surface_get_toplevel`, creating object `id`. -/
  | getToplevel (id : Nat) (xdgSurface : Option Nat)
  /-- `xdg_surface_get_popup`, creating object `id`, with a positioner anchored top left, of
  gravity bottom right, and a 1×1 anchor rectangle at `(anchorX, anchorY)`. -/
  | getPopup (id : Nat) (xdgSurface parent : Option Nat) (anchorX anchorY : Int)
  /-- `xdg_toplevel_set_parent`. -/
  | setParent (toplevel : Nat) (parent : Option Nat)
  /-- `xdg_toplevel_set_title`. -/
  | setTitle (toplevel : Nat) (title : String)
  /-- `xdg_toplevel_set_min_size`. -/
  | setMinSize (toplevel : Nat) (width height : Int)
  /-- `xdg_toplevel_set_max_size`. -/
  | setMaxSize (toplevel : Nat) (width height : Int)
  /-- `xdg_toplevel_set_maximized`. -/
  | setMaximized (toplevel : Nat)
  /-- `xdg_toplevel_set_fullscreen` on no output. -/
  | setFullscreen (toplevel : Nat)
  /-- `zaura_shell_get_aura_surface`, creating object `id`. -/
  | getAuraSurface (id surface : Nat)
  /-- `zaura_surface_set_frame`. -/
  | auraSetFrame (aura type : Nat)
  /-- `zaura_surface_set_frame_colors` with the same active and inactive color. -/
  | auraSetFrameColors (aura color : Nat)
  /-- `zaura_surface_set_startup_id`. -/
  | auraSetStartupId (aura : Nat) (startupId : Option String)
  /-- `zaura_surface_set_application_id`. -/
  | auraSetApplicationId (aura : Nat) (applicationId : String)
  /-- `zaura_surface_set_fullscreen_mode`. -/
  | auraSetFullscreenMode (aura mode : Nat)
  /-- `zaura_surface_set_parent`. -/
  | auraSetParent (aura : Nat) (parent : Option Nat) (x y : Int)
  /-- `zaura_surface_destroy`. -/
  | auraDestroy (aura : Nat)
  /-- `xdg_toplevel_destroy`. -/
  | toplevelDestroy (toplevel : Nat)
  /-- `xdg_popup_destroy`. -/
  | popupDestroy (popup : Nat)
  /-- `xdg_surface_destroy`. -/
  | xdgSurfaceDestroy (xdgSurface : Nat)
deriving DecidableEq, Repr

/-- A message other than an acknowledgment, a configure event, or a ghost record. -/
def Msg.Plain : Msg → Prop
  | .ackConfigure .. | .configure .. | .pending .. | .overrun .. => False
  | _ => True

/-- A message that is neither an acknowledgment nor a ghost record. -/
def Msg.Quiet : Msg → Prop
  | .ackConfigure .. | .pending .. | .overrun .. => False
  | _ => True

/-- A plain message is quiet. -/
theorem Msg.Plain.quiet {m : Msg} (h : m.Plain) : m.Quiet := by
  cases m <;> simp_all [Msg.Plain, Msg.Quiet]

/-! ## Sample values

Small concrete values that the examples and the witnesses of the development run on. -/

/-- A window with no X properties set. -/
def Props.unset : Props :=
  ⟨0, 0, 0, 0, 0, 0, 0, 0, none, none, none, "", false, false, false, false⟩

/-- A context with no aura shell and a 100 × 100 screen, on Xwayland or not. -/
def SlContext.sample (xwayland : Bool) : SlContext :=
  ⟨[], [], none, false, xwayland, none, none, "vm", 100, 100, 0, 0, 0, ⟨10, 11, 12, 13, 14, 15, 16, by decide⟩⟩

/-- A host surface with contents of `width × height` pixels, a last event serial, scale 1 and no
output. -/
def SlHostSurface.sample (proxy width height lastEventSerial : Nat) : SlHostSurface :=
  ⟨proxy, width, height, lastEventSerial, ⟨false, 0, 0, 0⟩, none⟩

/-- A host surface with contents of `width × height` pixels, scale factor `factor`, and output
`o`. -/
def SlHostSurface.sampleOn (proxy width height factor : Nat) (o : SlOutput) : SlHostSurface :=
  ⟨proxy, width, height, 0, ⟨false, 0, 0, factor⟩, some o⟩

/-- The transform of a client at scale 1: it never rescales and keeps every size. -/
def Extern.unscaled (commitLoopFix : Bool) : Extern :=
  ⟨commitLoopFix, fun s _ _ => s, fun _ w h => (w, h), fun _ w h => (w, h), 0⟩

/-- The transform of a client whose surfaces scale by their `factor`: a logical size is `factor`
times as many pixels, and a surface with no scale state keeps its size. -/
def Extern.byFactor (commitLoopFix : Bool) : Extern :=
  ⟨commitLoopFix, fun s _ _ => s,
    fun sc w h => (((sc.map (·.factor)).getD 1 : Int) * w, ((sc.map (·.factor)).getD 1 : Int) * h),
    fun sc w h => (w.tdiv ((sc.map (·.factor)).getD 1), h.tdiv ((sc.map (·.factor)).getD 1)), 0⟩

end Sommelier

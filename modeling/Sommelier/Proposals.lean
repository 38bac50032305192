import Sommelier.Acks

/-!
# Size proposals

`sl_internal_xdg_toplevel_configure` does not resize a managed window: it writes a proposal into
`next_config`, the window's size in pixels and, when the window has no position hint, an origin
that centres it on its output or on the screen (`toplevel_configure_centres`). On the screen each
of the two terms is halved on its own, which places a window of odd width on an even screen one
pixel right of the output's formula with the screen as the output (`screen_centring_off_by_one`).
The proposal takes
effect only when `sl_configure_window` applies `next_config`, on a later `xdg_surface.configure`,
commit or window update. A ghost map follows the proposal each window holds along a run
(`Traced`): a sized toplevel configure records one, an application of `sl_configure_window`
clears it. The invariant `ProposalInv` says that `next_config` encodes the recorded proposal, so
every geometry the engine installs is the latest proposal applied to the window's geometry
(`configure_installs_latest_proposal`).
-/

namespace Sommelier

/-! ## The proposal of a toplevel configure -/

/-- A size proposal of `sl_internal_xdg_toplevel_configure`: the origin, when the window has no
position hint, and the size in pixels. -/
structure Proposal where
  origin : Option (Int × Int)
  width : Int
  height : Int
deriving DecidableEq, Repr

/-- The geometry a proposal asks for, from geometry `g`: its size with no border, and its origin
when it has one; with no proposal, `g` itself. -/
def Proposal.install : Option Proposal → Geometry → Geometry
  | none, g => g
  | some pr, g => ⟨(pr.origin.map (·.1)).getD g.x, (pr.origin.map (·.2)).getD g.y, pr.width,
      pr.height, 0⟩

/-- The proposal of a sized `xdg_toplevel.configure` on a managed window: the size converted to
pixels with the paired surface's scale after any rescale, and, when the window has no position
hint, the origin it computes to centre the window. -/
def proposalOf (X : Extern) (ctx : SlContext) (w : SlWindow) (paired : Option SlHostSurface)
    (width height : Int) : Proposal :=
  let (wp, hp) := X.hostToGuest (rescaledSurface X w paired width height) width height
  ⟨if w.props.sizeFlags &&& (US_POSITION ||| P_POSITION) ≠ 0 then none
    else some (centredOrigin ctx (paired.bind (·.output)) wp hp), wp, hp⟩

/-- With the size and border bits, `sl_configure_window` reads the width, height and border from
the first three values and keeps the position. -/
theorem configuredGeometry_sized (c : SlConfig) (g : Geometry)
    (hm : c.mask = XCB_CONFIG_WINDOW_WIDTH ||| XCB_CONFIG_WINDOW_HEIGHT |||
      XCB_CONFIG_WINDOW_BORDER_WIDTH) :
    configuredGeometry c g = ⟨g.x, g.y, c.values.getD 0 0, c.values.getD 1 0, c.values.getD 2 0⟩ := by
  unfold configuredGeometry readValue
  rw [hm]
  rfl

/-- With the position bits as well, it reads the five values in the order x, y, width, height,
border width. -/
theorem configuredGeometry_placed (c : SlConfig) (g : Geometry)
    (hm : c.mask = XCB_CONFIG_WINDOW_WIDTH ||| XCB_CONFIG_WINDOW_HEIGHT |||
      XCB_CONFIG_WINDOW_BORDER_WIDTH ||| XCB_CONFIG_WINDOW_X ||| XCB_CONFIG_WINDOW_Y) :
    configuredGeometry c g = ⟨c.values.getD 0 0, c.values.getD 1 0, c.values.getD 2 0,
      c.values.getD 3 0, c.values.getD 4 0⟩ := by
  unfold configuredGeometry readValue
  rw [hm]
  rfl

/-- `sl_configure_window` reads back what a sized toplevel configure writes into `next_config`:
the proposal, and nothing of what the buffer held before. -/
theorem proposeSize_geometry (X : Extern) (ctx : SlContext) (w : SlWindow)
    (paired : Option SlHostSurface) (width height : Int) :
    configuredGeometry (proposeSize X ctx w paired width height).1.nextConfig =
      Proposal.install (some (proposalOf X ctx w paired width height)) := by
  funext g
  unfold proposalOf proposeSize
  dsimp only
  split_ifs
  · rw [configuredGeometry_sized _ _ rfl]
    rfl
  · rw [configuredGeometry_placed _ _ rfl]
    rfl

/-- `sl_configure_window` reads only the mask and the values of a configure. -/
theorem configuredGeometry_congr {c c' : SlConfig} (hm : c.mask = c'.mask)
    (hv : c.values = c'.values) : configuredGeometry c = configuredGeometry c' := by
  unfold configuredGeometry readValue
  rw [hm, hv]

/-- A configure with an empty mask asks for nothing. -/
theorem configuredGeometry_of_mask {c : SlConfig} (hm : c.mask = 0) : configuredGeometry c = id := by
  funext g
  unfold configuredGeometry readValue
  simp [hm]

/-- The geometry the engine installs is the one `next_config` asks for. -/
theorem installedGeometry_eq (w : SlWindow) :
    installedGeometry w = configuredGeometry w.nextConfig w.geometry := by
  unfold installedGeometry
  split
  · rename_i hm
    rw [configuredGeometry_of_mask hm]
    rfl
  · rfl

/-- What the toplevel listener leaves `next_config` asking for: the proposal of a sized configure
on a managed window, and what it asked for before otherwise. -/
theorem slInternalXdgToplevelConfigure_proposal (X : Extern) (ctx : SlContext) (p : Nat)
    (w : SlWindow) (paired : Option SlHostSurface) (width height : Int) (states : List Nat) :
    configuredGeometry (slInternalXdgToplevelConfigure X ctx p w paired width height states).2.1.nextConfig =
      if w.managed = true ∧ width ≠ 0 ∧ height ≠ 0 then
        Proposal.install (some (proposalOf X ctx w paired width height))
      else configuredGeometry w.nextConfig := by
  cases hm : w.managed
  · rw [slInternalXdgToplevelConfigure_unmanaged X ctx p paired width height states hm]
    simp
  · have hm' : ¬w.managed = false := by simp [hm]
    simp only [slInternalXdgToplevelConfigure, if_neg hm', updateFocus_window, true_and]
    split
    · exact (configuredGeometry_congr rfl rfl).trans (proposeSize_geometry ..)
    · exact configuredGeometry_congr rfl rfl

/-- Centring: on a managed window with no position hint, a sized toplevel configure queues, and
`sl_configure_window` installs, the pixel size that the transform gives the paired surface after
its rescale, with no border, and an origin for it: in the paired surface's output,
`virt_x + (width - w) / 2`; without an output, `width_in_pixels / 2 - w / 2` on the screen, each
term halved on its own; both with C division, and the same for `y`. -/
theorem toplevel_configure_centres (X : Extern) (ctx : SlContext) (p : Nat) (w : SlWindow)
    (paired : Option SlHostSurface) (width height : Int) (states : List Nat) (g : Geometry)
    (hm : w.managed = true) (hsize : width ≠ 0 ∧ height ≠ 0)
    (hpos : w.props.sizeFlags &&& (US_POSITION ||| P_POSITION) = 0) :
    let n := configuredGeometry
      (slInternalXdgToplevelConfigure X ctx p w paired width height states).2.1.nextConfig g
    let size := X.hostToGuest (rescaledSurface X w paired width height) width height
    n.width = size.1 ∧ n.height = size.2 ∧ n.borderWidth = 0 ∧
    (∀ o, paired.bind (·.output) = some o →
      n.x = o.virtX + (o.width - size.1).tdiv 2 ∧ n.y = o.virtY + (o.height - size.2).tdiv 2) ∧
    (paired.bind (·.output) = none →
      n.x = (ctx.screenWidthInPixels : Int).tdiv 2 - size.1.tdiv 2 ∧
        n.y = (ctx.screenHeightInPixels : Int).tdiv 2 - size.2.tdiv 2) := by
  intro n size
  have hn : n = Proposal.install (some (proposalOf X ctx w paired width height)) g := by
    show configuredGeometry _ g = _
    rw [slInternalXdgToplevelConfigure_proposal, if_pos ⟨hm, hsize⟩]
  rw [hn]
  unfold proposalOf
  simp only [hpos, ne_eq, not_true_eq_false, if_false, Proposal.install, Option.map_some',
    Option.getD_some]
  refine ⟨trivial, trivial, trivial, fun o ho => ?_, fun ho => ?_⟩ <;> simp [centredOrigin, ho]

/-- A managed window with no position hint, paired with a surface of scale factor 2 on a
200 × 100 output at `(10, 20)`, is proposed 30 × 20: it is given 60 × 40 pixels at `(80, 50)`. -/
theorem toplevel_configure_centres_output :
    (SlWindow.blank true Props.unset).managed = true ∧ ((30 : Int) ≠ 0 ∧ (20 : Int) ≠ 0) ∧
      (SlWindow.blank true Props.unset).props.sizeFlags &&& (US_POSITION ||| P_POSITION) = 0 ∧
    let paired := some (SlHostSurface.sampleOn 50 10 10 2 ⟨10, 20, 200, 100⟩)
    let n := configuredGeometry (slInternalXdgToplevelConfigure (Extern.byFactor false)
      (SlContext.sample false) 0 (SlWindow.blank true Props.unset) paired 30 20 []).2.1.nextConfig
      ⟨0, 0, 0, 0, 0⟩
    let size := (Extern.byFactor false).hostToGuest
      (rescaledSurface (Extern.byFactor false) (SlWindow.blank true Props.unset) paired 30 20) 30 20
    (n.width, n.height, n.x, n.y) = (60, 40, 80, 50) ∧
    n.width = size.1 ∧ n.height = size.2 ∧ n.borderWidth = 0 ∧
    (∀ o, paired.bind (·.output) = some o →
      n.x = o.virtX + (o.width - size.1).tdiv 2 ∧ n.y = o.virtY + (o.height - size.2).tdiv 2) ∧
    (paired.bind (·.output) = none →
      n.x = ((SlContext.sample false).screenWidthInPixels : Int).tdiv 2 - size.1.tdiv 2 ∧
        n.y = ((SlContext.sample false).screenHeightInPixels : Int).tdiv 2 - size.2.tdiv 2) :=
  ⟨rfl, by decide, rfl, by decide,
    toplevel_configure_centres (Extern.byFactor false) (SlContext.sample false) 0
      (SlWindow.blank true Props.unset) _ 30 20 [] ⟨0, 0, 0, 0, 0⟩ rfl (by decide) rfl⟩

/-- On the screen, halving the screen and the size on their own gives, for a size within the
screen, the centred origin `(S - w) / 2`, and one more when the screen is even and the size odd. -/
theorem centredOrigin_screen (ctx : SlContext) (wp hp : Int)
    (hw : 0 ≤ wp ∧ wp ≤ ctx.screenWidthInPixels) (hh : 0 ≤ hp ∧ hp ≤ ctx.screenHeightInPixels) :
    centredOrigin ctx none wp hp =
      (((ctx.screenWidthInPixels : Int) - wp).tdiv 2 +
          if (ctx.screenWidthInPixels : Int) % 2 = 0 ∧ wp % 2 = 1 then 1 else 0,
        ((ctx.screenHeightInPixels : Int) - hp).tdiv 2 +
          if (ctx.screenHeightInPixels : Int) % 2 = 0 ∧ hp % 2 = 1 then 1 else 0) := by
  simp only [centredOrigin, Prod.mk.injEq]
  rw [Int.tdiv_eq_ediv (by omega) (by decide), Int.tdiv_eq_ediv hw.1 (by decide),
    Int.tdiv_eq_ediv (by omega) (by decide), Int.tdiv_eq_ediv (by omega) (by decide),
    Int.tdiv_eq_ediv hh.1 (by decide), Int.tdiv_eq_ediv (by omega) (by decide)]
  constructor <;> split_ifs <;> omega

/-- On a managed window with no position hint and no output, a sized toplevel configure whose pixel
size fits the screen queues the origin `(S - w) / 2` of the output branch, with the screen as the
output, except that it is one pixel further right and down along each axis where the screen is
even and the window's size odd. -/
theorem screen_centring_off_by_one (X : Extern) (ctx : SlContext) (p : Nat) (w : SlWindow)
    (paired : Option SlHostSurface) (width height : Int) (states : List Nat) (g : Geometry)
    (hm : w.managed = true) (hsize : width ≠ 0 ∧ height ≠ 0)
    (hpos : w.props.sizeFlags &&& (US_POSITION ||| P_POSITION) = 0)
    (hout : paired.bind (·.output) = none)
    (hw : 0 ≤ (X.hostToGuest (rescaledSurface X w paired width height) width height).1 ∧
      (X.hostToGuest (rescaledSurface X w paired width height) width height).1 ≤
        ctx.screenWidthInPixels)
    (hh : 0 ≤ (X.hostToGuest (rescaledSurface X w paired width height) width height).2 ∧
      (X.hostToGuest (rescaledSurface X w paired width height) width height).2 ≤
        ctx.screenHeightInPixels) :
    let n := configuredGeometry
      (slInternalXdgToplevelConfigure X ctx p w paired width height states).2.1.nextConfig g
    n.x = ((ctx.screenWidthInPixels : Int) - n.width).tdiv 2 +
        (if (ctx.screenWidthInPixels : Int) % 2 = 0 ∧ n.width % 2 = 1 then 1 else 0) ∧
      n.y = ((ctx.screenHeightInPixels : Int) - n.height).tdiv 2 +
        (if (ctx.screenHeightInPixels : Int) % 2 = 0 ∧ n.height % 2 = 1 then 1 else 0) := by
  intro n
  obtain ⟨hwidth, hheight, -, -, hscreen⟩ :=
    toplevel_configure_centres X ctx p w paired width height states g hm hsize hpos
  have hc := centredOrigin_screen ctx _ _ hw hh
  simp only [centredOrigin, Prod.mk.injEq] at hc
  rw [(hscreen hout).1, (hscreen hout).2, hwidth, hheight]
  exact hc

/-- A 1 × 1 proposal to a managed window with no position hint on a 100-pixel-wide screen:
the code places it at `x = 50`, one past the centre `49` of `(100 - 1) / 2`. -/
theorem screen_centring_off_by_one_sample :
    (SlWindow.blank true Props.unset).managed = true ∧ ((1 : Int) ≠ 0 ∧ (1 : Int) ≠ 0) ∧
      (SlWindow.blank true Props.unset).props.sizeFlags &&& (US_POSITION ||| P_POSITION) = 0 ∧
      (none : Option SlHostSurface).bind (·.output) = none ∧
    let size := (Extern.unscaled false).hostToGuest
      (rescaledSurface (Extern.unscaled false) (SlWindow.blank true Props.unset) none 1 1) 1 1
    (0 ≤ size.1 ∧ size.1 ≤ (SlContext.sample false).screenWidthInPixels) ∧
      (0 ≤ size.2 ∧ size.2 ≤ (SlContext.sample false).screenHeightInPixels) ∧
    let n := configuredGeometry (slInternalXdgToplevelConfigure (Extern.unscaled false)
      (SlContext.sample false) 0 (SlWindow.blank true Props.unset) none 1 1 []).2.1.nextConfig
      ⟨0, 0, 0, 0, 0⟩
    (n.width, n.x, ((SlContext.sample false).screenWidthInPixels - n.width).tdiv 2) = (1, 50, 49) ∧
    n.x = (((SlContext.sample false).screenWidthInPixels : Int) - n.width).tdiv 2 +
        (if ((SlContext.sample false).screenWidthInPixels : Int) % 2 = 0 ∧ n.width % 2 = 1
          then 1 else 0) ∧
      n.y = (((SlContext.sample false).screenHeightInPixels : Int) - n.height).tdiv 2 +
        (if ((SlContext.sample false).screenHeightInPixels : Int) % 2 = 0 ∧ n.height % 2 = 1
          then 1 else 0) :=
  ⟨rfl, by decide, rfl, rfl, by decide, by decide, by decide,
    screen_centring_off_by_one (Extern.unscaled false) (SlContext.sample false) 0
      (SlWindow.blank true Props.unset) none 1 1 [] ⟨0, 0, 0, 0, 0⟩ rfl (by decide) rfl rfl
      (by decide) (by decide)⟩

/-! ## What the configure engine does with a proposal -/

/-- Whether a message is a ghost record of `sl_configure_window`. -/
def Msg.isPending : Msg → Bool
  | .pending .. => true
  | _ => false

/-- A plain message is no ghost record. -/
theorem Msg.Plain.isPending {m : Msg} (h : m.Plain) : m.isPending = false := by
  cases m <;> first | rfl | exact h.elim

/-- What the configure engine does with window `w`'s `next_config`, leaving `w'` and sending
`sent`: when it applies it (it sends a ghost record), every record it sends and the window it
leaves have the geometry `next_config` asks for, which then asks for nothing; otherwise the window
keeps its geometry and what `next_config` asks for. -/
def Consumes (w w' : SlWindow) (sent : List Msg) : Prop :=
  if sent.any Msg.isPending then
    (∀ s g, Msg.pending s g ∈ sent → g = configuredGeometry w.nextConfig w.geometry) ∧
      w'.geometry = configuredGeometry w.nextConfig w.geometry ∧ configuredGeometry w'.nextConfig = id
  else w'.geometry = w.geometry ∧ configuredGeometry w'.nextConfig = configuredGeometry w.nextConfig

/-- A step that sends no ghost record and keeps the geometry and the request consumes nothing. -/
theorem Consumes.of_eq {w w' : SlWindow} {sent : List Msg} (hs : sent.any Msg.isPending = false)
    (hg : w'.geometry = w.geometry) (hc : configuredGeometry w'.nextConfig = configuredGeometry w.nextConfig) :
    Consumes w w' sent := by
  rw [Consumes, hs]
  exact ⟨hg, hc⟩

/-- A list with a ghost record in it has a ghost record. -/
theorem any_isPending_of_mem {sent : List Msg} {s : Nat} {g : Geometry}
    (h : Msg.pending s g ∈ sent) : sent.any Msg.isPending = true :=
  List.any_eq_true.mpr ⟨_, h, rfl⟩

/-- The engine on `w₁` after the engine on `w` is the engine on `w`. -/
theorem Consumes.trans {w w₁ w₂ : SlWindow} {s₁ s₂ : List Msg} (h₁ : Consumes w w₁ s₁)
    (h₂ : Consumes w₁ w₂ s₂) : Consumes w w₂ (s₁ ++ s₂) := by
  unfold Consumes at h₁ h₂ ⊢
  rw [List.any_append]
  cases ha₁ : s₁.any Msg.isPending <;> cases ha₂ : s₂.any Msg.isPending <;>
    simp only [ha₁, ha₂, if_true, if_false, Bool.false_eq_true, Bool.or_false, Bool.or_true,
      Bool.false_or] at h₁ h₂ ⊢
  · exact ⟨h₂.1.trans h₁.1, h₂.2.trans h₁.2⟩
  · obtain ⟨hi, hg, hc⟩ := h₂
    rw [h₁.1, h₁.2] at hi hg
    refine ⟨fun s g hm => ?_, hg, hc⟩
    rcases List.mem_append.mp hm with hm | hm
    · exact absurd (any_isPending_of_mem hm) (by rw [ha₁]; decide)
    · exact hi s g hm
  · obtain ⟨hi, hg, hc⟩ := h₁
    refine ⟨fun s g hm => ?_, h₂.1.trans hg, h₂.2.trans hc⟩
    rcases List.mem_append.mp hm with hm | hm
    · exact hi s g hm
    · exact absurd (any_isPending_of_mem hm) (by rw [ha₂]; decide)
  · obtain ⟨hi, hg, hc⟩ := h₁
    obtain ⟨hi₂, hg₂, hc₂⟩ := h₂
    rw [hc, hg] at hi₂ hg₂
    exact ⟨fun s g hm => (List.mem_append.mp hm).elim (hi s g) (hi₂ s g), hg₂, hc₂⟩

/-- The engine reads of `w` only its geometry and what `next_config` asks for. -/
theorem Consumes.congr {w₀ w w' w₁ : SlWindow} {sent : List Msg} (h : Consumes w₀ w' sent)
    (hg : w₀.geometry = w.geometry) (hc : configuredGeometry w₀.nextConfig = configuredGeometry w.nextConfig)
    (hg' : w₁.geometry = w'.geometry)
    (hc' : configuredGeometry w₁.nextConfig = configuredGeometry w'.nextConfig) :
    Consumes w w₁ sent := by
  unfold Consumes at h ⊢
  split at h
  · rw [if_pos ‹_›]
    obtain ⟨hi, hg₀, hc₀⟩ := h
    rw [hg, hc] at hi hg₀
    exact ⟨hi, hg'.trans hg₀, hc'.trans hc₀⟩
  · rw [if_neg ‹_›]
    exact ⟨hg'.trans (h.1.trans hg), hc'.trans (h.2.trans hc)⟩

/-- `sl_configure_window` consumes what `next_config` asks for. -/
theorem slConfigureWindow_consumes {w w' : SlWindow} {sent : List Msg}
    (h : slConfigureWindow w = some (w', sent)) : Consumes w w' sent := by
  obtain ⟨-, -, rfl, pre, hpre, rfl⟩ := slConfigureWindow_some h
  have hpre' : pre.any Msg.isPending = false := by
    simpa using fun m hm => (hpre m hm).isPending
  rw [Consumes, List.any_append, hpre']
  refine ⟨fun s g hm => ?_, installedGeometry_eq w, configuredGeometry_of_mask rfl⟩
  rcases List.mem_append.mp hm with hm | hm
  · exact absurd (any_isPending_of_mem hm) (by rw [hpre']; decide)
  · rw [List.mem_singleton, Msg.pending.injEq] at hm
    rw [hm.2, installedGeometry_eq]

/-- The acknowledgment is no ghost record. -/
theorem ackOf_isPending (w : SlWindow) (hs : Option SlHostSurface) :
    (ackOf w hs).any Msg.isPending = false := by
  unfold ackOf
  cases w.xdgSurface <;> rfl

/-- `sl_process_pending_configure_acks` consumes what `next_config` asks for. -/
theorem slProcessPendingConfigureAcks_consumes {fix b : Bool} {w w' : SlWindow}
    {hs : Option SlHostSurface} {sent : List Msg}
    (h : slProcessPendingConfigureAcks fix w hs = some (b, w', sent)) : Consumes w w' sent := by
  rcases slProcessPendingConfigureAcks_cases h with ⟨-, -, rfl, rfl⟩ |
    ⟨-, -, ⟨-, rfl, rfl⟩ | ⟨-, rest, hc, rfl⟩⟩
  · exact Consumes.of_eq rfl rfl rfl
  · exact Consumes.of_eq (ackOf_isPending w hs) rfl rfl
  · exact (Consumes.of_eq (ackOf_isPending w hs) rfl rfl).trans
      ((slConfigureWindow_consumes hc).congr rfl rfl rfl rfl)

/-- `sl_commit` consumes what `next_config` asks for. -/
theorem slCommit_consumes {fix : Bool} {w w' : SlWindow} {hs : Option SlHostSurface}
    {sent : List Msg} (h : slCommit fix w hs = some (w', sent)) : Consumes w w' sent := by
  obtain ⟨b, sent₀, h₁, rfl⟩ := slCommit_some h
  refine (slProcessPendingConfigureAcks_consumes h₁).trans (Consumes.of_eq ?_ rfl rfl)
  split
  · cases hs <;> rfl
  · rfl

/-- The surface listener consumes what `next_config` asks for. -/
theorem slInternalXdgSurfaceConfigure_consumes {fix : Bool} {w w' : SlWindow}
    {hs : Option SlHostSurface} {serial : Nat} {sent : List Msg}
    (h : slInternalXdgSurfaceConfigure fix w hs serial = some (w', sent)) : Consumes w w' sent := by
  rcases slInternalXdgSurfaceConfigure_cases h with ⟨-, rfl, rfl⟩ | ⟨-, w₁, s₁, s₂, h₁, h₂, rfl⟩
  · exact Consumes.of_eq rfl rfl rfl
  · exact ((slConfigureWindow_consumes h₁).congr rfl rfl rfl rfl).trans (slCommit_consumes h₂)

/-- The commit that ends `sl_window_update` consumes what `next_config` asks for. -/
theorem finishUpdate_consumes {X : Extern} {hs : SlHostSurface} {w w' : SlWindow} {sent : List Msg}
    (h : finishUpdate X hs w = some (w', sent)) : Consumes w w' sent := by
  obtain ⟨w₁, hc, rfl⟩ := finishUpdate_some h
  have h₁ : Consumes w w₁ sent := by
    rcases hc with ⟨-, hc⟩ | ⟨-, rfl, rfl⟩
    · exact slCommit_consumes hc
    · exact Consumes.of_eq rfl rfl rfl
  split
  · exact h₁.congr rfl rfl rfl rfl
  · exact h₁

/-- Windows with the same core have the same geometry. -/
theorem SlWindow.core_geometry {w w' : SlWindow} (h : w'.core = w.core) :
    w'.geometry = w.geometry :=
  (congrArg SlWindow.geometry h :)

/-- A ghost record sent by a consuming step has the geometry `next_config` asked for. -/
theorem Consumes.installs {w w' : SlWindow} {sent : List Msg} (h : Consumes w w' sent) {s : Nat}
    {g : Geometry} (hm : Msg.pending s g ∈ sent) : g = configuredGeometry w.nextConfig w.geometry := by
  unfold Consumes at h
  rw [if_pos (any_isPending_of_mem hm)] at h
  exact h.1 s g hm

/-- What a window's `next_config` asks for after the engine: nothing when it was applied, and what
it asked for before otherwise. -/
theorem Consumes.after {w w' : SlWindow} {sent : List Msg} (h : Consumes w w' sent) :
    configuredGeometry w'.nextConfig =
      if sent.any Msg.isPending then id else configuredGeometry w.nextConfig := by
  by_cases ha : sent.any Msg.isPending = true
  · rw [Consumes, if_pos ha] at h
    rw [if_pos ha, h.2.2]
  · rw [Consumes, if_neg ha] at h
    rw [if_neg ha, h.2]

/-- Every ghost record a move sends has the geometry that the window's `next_config` asks for. -/
theorem Moves.installs {X : Extern} {W : World} {p : Nat} {w w' : SlWindow} {sent : List Msg}
    {ctx : SlContext} {fresh : Nat} (hm : Moves X W p w w' sent ctx fresh) {s : Nat} {g : Geometry}
    (he : Msg.pending s g ∈ sent) : g = configuredGeometry w.nextConfig w.geometry := by
  cases hm with
  | surfaceConfigure hx h =>
    rcases List.mem_cons.mp he with he | he
    · cases he
    · exact (slInternalXdgSurfaceConfigure_consumes h).installs he
  | toplevelConfigure => cases mem_overrunRecord he
  | close => cases List.mem_singleton.mp he
  | commit h => exact (slCommit_consumes h).installs he
  | teardown _ => exact absurd (teardown_plain _ _ he) id
  | @update ctx w₁ w₂ hs sent hr h =>
    rcases List.mem_append.mp he with he' | he'
    · exact absurd (reconcile_plain _ _ _ _ _ _ _ he') id
    · have hcore := (reconcile_window X W ctx p w₁ hs).1
      obtain ⟨u, ps, rfl⟩ := pairingTransition_window_of hr
      refine ((finishUpdate_consumes h).installs he').trans ?_
      rw [(SlWindow.core_configs hcore).1, SlWindow.core_geometry hcore]
      rfl
  | pair id => cases he
  | properties props => cases he

/-! ## Proposals over runs -/

/-- Whether the entries that a step from `W` to `W'` added to the log record an application of
`sl_configure_window` to window `q`. -/
def appliedTo (W W' : World) (q : Nat) : Bool :=
  (W'.log.take (W'.log.length - W.log.length)).any fun e => e.1 == q && e.2.isPending

/-- The proposals after an operation from `W` to `W'`, from `t` before it: a window that
`sl_configure_window` was applied to has none, a sized `xdg_toplevel.configure` on a managed
window proposes, and every other window keeps its proposal. -/
def retrack (X : Extern) (W : World) (op : Op) (W' : World) (t : Nat → Option Proposal) (q : Nat) :
    Option Proposal :=
  if appliedTo W W' q then none else
  match op with
  | .xdgToplevelConfigure p width height _ =>
    match W.heap q with
    | some w =>
      if p = q ∧ w.managed = true ∧ width ≠ 0 ∧ height ≠ 0 then
        some (proposalOf X W.ctx w (getObject W.objects (w.pairedSurface.getD 0)) width height)
      else t q
    | none => t q
  | _ => t q

/-- The states of the runs from a new proxy, each with the proposal of the most recent sized
toplevel configure on each window since `sl_configure_window` was last applied to it. -/
inductive Traced (X : Extern) : World → (Nat → Option Proposal) → Prop where
  | init (ctx : SlContext) (depthReply : Nat → Option Nat) :
      Traced X (World.init ctx depthReply) fun _ => none
  | step {W W' : World} {t : Nat → Option Proposal} (op : Op) :
      Traced X W t → step X W op = some W' → Traced X W' (retrack X W op W' t)

/-- A traced world is reachable. -/
theorem Traced.reachable {X : Extern} {W : World} {t : Nat → Option Proposal} (h : Traced X W t) :
    Reachable X W := by
  induction h with
  | init ctx depthReply => exact .init ctx depthReply
  | step op _ hs ih => exact ih.step op hs

/-- A step that adds nothing to the log applies `sl_configure_window` to no window. -/
theorem appliedTo_of_log {W W' : World} (h : W'.log = W.log) (q : Nat) : appliedTo W W' q = false := by
  simp [appliedTo, h]

/-- Messages emitted for `p` record an application to `q` when `p = q` and one is a ghost record. -/
theorem any_map_isPending (p q : Nat) (sent : List Msg) :
    ((sent.map (p, ·)).any fun e => e.1 == q && e.2.isPending) = (p == q && sent.any Msg.isPending) := by
  induction sent with
  | nil => simp
  | cons m ms ih =>
    simp only [List.map_cons, List.any_cons, ih]
    cases p == q <;> simp

/-- A step that emits messages for `p` applies `sl_configure_window` to `q` when `p = q` and it
sends a ghost record. -/
theorem appliedTo_emit {W W' : World} {p : Nat} {sent : List Msg} (h : W'.log = emit p sent W.log)
    (q : Nat) : appliedTo W W' q = (p == q && sent.any Msg.isPending) := by
  simp only [appliedTo, h, emit, List.length_append, Nat.add_sub_cancel, List.take_left',
    List.length_reverse, List.length_map, List.any_reverse]
  exact any_map_isPending p q sent

/-- What the proposals say of a state: a window not yet created has none, and every live
window's `next_config` asks for its proposal's geometry. -/
structure ProposalInv (W : World) (t : Nat → Option Proposal) : Prop where
  fresh : ∀ q, W.nextWindow ≤ q → t q = none
  encodes : ∀ p w, W.heap p = some w → configuredGeometry w.nextConfig = Proposal.install (t p)

/-- A step that changes one window `p`, below the next pointer, keeps the invariant for proposals
`t'` that agree with `t` elsewhere and that `p`'s new `next_config` asks for. -/
theorem ProposalInv.put {W W' : World} {t t' : Nat → Option Proposal} (hi : ProposalInv W t)
    {p : Nat} {w' : SlWindow} (h₁ : W'.heap = Function.update W.heap p (some w'))
    (h₄ : W.nextWindow ≤ W'.nextWindow) (hlt : p < W'.nextWindow) (ht : ∀ q, q ≠ p → t' q = t q)
    (hw : configuredGeometry w'.nextConfig = Proposal.install (t' p)) : ProposalInv W' t' := by
  refine ⟨fun q hq => ?_, fun q w₁ hq => ?_⟩
  · rw [ht q (by omega)]
    exact hi.fresh q (by omega)
  · rw [h₁] at hq
    rcases update_eq_some hq with ⟨rfl, ⟨⟩⟩ | ⟨hqp, hq⟩
    · exact hw
    · rw [ht q hqp]
      exact hi.encodes q w₁ hq

/-- A step that changes no window but may remove some keeps the invariant. -/
theorem ProposalInv.of_heap {W W' : World} {t t' : Nat → Option Proposal} (hi : ProposalInv W t)
    (h₁ : ∀ q w, W'.heap q = some w → W.heap q = some w) (h₄ : W'.nextWindow = W.nextWindow)
    (ht : ∀ q, t' q = t q) : ProposalInv W' t' :=
  ⟨fun q hq => (ht q).trans (hi.fresh q (h₄ ▸ hq)),
    fun q w hq => (ht q).symm ▸ hi.encodes q w (h₁ q w hq)⟩

/-- A step in which the configure engine runs on window `p` keeps the invariant, with no proposal
for `p` once `sl_configure_window` was applied to it. -/
theorem ProposalInv.consume {W W' : World} {t t' : Nat → Option Proposal} (hb : Bounded W)
    (hi : ProposalInv W t) {p : Nat} {w w' : SlWindow} {sent : List Msg} (hp : W.heap p = some w)
    (hc : Consumes w w' sent) (h₁ : W'.heap = Function.update W.heap p (some w'))
    (h₂ : W'.log = emit p sent W.log) (h₄ : W'.nextWindow = W.nextWindow)
    (ht : ∀ q, t' q = if appliedTo W W' q then none else t q) : ProposalInv W' t' := by
  refine hi.put h₁ h₄.ge (h₄ ▸ hb.lt hp) (fun q hq => ?_) ?_
  · rw [ht, appliedTo_emit h₂, beq_false_of_ne (Ne.symm hq)]
    rfl
  · rw [ht, appliedTo_emit h₂, beq_self_eq_true, Bool.true_and, hc.after]
    split
    · rfl
    · exact hi.encodes p w hp

/-- A toplevel configure changes no proposal but that of its own live window. -/
theorem retrack_toplevel_keep {X : Extern} {W W' : World} {p width height states t q}
    (hl : ∀ q, appliedTo W W' q = false) (hq : q ≠ p ∨ W.heap q = none) :
    retrack X W (.xdgToplevelConfigure p width height states) W' t q = t q := by
  simp only [retrack, hl, Bool.false_eq_true, if_false]
  split
  · rename_i w hw
    refine if_neg fun h => ?_
    rcases hq with hq | hq
    · exact hq h.1.symm
    · rw [hq] at hw
      cases hw
  · rfl

/-- On its own live window, a sized toplevel configure of a managed window records the proposal. -/
theorem retrack_toplevel_live {X : Extern} {W W' : World} {p width height states t} {w : SlWindow}
    (hl : ∀ q, appliedTo W W' q = false) (hp : W.heap p = some w) :
    retrack X W (.xdgToplevelConfigure p width height states) W' t p =
      if w.managed = true ∧ width ≠ 0 ∧ height ≠ 0 then
        some (proposalOf X W.ctx w (getObject W.objects (w.pairedSurface.getD 0)) width height)
      else t p := by
  simp only [retrack, hl, hp, true_and, Bool.false_eq_true, if_false]

/-- A step that adds nothing to the log keeps every proposal. -/
theorem ite_applied_of_log {W W' : World} (h : W'.log = W.log) (t : Nat → Option Proposal)
    (q : Nat) : (if appliedTo W W' q then none else t q) = t q := by
  rw [appliedTo_of_log h]
  rfl

/-- Every operation keeps the invariant, with the proposals that `retrack` gives. -/
theorem ProposalInv.step {X : Extern} {W W' : World} {t : Nat → Option Proposal} {op : Op}
    (hb : Bounded W) (hi : ProposalInv W t) (h : step X W op = some W') :
    ProposalInv W' (retrack X W op W' t) := by
  -- A step that changes nothing.
  have same : ∀ {op : Op}, (∀ q, retrack X W op W t q = t q) → ProposalInv W (retrack X W op W t) :=
    fun ht => hi.of_heap (fun _ _ h => h) rfl ht
  cases op with
  | create id x y width height borderWidth managed props =>
    simp only [Sommelier.step, Option.some.injEq] at h
    subst h
    refine hi.put rfl (Nat.le_succ _) (Nat.lt_succ_self _) (fun q _ => ite_applied_of_log rfl t q) ?_
    exact (configuredGeometry_of_mask rfl).trans (congrArg Proposal.install
      ((ite_applied_of_log rfl t W.nextWindow).trans (hi.fresh _ le_rfl))).symm
  | destroy p =>
    cases hp : W.heap p with
    | none =>
      simp only [Sommelier.step, hp, Option.some.injEq] at h
      subst h
      exact same (ite_applied_of_log rfl t)
    | some w =>
      simp only [Sommelier.step, hp, Option.some.injEq] at h
      subst h
      refine hi.of_heap (fun q w₁ hq => ?_) rfl fun q => ite_applied_of_log rfl t q
      rcases update_eq_some hq with ⟨-, ⟨⟩⟩ | ⟨-, hq⟩
      exact hq
  | xdgSurfaceConfigure p serial =>
    cases hp : W.heap p with
    | none =>
      simp only [Sommelier.step, hp, Option.some.injEq] at h
      subst h
      exact same (ite_applied_of_log rfl t)
    | some w =>
      cases hx : w.xdgSurface with
      | none =>
        simp only [Sommelier.step, hp, hx, Option.some.injEq] at h
        subst h
        exact same (ite_applied_of_log rfl t)
      | some x =>
        simp only [Sommelier.step, hp, hx] at h
        obtain ⟨⟨w', sent⟩, h₁, rfl⟩ := Option.map_eq_some'.mp h
        exact hi.consume hb hp ((show Consumes w w [Msg.configure x serial] from
          Consumes.of_eq rfl rfl rfl).trans (slInternalXdgSurfaceConfigure_consumes h₁))
          rfl rfl rfl fun q => rfl
  | xdgToplevelConfigure p width height states =>
    cases hp : W.heap p with
    | none =>
      simp only [Sommelier.step, hp, Option.some.injEq] at h
      subst h
      refine same fun q => retrack_toplevel_keep (appliedTo_of_log rfl) ?_
      by_cases hq : q = p
      · exact .inr (hq ▸ hp)
      · exact .inl hq
    | some w =>
      simp only [Sommelier.step, hp, Option.some.injEq] at h
      subst h
      /- The ghost record of an overrun records no application of `sl_configure_window`. -/
      have hl : ∀ {W' : World}, W'.log = emit p (overrunRecord W.ctx w states) W.log →
          ∀ q, appliedTo W W' q = false := fun h q => by
        rw [appliedTo_emit h, List.any_eq_false.mpr fun m hm => by simp [mem_overrunRecord hm,
          Msg.isPending], Bool.and_false]
      refine hi.put rfl le_rfl (hb.lt hp) (fun q hq => retrack_toplevel_keep (hl rfl) (.inl hq)) ?_
      rw [slInternalXdgToplevelConfigure_proposal]
      refine Eq.trans ?_ (congrArg Proposal.install (retrack_toplevel_live (hl rfl) hp).symm)
      split
      · rfl
      · exact hi.encodes p w hp
  | xdgToplevelClose p =>
    cases hp : W.heap p with
    | none =>
      simp only [Sommelier.step, hp, Option.some.injEq] at h
      subst h
      exact same (ite_applied_of_log rfl t)
    | some w =>
      simp only [Sommelier.step, hp, Option.some.injEq] at h
      subst h
      exact hi.consume hb hp (Consumes.of_eq (by rfl) (by rfl) (by rfl)) rfl rfl rfl fun q => rfl
  | commit p hs =>
    cases hp : W.heap p with
    | none =>
      simp only [Sommelier.step, hp, Option.some.injEq] at h
      subst h
      exact same (ite_applied_of_log rfl t)
    | some w =>
      simp only [Sommelier.step, hp] at h
      obtain ⟨⟨w', sent⟩, h₁, rfl⟩ := Option.map_eq_some'.mp h
      exact hi.consume hb hp (slCommit_consumes h₁) rfl rfl rfl fun q => rfl
  | windowUpdate p =>
    cases hp : W.heap p with
    | none =>
      simp only [Sommelier.step, slWindowUpdate, hp, Option.some.injEq] at h
      subst h
      exact same (ite_applied_of_log rfl t)
    | some w =>
      obtain ⟨ctx, w₁, res, hr, ⟨rfl, rfl⟩ | ⟨hs, w₂, sent, rfl, h₁, rfl⟩⟩ := slWindowUpdate_cases hp h
      all_goals obtain ⟨u, ps, rfl⟩ := pairingTransition_window_of hr
      · refine hi.consume hb hp (Consumes.of_eq ?_ (by rfl) (by rfl)) rfl rfl rfl fun q => rfl
        simpa using fun m hm => (teardown_plain _ m hm).isPending
      · have hcore := (reconcile_window X W ctx p { w with unpaired := u, pairedSurface := ps } hs).1
        refine hi.consume hb hp ((Consumes.of_eq ?_ ?_ ?_).trans (finishUpdate_consumes h₁))
          rfl rfl rfl fun q => rfl
        · simpa using fun m hm => (reconcile_plain _ _ _ _ _ _ m hm).isPending
        · exact (SlWindow.core_geometry hcore).trans rfl
        · rw [(SlWindow.core_configs hcore).1]
  | surface id s =>
    simp only [Sommelier.step, Option.some.injEq] at h
    subst h
    exact hi.of_heap (fun _ _ h => h) rfl fun q => ite_applied_of_log rfl t q
  | pair p id =>
    cases hp : W.heap p with
    | none =>
      simp only [Sommelier.step, hp, Option.some.injEq] at h
      subst h
      exact same (ite_applied_of_log rfl t)
    | some w =>
      simp only [Sommelier.step, hp, Option.some.injEq] at h
      subst h
      exact hi.consume hb hp (Consumes.of_eq (by rfl) (by rfl) (by rfl)) rfl rfl rfl fun q => rfl
  | properties p props =>
    cases hp : W.heap p with
    | none =>
      simp only [Sommelier.step, hp, Option.some.injEq] at h
      subst h
      exact same (ite_applied_of_log rfl t)
    | some w =>
      simp only [Sommelier.step, hp, Option.some.injEq] at h
      subst h
      exact hi.consume hb hp (Consumes.of_eq (by rfl) (by rfl) (by rfl)) rfl rfl rfl fun q => rfl

/-- Every traced world meets the proposals' invariant. -/
theorem Traced.proposalInv {X : Extern} {W : World} {t : Nat → Option Proposal}
    (h : Traced X W t) : ProposalInv W t := by
  induction h with
  | init => exact ⟨fun _ _ => rfl, fun _ _ h => nomatch h⟩
  | step op hW hs ih => exact ih.step hW.reachable.bounds hs

/-- The proposals along a run of operations. -/
def traceRun (X : Extern) : World → (Nat → Option Proposal) → List Op →
    Option (World × (Nat → Option Proposal))
  | W, t, [] => some (W, t)
  | W, t, op :: ops => (step X W op).bind fun W' => traceRun X W' (retrack X W op W' t) ops

/-- Tracing a run from a traced world gives a traced world. -/
theorem Traced.traceRun {X : Extern} {W : World} {t : Nat → Option Proposal} (h : Traced X W t) :
    ∀ {ops W' t'}, Sommelier.traceRun X W t ops = some (W', t') → Traced X W' t'
  | [], _, _, hr => by cases hr; exact h
  | op :: ops, _, _, hr => by
    obtain ⟨W₁, h₁, hr⟩ := Option.bind_eq_some.mp hr
    exact (h.step op h₁).traceRun hr

/-- Whenever an operation of a run applies `sl_configure_window` to a window, the geometry it
installs is the one proposed by the most recent sized toplevel configure on the window since the
previous application, from the window's geometry before the operation: the proposal's pixel size,
no border, and its centred origin when the window had no position hint, or its old position; and
the old geometry when there was no such configure. -/
theorem configure_installs_latest_proposal {X : Extern} {W W' : World}
    {t : Nat → Option Proposal} {op : Op} (hW : Traced X W t) (h : step X W op = some W')
    {new : List (Nat × Msg)} (hnew : W'.log = new ++ W.log) {p s : Nat} {g : Geometry}
    (he : (p, Msg.pending s g) ∈ new) :
    ∃ w, W.heap p = some w ∧ g = Proposal.install (t p) w.geometry := by
  rcases step_cases h with ⟨-, h₂, -⟩ | ⟨_, _, _, _, _, _, _, _, -, h₂, -⟩ |
    ⟨_, _, -, -, h₂, -⟩ | ⟨q, w, w', sent, hq, hm, -, h₂, -⟩
  -- Creating, destroying or changing nothing sends no message.
  iterate 3
    rw [List.append_left_eq_self.mp (hnew.symm.trans h₂)] at he
    cases he
  -- A move sends `sent` for its window `q`.
  rw [h₂] at hnew
  obtain rfl := List.append_cancel_right hnew
  obtain ⟨m, hm', hpm⟩ := List.mem_map.mp (List.mem_reverse.mp he)
  obtain ⟨rfl, rfl⟩ := Prod.mk.inj_iff.mp hpm
  exact ⟨w, hq, (hm.installs hm').trans (congrFun (hW.proposalInv.encodes _ w hq) _)⟩

/-- `ackRun` traced up to its toplevel configure, with `COMMIT_LOOP_FIX`. -/
def proposedTrace : World × (Nat → Option Proposal) :=
  (traceRun (Extern.unscaled true) (World.init (SlContext.sample true) fun _ => none)
    (fun _ => none) (ackRun.take 5)).getD (World.init (SlContext.sample true) fun _ => none, fun _ => none)

/-- The `xdg_surface.configure` of `ackRun` applies the 20 × 20 proposal, centred on the screen. -/
def proposedNext : World :=
  (step (Extern.unscaled true) proposedTrace.1 (.xdgSurfaceConfigure 0 7)).getD proposedTrace.1

/-- After `proposedTrace` window `0`'s recorded proposal installs a 20 × 20 window at
`(40, 40)`. -/
theorem configure_installs_latest_proposal_ack :
    ∃ w, proposedTrace.1.heap 0 = some w ∧
      (⟨40, 40, 20, 20, 0⟩ : Geometry) = Proposal.install (proposedTrace.2 0) w.geometry := by
  have hr : traceRun (Extern.unscaled true) (World.init (SlContext.sample true) fun _ => none)
      (fun _ => none) (ackRun.take 5) = some proposedTrace :=
    (Option.getD_of_ne_none (Option.ne_none_iff_isSome.mpr (by decide)) _).symm
  have hs : step (Extern.unscaled true) proposedTrace.1 (.xdgSurfaceConfigure 0 7) = some proposedNext :=
    (Option.getD_of_ne_none (Option.ne_none_iff_isSome.mpr (by decide)) _).symm
  exact configure_installs_latest_proposal ((Traced.init _ _).traceRun hr) hs
    (show proposedNext.log = proposedNext.log.take 6 ++ proposedTrace.1.log by decide)
    (show (0, Msg.pending 7 ⟨40, 40, 20, 20, 0⟩) ∈ proposedNext.log.take 6 by decide)

end Sommelier

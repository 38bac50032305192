import Sommelier.Configure

/-!
# The toplevel listener

`sl_internal_xdg_toplevel_configure` turns the compositor's proposed size and state set into the
next configure: a size proposal becomes the mask and positional values of `next_config` (centred
in the output or the screen when the window has no position hint), and the state array becomes the
`_NET_WM_STATE` atoms, through the loop over `states` that also sets `allow_resize`,
`compositor_fullscreen` and the activation of the window, which moves the input focus of the
context. `sl_internal_xdg_toplevel_close` asks the client to close the window.

The states loop writes one atom for fullscreen, two for maximized and one for activated, per entry
of the array (`statesLoop_states`), into a buffer of `statesCapacity` entries. Nothing bounds the
index: the atoms past the buffer land, word by word, on `pending_config`, the member of
`struct sl_window` that follows `next_config` (`slInternalXdgToplevelConfigure_pending`), and
`overrunRecord` records them in the log.
-/

namespace Sommelier

/-- Modelled from the spec: the number of entries of `sl_config::states` (§3: a state list of at
most three states); sommelier-window.h, which declares it, is not in src/. -/
def statesCapacity : Nat := 3

/-- What the states loop of `sl_internal_xdg_toplevel_configure` carries: the index `i` into
`next_config.states`, the atoms written to `next_config.states[0], ..., next_config.states[i - 1]`
in order, and the flags it sets. Where the atoms land is laid out after the loop, by `storeStates`
and `SlConfig.writeFrom`. -/
structure StatesLoop where
  i : Nat
  states : List Nat
  allowResize : Bool
  compositorFullscreen : Bool
  activated : Bool
deriving DecidableEq, Repr

/-- `next_config.states[i++] = atom`, recorded in the order of the writes. -/
def StatesLoop.store (acc : StatesLoop) (atom : Nat) : StatesLoop :=
  { acc with i := acc.i + 1, states := acc.states ++ [atom] }

/-- The body of the states loop on one entry of the array. -/
def statesStep (atoms : Atoms) (acc : StatesLoop) (state : Nat) : StatesLoop :=
  let acc := if state = XDG_TOPLEVEL_STATE_FULLSCREEN then
      { acc.store atoms.netWmStateFullscreen with allowResize := false, compositorFullscreen := true }
    else acc
  let acc := if state = XDG_TOPLEVEL_STATE_MAXIMIZED then
      { (acc.store atoms.netWmStateMaximizedVert).store atoms.netWmStateMaximizedHorz with
        allowResize := false }
    else acc
  let acc := if state = XDG_TOPLEVEL_STATE_ACTIVATED then
      { acc.store atoms.netWmStateFocused with activated := true }
    else acc
  if state = XDG_TOPLEVEL_STATE_RESIZING then { acc with allowResize := false } else acc

/-- The states loop from `i = 0`, `allow_resize = 1`, `compositor_fullscreen = 0` and
`activated = 0`. -/
def statesLoop (atoms : Atoms) (states : List Nat) : StatesLoop :=
  states.foldl (statesStep atoms) ⟨0, [], true, false, false⟩

/-- `values[i++] = v` for each `v` of `vs` in turn, from `i = 0`. -/
def storeValues (buf vs : List Int) : List Int := vs ++ buf.drop vs.length

/-- The writes of the states loop that land in `next_config.states`: its first `statesCapacity`
atoms. -/
def storeStates (buf ws : List Nat) : List Nat := (ws ++ buf.drop ws.length).take statesCapacity

/-- Word `k` of a configure buffer set to `v`: the serial, the mask, the five values, the state
count and the three state atoms are its words `0` to `10`. -/
def SlConfig.setWord (c : SlConfig) (k v : Nat) : SlConfig :=
  if k = 0 then { c with serial := v }
  else if k = 1 then { c with mask := v }
  else if k < 7 then { c with values := c.values.set (k - 2) v }
  else if k = 7 then { c with statesLength := v }
  else { c with states := c.states.set (k - 8) v }

/-- The words `vs` written into a configure buffer from word `k` on. Writes past word `10` reach
the members of `struct sl_window` after `pending_config`, which sommelier-window.h lays out and
which are not modelled: they are dropped. -/
def SlConfig.writeFrom (c : SlConfig) (k : Nat) : List Nat → SlConfig
  | [] => c
  | v :: vs => (c.setWord k v).writeFrom (k + 1) vs

/-- The origin that centres a window of `width × height` pixels: in the paired surface's output,
or on the screen when there is none. -/
def centredOrigin (ctx : SlContext) (output : Option SlOutput) (width height : Int) : Int × Int :=
  match output with
  | some o => (o.virtX + (o.width - width).tdiv 2, o.virtY + (o.height - height).tdiv 2)
  | none => ((ctx.screenWidthInPixels : Int).tdiv 2 - width.tdiv 2,
      (ctx.screenHeightInPixels : Int).tdiv 2 - height.tdiv 2)

/-- The paired surface's scale state after the rescale of `sl_internal_xdg_toplevel_configure`: a
surface with a scale of its own whose cached logical size is not the proposed one tries a scale
for the window's size. -/
def rescaledSurface (X : Extern) (w : SlWindow) (paired : Option SlHostSurface)
    (width height : Int) : Option SurfaceScale :=
  match paired.map (·.scale) with
  | some s => if s.hasOwnScale ∧ (width ≠ s.cachedLogicalWidth ∨ height ≠ s.cachedLogicalHeight)
      then some (X.tryWindowScale s w.width w.height) else some s
  | none => none

/-- The `if (width && height)` block of `sl_internal_xdg_toplevel_configure`: the paired surface
may rescale, the logical size becomes a pixel size, and `next_config` proposes it with a zero
border, and a centred position when the window has no position hint. Returns the window and the
paired surface's scale state. -/
def proposeSize (X : Extern) (ctx : SlContext) (w : SlWindow) (paired : Option SlHostSurface)
    (width height : Int) : SlWindow × Option SurfaceScale :=
  let sc := rescaledSurface X w paired width height
  let (wp, hp) := X.hostToGuest sc width height
  let positioned := w.props.sizeFlags &&& (US_POSITION ||| P_POSITION) ≠ 0
  let mask := XCB_CONFIG_WINDOW_WIDTH ||| XCB_CONFIG_WINDOW_HEIGHT ||| XCB_CONFIG_WINDOW_BORDER_WIDTH
  let (mask, vs) := if positioned then (mask, [wp, hp, 0]) else
    let (cx, cy) := centredOrigin ctx (paired.bind (·.output)) wp hp
    (mask ||| XCB_CONFIG_WINDOW_X ||| XCB_CONFIG_WINDOW_Y, [cx, cy, wp, hp, 0])
  ({ w with nextConfig := { w.nextConfig with mask, values := storeValues w.nextConfig.values vs } },
    sc)

/-- The focus update of `sl_internal_xdg_toplevel_configure` for window `p` whose activation is
now `activated`: when it changed and disagrees with the context's focus window, the focus moves to
or away from `p` and the context must set the input focus again. -/
def updateFocus (ctx : SlContext) (p : Nat) (w : SlWindow) (activated : Bool) :
    SlContext × SlWindow :=
  if activated ≠ w.activated then
    let ctx := if activated ≠ decide (ctx.hostFocusWindow = some p) then
        { ctx with hostFocusWindow := if activated then some p else none, needsSetInputFocus := true }
      else ctx
    (ctx, { w with activated := activated })
  else (ctx, w)

/-- `sl_internal_xdg_toplevel_configure` on window `p`, with the host surface of its
`paired_surface`: the context, the window, and the paired surface's scale state. The atoms of the
states loop fill `next_config.states`, and those past it overwrite `pending_config` from its
serial on. -/
def slInternalXdgToplevelConfigure (X : Extern) (ctx : SlContext) (p : Nat) (w : SlWindow)
    (paired : Option SlHostSurface) (width height : Int) (states : List Nat) :
    SlContext × SlWindow × Option SurfaceScale :=
  if w.managed = false then (ctx, w, paired.map (·.scale)) else
  let sized := if width ≠ 0 ∧ height ≠ 0 then proposeSize X ctx w paired width height
    else (w, paired.map (·.scale))
  let loop := statesLoop ctx.atoms states
  let focused := updateFocus ctx p
    { sized.1 with allowResize := loop.allowResize, compositorFullscreen := loop.compositorFullscreen }
    loop.activated
  (focused.1,
    { focused.2 with
      nextConfig := { focused.2.nextConfig with
        statesLength := loop.i, states := storeStates focused.2.nextConfig.states loop.states }
      pendingConfig := focused.2.pendingConfig.writeFrom 0 (loop.states.drop statesCapacity) },
    sized.2)

/-- The atoms that `sl_internal_xdg_toplevel_configure` writes past `next_config.states`. -/
def overrunWords (ctx : SlContext) (w : SlWindow) (states : List Nat) : List Nat :=
  if w.managed then (statesLoop ctx.atoms states).states.drop statesCapacity else []

/-- Ghost: the record of the atoms that the listener writes past `next_config.states`, when there
are any. -/
def overrunRecord (ctx : SlContext) (w : SlWindow) (states : List Nat) : List Msg :=
  match overrunWords ctx w states with
  | [] => []
  | v :: vs => [.overrun (v :: vs)]

/-- `sl_internal_xdg_toplevel_close`: the `WM_DELETE_WINDOW` client message. -/
def slInternalXdgToplevelClose (ctx : SlContext) (w : SlWindow) : Msg :=
  .deleteWindow w.id ctx.atoms.wmProtocols ctx.atoms.wmDeleteWindow

/-! ## The states loop -/

/-- The atoms that one entry of the states array writes: one for fullscreen, two for maximized and
one for activated. -/
def stateAtoms (atoms : Atoms) (state : Nat) : List Nat :=
  (if state = XDG_TOPLEVEL_STATE_FULLSCREEN then [atoms.netWmStateFullscreen] else []) ++
    (if state = XDG_TOPLEVEL_STATE_MAXIMIZED then
      [atoms.netWmStateMaximizedVert, atoms.netWmStateMaximizedHorz] else []) ++
    (if state = XDG_TOPLEVEL_STATE_ACTIVATED then [atoms.netWmStateFocused] else [])

/-- How many atoms one entry of the states array writes. -/
def stateWidth (state : Nat) : Nat :=
  (if state = XDG_TOPLEVEL_STATE_FULLSCREEN then 1 else 0) +
    (if state = XDG_TOPLEVEL_STATE_MAXIMIZED then 2 else 0) +
    (if state = XDG_TOPLEVEL_STATE_ACTIVATED then 1 else 0)

/-- An entry of the states array writes as many atoms as its width. -/
@[simp] theorem stateAtoms_length (atoms : Atoms) (state : Nat) :
    (stateAtoms atoms state).length = stateWidth state := by
  unfold stateAtoms stateWidth
  split_ifs <;> rfl

/-- An entry of the states array writes only state atoms, which are nonzero. -/
theorem stateAtoms_ne_zero (atoms : Atoms) (state : Nat) : ∀ a ∈ stateAtoms atoms state, a ≠ 0 := by
  obtain ⟨h₁, h₂, h₃, h₄⟩ := atoms.states_ne_zero
  unfold stateAtoms
  split_ifs <;> simp_all

/-- One pass of the loop body advances the index by the entry's width and writes its atoms. -/
theorem statesStep_writes (atoms : Atoms) (acc : StatesLoop) (state : Nat) :
    (statesStep atoms acc state).i = acc.i + stateWidth state ∧
      (statesStep atoms acc state).states = acc.states ++ stateAtoms atoms state := by
  unfold statesStep stateWidth stateAtoms StatesLoop.store
  split_ifs <;> simp_all [XDG_TOPLEVEL_STATE_FULLSCREEN, XDG_TOPLEVEL_STATE_MAXIMIZED,
    XDG_TOPLEVEL_STATE_ACTIVATED, XDG_TOPLEVEL_STATE_RESIZING]

/-- The states loop advances its index by each state's width and appends each state's atoms. -/
theorem foldl_statesStep_writes (atoms : Atoms) (states : List Nat) (acc : StatesLoop) :
    (states.foldl (statesStep atoms) acc).i = acc.i + (states.map stateWidth).sum ∧
      (states.foldl (statesStep atoms) acc).states =
        acc.states ++ states.flatMap (stateAtoms atoms) := by
  induction states generalizing acc with
  | nil => simp
  | cons s ss ih =>
    obtain ⟨h₁, h₂⟩ := statesStep_writes atoms acc s
    simp only [List.foldl_cons, List.map_cons, List.sum_cons, List.flatMap_cons, ih, h₁, h₂,
      List.append_assoc, Nat.add_assoc, and_self]

/-- The loop writes the atoms of the entries in order, and its index counts them. -/
theorem statesLoop_states (atoms : Atoms) (states : List Nat) :
    (statesLoop atoms states).states = states.flatMap (stateAtoms atoms) ∧
      (statesLoop atoms states).i = (states.map stateWidth).sum := by
  obtain ⟨h₁, h₂⟩ := foldl_statesStep_writes atoms states ⟨0, [], true, false, false⟩
  exact ⟨h₂, h₁.trans (Nat.zero_add _)⟩

/-- The state atoms that the loop writes are nonzero. -/
theorem statesLoop_ne_zero (atoms : Atoms) (states : List Nat) :
    ∀ a ∈ (statesLoop atoms states).states, a ≠ 0 := by
  rw [(statesLoop_states atoms states).1]
  intro a ha
  obtain ⟨s, -, hs⟩ := List.mem_flatMap.mp ha
  exact stateAtoms_ne_zero atoms s a hs

/-! ## Where the atoms past `next_config.states` land -/

/-- Setting a word other than the serial leaves the serial alone. -/
theorem SlConfig.setWord_serial (c : SlConfig) {k : Nat} (v : Nat) (hk : k ≠ 0) :
    (c.setWord k v).serial = c.serial := by
  simp only [setWord, if_neg hk]
  split_ifs <;> rfl

/-- Writing from a word past the serial leaves the serial alone. -/
theorem SlConfig.writeFrom_serial (c : SlConfig) {k : Nat} (vs : List Nat) (hk : k ≠ 0) :
    (c.writeFrom k vs).serial = c.serial := by
  induction vs generalizing c k with
  | nil => rfl
  | cons v vs ih => rw [writeFrom, ih _ k.succ_ne_zero, c.setWord_serial v hk]

/-- The first word of an overrun lands on `pending_config.serial`. -/
@[simp] theorem SlConfig.writeFrom_cons_serial (c : SlConfig) (v : Nat) (vs : List Nat) :
    (c.writeFrom 0 (v :: vs)).serial = v := by
  show ((c.setWord 0 v).writeFrom 1 vs).serial = v
  rw [writeFrom_serial _ vs one_ne_zero]
  rfl

/-- Writing nonzero words from word `0` on keeps a nonzero serial nonzero. -/
theorem SlConfig.writeFrom_serial_ne_zero {c : SlConfig} {ws : List Nat} (hw : ∀ a ∈ ws, a ≠ 0)
    (hc : c.serial ≠ 0) : (c.writeFrom 0 ws).serial ≠ 0 := by
  cases ws with
  | nil => exact hc
  | cons v vs => exact (writeFrom_cons_serial c v vs).symm ▸ hw v (List.mem_cons_self v vs)

/-- An overrun writes only state atoms, which are nonzero. -/
theorem overrunWords_ne_zero (ctx : SlContext) (w : SlWindow) (states : List Nat) :
    ∀ a ∈ overrunWords ctx w states, a ≠ 0 := by
  unfold overrunWords
  split
  · exact fun a ha => statesLoop_ne_zero ctx.atoms states a (List.mem_of_mem_drop ha)
  · simp

/-- The ghost record is empty when the loop overran nothing, and records the overrun otherwise. -/
theorem overrunRecord_cases (ctx : SlContext) (w : SlWindow) (states : List Nat) :
    (overrunWords ctx w states = [] ∧ overrunRecord ctx w states = []) ∨
      (overrunWords ctx w states ≠ [] ∧
        overrunRecord ctx w states = [.overrun (overrunWords ctx w states)]) := by
  unfold overrunRecord
  split <;> simp_all

/-- An unmanaged window's listener overruns nothing. -/
theorem overrunRecord_unmanaged (ctx : SlContext) {w : SlWindow} (states : List Nat)
    (hw : w.managed = false) : overrunRecord ctx w states = [] := by
  simp [overrunRecord, overrunWords, hw]

/-- The ghost record holds nothing but the record of the overrun. -/
theorem mem_overrunRecord {ctx : SlContext} {w : SlWindow} {states : List Nat} {m : Msg}
    (hm : m ∈ overrunRecord ctx w states) : m = .overrun (overrunWords ctx w states) := by
  rcases overrunRecord_cases ctx w states with ⟨-, h⟩ | ⟨-, h⟩ <;> rw [h] at hm
  · cases hm
  · exact List.mem_singleton.mp hm

/-! ## What the listener does to the window and the context -/

/-- The fields the toplevel listener writes: the proposal and the states of `next_config`, the
words of `pending_config` that its states overrun, and the window's flags. -/
def SlWindow.withProposal (w : SlWindow) (mask : Nat) (values : List Int) (statesLength : Nat)
    (states : List Nat) (pending : SlConfig) (allowResize compositorFullscreen activated : Bool) :
    SlWindow :=
  { w with nextConfig := { w.nextConfig with mask, values, statesLength, states },
           pendingConfig := pending, allowResize, compositorFullscreen, activated }

/-- Proposing a size changes only the mask and values of `next_config`. -/
theorem proposeSize_window (X : Extern) (ctx : SlContext) (w : SlWindow)
    (paired : Option SlHostSurface) (width height : Int) :
    ∃ mask values, (proposeSize X ctx w paired width height).1 =
      { w with nextConfig := { w.nextConfig with mask, values } } := by
  unfold proposeSize
  dsimp only
  split_ifs <;> exact ⟨_, _, rfl⟩

/-- The focus update writes only the window's activation. -/
theorem updateFocus_window (ctx : SlContext) (p : Nat) (w : SlWindow) (activated : Bool) :
    (updateFocus ctx p w activated).2 = { w with activated } := by
  unfold updateFocus
  split
  · rfl
  · rename_i h
    simp only [ne_eq, Decidable.not_not] at h
    rw [h]

/-- The context after the focus update depends only on the window's activation. -/
theorem updateFocus_fst_congr (ctx : SlContext) (p : Nat) {w w' : SlWindow} (activated : Bool)
    (h : w.activated = w'.activated) :
    (updateFocus ctx p w activated).1 = (updateFocus ctx p w' activated).1 := by
  simp only [updateFocus, h]
  split_ifs <;> rfl

/-- The focus update writes only the context's focus window and `needs_set_input_focus`. -/
theorem updateFocus_ctx (ctx : SlContext) (p : Nat) (w : SlWindow) (activated : Bool) :
    ∃ focus needs, (updateFocus ctx p w activated).1 =
      { ctx with hostFocusWindow := focus, needsSetInputFocus := needs } := by
  unfold updateFocus
  split_ifs
  · exact ⟨some p, true, rfl⟩
  · exact ⟨none, true, rfl⟩
  · exact ⟨ctx.hostFocusWindow, ctx.needsSetInputFocus, rfl⟩
  · exact ⟨ctx.hostFocusWindow, ctx.needsSetInputFocus, rfl⟩

/-- The focus update moves the focus only together with `needs_set_input_focus`; it can only move
the focus to `p`, once `p` is activated, and takes it from `p` once `p` is not. -/
theorem updateFocus_focus (ctx : SlContext) (p : Nat) (w : SlWindow) (activated : Bool) :
    ((updateFocus ctx p w activated).1.hostFocusWindow ≠ ctx.hostFocusWindow →
        (updateFocus ctx p w activated).1.needsSetInputFocus = true) ∧
      ∀ q, (updateFocus ctx p w activated).1.hostFocusWindow = some q →
        if q = p then (ctx.hostFocusWindow = some p → w.activated = true) → activated = true
        else ctx.hostFocusWindow = some q := by
  unfold updateFocus
  by_cases h₁ : activated = w.activated
  · simp only [h₁, ne_eq, not_true_eq_false, if_false]
    refine ⟨fun h => by simp at h, fun q hq => ?_⟩
    split_ifs with hq'
    · exact fun hw => hw (hq' ▸ hq)
    · exact hq
  · cases activated <;> by_cases hf : ctx.hostFocusWindow = some p <;> simp_all
    rintro q hq rfl
    exact hf hq

/-- Everything the listener does to a managed window and the context: it writes a proposal, the
atoms of the states loop and their number into `next_config`, the atoms past its three entries
into `pending_config`, sets the loop's flags, and updates the focus. -/
theorem slInternalXdgToplevelConfigure_managed (X : Extern) (ctx : SlContext) (p : Nat)
    {w : SlWindow} (paired : Option SlHostSurface) (width height : Int) (states : List Nat)
    (hw : w.managed = true) :
    ∃ mask values, (slInternalXdgToplevelConfigure X ctx p w paired width height states).2.1 =
        w.withProposal mask values (statesLoop ctx.atoms states).i
          (storeStates w.nextConfig.states (statesLoop ctx.atoms states).states)
          (w.pendingConfig.writeFrom 0 (overrunWords ctx w states))
          (statesLoop ctx.atoms states).allowResize (statesLoop ctx.atoms states).compositorFullscreen
          (statesLoop ctx.atoms states).activated ∧
      (slInternalXdgToplevelConfigure X ctx p w paired width height states).1 =
        (updateFocus ctx p w (statesLoop ctx.atoms states).activated).1 := by
  obtain ⟨mask, values, h⟩ : ∃ mask values, (if width ≠ 0 ∧ height ≠ 0 then
      proposeSize X ctx w paired width height else (w, paired.map (·.scale))).1 =
      { w with nextConfig := { w.nextConfig with mask, values } } := by
    split
    · exact proposeSize_window ..
    · exact ⟨w.nextConfig.mask, w.nextConfig.values, rfl⟩
  have hm : ¬w.managed = false := by simp [hw]
  refine ⟨mask, values, ?_, ?_⟩
  · rw [show overrunWords ctx w states = (statesLoop ctx.atoms states).states.drop statesCapacity
      by simp [overrunWords, hw]]
    simp only [slInternalXdgToplevelConfigure, if_neg hm, h, updateFocus_window]
    rfl
  · simp only [slInternalXdgToplevelConfigure, if_neg hm]
    exact updateFocus_fst_congr ctx p _ (by rw [h])

/-- The listener leaves an unmanaged window and the context alone. -/
theorem slInternalXdgToplevelConfigure_unmanaged (X : Extern) (ctx : SlContext) (p : Nat)
    {w : SlWindow} (paired : Option SlHostSurface) (width height : Int) (states : List Nat)
    (hw : w.managed = false) :
    slInternalXdgToplevelConfigure X ctx p w paired width height states =
      (ctx, w, paired.map (·.scale)) := by
  simp [slInternalXdgToplevelConfigure, hw]

/-- The listener writes the proposal, the states, the overrun words of `pending_config` and the
flags, and nothing else of the window. -/
theorem slInternalXdgToplevelConfigure_window (X : Extern) (ctx : SlContext) (p : Nat)
    (w : SlWindow) (paired : Option SlHostSurface) (width height : Int) (states : List Nat) :
    ∃ mask values statesLength states' allowResize compositorFullscreen activated,
      (slInternalXdgToplevelConfigure X ctx p w paired width height states).2.1 =
        w.withProposal mask values statesLength states'
          (w.pendingConfig.writeFrom 0 (overrunWords ctx w states))
          allowResize compositorFullscreen activated := by
  cases hw : w.managed
  · rw [slInternalXdgToplevelConfigure_unmanaged X ctx p paired width height states hw,
      show overrunWords ctx w states = [] by simp [overrunWords, hw]]
    exact ⟨_, _, _, _, _, _, _, rfl⟩
  · obtain ⟨mask, values, h, -⟩ := slInternalXdgToplevelConfigure_managed X ctx p paired width height
      states hw
    exact ⟨_, _, _, _, _, _, _, h⟩

/-- The listener changes `pending_config` only by the words its states loop overruns. -/
theorem slInternalXdgToplevelConfigure_pending (X : Extern) (ctx : SlContext) (p : Nat)
    (w : SlWindow) (paired : Option SlHostSurface) (width height : Int) (states : List Nat) :
    (slInternalXdgToplevelConfigure X ctx p w paired width height states).2.1.pendingConfig =
      w.pendingConfig.writeFrom 0 (overrunWords ctx w states) := by
  obtain ⟨_, _, _, _, _, _, _, h⟩ := slInternalXdgToplevelConfigure_window X ctx p w paired width
    height states
  rw [h]
  rfl

/-- The listener moves no window between the context's lists. -/
theorem slInternalXdgToplevelConfigure_lists (X : Extern) (ctx : SlContext) (p : Nat) (w : SlWindow)
    (paired : Option SlHostSurface) (width height : Int) (states : List Nat) :
    (slInternalXdgToplevelConfigure X ctx p w paired width height states).1.windows = ctx.windows ∧
      (slInternalXdgToplevelConfigure X ctx p w paired width height states).1.unpairedWindows =
        ctx.unpairedWindows := by
  cases hw : w.managed
  · rw [slInternalXdgToplevelConfigure_unmanaged X ctx p paired width height states hw]
    exact ⟨rfl, rfl⟩
  · obtain ⟨-, -, -, h⟩ := slInternalXdgToplevelConfigure_managed X ctx p paired width height states hw
    obtain ⟨f, n, h'⟩ := updateFocus_ctx ctx p w (statesLoop ctx.atoms states).activated
    rw [h, h']
    exact ⟨rfl, rfl⟩

/-- On a managed window, the listener's state count is the sum of the entries' widths. -/
theorem slInternalXdgToplevelConfigure_statesLength (X : Extern) (ctx : SlContext) (p : Nat)
    {w : SlWindow} (paired : Option SlHostSurface) (width height : Int) (states : List Nat)
    (hw : w.managed = true) :
    (slInternalXdgToplevelConfigure X ctx p w paired width height states).2.1.nextConfig.statesLength =
      (states.map stateWidth).sum := by
  obtain ⟨mask, values, h, -⟩ := slInternalXdgToplevelConfigure_managed X ctx p paired width height
    states hw
  rw [h]
  exact (statesLoop_states ctx.atoms states).2

/-- A states array that lists fullscreen, maximized and activated once each makes a managed
window's `next_config` hold four atoms, one more than its buffer has room for. -/
theorem slInternalXdgToplevelConfigure_overruns_states (X : Extern) (ctx : SlContext) (p : Nat)
    {w : SlWindow} (paired : Option SlHostSurface) (width height : Int) (hw : w.managed = true) :
    (slInternalXdgToplevelConfigure X ctx p w paired width height
        [XDG_TOPLEVEL_STATE_FULLSCREEN, XDG_TOPLEVEL_STATE_MAXIMIZED,
          XDG_TOPLEVEL_STATE_ACTIVATED]).2.1.nextConfig.statesLength = 4 ∧
      statesCapacity < 4 := by
  refine ⟨?_, by decide⟩
  rw [slInternalXdgToplevelConfigure_statesLength X ctx p paired width height _ hw]
  rfl

/-- Fullscreen, maximized and activated give a new managed window four state atoms, one past
the three `next_config.states` holds. -/
theorem slInternalXdgToplevelConfigure_overruns_states_new :
    (SlWindow.blank true Props.unset).managed = true ∧
      (slInternalXdgToplevelConfigure (Extern.unscaled false) (SlContext.sample true) 0
          (SlWindow.blank true Props.unset) none 0 0
          [XDG_TOPLEVEL_STATE_FULLSCREEN, XDG_TOPLEVEL_STATE_MAXIMIZED,
            XDG_TOPLEVEL_STATE_ACTIVATED]).2.1.nextConfig.statesLength = 4 ∧
        statesCapacity < 4 :=
  ⟨rfl, slInternalXdgToplevelConfigure_overruns_states (Extern.unscaled false) (SlContext.sample true) 0
    none 0 0 rfl⟩

/-- The fourth atom of that array, the focused atom, lands on `pending_config.serial`. -/
theorem slInternalXdgToplevelConfigure_overwrites_serial (X : Extern) (ctx : SlContext) (p : Nat)
    {w : SlWindow} (paired : Option SlHostSurface) (width height : Int) (hw : w.managed = true) :
    (slInternalXdgToplevelConfigure X ctx p w paired width height
        [XDG_TOPLEVEL_STATE_FULLSCREEN, XDG_TOPLEVEL_STATE_MAXIMIZED,
          XDG_TOPLEVEL_STATE_ACTIVATED]).2.1.pendingConfig.serial = ctx.atoms.netWmStateFocused := by
  have : overrunWords ctx w [XDG_TOPLEVEL_STATE_FULLSCREEN, XDG_TOPLEVEL_STATE_MAXIMIZED,
      XDG_TOPLEVEL_STATE_ACTIVATED] = [ctx.atoms.netWmStateFocused] := by
    simp [overrunWords, hw, (statesLoop_states _ _).1, stateAtoms, statesCapacity,
      XDG_TOPLEVEL_STATE_FULLSCREEN, XDG_TOPLEVEL_STATE_MAXIMIZED, XDG_TOPLEVEL_STATE_ACTIVATED]
  rw [slInternalXdgToplevelConfigure_pending, this, SlConfig.writeFrom_cons_serial]

end Sommelier

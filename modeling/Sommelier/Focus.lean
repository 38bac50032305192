import Sommelier.Step

/-!
# The input focus

`ctx->host_focus_window` is written in two places of the file: the focus update at the end of
`sl_internal_xdg_toplevel_configure`, and the destructor, which clears it when the focused window
goes. From any state, no operation moves the focus without setting `needs_set_input_focus`
(`step_sets_needs_input_focus`), and every reachable state has a focus window that is live and
activated, or none (`FocusInv`).

The proof is one lemma per move (`Moves.focus`): only the toplevel listener moves the focus, and
every other move keeps the focus and the window's activation.
-/

namespace Sommelier

/-- The context's focus window is live and activated. -/
def FocusInv (W : World) : Prop :=
  ∀ q, W.ctx.hostFocusWindow = some q → ∃ w, W.heap q = some w ∧ w.activated = true

/-- What a move may do to the focus, relative to the context `ctx₀` before it: move it only with
`needs_set_input_focus`, onto window `p` only when `p` ends activated, and nowhere else. -/
def FocusMove (ctx₀ ctx : SlContext) (p : Nat) (w w' : SlWindow) : Prop :=
  (ctx.hostFocusWindow ≠ ctx₀.hostFocusWindow → ctx.needsSetInputFocus = true) ∧
    ∀ q, ctx.hostFocusWindow = some q →
      if q = p then (ctx₀.hostFocusWindow = some p → w.activated = true) → w'.activated = true
      else ctx₀.hostFocusWindow = some q

/-- A move that keeps the focus and the window's activation. -/
theorem FocusMove.of_same {ctx₀ ctx : SlContext} {p : Nat} {w w' : SlWindow}
    (hc : ctx.hostFocusWindow = ctx₀.hostFocusWindow) (ha : w'.activated = w.activated) :
    FocusMove ctx₀ ctx p w w' := by
  refine ⟨fun h => absurd hc h, fun q hq => ?_⟩
  rw [hc] at hq
  split_ifs with h
  · subst h
    exact fun hw => ha ▸ hw hq
  · exact hq

/-- Pairing a window moves no focus and changes no activation. -/
theorem pairingTransition_focus (objects : Nat → Option SlHostSurface) (ctx : SlContext) (p : Nat)
    (w : SlWindow) :
    (pairingTransition objects ctx p w).1.hostFocusWindow = ctx.hostFocusWindow ∧
      (pairingTransition objects ctx p w).2.1.activated = w.activated := by
  obtain ⟨ws, us, h₁⟩ := pairingTransition_ctx objects ctx p w
  obtain ⟨u, ps, h₂⟩ := pairingTransition_window objects ctx p w
  rw [h₁, h₂]
  exact ⟨rfl, rfl⟩

/-- Every way a step may change a window moves the focus as `FocusMove` allows. -/
theorem Moves.focus {X : Extern} {W : World} {p : Nat} {w w' : SlWindow} {sent : List Msg}
    {ctx : SlContext} {fresh : Nat} (hm : Moves X W p w w' sent ctx fresh) :
    FocusMove W.ctx ctx p w w' := by
  cases hm with
  | surfaceConfigure _ h =>
    obtain ⟨g, pc, nc, rfl⟩ := slInternalXdgSurfaceConfigure_engine h
    exact .of_same rfl rfl
  | toplevelConfigure width height states =>
    cases hw : w.managed
    · rw [slInternalXdgToplevelConfigure_unmanaged X W.ctx p _ width height states hw]
      exact .of_same rfl rfl
    · obtain ⟨mask, values, h₁, h₂⟩ :=
        slInternalXdgToplevelConfigure_managed X W.ctx p
          (getObject W.objects (w.pairedSurface.getD 0)) width height states hw
      rw [h₁, h₂]
      exact updateFocus_focus W.ctx p w _
  | close => exact .of_same rfl rfl
  | commit h =>
    obtain ⟨g, pc, nc, rfl⟩ := slCommit_engine h
    exact .of_same rfl rfl
  | @teardown ctx w₁ hr =>
    have h := pairingTransition_focus W.objects W.ctx p w
    rw [hr] at h
    exact .of_same h.1 h.2
  | @update ctx w₁ w₂ hs sent hr h =>
    have hf := pairingTransition_focus W.objects W.ctx p w
    rw [hr] at hf
    obtain ⟨g, pc, nc, r, rfl⟩ := finishUpdate_frame h
    have ha := congrArg SlWindow.activated (reconcile_window X W ctx p w₁ hs).1
    exact .of_same hf.1 (ha.trans hf.2)
  | pair id => exact .of_same rfl rfl
  | properties props => exact .of_same rfl rfl

/-- Destroying the focused window drops the focus and asks to set the input focus again. -/
theorem slWindowDestroy_focus (ctx : SlContext) (p : Nat) :
    (slWindowDestroy ctx p).hostFocusWindow =
        (if ctx.hostFocusWindow = some p then none else ctx.hostFocusWindow) ∧
      (ctx.hostFocusWindow = some p → (slWindowDestroy ctx p).needsSetInputFocus = true) := by
  unfold slWindowDestroy SlContext.unlink
  split_ifs <;> simp_all

/-- From any state, an operation that moves the focus sets `needs_set_input_focus`. -/
theorem step_sets_needs_input_focus {X : Extern} {W W' : World} {op : Op}
    (h : step X W op = some W') :
    W'.ctx.hostFocusWindow ≠ W.ctx.hostFocusWindow → W'.ctx.needsSetInputFocus = true := by
  rcases step_cases h with ⟨-, -, h₃, -⟩ | ⟨_, _, _, _, _, _, _, _, -, -, h₃, -⟩ |
    ⟨p, w, -, -, -, h₃, -⟩ | ⟨p, w, w', sent, -, hm, -⟩
  · exact fun hne => absurd (by rw [h₃]) hne
  · exact fun hne => absurd (by rw [h₃]) hne
  · obtain ⟨hf, hn⟩ := slWindowDestroy_focus W.ctx p
    rw [h₃]
    intro hne
    refine hn (by_contra fun hq' => hne ?_)
    rw [hf, if_neg hq']
  · exact hm.focus.1

/-- One operation keeps the invariant. -/
theorem FocusInv.step {X : Extern} {W W' : World} {op : Op} (hb : Bounded W) (hi : FocusInv W)
    (h : step X W op = some W') : FocusInv W' := by
  unfold FocusInv at hi ⊢
  rcases step_cases h with ⟨h₁, -, h₃, -⟩ | ⟨_, _, _, _, _, _, _, _, h₁, -, h₃, -⟩ |
    ⟨p, w, hp, h₁, -, h₃, -⟩ | ⟨p, w, w', sent, hp, hm, h₁, -⟩
  · rw [h₁, h₃]
    exact hi
  · rw [h₁, h₃]
    intro q hq
    obtain ⟨w, hq', ha⟩ := hi q hq
    exact ⟨w, by rw [Function.update_noteq (Nat.ne_of_lt (hb.lt hq'))]; exact hq', ha⟩
  · obtain ⟨hf, -⟩ := slWindowDestroy_focus W.ctx p
    rw [h₁, h₃]
    intro q hq
    rw [hf] at hq
    split_ifs at hq with hq'
    obtain ⟨w, hq'', ha⟩ := hi q hq
    exact ⟨w, by rw [Function.update_noteq (by rintro rfl; exact hq' hq)]; exact hq'', ha⟩
  · rw [h₁]
    intro q hfq
    have := hm.focus.2 q hfq
    split_ifs at this with hqp
    · subst hqp
      refine ⟨w', Function.update_same _ _ _, this fun hf => ?_⟩
      obtain ⟨w₀, hw₀, ha⟩ := hi q hf
      rw [hp] at hw₀
      exact Option.some.inj hw₀ ▸ ha
    · obtain ⟨w₀, hw₀, ha⟩ := hi q this
      exact ⟨w₀, by rw [Function.update_noteq hqp]; exact hw₀, ha⟩

/-- Every reachable world meets the focus invariant. -/
theorem Reachable.focusInv {X : Extern} {W : World} (hW : Reachable X W) : FocusInv W := by
  induction hW with
  | init => intro q h; cases h
  | step _ hW hs ih => exact ih.step hW.bounds hs

/-- In every reachable state the focus window is none or a live activated window, and from any
state no operation changes it without setting `needs_set_input_focus`. -/
theorem host_focus_window_live {X : Extern} {W : World} (hW : Reachable X W) :
    (W.ctx.hostFocusWindow = none ∨
      ∃ q w, W.ctx.hostFocusWindow = some q ∧ W.heap q = some w ∧ w.activated = true) ∧
      ∀ V op V', step X V op = some V' →
        V'.ctx.hostFocusWindow ≠ V.ctx.hostFocusWindow → V'.ctx.needsSetInputFocus = true := by
  refine ⟨?_, fun V op V' h => step_sets_needs_input_focus h⟩
  cases hf : W.ctx.hostFocusWindow with
  | none => exact .inl rfl
  | some q =>
    obtain ⟨w, hw, ha⟩ := hW.focusInv q hf
    exact .inr ⟨q, w, rfl, hw, ha⟩

/-- A managed window is paired, updated and activated by the compositor. -/
def focusRun : List Op :=
  [.create 100 0 0 10 10 0 true Props.unset, .surface 5 (some (SlHostSurface.sample 50 10 10 0)),
    .pair 0 5, .windowUpdate 0, .xdgToplevelConfigure 0 0 0 [XDG_TOPLEVEL_STATE_ACTIVATED]]

/-- The state after `focusRun`. -/
def focusState : World :=
  (run (Extern.unscaled true) (World.init (SlContext.sample true) fun _ => none) focusRun).getD
    (World.init (SlContext.sample true) fun _ => none)

/-- After `focusRun` window `0` has the focus, and the state meets `host_focus_window_live`. -/
theorem host_focus_window_live_focused :
    focusState.ctx.hostFocusWindow = some 0 ∧
      (focusState.ctx.hostFocusWindow = none ∨
        ∃ q w, focusState.ctx.hostFocusWindow = some q ∧ focusState.heap q = some w ∧
          w.activated = true) ∧
        ∀ V op V', step (Extern.unscaled true) V op = some V' →
          V'.ctx.hostFocusWindow ≠ V.ctx.hostFocusWindow → V'.ctx.needsSetInputFocus = true :=
  ⟨by decide, host_focus_window_live (reachable_run_getD _ (by decide))⟩

end Sommelier

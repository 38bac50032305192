import Sommelier.World

/-!
# What one operation does

`step_cases` says once everything a successful operation can do to the windows: leave them alone,
create one, destroy one, or move one live window `p` to a new state, sending messages about it.
`Moves` lists the ways a live window moves, one per listener or stage of the file, each stated
over the function that does it. Every invariant of the development is then proved from
`step_cases` and one lemma per constructor of `Moves`, never by unfolding `step` again.

`Reachable.bounds` is the first run invariant: windows and log entries only name pointers below
`nextWindow`, so a newly created window has no past.
-/

namespace Sommelier

/-- What one operation does to live window `p` of `W`, which is `w`: the window it leaves, the
messages it sends about `p`, and the context and the next fresh object after it. -/
inductive Moves (X : Extern) (W : World) (p : Nat) (w : SlWindow) :
    SlWindow → List Msg → SlContext → Nat → Prop
  /-- `xdg_surface.configure` on the window's `xdg_surface` `h`. -/
  | surfaceConfigure {h serial : Nat} {w' : SlWindow} {sent : List Msg} :
      w.xdgSurface = some h →
      slInternalXdgSurfaceConfigure X.commitLoopFix w (getObject W.objects w.hostSurfaceId) serial =
        some (w', sent) →
      Moves X W p w w' (.configure h serial :: sent) W.ctx W.fresh
  /-- `xdg_toplevel.configure`, with the ghost record of the atoms its states loop overruns. -/
  | toplevelConfigure (width height : Int) (states : List Nat) :
      Moves X W p w
        (slInternalXdgToplevelConfigure X W.ctx p w (getObject W.objects (w.pairedSurface.getD 0))
          width height states).2.1 (overrunRecord W.ctx w states)
        (slInternalXdgToplevelConfigure X W.ctx p w (getObject W.objects (w.pairedSurface.getD 0))
          width height states).1 W.fresh
  /-- `xdg_toplevel.close`. -/
  | close : Moves X W p w w [slInternalXdgToplevelClose W.ctx w] W.ctx W.fresh
  /-- `sl_commit`. -/
  | commit {hs : Option SlHostSurface} {w' : SlWindow} {sent : List Msg} :
      slCommit X.commitLoopFix w hs = some (w', sent) → Moves X W p w w' sent W.ctx W.fresh
  /-- `sl_window_update` without a host resource: the teardown. -/
  | teardown {ctx : SlContext} {w₁ : SlWindow} :
      pairingTransition W.objects W.ctx p w = (ctx, w₁, none) →
      Moves X W p w (teardown w₁).1 (teardown w₁).2 ctx W.fresh
  /-- `sl_window_update` with host surface `hs`. -/
  | update {ctx : SlContext} {w₁ w₂ : SlWindow} {hs : SlHostSurface} {sent : List Msg} :
      pairingTransition W.objects W.ctx p w = (ctx, w₁, some hs) →
      finishUpdate X (reconcile X W ctx p w₁ hs).host (reconcile X W ctx p w₁ hs).window =
        some (w₂, sent) →
      Moves X W p w w₂ ((reconcile X W ctx p w₁ hs).sent ++ sent) ctx (reconcile X W ctx p w₁ hs).fresh
  /-- sommelier.cc sets the window's `host_surface_id`. -/
  | pair (id : Nat) : Moves X W p w { w with hostSurfaceId := id } [] W.ctx W.fresh
  /-- sommelier.cc reads new X properties. -/
  | properties (props : Props) : Moves X W p w { w with props } [] W.ctx W.fresh

/-- A context with other lists and focus: all that an operation changes of the context. -/
def SlContext.withLists (ctx : SlContext) (windows unpairedWindows : List Nat)
    (hostFocusWindow : Option Nat) (needsSetInputFocus : Bool) : SlContext :=
  { ctx with windows, unpairedWindows, hostFocusWindow, needsSetInputFocus }

/-- A move changes the context's lists and focus, and nothing else of it. -/
theorem Moves.ctx_eq {X : Extern} {W : World} {p : Nat} {w w' : SlWindow} {sent : List Msg}
    {ctx : SlContext} {fresh : Nat} (hm : Moves X W p w w' sent ctx fresh) :
    ∃ ws us f n, ctx = W.ctx.withLists ws us f n := by
  have same : ∃ ws us f n, W.ctx = W.ctx.withLists ws us f n := ⟨_, _, _, _, rfl⟩
  cases hm with
  | toplevelConfigure width height states =>
    cases hw : w.managed
    · rw [slInternalXdgToplevelConfigure_unmanaged X W.ctx p _ width height states hw]
      exact same
    · obtain ⟨-, -, -, h⟩ := slInternalXdgToplevelConfigure_managed X W.ctx p
        (getObject W.objects (w.pairedSurface.getD 0)) width height states hw
      obtain ⟨f, n, h'⟩ := updateFocus_ctx W.ctx p w (statesLoop W.ctx.atoms states).activated
      rw [h, h']
      exact ⟨_, _, f, n, rfl⟩
  | @teardown ctx w₁ hr =>
    obtain ⟨ws, us, h⟩ := pairingTransition_ctx W.objects W.ctx p w
    rw [hr] at h
    exact ⟨ws, us, _, _, h⟩
  | @update ctx w₁ w₂ hs sent hr _ =>
    obtain ⟨ws, us, h⟩ := pairingTransition_ctx W.objects W.ctx p w
    rw [hr] at h
    exact ⟨ws, us, _, _, h⟩
  | _ => exact same

/-- What the configure engine reads of a window besides its handles: the managed flag, the
geometry, the pending configure and the queued serial. -/
def SlWindow.engine (w : SlWindow) : Bool × Geometry × SlConfig × Nat :=
  (w.managed, w.geometry, w.pendingConfig, w.nextConfig.serial)

/-- Every move of a window: one that keeps the engine's state and sends neither acknowledgments
nor ghost records, the surface listener, `sl_commit`, an update that ends in `sl_commit` on a
window with the same engine state, or a toplevel configure whose states loop overruns
`next_config.states` and writes state atoms over `pending_config`. -/
theorem Moves.engine_cases {X : Extern} {W : World} {p : Nat} {w w' : SlWindow} {sent : List Msg}
    {ctx : SlContext} {fresh : Nat} (hm : Moves X W p w w' sent ctx fresh) :
    (w'.engine = w.engine ∧ ∀ m ∈ sent, m.Quiet) ∨
    (∃ h serial s, w.xdgSurface = some h ∧ sent = .configure h serial :: s ∧
      slInternalXdgSurfaceConfigure X.commitLoopFix w (getObject W.objects w.hostSurfaceId) serial =
        some (w', s)) ∨
    (∃ hs, slCommit X.commitLoopFix w hs = some (w', sent)) ∨
    (∃ w₀ w₁ hs pre s r, X.commitLoopFix = true ∧ w₀.engine = w.engine ∧ (∀ m ∈ pre, m.Quiet) ∧
      slCommit true w₀ (some hs) = some (w₁, s) ∧ sent = pre ++ s ∧
      w' = { w₁ with realized := r }) ∨
    (∃ ws, ws ≠ [] ∧ (∀ a ∈ ws, a ≠ 0) ∧ sent = [.overrun ws] ∧
      w'.engine = (w.managed, w.geometry, w.pendingConfig.writeFrom 0 ws, w.nextConfig.serial)) := by
  cases hm with
  | surfaceConfigure hx h => exact .inr (.inl ⟨_, _, _, hx, rfl, h⟩)
  | toplevelConfigure width height states =>
    obtain ⟨m, v, sl, st, a, c, act, h⟩ := slInternalXdgToplevelConfigure_window X W.ctx p w
      (getObject W.objects (w.pairedSurface.getD 0)) width height states
    rw [h]
    rcases overrunRecord_cases W.ctx w states with ⟨h₁, h₂⟩ | ⟨h₁, h₂⟩
    · rw [h₁, h₂]
      exact .inl ⟨rfl, fun _ h => absurd h (List.not_mem_nil _)⟩
    · rw [h₂]
      exact .inr (.inr (.inr (.inr ⟨_, h₁, overrunWords_ne_zero W.ctx w states, rfl, rfl⟩)))
  | close => exact .inl ⟨rfl, fun m hm => by rw [List.mem_singleton.mp hm]; trivial⟩
  | commit h => exact .inr (.inr (.inl ⟨_, h⟩))
  | @teardown ctx w₁ hr =>
    obtain ⟨u, ps, rfl⟩ := pairingTransition_window_of hr
    exact .inl ⟨rfl, fun m hm => (teardown_plain _ m hm).quiet⟩
  | @update ctx w₁ w₂ hs sent hr h =>
    obtain ⟨u, ps, rfl⟩ := pairingTransition_window_of hr
    have hcore := reconcile_window X W ctx p { w with unpaired := u, pairedSurface := ps } hs
    have he : (reconcile X W ctx p { w with unpaired := u, pairedSurface := ps } hs).window.engine =
        w.engine := (congrArg SlWindow.engine hcore.1 :)
    have hq := fun m hm => (reconcile_plain X W ctx p { w with unpaired := u, pairedSurface := ps } hs
      m hm).quiet
    obtain ⟨w₃, hc, rfl⟩ := finishUpdate_some h
    rcases hc with ⟨hfix, hc⟩ | ⟨-, rfl, rfl⟩
    · split
      · exact .inr (.inr (.inr (.inl ⟨_, w₃, _, _, sent, true, hfix, he, hq, hc, rfl, rfl⟩)))
      · exact .inr (.inr (.inr (.inl ⟨_, w₃, _, _, sent, w₃.realized, hfix, he, hq, hc, rfl, rfl⟩)))
    · refine .inl ⟨?_, fun m hm => ?_⟩
      · split <;> exact he
      · rcases List.mem_append.mp hm with hm | hm
        · exact hq m hm
        · rw [List.mem_singleton.mp hm]; trivial
  | pair id => exact .inl ⟨rfl, fun _ h => absurd h (List.not_mem_nil _)⟩
  | properties props => exact .inl ⟨rfl, fun _ h => absurd h (List.not_mem_nil _)⟩

/-- What a successful operation leaves of a world where it changes no window. -/
def World.Same (W W' : World) : Prop :=
  W'.heap = W.heap ∧ W'.log = W.log ∧ W'.ctx = W.ctx ∧ W'.nextWindow = W.nextWindow ∧
    W'.fresh = W.fresh

/-- Everything one successful operation can do: nothing to the windows, create one, destroy one,
or move one. -/
theorem step_cases {X : Extern} {W W' : World} {op : Op} (h : step X W op = some W') :
    W.Same W' ∨
    (∃ id x y width height borderWidth managed props,
      W'.heap = Function.update W.heap W.nextWindow
        (some (SlWindow.new id x y width height borderWidth managed props)) ∧
      W'.log = W.log ∧ W'.ctx = { W.ctx with unpairedWindows := W.nextWindow :: W.ctx.unpairedWindows } ∧
      W'.nextWindow = W.nextWindow + 1 ∧ W'.fresh = W.fresh) ∨
    (∃ p w, W.heap p = some w ∧ W'.heap = Function.update W.heap p none ∧ W'.log = W.log ∧
      W'.ctx = slWindowDestroy W.ctx p ∧ W'.nextWindow = W.nextWindow ∧ W'.fresh = W.fresh) ∨
    (∃ p w w' sent, W.heap p = some w ∧ Moves X W p w w' sent W'.ctx W'.fresh ∧
      W'.heap = Function.update W.heap p (some w') ∧ W'.log = emit p sent W.log ∧
      W'.nextWindow = W.nextWindow) := by
  have same : W.Same W := ⟨rfl, rfl, rfl, rfl, rfl⟩
  cases op with
  | create id x y width height borderWidth managed props =>
    simp only [step, Option.some.injEq] at h
    subst h
    exact .inr (.inl ⟨id, x, y, width, height, borderWidth, managed, props, rfl, rfl, rfl, rfl, rfl⟩)
  | destroy p =>
    cases hp : W.heap p with
    | none => simp only [step, hp, Option.some.injEq] at h; exact .inl (h ▸ same)
    | some w =>
      simp only [step, hp, Option.some.injEq] at h
      subst h
      exact .inr (.inr (.inl ⟨p, w, hp, rfl, rfl, rfl, rfl, rfl⟩))
  | xdgSurfaceConfigure p serial =>
    cases hp : W.heap p with
    | none => simp only [step, hp, Option.some.injEq] at h; exact .inl (h ▸ same)
    | some w =>
      cases hx : w.xdgSurface with
      | none => simp only [step, hp, hx, Option.some.injEq] at h; exact .inl (h ▸ same)
      | some x =>
        simp only [step, hp, hx] at h
        obtain ⟨⟨w', sent⟩, h₁, rfl⟩ := Option.map_eq_some'.mp h
        exact .inr (.inr (.inr ⟨p, w, w', _, hp, .surfaceConfigure hx h₁, rfl, rfl, rfl⟩))
  | xdgToplevelConfigure p width height states =>
    cases hp : W.heap p with
    | none => simp only [step, hp, Option.some.injEq] at h; exact .inl (h ▸ same)
    | some w =>
      simp only [step, hp, Option.some.injEq] at h
      subst h
      exact .inr (.inr (.inr ⟨p, w, _, _, hp, .toplevelConfigure width height states, rfl, rfl, rfl⟩))
  | xdgToplevelClose p =>
    cases hp : W.heap p with
    | none => simp only [step, hp, Option.some.injEq] at h; exact .inl (h ▸ same)
    | some w =>
      simp only [step, hp, Option.some.injEq] at h
      subst h
      exact .inr (.inr (.inr ⟨p, w, w, _, hp, .close, rfl, rfl, rfl⟩))
  | commit p hs =>
    cases hp : W.heap p with
    | none => simp only [step, hp, Option.some.injEq] at h; exact .inl (h ▸ same)
    | some w =>
      simp only [step, hp] at h
      obtain ⟨⟨w', sent⟩, h₁, rfl⟩ := Option.map_eq_some'.mp h
      exact .inr (.inr (.inr ⟨p, w, w', sent, hp, .commit h₁, rfl, rfl, rfl⟩))
  | windowUpdate p =>
    cases hp : W.heap p with
    | none => simp only [step, slWindowUpdate, hp, Option.some.injEq] at h; exact .inl (h ▸ same)
    | some w =>
      obtain ⟨ctx, w₁, res, hr, ⟨rfl, rfl⟩ | ⟨hs, w₂, sent, rfl, h₁, rfl⟩⟩ :=
        slWindowUpdate_cases hp h
      · exact .inr (.inr (.inr ⟨p, w, _, _, hp, .teardown hr, rfl, rfl, rfl⟩))
      · exact .inr (.inr (.inr ⟨p, w, w₂, _, hp, .update hr h₁, rfl, rfl, rfl⟩))
  | surface id s =>
    simp only [step, Option.some.injEq] at h
    subst h
    exact .inl same
  | pair p id =>
    cases hp : W.heap p with
    | none => simp only [step, hp, Option.some.injEq] at h; exact .inl (h ▸ same)
    | some w =>
      simp only [step, hp, Option.some.injEq] at h
      subst h
      exact .inr (.inr (.inr ⟨p, w, _, [], hp, .pair id, rfl, rfl, rfl⟩))
  | properties p props =>
    cases hp : W.heap p with
    | none => simp only [step, hp, Option.some.injEq] at h; exact .inl (h ▸ same)
    | some w =>
      simp only [step, hp, Option.some.injEq] at h
      subst h
      exact .inr (.inr (.inr ⟨p, w, _, [], hp, .properties props, rfl, rfl, rfl⟩))

/-- No operation changes the context's settings: the aura shell, Xwayland, the ids and the
atoms. -/
theorem step_ctx {X : Extern} {W W' : World} {op : Op} (h : step X W op = some W') :
    ∃ ws us f n, W'.ctx = W.ctx.withLists ws us f n := by
  rcases step_cases h with ⟨-, -, h₃, -⟩ | ⟨_, _, _, _, _, _, _, _, -, -, h₃, -⟩ |
    ⟨p, w, -, -, -, h₃, -⟩ | ⟨p, w, w', sent, -, hm, -⟩
  · exact ⟨_, _, _, _, h₃⟩
  · exact ⟨_, _, _, _, h₃⟩
  · rw [h₃]
    unfold slWindowDestroy SlContext.unlink
    split_ifs
    · exact ⟨_, _, _, _, rfl⟩
    · exact ⟨_, _, _, _, rfl⟩
  · exact hm.ctx_eq

/-- An entry of the log after emitting is one of the sent messages, for `p`, or an old entry. -/
theorem mem_emit {e : Nat × Msg} {p : Nat} {sent : List Msg} {log : List (Nat × Msg)} :
    e ∈ emit p sent log ↔ (e.1 = p ∧ e.2 ∈ sent) ∨ e ∈ log := by
  obtain ⟨q, m⟩ := e
  simp only [emit, List.mem_append, List.mem_reverse, List.mem_map, Prod.mk.injEq]
  constructor
  · rintro (⟨m', hm, rfl, rfl⟩ | h)
    · exact .inl ⟨rfl, hm⟩
    · exact .inr h
  · rintro (⟨rfl, hm⟩ | h)
    · exact .inl ⟨m, hm, rfl, rfl⟩
    · exact .inr h

/-- Emitting two lists is emitting one after the other. -/
theorem emit_append (p : Nat) (xs ys : List Msg) (log : List (Nat × Msg)) :
    emit p (xs ++ ys) log = emit p ys (emit p xs log) := by
  simp [emit]

/-- A heap updated at `p` holds at `q` the new value when `q = p`, and the old one otherwise. -/
theorem update_eq_some {heap : Nat → Option SlWindow} {p q : Nat} {v : Option SlWindow}
    {w : SlWindow} (h : Function.update heap p v q = some w) :
    (q = p ∧ v = some w) ∨ (q ≠ p ∧ heap q = some w) := by
  by_cases hq : q = p
  · subst hq
    exact .inl ⟨rfl, by rwa [Function.update_same] at h⟩
  · rw [Function.update_noteq hq] at h
    exact .inr ⟨hq, h⟩

/-! ## Runs -/

section Runs

variable {X : Extern}

/-- Windows and log entries only name pointers below `nextWindow`. -/
structure Bounded (W : World) : Prop where
  /-- No window lives at or past the next pointer. -/
  heap : ∀ p, W.nextWindow ≤ p → W.heap p = none
  /-- The log only speaks of pointers already handed out. -/
  log : ∀ e ∈ W.log, e.1 < W.nextWindow

/-- A live window's pointer is below the next pointer. -/
theorem Bounded.lt {W : World} (hb : Bounded W) {p : Nat} {w : SlWindow} (hp : W.heap p = some w) :
    p < W.nextWindow :=
  Nat.lt_of_not_le fun h => by simp [hb.heap p h] at hp

/-- Every step keeps the bounds. -/
theorem Bounded.step {W W' : World} {op : Op} (hb : Bounded W) (h : step X W op = some W') :
    Bounded W' := by
  rcases step_cases h with ⟨h₁, h₂, -, h₄, -⟩ | ⟨_, _, _, _, _, _, _, _, h₁, h₂, -, h₄, -⟩ |
    ⟨p, w, hp, h₁, h₂, -, h₄, -⟩ | ⟨p, w, w', sent, hp, -, h₁, h₂, h₄⟩
  · exact ⟨fun q hq => by rw [h₁]; exact hb.heap q (h₄ ▸ hq), fun e he => h₄ ▸ hb.log e (h₂ ▸ he)⟩
  · refine ⟨fun q hq => ?_, fun e he => ?_⟩
    · rw [h₁, Function.update_noteq (by omega)]
      exact hb.heap q (by omega)
    · have := hb.log e (h₂ ▸ he)
      omega
  · refine ⟨fun q hq => ?_, fun e he => h₄ ▸ hb.log e (h₂ ▸ he)⟩
    rw [h₁]
    by_cases hq' : q = p
    · subst hq'; simp
    · rw [Function.update_noteq hq']; exact hb.heap q (h₄ ▸ hq)
  · have hlt := hb.lt hp
    refine ⟨fun q hq => ?_, fun e he => ?_⟩
    · rw [h₁, Function.update_noteq (by omega)]
      exact hb.heap q (by omega)
    · rw [h₂, mem_emit] at he
      rcases he with ⟨he, -⟩ | he
      · omega
      · exact h₄ ▸ hb.log e he

/-- Every reachable world is bounded. -/
theorem Reachable.bounds {W : World} (h : Reachable X W) : Bounded W := by
  induction h with
  | init => exact ⟨fun _ _ => rfl, fun _ he => absurd he (List.not_mem_nil _)⟩
  | step _ _ hs ih => exact ih.step hs

/-- A property of single windows that every new window has and every move keeps holds of every
live window of every reachable state. -/
theorem Reachable.window_induction {P : SlWindow → Prop}
    (hnew : ∀ id x y width height borderWidth managed props,
      P (SlWindow.new id x y width height borderWidth managed props))
    (hmove : ∀ {W p w w' sent ctx fresh}, Reachable X W → W.heap p = some w →
      Moves X W p w w' sent ctx fresh → P w → P w')
    {W : World} (hW : Reachable X W) : ∀ p w, W.heap p = some w → P w := by
  induction hW with
  | init => intro _ _ h; cases h
  | @step W W' op hW hs ih =>
    intro q w' hq
    rcases step_cases hs with ⟨h₁, -⟩ | ⟨_, _, _, _, _, _, _, _, h₁, -⟩ |
      ⟨p, w, hp, h₁, -⟩ | ⟨p, w, w₁, sent, hp, hm, h₁, -⟩ <;> rw [h₁] at hq
    · exact ih q w' hq
    · rcases update_eq_some hq with ⟨-, ⟨⟩⟩ | ⟨-, hq⟩
      · exact hnew ..
      · exact ih q w' hq
    · rcases update_eq_some hq with ⟨-, ⟨⟩⟩ | ⟨-, hq⟩
      exact ih q w' hq
    · rcases update_eq_some hq with ⟨-, ⟨⟩⟩ | ⟨-, hq⟩
      · exact hmove hW hp hm (ih p w hp)
      · exact ih q w' hq

/-- A property of a window and the log that every new window has with a log that does not speak of
it, that messages about other windows keep, and that every move keeps with the messages it sends,
holds of every live window of every reachable state with its log. -/
theorem Reachable.window_log_induction {P : Nat → SlWindow → List (Nat × Msg) → Prop}
    (hnew : ∀ p log id x y width height borderWidth managed props, (∀ e ∈ log, e.1 ≠ p) →
      P p (SlWindow.new id x y width height borderWidth managed props) log)
    (hother : ∀ {p w log q sent}, q ≠ p → P p w log → P p w (emit q sent log))
    (hmove : ∀ {W p w w' sent ctx fresh}, Reachable X W → W.heap p = some w →
      Moves X W p w w' sent ctx fresh → P p w W.log → P p w' (emit p sent W.log))
    {W : World} (hW : Reachable X W) : ∀ p w, W.heap p = some w → P p w W.log := by
  induction hW with
  | init => intro _ _ h; cases h
  | @step W W' op hW hs ih =>
    intro q w' hq
    rcases step_cases hs with ⟨h₁, h₂, -⟩ | ⟨_, _, _, _, _, _, _, _, h₁, h₂, -⟩ |
      ⟨p, w, hp, h₁, h₂, -⟩ | ⟨p, w, w₁, sent, hp, hm, h₁, h₂, -⟩ <;> rw [h₁] at hq <;> rw [h₂]
    · exact ih q w' hq
    · rcases update_eq_some hq with ⟨rfl, ⟨⟩⟩ | ⟨-, hq⟩
      · exact hnew _ _ _ _ _ _ _ _ _ _ fun e he => Nat.ne_of_lt (hW.bounds.log e he)
      · exact ih q w' hq
    · rcases update_eq_some hq with ⟨-, ⟨⟩⟩ | ⟨-, hq⟩
      exact ih q w' hq
    · rcases update_eq_some hq with ⟨rfl, ⟨⟩⟩ | ⟨hq', hq⟩
      · exact hmove hW hp hm (ih _ w hp)
      · exact hother (Ne.symm hq') (ih q w' hq)

end Runs

end Sommelier

import Sommelier.Update

/-!
# Windows in a running proxy

The state of the proxy as far as the file sees it: the context, the live windows by pointer, the
client's surface resources by id, the X server's depth replies, the next window pointer and the
next protocol object, and the log of messages, newest first, each with the window it is about.
Pointers and protocol objects are never reused, so a pointer or a handle names one window or one
object over a whole run.

An `Op` is a call of the file (the constructor and destructor, the listeners, `sl_commit` and
`sl_window_update`) or a change the rest of sommelier makes between calls: a client surface
resource appears, changes or goes away, a window gets a host surface id, or its X properties
change. `step` runs one, and is `none` exactly when an assertion fails. `Reachable` is every state
that a run from a new proxy reaches.
-/

namespace Sommelier

/-- The proxy's state as the window code sees it. -/
structure World where
  ctx : SlContext
  heap : Nat → Option SlWindow
  objects : Nat → Option SlHostSurface
  depthReply : Nat → Option Nat
  nextWindow : Nat
  fresh : Nat
  log : List (Nat × Msg)

/-- A new proxy: no windows, no surface resources, and an empty log. -/
def World.init (ctx : SlContext) (depthReply : Nat → Option Nat) : World where
  ctx := { ctx with windows := [], unpairedWindows := [], hostFocusWindow := none }
  heap := fun _ => none
  objects := fun _ => none
  depthReply := depthReply
  nextWindow := 0
  fresh := 1
  log := []

/-- The messages `sent`, in order, about window `p`, on top of a log. -/
def emit (p : Nat) (sent : List Msg) (log : List (Nat × Msg)) : List (Nat × Msg) :=
  (sent.map (p, ·)).reverse ++ log

/-- `sl_window::~sl_window`: a window that has the input focus gives it up, and the window leaves
its list. -/
def slWindowDestroy (ctx : SlContext) (p : Nat) : SlContext :=
  let ctx := if ctx.hostFocusWindow = some p then
      { ctx with hostFocusWindow := none, needsSetInputFocus := true }
    else ctx
  ctx.unlink p

/-- `window->paired_surface = host_surface` and the rescale of `sl_window_update` on a paired
window: the host surface after `sl_transform_try_window_scale`, and the window. -/
def bindPairedSurface (X : Extern) (hs : SlHostSurface) (w : SlWindow) : SlHostSurface × SlWindow :=
  if w.unpaired = false then
    ({ hs with scale := X.tryWindowScale hs.scale w.width w.height },
      { w with pairedSurface := some w.hostSurfaceId })
  else (hs, w)

/-- What the stages of `sl_window_update` between the pairing transition and the commit leave:
the surface resources, the host surface, the parent resolved, the next fresh object, the window,
and the messages. -/
structure Reconciled where
  objects : Nat → Option SlHostSurface
  host : SlHostSurface
  parent : Option Nat
  fresh : Nat
  window : SlWindow
  sent : List Msg

/-- The stages of `sl_window_update` between the pairing transition and the commit, for window `w`
with host surface `hs`: the paired surface, the parent, the depth, the `xdg_surface`, the aura
block, the role and the aura parent. -/
def reconcile (X : Extern) (W : World) (ctx : SlContext) (p : Nat) (w : SlWindow)
    (hs : SlHostSurface) : Reconciled :=
  let b := bindPairedSurface X hs w
  let objects := if w.unpaired = false then Function.update W.objects w.hostSurfaceId (some b.1)
    else W.objects
  let parent := resolveParent (peek W.heap p b.2) objects ctx b.2
  let s₁ := ensureXdgSurface b.1 W.fresh (queryDepth W.depthReply b.2)
  let s₂ := auraStage X ctx b.1 s₁.1 s₁.2.1
  let sc := (s₂.2.1.pairedSurface.bind (getObject objects)).map (·.scale)
  let s₃ := assignRole X ctx W.heap p parent sc s₂.1 s₂.2.1
  ⟨objects, b.1, parent, s₃.1, s₃.2.1,
    s₁.2.2 ++ s₂.2.2 ++ s₃.2.2 ++ auraParent X ctx W.heap p parent sc s₃.2.1⟩

/-- The end of `sl_window_update`: with `COMMIT_LOOP_FIX`, `sl_commit`, and otherwise a plain
surface commit; the window is realized once its host surface has contents. -/
def finishUpdate (X : Extern) (hs : SlHostSurface) (w : SlWindow) : Option (SlWindow × List Msg) :=
  let committed := if X.commitLoopFix then slCommit true w (some hs)
    else some (w, [Msg.surfaceCommit hs.proxy])
  committed.map fun (w, sent) =>
    (if hs.contentsWidth ≠ 0 ∧ hs.contentsHeight ≠ 0 then { w with realized := true } else w, sent)

/-- `sl_window_update` on window `p`. -/
def slWindowUpdate (X : Extern) (W : World) (p : Nat) : Option World :=
  match W.heap p with
  | none => some W
  | some w =>
    match pairingTransition W.objects W.ctx p w with
    | (ctx, w, none) =>
      let (w, sent) := teardown w
      some { W with ctx, heap := Function.update W.heap p (some w), log := emit p sent W.log }
    | (ctx, w, some hs) =>
      let r := reconcile X W ctx p w hs
      (finishUpdate X r.host r.window).map fun (w, sent) =>
        { W with ctx, objects := r.objects, fresh := r.fresh, heap := Function.update W.heap p (some w),
                 log := emit p (r.sent ++ sent) W.log }

/-- The parent that `sl_window_update` resolves for window `p`; `none` when it finds no host
resource. -/
def updateParent (X : Extern) (W : World) (p : Nat) : Option Nat :=
  match W.heap p with
  | none => none
  | some w =>
    match pairingTransition W.objects W.ctx p w with
    | (_, _, none) => none
    | (ctx, w, some hs) => (reconcile X W ctx p w hs).parent

/-- An operation of a run. -/
inductive Op where
  /-- sommelier.cc creates a window (`sl_window::sl_window`), managed or not, with its X
  properties. -/
  | create (id : Nat) (x y width height borderWidth : Int) (managed : Bool) (props : Props)
  /-- sommelier.cc destroys window `p` (`sl_window::~sl_window`). -/
  | destroy (p : Nat)
  /-- The compositor's `xdg_surface.configure` on window `p`'s `xdg_surface`. -/
  | xdgSurfaceConfigure (p serial : Nat)
  /-- The compositor's `xdg_toplevel.configure` for window `p`. -/
  | xdgToplevelConfigure (p : Nat) (width height : Int) (states : List Nat)
  /-- The compositor's `xdg_toplevel.close` on window `p`'s toplevel. -/
  | xdgToplevelClose (p : Nat)
  /-- `sl_commit` on window `p` with a host surface. -/
  | commit (p : Nat) (hs : Option SlHostSurface)
  /-- `sl_window_update` on window `p`. -/
  | windowUpdate (p : Nat)
  /-- The client creates, changes or destroys the surface resource `id`. -/
  | surface (id : Nat) (s : Option SlHostSurface)
  /-- sommelier.cc sets window `p`'s `host_surface_id`. -/
  | pair (p hostSurfaceId : Nat)
  /-- sommelier.cc reads new X properties of window `p`. -/
  | properties (p : Nat) (props : Props)

/-- Window `p` becomes `w`, with the messages `sent`. -/
def World.put (W : World) (p : Nat) (w : SlWindow) (sent : List Msg) : World :=
  { W with heap := Function.update W.heap p (some w), log := emit p sent W.log }

/-- One operation; `none` when an assertion fails. An operation on a window that is not live, or
an event on a protocol object the window does not have, changes nothing. -/
def step (X : Extern) (W : World) : Op → Option World
  | .create id x y width height borderWidth managed props =>
    let p := W.nextWindow
    some { W with
      heap := Function.update W.heap p (some (SlWindow.new id x y width height borderWidth managed props)),
      ctx := { W.ctx with unpairedWindows := p :: W.ctx.unpairedWindows },
      nextWindow := p + 1 }
  | .destroy p =>
    match W.heap p with
    | some _ => some { W with heap := Function.update W.heap p none, ctx := slWindowDestroy W.ctx p }
    | none => some W
  | .xdgSurfaceConfigure p serial =>
    match W.heap p with
    | some w =>
      match w.xdgSurface with
      | some h =>
        (slInternalXdgSurfaceConfigure X.commitLoopFix w (getObject W.objects w.hostSurfaceId)
          serial).map fun (w', sent) => W.put p w' (.configure h serial :: sent)
      | none => some W
    | none => some W
  | .xdgToplevelConfigure p width height states =>
    match W.heap p with
    | some w =>
      let paired := getObject W.objects (w.pairedSurface.getD 0)
      let (ctx, w', sc) := slInternalXdgToplevelConfigure X W.ctx p w paired width height states
      let objects := match paired, sc with
        | some hs, some s => Function.update W.objects (w.pairedSurface.getD 0) (some { hs with scale := s })
        | _, _ => W.objects
      some { W.put p w' (overrunRecord W.ctx w states) with ctx, objects }
    | none => some W
  | .xdgToplevelClose p =>
    match W.heap p with
    | some w => some (W.put p w [slInternalXdgToplevelClose W.ctx w])
    | none => some W
  | .commit p hs =>
    match W.heap p with
    | some w => (slCommit X.commitLoopFix w hs).map fun (w', sent) => W.put p w' sent
    | none => some W
  | .windowUpdate p => slWindowUpdate X W p
  | .surface id s => some { W with objects := Function.update W.objects id s }
  | .pair p id =>
    match W.heap p with
    | some w => some (W.put p { w with hostSurfaceId := id } [])
    | none => some W
  | .properties p props =>
    match W.heap p with
    | some w => some (W.put p { w with props } [])
    | none => some W

/-- The states that runs from a new proxy reach. -/
inductive Reachable (X : Extern) : World → Prop where
  | init (ctx : SlContext) (depthReply : Nat → Option Nat) : Reachable X (World.init ctx depthReply)
  | step {W W' : World} (op : Op) : Reachable X W → step X W op = some W' → Reachable X W'

/-- A run of operations; `none` when one of them fails an assertion. -/
def run (X : Extern) (W : World) : List Op → Option World
  | [] => some W
  | op :: ops => (step X W op).bind fun W' => run X W' ops

/-- A property of states that every step keeps holds at the end of every run. -/
theorem run_invariant {X : Extern} {P : World → Prop}
    (hP : ∀ {W W' : World} {op : Op}, P W → step X W op = some W' → P W') {W W' : World}
    {ops : List Op} (h : P W) (hr : run X W ops = some W') : P W' := by
  induction ops generalizing W with
  | nil => simp only [run, Option.some.injEq] at hr; exact hr ▸ h
  | cons op ops ih =>
    simp only [run, Option.bind_eq_some] at hr
    obtain ⟨W₁, h₁, h₂⟩ := hr
    exact ih (hP h h₁) h₂

/-- Every state of a run from a reachable state is reachable. -/
theorem Reachable.run {X : Extern} {W W' : World} {ops : List Op} (h : Reachable X W)
    (hr : Sommelier.run X W ops = some W') : Reachable X W' :=
  run_invariant (fun hW h₁ => hW.step _ h₁) h hr

/-- A run from a new proxy that ends in a state where `P` holds. -/
theorem reach_of_run (X : Extern) (ctx : SlContext) (depthReply : Nat → Option Nat) (ops : List Op)
    (P : World → Bool) (h : (run X (World.init ctx depthReply) ops).map P = some true) :
    ∃ W, Reachable X W ∧ P W = true := by
  cases hr : run X (World.init ctx depthReply) ops with
  | none => simp [hr] at h
  | some W =>
    simp only [hr, Option.map_some', Option.some.injEq] at h
    exact ⟨W, (Reachable.init ctx depthReply).run hr, h⟩

/-- The state a run from a new proxy ends in is reachable, when the run succeeds. -/
theorem reachable_run_getD {X : Extern} {ctx : SlContext} {depthReply : Nat → Option Nat}
    {ops : List Op} (W₀ : World) (h : (run X (World.init ctx depthReply) ops).isSome = true) :
    Reachable X ((run X (World.init ctx depthReply) ops).getD W₀) := by
  obtain ⟨W, hW⟩ := Option.isSome_iff_exists.mp h
  rw [hW]
  exact (Reachable.init ctx depthReply).run hW

/-! ## What `sl_window_update` does -/

theorem pairingTransition_window (objects : Nat → Option SlHostSurface) (ctx : SlContext)
    (p : Nat) (w : SlWindow) :
    ∃ u ps, (pairingTransition objects ctx p w).2.1 = { w with unpaired := u, pairedSurface := ps } := by
  unfold pairingTransition
  dsimp only
  split_ifs
  · exact ⟨_, w.pairedSurface, rfl⟩
  · exact ⟨w.unpaired, w.pairedSurface, rfl⟩
  · exact ⟨_, _, rfl⟩
  · exact ⟨w.unpaired, w.pairedSurface, rfl⟩

/-- Pairing changes only the window's `unpaired` flag and paired surface. -/
theorem pairingTransition_window_of {objects : Nat → Option SlHostSurface} {ctx ctx' : SlContext}
    {p : Nat} {w w₁ : SlWindow} {res : Option SlHostSurface}
    (h : pairingTransition objects ctx p w = (ctx', w₁, res)) :
    ∃ u ps, w₁ = { w with unpaired := u, pairedSurface := ps } := by
  obtain ⟨u, ps, hw⟩ := pairingTransition_window objects ctx p w
  rw [h] at hw
  exact ⟨u, ps, hw⟩

/-- After the pairing transition, a window whose host resource exists is paired. -/
theorem pairingTransition_paired {objects : Nat → Option SlHostSurface} {ctx : SlContext}
    {p : Nat} {w : SlWindow} {hs : SlHostSurface}
    (h : (pairingTransition objects ctx p w).2.2 = some hs) :
    (pairingTransition objects ctx p w).2.1.unpaired = false := by
  unfold pairingTransition at *
  dsimp only at *
  split_ifs at h ⊢ <;> simp_all

/-- Pairing changes only the context's window lists. -/
theorem pairingTransition_ctx (objects : Nat → Option SlHostSurface) (ctx : SlContext) (p : Nat)
    (w : SlWindow) : ∃ ws us, (pairingTransition objects ctx p w).1 =
      { ctx with windows := ws, unpairedWindows := us } := by
  unfold pairingTransition SlContext.unlink
  dsimp only
  split_ifs
  · exact ⟨_, _, rfl⟩
  · exact ⟨ctx.windows, ctx.unpairedWindows, rfl⟩
  · exact ⟨_, _, rfl⟩
  · exact ⟨ctx.windows, ctx.unpairedWindows, rfl⟩

/-- The teardown drops the window's compositor objects and unrealizes it. -/
@[simp] theorem teardown_window (w : SlWindow) :
    (teardown w).1 =
      { w with auraSurface := none, xdgToplevel := none, xdgPopup := none, xdgSurface := none,
               realized := false } := rfl

/-- The teardown sends only plain messages. -/
theorem teardown_plain (w : SlWindow) : ∀ m ∈ (teardown w).2, m.Plain := by
  simp only [teardown, List.mem_append, Option.mem_toList, Option.mem_map]
  rintro m (((⟨_, _, rfl⟩ | ⟨_, _, rfl⟩) | ⟨_, _, rfl⟩) | ⟨_, _, rfl⟩) <;> trivial

/-- Binding the paired surface changes only the window's paired surface. -/
theorem bindPairedSurface_window (X : Extern) (hs : SlHostSurface) (w : SlWindow) :
    ∃ ps, (bindPairedSurface X hs w).2 = { w with pairedSurface := ps } := by
  unfold bindPairedSurface
  split
  · exact ⟨_, rfl⟩
  · exact ⟨w.pairedSurface, rfl⟩

/-- Everything the stages between the pairing transition and the commit do to the window: they
keep its core, give it an `xdg_surface` (object `W.fresh` when it had none), a role, and an aura
surface when the aura shell is bound, and on Xwayland they leave its popup alone. -/
theorem reconcile_window (X : Extern) (W : World) (ctx : SlContext) (p : Nat) (w : SlWindow)
    (hs : SlHostSurface) :
    (reconcile X W ctx p w hs).window.core = w.core ∧
      (reconcile X W ctx p w hs).window.xdgSurface = some (w.xdgSurface.getD W.fresh) ∧
      ((reconcile X W ctx p w hs).window.xdgToplevel.isSome ∨
        (reconcile X W ctx p w hs).window.xdgPopup.isSome) ∧
      (ctx.auraShell.isSome → (reconcile X W ctx p w hs).window.auraSurface.isSome) ∧
      (ctx.xwayland = true → (reconcile X W ctx p w hs).window.xdgPopup = w.xdgPopup) := by
  obtain ⟨ps, hps⟩ := bindPairedSurface_window X hs w
  obtain ⟨d, hd⟩ := queryDepth_eq W.depthReply { w with pairedSurface := ps }
  simp only [reconcile, hps, hd, auraStage_window, ensureXdgSurface_window]
  have h := assignRole_handles X ctx W.heap p
  refine ⟨by rw [(h _ _ _ _).1]; rfl, by rw [(h _ _ _ _).2.1], (h _ _ _ _).2.2.2.1, fun ha => ?_,
    fun hx => by rw [(h _ _ _ _).2.2.2.2 hx]⟩
  rw [(h _ _ _ _).2.2.1]
  simp [ha]

/-- The stages of `sl_window_update` never lower the fresh counter, and raise it when they create
the `xdg_surface`. -/
theorem reconcile_fresh (X : Extern) (W : World) (ctx : SlContext) (p : Nat) (w : SlWindow)
    (hs : SlHostSurface) : W.fresh ≤ (reconcile X W ctx p w hs).fresh ∧
      (w.xdgSurface = none → W.fresh < (reconcile X W ctx p w hs).fresh) := by
  obtain ⟨ps, hps⟩ := bindPairedSurface_window X hs w
  obtain ⟨d, hd⟩ := queryDepth_eq W.depthReply { w with pairedSurface := ps }
  simp only [reconcile, hps, hd]
  have h₁ := ensureXdgSurface_fresh (bindPairedSurface X hs w).1 W.fresh
    { { w with pairedSurface := ps } with depth := d }
  exact ⟨Nat.le_trans h₁.1 (Nat.le_trans (auraStage_fresh ..) (assignRole_fresh ..)),
    fun hn => Nat.lt_of_lt_of_le (h₁.2 hn) (Nat.le_trans (auraStage_fresh ..) (assignRole_fresh ..))⟩

/-- The stages of `sl_window_update` before its commit send only plain messages. -/
theorem reconcile_plain (X : Extern) (W : World) (ctx : SlContext) (p : Nat) (w : SlWindow)
    (hs : SlHostSurface) : ∀ m ∈ (reconcile X W ctx p w hs).sent, m.Plain := by
  simp only [reconcile, List.forall_mem_append]
  exact ⟨⟨⟨ensureXdgSurface_plain _ _ _, auraStage_plain _ _ _ _ _⟩, assignRole_plain _ _ _ _ _ _ _ _⟩,
    auraParent_plain _ _ _ _ _ _ _⟩

/-- Everything the end of `sl_window_update` can do: commit through `sl_commit` with
`COMMIT_LOOP_FIX`, or with a plain surface commit without, and realize the window once its host
surface has contents. -/
theorem finishUpdate_some {X : Extern} {hs : SlHostSurface} {w w' : SlWindow} {sent : List Msg}
    (h : finishUpdate X hs w = some (w', sent)) :
    ∃ w₁, ((X.commitLoopFix = true ∧ slCommit true w (some hs) = some (w₁, sent)) ∨
        (X.commitLoopFix = false ∧ w₁ = w ∧ sent = [Msg.surfaceCommit hs.proxy])) ∧
      w' = if hs.contentsWidth ≠ 0 ∧ hs.contentsHeight ≠ 0 then { w₁ with realized := true } else w₁ := by
  unfold finishUpdate at h
  obtain ⟨⟨w₁, s₁⟩, h₁, h₂⟩ := Option.map_eq_some'.mp h
  simp only [Prod.mk.injEq] at h₂
  refine ⟨w₁, ?_, h₂.1.symm⟩
  cases hf : X.commitLoopFix
  · simp only [hf, Bool.false_eq_true, if_false, Option.some.injEq, Prod.mk.injEq] at h₁
    exact .inr ⟨rfl, h₁.1.symm, h₂.2 ▸ h₁.2.symm⟩
  · simp only [hf, if_true] at h₁
    exact .inl ⟨rfl, h₂.2 ▸ h₁⟩

/-- The end of `sl_window_update` changes the configure engine's fields and `realized`, and
nothing else of the window. -/
theorem finishUpdate_frame {X : Extern} {hs : SlHostSurface} {w w' : SlWindow} {sent : List Msg}
    (h : finishUpdate X hs w = some (w', sent)) :
    ∃ g pc nc r, w' = { w.withEngine g pc nc with realized := r } := by
  obtain ⟨w₁, hc, rfl⟩ := finishUpdate_some h
  obtain ⟨g, pc, nc, rfl⟩ : ∃ g pc nc, w₁ = w.withEngine g pc nc := by
    rcases hc with ⟨-, hc⟩ | ⟨-, rfl, -⟩
    · exact slCommit_engine hc
    · exact ⟨_, _, _, (SlWindow.withEngine_self _).symm⟩
  split
  · exact ⟨g, pc, nc, true, rfl⟩
  · exact ⟨g, pc, nc, _, rfl⟩

/-- Everything `sl_window_update` can do to a live window: tear it down when there is no host
resource, and otherwise reconcile it and finish. -/
theorem slWindowUpdate_cases {X : Extern} {W W' : World} {p : Nat} {w : SlWindow}
    (hp : W.heap p = some w) (h : slWindowUpdate X W p = some W') :
    ∃ ctx w₁ res, pairingTransition W.objects W.ctx p w = (ctx, w₁, res) ∧
      ((res = none ∧ W' = { W with ctx, heap := Function.update W.heap p (some (teardown w₁).1),
                                   log := emit p (teardown w₁).2 W.log }) ∨
        (∃ hs w₂ sent, res = some hs ∧
          finishUpdate X (reconcile X W ctx p w₁ hs).host (reconcile X W ctx p w₁ hs).window =
            some (w₂, sent) ∧
          W' = { W with ctx, objects := (reconcile X W ctx p w₁ hs).objects,
                        fresh := (reconcile X W ctx p w₁ hs).fresh,
                        heap := Function.update W.heap p (some w₂),
                        log := emit p ((reconcile X W ctx p w₁ hs).sent ++ sent) W.log })) := by
  simp only [slWindowUpdate, hp] at h
  rcases hr : pairingTransition W.objects W.ctx p w with ⟨ctx, w₁, _ | hs⟩ <;> rw [hr] at h
  · refine ⟨ctx, w₁, none, rfl, .inl ⟨rfl, ?_⟩⟩
    simpa [eq_comm] using h
  · obtain ⟨⟨w₂, sent⟩, h₁, h₂⟩ := Option.map_eq_some'.mp h
    exact ⟨ctx, w₁, some hs, rfl, .inr ⟨hs, w₂, sent, rfl, h₁, h₂.symm⟩⟩

end Sommelier

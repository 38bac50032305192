import Sommelier.Buffers

/-!
# Acknowledgments

`sl_process_pending_configure_acks` acknowledges the pending serial of a managed window only once
the host surface's contents have the window's size with its borders. This is sound because the
window's geometry does not change while an acknowledgment is owed: `sl_configure_window` installs
a geometry and makes a serial pending together, and nothing else moves the window until the serial
is acknowledged.

The log records, with each `sl_configure_window`, a ghost message `.pending serial geometry`.
`AckInv` says that an owed serial is the newest ghost record's, with the window's current
geometry, and that every acknowledgment of a managed window with a host surface matches the ghost
record before it (`AcksMatch`). Each function of the configure engine keeps it, and so every run
does, as long as no toplevel configure overran the window's `next_config.states`
(`ack_contents_match`). An overrun writes a state atom over `pending_config.serial`, and the next
commit acknowledges that atom as a serial, one that neither `sl_configure_window` nor the
compositor ever named (`ack_names_overrun_atom`).
-/

namespace Sommelier

/-- The newest ghost record about window `p` in a log, newest first: the serial that
`sl_configure_window` made pending and the geometry it installed. -/
def lastPending (p : Nat) : List (Nat × Msg) → Option (Nat × Geometry)
  | [] => none
  | (q, .pending s g) :: log => if q = p then some (s, g) else lastPending p log
  | _ :: log => lastPending p log

/-- The host surface's contents have the size of geometry `g` with its borders, as the `uint32_t`s
that `sl_process_pending_configure_acks` compares. -/
def ContentsOf (hs : SlHostSurface) (g : Geometry) : Prop :=
  hs.contentsWidth = u32 (g.width + g.borderWidth * 2) ∧
    hs.contentsHeight = u32 (g.height + g.borderWidth * 2)

/-- Every acknowledgment about window `p` with a host surface names the serial of the ghost record
before it, and the surface's contents have that record's geometry. -/
def AcksMatch (p : Nat) : List (Nat × Msg) → Prop
  | [] => True
  | (q, m) :: log =>
    (q = p → ∀ h s hs, m = .ackConfigure h s (some hs) →
      ∃ g, lastPending p log = some (s, g) ∧ ContentsOf hs g) ∧ AcksMatch p log

/-! ## The log -/

/-- The ghost record of an overrun. -/
def Msg.isOverrun : Msg → Bool
  | .overrun _ => true
  | _ => false

/-- Whether a log holds a ghost record of an overrun of window `p`'s `next_config.states`. -/
def overran (p : Nat) (log : List (Nat × Msg)) : Bool :=
  log.any fun e => e.1 = p ∧ e.2.isOverrun

/-- An overrun of `p` in a joined log is one in either part. -/
@[simp] theorem overran_append (p : Nat) (xs ys : List (Nat × Msg)) :
    overran p (xs ++ ys) = (overran p xs || overran p ys) :=
  List.any_append

/-- A log with no overrun for `p` has none in its tail. -/
theorem overran_of_cons {p : Nat} {e : Nat × Msg} {log : List (Nat × Msg)}
    (h : overran p (e :: log) = false) : overran p log = false :=
  (Bool.or_eq_false_iff.mp h).2

/-- After messages about window `q`, a log records no overrun of window `p` exactly when it did
not before and, when `q` is `p`, none of the messages is one. -/
theorem overran_emit (p q : Nat) (sent : List Msg) (log : List (Nat × Msg)) :
    overran p (emit q sent log) = false ↔
      (q = p → ∀ m ∈ sent, m.isOverrun = false) ∧ overran p log = false := by
  simp only [overran, emit, List.any_append, List.any_reverse, List.any_map, Bool.or_eq_false_iff,
    List.any_eq_false, Function.comp, decide_eq_true_eq, not_and, Bool.not_eq_true,
    List.forall_mem_map]
  exact ⟨fun ⟨h₁, h₂⟩ => ⟨fun hq m hm => h₁ m hm hq, h₂⟩,
    fun ⟨h₁, h₂⟩ => ⟨fun m hm hq => h₁ hq m hm, h₂⟩⟩

/-- Emitting a message list puts its first message on the log first. -/
theorem emit_cons (p : Nat) (m : Msg) (ms : List Msg) (log : List (Nat × Msg)) :
    emit p (m :: ms) log = emit p ms ((p, m) :: log) := by
  simp [emit]

/-- A quiet entry does not change the last pending configuration. -/
theorem lastPending_cons_quiet (p q : Nat) {m : Msg} (hm : m.Quiet) (log : List (Nat × Msg)) :
    lastPending p ((q, m) :: log) = lastPending p log := by
  cases m <;> simp_all [lastPending, Msg.Quiet]

/-- Another window's entry does not change the last pending configuration of `p`. -/
theorem lastPending_cons_ne {p q : Nat} (hq : q ≠ p) (m : Msg) (log : List (Nat × Msg)) :
    lastPending p ((q, m) :: log) = lastPending p log := by
  cases m <;> simp [lastPending, hq]

/-- A quiet entry keeps the acknowledgments of `p` matched. -/
theorem acksMatch_cons_quiet {p q : Nat} {m : Msg} (hm : m.Quiet) {log : List (Nat × Msg)}
    (h : AcksMatch p log) : AcksMatch p ((q, m) :: log) :=
  ⟨fun _ _ _ _ he => by subst he; exact hm.elim, h⟩

/-- Another window's entry keeps the acknowledgments of `p` matched. -/
theorem acksMatch_cons_ne {p q : Nat} (hq : q ≠ p) (m : Msg) {log : List (Nat × Msg)}
    (h : AcksMatch p log) : AcksMatch p ((q, m) :: log) :=
  ⟨fun h' => absurd h' hq, h⟩

/-- Messages about another window leave window `p`'s ghost record and acknowledgments alone. -/
theorem log_emit_ne {p q : Nat} (hq : q ≠ p) (sent : List Msg) (log : List (Nat × Msg)) :
    lastPending p (emit q sent log) = lastPending p log ∧
      (AcksMatch p log → AcksMatch p (emit q sent log)) := by
  induction sent generalizing log with
  | nil => exact ⟨rfl, id⟩
  | cons m ms ih =>
    rw [emit_cons]
    exact ⟨(ih _).1.trans (lastPending_cons_ne hq m log),
      fun h => (ih _).2 (acksMatch_cons_ne hq m h)⟩

/-- Messages that are neither acknowledgments nor ghost records leave both alone. -/
theorem log_emit_quiet (p q : Nat) {sent : List Msg} (hq : ∀ m ∈ sent, m.Quiet)
    (log : List (Nat × Msg)) :
    lastPending p (emit q sent log) = lastPending p log ∧
      (AcksMatch p log → AcksMatch p (emit q sent log)) := by
  induction sent generalizing log with
  | nil => exact ⟨rfl, id⟩
  | cons m ms ih =>
    rw [emit_cons]
    have hm := hq m (List.mem_cons_self _ _)
    have ih' := ih (fun m' hm' => hq m' (List.mem_cons_of_mem _ hm')) ((q, m) :: log)
    exact ⟨ih'.1.trans (lastPending_cons_quiet p q hm log),
      fun h => ih'.2 (acksMatch_cons_quiet hm h)⟩

/-- A log with no entry for `p` has its acknowledgments matched. -/
theorem acksMatch_of_absent {p : Nat} {log : List (Nat × Msg)} (h : ∀ e ∈ log, e.1 ≠ p) :
    AcksMatch p log := by
  induction log with
  | nil => trivial
  | cons e log ih =>
    exact ⟨fun he => absurd he (h e (List.mem_cons_self _ _)),
      ih fun e' he' => h e' (List.mem_cons_of_mem _ he')⟩

/-- The acknowledgments older than one of them match as well. -/
theorem AcksMatch.drop {p : Nat} {e : Nat × Msg} {older : List (Nat × Msg)} :
    ∀ {newer : List (Nat × Msg)}, AcksMatch p (newer ++ e :: older) → AcksMatch p (e :: older)
  | [], h => h
  | _ :: _, h => AcksMatch.drop h.2

/-! ## The invariant -/

/-- What window `p`'s acknowledgments need of the window and the log. -/
structure AckInv (p : Nat) (w : SlWindow) (log : List (Nat × Msg)) : Prop where
  /-- An owed serial is the newest ghost record's, with the window's geometry. -/
  owed : w.pendingConfig.serial ≠ 0 → lastPending p log = some (w.pendingConfig.serial, w.geometry)
  /-- A managed window's acknowledgments match their ghost records. -/
  acks : w.managed = true → AcksMatch p log

/-- The invariant reads only the managed flag, the geometry and `pending_config`. -/
theorem AckInv.of_eq {p : Nat} {w w' : SlWindow} {log : List (Nat × Msg)} (hi : AckInv p w log)
    (hm : w'.managed = w.managed) (hg : w'.geometry = w.geometry)
    (hp : w'.pendingConfig = w.pendingConfig) : AckInv p w' log :=
  ⟨fun h => by rw [hp, hg]; exact hi.owed (hp ▸ h), fun h => hi.acks (hm ▸ h)⟩

/-- A window with the same engine state keeps the invariant. -/
theorem AckInv.of_engine {p : Nat} {w w' : SlWindow} {log : List (Nat × Msg)} (hi : AckInv p w log)
    (h : w'.engine = w.engine) : AckInv p w' log := by
  simp only [SlWindow.engine, Prod.mk.injEq] at h
  exact hi.of_eq h.1 h.2.1 h.2.2.1

/-- Emitting quiet messages keeps the invariant. -/
theorem AckInv.emit_quiet {p : Nat} {w : SlWindow} {log : List (Nat × Msg)} (hi : AckInv p w log)
    {sent : List Msg} (hq : ∀ m ∈ sent, m.Quiet) : AckInv p w (emit p sent log) :=
  ⟨fun h => ((log_emit_quiet p p hq log).1).trans (hi.owed h),
    fun h => (log_emit_quiet p p hq log).2 (hi.acks h)⟩

/-- `sl_configure_window` makes the queued serial pending with the geometry it installs, and
records both. -/
theorem slConfigureWindow_ackInv {p : Nat} {w w' : SlWindow} {log : List (Nat × Msg)}
    {sent : List Msg} (hi : AckInv p w log) (h : slConfigureWindow w = some (w', sent)) :
    AckInv p w' (emit p sent log) := by
  obtain ⟨-, -, rfl, pre, hpre, rfl⟩ := slConfigureWindow_some h
  have hq := log_emit_quiet p p (fun m hm => (hpre m hm).quiet) log
  rw [emit_append]
  refine ⟨fun _ => ?_, fun hm => ?_⟩
  · show lastPending p ((p, .pending w.nextConfig.serial (installedGeometry w)) :: emit p pre log) = _
    simp only [lastPending, if_true]
    rfl
  · show AcksMatch p ((p, .pending w.nextConfig.serial (installedGeometry w)) :: emit p pre log)
    exact ⟨(fun _ _ _ _ he => nomatch he), hq.2 (hi.acks hm)⟩

/-- When `sl_process_pending_configure_acks` finds no mismatch, the contents have the
pending geometry. -/
theorem contentsOf_of_not_mismatch {w : SlWindow} {hs : SlHostSurface}
    (h : contentsMismatch w (some hs) = false) : ContentsOf hs w.geometry := by
  simp only [contentsMismatch, decide_eq_false_iff_not, not_or, not_not] at h
  exact ⟨h.1.symm, h.2.symm⟩

/-- An acknowledgment that is not blocked matches the owed serial's ghost record: the contents of
a managed window's host surface have its geometry, which is the recorded one. -/
theorem ackOf_ackInv {fix : Bool} {p : Nat} {w : SlWindow} {hs : Option SlHostSurface}
    {log : List (Nat × Msg)} (hi : AckInv p w log) (hb : ¬AckBlocked fix w hs) :
    AckInv p w.clearPending (emit p (ackOf w hs) log) := by
  simp only [AckBlocked, not_or, not_and, Bool.not_eq_true] at hb
  obtain ⟨h0, -, hmis⟩ := hb
  refine ⟨fun h => absurd rfl h, fun hm => ?_⟩
  cases hx : w.xdgSurface with
  | none => simpa [ackOf, hx, emit] using hi.acks hm
  | some x =>
    rw [show ackOf w hs = [.ackConfigure x w.pendingConfig.serial hs] by simp [ackOf, hx]]
    show AcksMatch p ((p, .ackConfigure x w.pendingConfig.serial hs) :: log)
    refine ⟨fun _ h s hs' he => ?_, hi.acks hm⟩
    simp only [Msg.ackConfigure.injEq] at he
    obtain ⟨-, rfl, rfl⟩ := he
    exact ⟨w.geometry, hi.owed h0, contentsOf_of_not_mismatch (hmis hm)⟩

/-- `sl_process_pending_configure_acks` keeps the invariant: the ack it sends, if any, matches
the newest ghost record, which it then clears. -/
theorem slProcessPendingConfigureAcks_ackInv {fix b : Bool} {p : Nat} {w w' : SlWindow}
    {hs : Option SlHostSurface} {log : List (Nat × Msg)} {sent : List Msg} (hi : AckInv p w log)
    (h : slProcessPendingConfigureAcks fix w hs = some (b, w', sent)) :
    AckInv p w' (emit p sent log) := by
  rcases slProcessPendingConfigureAcks_cases h with ⟨-, -, rfl, rfl⟩ | ⟨hb, -, hrest⟩
  · exact hi
  · rcases hrest with ⟨-, rfl, rfl⟩ | ⟨-, rest, hc, rfl⟩
    · exact ackOf_ackInv hi hb
    · rw [emit_append]
      exact slConfigureWindow_ackInv (ackOf_ackInv hi hb) hc

/-- `sl_commit` keeps the invariant. -/
theorem slCommit_ackInv {fix : Bool} {p : Nat} {w w' : SlWindow} {hs : Option SlHostSurface}
    {log : List (Nat × Msg)} {sent : List Msg} (hi : AckInv p w log)
    (h : slCommit fix w hs = some (w', sent)) : AckInv p w' (emit p sent log) := by
  obtain ⟨b, sent₀, h₁, rfl⟩ := slCommit_some h
  rw [emit_append]
  refine (slProcessPendingConfigureAcks_ackInv hi h₁).emit_quiet fun m hm => ?_
  split at hm
  · obtain ⟨s, -, rfl⟩ := Option.mem_map.mp (Option.mem_toList.mp hm)
    trivial
  · cases hm

/-- The surface listener keeps the invariant. -/
theorem slInternalXdgSurfaceConfigure_ackInv {fix : Bool} {p : Nat} {w w' : SlWindow}
    {hs : Option SlHostSurface} {serial : Nat} {log : List (Nat × Msg)} {sent : List Msg}
    (hi : AckInv p w log) (h : slInternalXdgSurfaceConfigure fix w hs serial = some (w', sent)) :
    AckInv p w' (emit p sent log) := by
  rcases slInternalXdgSurfaceConfigure_cases h with ⟨-, rfl, rfl⟩ | ⟨-, w₁, s₁, s₂, h₁, h₂, rfl⟩
  · exact hi.of_eq rfl rfl rfl
  · rw [emit_append]
    exact slCommit_ackInv (slConfigureWindow_ackInv (show AckInv p (w.queue serial) log from hi.of_eq rfl rfl rfl) h₁) h₂

/-- Every move of window `p` that overruns nothing keeps the invariant with the messages it
sends. -/
theorem Moves.ackInv {X : Extern} {W : World} {p : Nat} {w w' : SlWindow} {sent : List Msg}
    {ctx : SlContext} {fresh : Nat} {log : List (Nat × Msg)} (hm : Moves X W p w w' sent ctx fresh)
    (hi : AckInv p w log) (ho : ∀ m ∈ sent, m.isOverrun = false) : AckInv p w' (emit p sent log) := by
  rcases hm.engine_cases with ⟨he, hq⟩ | ⟨h, serial, s, -, rfl, hc⟩ | ⟨hs, hc⟩ |
    ⟨w₀, w₁, hs, pre, s, r, -, he, hq, hc, rfl, rfl⟩ | ⟨ws, -, -, rfl, -⟩
  · exact (hi.of_engine he).emit_quiet hq
  · rw [emit_cons]
    exact slInternalXdgSurfaceConfigure_ackInv (show AckInv p w (emit p [.configure h serial] log) from
      hi.emit_quiet fun m hm => by rw [List.mem_singleton.mp hm]; trivial) hc
  · exact slCommit_ackInv hi hc
  · rw [emit_append]
    exact (slCommit_ackInv ((hi.of_engine he).emit_quiet hq) hc).of_eq rfl rfl rfl
  · cases ho _ (List.mem_singleton_self _)

/-- Every live window whose log records no overrun keeps the invariant. -/
theorem Reachable.ackInv {X : Extern} {W : World} (hW : Reachable X W) :
    ∀ p w, W.heap p = some w → overran p W.log = false → AckInv p w W.log :=
  hW.window_log_induction (P := fun p w log => overran p log = false → AckInv p w log)
    (fun _ _ _ _ _ _ _ _ _ _ habs _ => ⟨fun h => absurd rfl h, fun _ => acksMatch_of_absent habs⟩)
    (fun hq hi ho => have hi := hi ((overran_emit _ _ _ _).mp ho).2
      ⟨fun h => ((log_emit_ne hq _ _).1).trans (hi.owed h), fun h => (log_emit_ne hq _ _).2 (hi.acks h)⟩)
    (fun _ _ hm hi ho => hm.ackInv (hi ((overran_emit _ _ _ _).mp ho).2)
      (((overran_emit _ _ _ _).mp ho).1 rfl))

/-- On a managed window whose `next_config.states` was never overrun, every acknowledgment with a
host surface names the serial that `sl_configure_window` last made pending before it, and the
surface's contents have the geometry installed with that serial, with its borders; while a serial
is owed, the window keeps the geometry installed with it. -/
theorem ack_contents_match {X : Extern} {W : World} (hW : Reachable X W) {p : Nat} {w : SlWindow}
    (hp : W.heap p = some w) (hm : w.managed = true) (ho : overran p W.log = false) :
    (∀ newer older h s hs, W.log = newer ++ (p, .ackConfigure h s (some hs)) :: older →
      ∃ g, lastPending p older = some (s, g) ∧
        hs.contentsWidth = u32 (g.width + g.borderWidth * 2) ∧
        hs.contentsHeight = u32 (g.height + g.borderWidth * 2)) ∧
      (w.pendingConfig.serial ≠ 0 → lastPending p W.log = some (w.pendingConfig.serial, w.geometry)) := by
  have hi := hW.ackInv p w hp ho
  refine ⟨fun newer older h s hs hl => ?_, hi.owed⟩
  have := (hl ▸ hi.acks hm).drop
  exact this.1 rfl h s hs rfl

/-- A managed window is paired and updated, proposed 20 × 20 pixels, configured with serial 7, and
committed once its host surface has that size. -/
def ackRun : List Op :=
  [.create 100 0 0 10 10 0 true Props.unset, .surface 5 (some (SlHostSurface.sample 50 10 10 0)),
    .pair 0 5, .windowUpdate 0, .xdgToplevelConfigure 0 20 20 [], .xdgSurfaceConfigure 0 7,
    .surface 5 (some (SlHostSurface.sample 50 20 20 0)),
    .commit 0 (some (SlHostSurface.sample 50 20 20 0))]

/-- The state after `ackRun`, with `COMMIT_LOOP_FIX`. -/
def ackState : World :=
  (run (Extern.unscaled true) (World.init (SlContext.sample true) fun _ => none) ackRun).getD
    (World.init (SlContext.sample true) fun _ => none)

/-- After `ackRun` the log holds an ack of serial `7` with contents of 20 × 20, and the state
meets both parts of `ack_contents_match`. -/
theorem ack_contents_match_run :
    ackState.log.take 2 =
      [(0, .surfaceCommit 50), (0, .ackConfigure 1 7 (some (SlHostSurface.sample 50 20 20 0)))] ∧
    (∀ newer older h s hs, ackState.log = newer ++ (0, .ackConfigure h s (some hs)) :: older →
      ∃ g, lastPending 0 older = some (s, g) ∧
        hs.contentsWidth = u32 (g.width + g.borderWidth * 2) ∧
        hs.contentsHeight = u32 (g.height + g.borderWidth * 2)) ∧
      (((ackState.heap 0).getD (SlWindow.blank true Props.unset)).pendingConfig.serial ≠ 0 →
        lastPending 0 ackState.log =
          some (((ackState.heap 0).getD (SlWindow.blank true Props.unset)).pendingConfig.serial,
            ((ackState.heap 0).getD (SlWindow.blank true Props.unset)).geometry)) :=
  ⟨by decide,
    ack_contents_match (reachable_run_getD _ (by decide)) (by decide) (by decide) (by decide)⟩

/-! ## An overrun -/

/-- The first six operations of `ackRun`, which leave serial 7 owed behind a 10 × 10 host surface,
and a toplevel configure with no size and the fullscreen, maximized and activated states. -/
def overrunRun : List Op :=
  [.create 100 0 0 10 10 0 true Props.unset, .surface 5 (some (SlHostSurface.sample 50 10 10 0)),
    .pair 0 5, .windowUpdate 0, .xdgToplevelConfigure 0 20 20 [], .xdgSurfaceConfigure 0 7,
    .xdgToplevelConfigure 0 0 0 [XDG_TOPLEVEL_STATE_FULLSCREEN, XDG_TOPLEVEL_STATE_MAXIMIZED,
      XDG_TOPLEVEL_STATE_ACTIVATED]]

/-- After `overrunRun`, once the host surface has 20 × 20 pixels, the commit acknowledges serial
14, the focused atom that the states loop wrote over `pending_config.serial`: the serial that
`sl_configure_window` last made pending before it is 7, and the compositor never delivered 14. -/
theorem ack_names_overrun_atom :
    ∃ W, Reachable (Extern.unscaled true) W ∧
      W.log.take 2 =
        [(0, .surfaceCommit 50), (0, .ackConfigure 1 14 (some (SlHostSurface.sample 50 20 20 0)))] ∧
      (lastPending 0 (W.log.drop 2)).map Prod.fst = some 7 ∧ (0, Msg.configure 1 14) ∉ W.log := by
  obtain ⟨W, hW, h⟩ := reach_of_run (Extern.unscaled true) (SlContext.sample true) (fun _ => none)
    (overrunRun ++ [.surface 5 (some (SlHostSurface.sample 50 20 20 0)),
      .commit 0 (some (SlHostSurface.sample 50 20 20 0))])
    (fun W => decide (W.log.take 2 =
        [(0, .surfaceCommit 50), (0, .ackConfigure 1 14 (some (SlHostSurface.sample 50 20 20 0)))] ∧
      (lastPending 0 (W.log.drop 2)).map Prod.fst = some 7 ∧ (0, Msg.configure 1 14) ∉ W.log))
    (by decide)
  exact ⟨W, hW, of_decide_eq_true h⟩

end Sommelier

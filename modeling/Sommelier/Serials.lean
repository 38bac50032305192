import Sommelier.Objects

/-!
# Where acknowledged serials come from

A window holds at most two serials: the pending one that `sl_process_pending_configure_acks` will
acknowledge, and the one `sl_internal_xdg_surface_configure` queued behind it. Neither function
makes a serial up: the only serial that enters a window is the one an `xdg_surface.configure`
event just delivered to it, the hand-over in `sl_configure_window` moves the queued serial to
pending, and an acknowledgment names the pending serial once it is not zero.

`Keeps` says that a step of the configure engine only acknowledges and holds serials the window
already held. Every function of the engine keeps it (`slCommit_keeps`), and so every move does
once the delivered serial is counted, except a toplevel configure that overruns `next_config.states`
and writes a state atom over the pending serial (`Moves.keeps`). Over whole runs, every serial a
live window with no overrun holds, and every acknowledgment that no overrun of its window
precedes, names a nonzero serial delivered to the same window before it
(`acks_name_delivered_serials`). The serial may have been delivered on an `xdg_surface` the window
has since lost: this bounds what `ack_on_new_xdg_surface` shows.
-/

namespace Sommelier

/-- Window `w` holds serial `s`: it is nonzero and pending or queued. -/
def SlWindow.Holds (w : SlWindow) (s : Nat) : Prop :=
  s ≠ 0 ∧ (s = w.pendingConfig.serial ∨ s = w.nextConfig.serial)

/-- A step from `w` to `w'` that sends `sent` acknowledges and leaves held only serials that `w`
held. -/
structure Keeps (w w' : SlWindow) (sent : List Msg) : Prop where
  /-- `w'` holds only serials `w` held. -/
  held : ∀ s, w'.Holds s → w.Holds s
  /-- Every acknowledgment sent names a serial `w` held. -/
  acks : ∀ h s hs, Msg.ackConfigure h s hs ∈ sent → w.Holds s

/-- Every acknowledgment in a log, newest first, that no overrun of its window precedes names a
nonzero serial that an `xdg_surface.configure` event delivered to the same window before it. -/
def AcksDelivered : List (Nat × Msg) → Prop
  | [] => True
  | (q, m) :: log =>
    (overran q log = false → ∀ h s hs, m = .ackConfigure h s hs →
      s ≠ 0 ∧ ∃ h', (q, .configure h' s) ∈ log) ∧ AcksDelivered log

/-! ## The configure engine -/

theorem Keeps.of_engine {w w' : SlWindow} {sent : List Msg} (he : w'.engine = w.engine)
    (hq : ∀ m ∈ sent, m.Quiet) : Keeps w w' sent := by
  simp only [SlWindow.engine, Prod.mk.injEq] at he
  refine ⟨fun s hs => ?_, fun h s hs hm => (hq _ hm).elim⟩
  simpa only [SlWindow.Holds, he.2.2.1, he.2.2.2] using hs

/-- Two steps that each keep serials keep them one after the other. -/
theorem Keeps.trans {w₁ w₂ w₃ : SlWindow} {s₁ s₂ : List Msg} (h₁ : Keeps w₁ w₂ s₁)
    (h₂ : Keeps w₂ w₃ s₂) : Keeps w₁ w₃ (s₁ ++ s₂) :=
  ⟨fun s hs => h₁.held s (h₂.held s hs), fun h s hs hm =>
    (List.mem_append.mp hm).elim (h₁.acks h s hs) fun hm => h₁.held s (h₂.acks h s hs hm)⟩

/-- `sl_configure_window` moves the queued serial to pending and acknowledges nothing. -/
theorem slConfigureWindow_keeps {w w' : SlWindow} {sent : List Msg}
    (h : slConfigureWindow w = some (w', sent)) : Keeps w w' sent := by
  obtain ⟨-, -, rfl, pre, hpre, rfl⟩ := slConfigureWindow_some h
  refine ⟨fun s ⟨h0, hs⟩ => ⟨h0, .inr (hs.resolve_right h0)⟩, fun h s hs hm => ?_⟩
  rcases List.mem_append.mp hm with hm | hm
  · exact (hpre _ hm).elim
  · cases List.mem_singleton.mp hm

/-- An acknowledgment that is not blocked names the pending serial, which is not zero, and clears
it. -/
theorem ackOf_keeps {fix : Bool} {w : SlWindow} {hs : Option SlHostSurface}
    (hb : ¬AckBlocked fix w hs) : Keeps w w.clearPending (ackOf w hs) := by
  have h0 : w.pendingConfig.serial ≠ 0 := fun h => hb (.inl h)
  refine ⟨fun s ⟨hs0, hs⟩ => ⟨hs0, .inr (hs.resolve_left hs0)⟩, fun h s hs' hm => ?_⟩
  obtain ⟨x, -, he⟩ := Option.mem_map.mp (Option.mem_toList.mp hm)
  cases he
  exact ⟨h0, .inl rfl⟩

/-- `sl_process_pending_configure_acks` acknowledges and holds only serials the window held. -/
theorem slProcessPendingConfigureAcks_keeps {fix b : Bool} {w w' : SlWindow}
    {hs : Option SlHostSurface} {sent : List Msg}
    (h : slProcessPendingConfigureAcks fix w hs = some (b, w', sent)) : Keeps w w' sent := by
  rcases slProcessPendingConfigureAcks_cases h with ⟨-, -, rfl, rfl⟩ | ⟨hb, -, hrest⟩
  · exact .of_engine rfl fun _ h => nomatch h
  · rcases hrest with ⟨-, rfl, rfl⟩ | ⟨-, rest, hc, rfl⟩
    · exact ackOf_keeps hb
    · exact (ackOf_keeps hb).trans (slConfigureWindow_keeps hc)

/-- `sl_commit` acknowledges only the pending serial, and the commit it adds acknowledges
nothing. -/
theorem slCommit_keeps {fix : Bool} {w w' : SlWindow} {hs : Option SlHostSurface}
    {sent : List Msg} (h : slCommit fix w hs = some (w', sent)) : Keeps w w' sent := by
  obtain ⟨b, sent₀, h₁, rfl⟩ := slCommit_some h
  refine (slProcessPendingConfigureAcks_keeps h₁).trans (.of_engine rfl fun m hm => ?_)
  split at hm
  · obtain ⟨s, -, rfl⟩ := Option.mem_map.mp (Option.mem_toList.mp hm)
    trivial
  · cases hm

/-- `sl_internal_xdg_surface_configure` holds and acknowledges only what the window held once the
delivered serial is queued. -/
theorem slInternalXdgSurfaceConfigure_keeps {fix : Bool} {w w' : SlWindow}
    {hs : Option SlHostSurface} {serial : Nat} {sent : List Msg}
    (h : slInternalXdgSurfaceConfigure fix w hs serial = some (w', sent)) :
    Keeps (w.queue serial) w' sent := by
  rcases slInternalXdgSurfaceConfigure_cases h with ⟨-, rfl, rfl⟩ | ⟨-, w₁, s₁, s₂, h₁, h₂, rfl⟩
  · exact .of_engine rfl fun _ h => nomatch h
  · exact (slConfigureWindow_keeps h₁).trans (slCommit_keeps h₂)

/-- Every move of a window keeps its serials, except that the surface listener first delivers one
and queues it, and that an overrun sends only its ghost record. -/
theorem Moves.keeps {X : Extern} {W : World} {p : Nat} {w w' : SlWindow} {sent : List Msg}
    {ctx : SlContext} {fresh : Nat} (hm : Moves X W p w w' sent ctx fresh) :
    Keeps w w' sent ∨
      (∃ h serial s, sent = .configure h serial :: s ∧ Keeps (w.queue serial) w' s) ∨
      ∃ ws, sent = [.overrun ws] := by
  rcases hm.engine_cases with ⟨he, hq⟩ | ⟨h, serial, s, -, rfl, hc⟩ | ⟨hs, hc⟩ |
    ⟨w₀, w₁, hs, pre, s, r, -, he, hq, hc, rfl, rfl⟩ | ⟨ws, -, -, rfl, -⟩
  · exact .inl (.of_engine he hq)
  · exact .inr (.inl ⟨h, serial, s, rfl, slInternalXdgSurfaceConfigure_keeps hc⟩)
  · exact .inl (slCommit_keeps hc)
  · have hk := ((Keeps.of_engine he hq).trans (slCommit_keeps hc)).trans
      (Keeps.of_engine rfl fun _ h => nomatch h : Keeps w₁ { w₁ with realized := r } [])
    rw [List.append_nil] at hk
    exact .inl hk
  · exact .inr (.inr ⟨ws, rfl⟩)

/-! ## The log -/

theorem acksDelivered_emit {p : Nat} {sent : List Msg} {log : List (Nat × Msg)}
    (hl : AcksDelivered log)
    (hs : overran p log = false → ∀ h s hs, Msg.ackConfigure h s hs ∈ sent →
      s ≠ 0 ∧ ∃ h', (p, .configure h' s) ∈ log) :
    AcksDelivered (emit p sent log) := by
  induction sent generalizing log with
  | nil => exact hl
  | cons m ms ih =>
    rw [emit_cons]
    refine ih ⟨fun ho h s hs' he => ?_, hl⟩ fun ho h s hs' hm => ?_
    · exact hs ho h s hs' (he ▸ List.mem_cons_self _ _)
    · obtain ⟨h0, h', hh⟩ := hs (overran_of_cons ho) h s hs' (List.mem_cons_of_mem _ hm)
      exact ⟨h0, h', List.mem_cons_of_mem _ hh⟩

/-- The acknowledgments older than one of them name delivered serials as well. -/
theorem AcksDelivered.drop {e : Nat × Msg} {older : List (Nat × Msg)} :
    ∀ {newer : List (Nat × Msg)}, AcksDelivered (newer ++ e :: older) → AcksDelivered (e :: older)
  | [], h => h
  | _ :: _, h => AcksDelivered.drop h.2

/-- What window `p`'s serials need of the log: while no overrun of its states is logged, each serial
it holds was delivered to it; and the log's acknowledgments name delivered serials. -/
structure SerialInv (p : Nat) (w : SlWindow) (log : List (Nat × Msg)) : Prop where
  /-- Each serial the window holds was delivered to it. -/
  held : overran p log = false → ∀ s, w.Holds s → ∃ h, (p, .configure h s) ∈ log
  /-- The log's acknowledgments name delivered serials. -/
  acks : AcksDelivered log

/-- A step that keeps serials keeps the invariant. -/
theorem SerialInv.keeps {p : Nat} {w w' : SlWindow} {sent : List Msg} {log : List (Nat × Msg)}
    (hi : SerialInv p w log) (hk : Keeps w w' sent) : SerialInv p w' (emit p sent log) := by
  refine ⟨fun ho s hs => ?_, acksDelivered_emit hi.acks fun ho h s hs hm => ?_⟩
  · obtain ⟨h, hh⟩ := hi.held ((overran_emit p p sent log).mp ho).2 s (hk.held s hs)
    exact ⟨h, mem_emit.mpr (.inr hh)⟩
  · exact ⟨(hk.acks h s hs hm).1, hi.held ho s (hk.acks h s hs hm)⟩

/-- The configure event delivers its serial, which the window then queues. -/
theorem SerialInv.deliver {p : Nat} {w : SlWindow} {log : List (Nat × Msg)} (hi : SerialInv p w log)
    (h serial : Nat) : SerialInv p (w.queue serial) ((p, .configure h serial) :: log) := by
  refine ⟨fun ho s ⟨h0, hs⟩ => ?_, And.intro (fun _ _ _ _ he => nomatch he) hi.acks⟩
  rcases hs with hs | rfl
  · obtain ⟨h', hh⟩ := hi.held (overran_of_cons ho) s ⟨h0, .inl hs⟩
    exact ⟨h', List.mem_cons_of_mem _ hh⟩
  · exact ⟨h, List.mem_cons_self _ _⟩

/-- Every move of window `p` keeps its invariant. -/
theorem Moves.serialInv {X : Extern} {W : World} {p : Nat} {w w' : SlWindow} {sent : List Msg}
    {ctx : SlContext} {fresh : Nat} {log : List (Nat × Msg)} (hm : Moves X W p w w' sent ctx fresh)
    (hi : SerialInv p w log) : SerialInv p w' (emit p sent log) := by
  rcases hm.keeps with hk | ⟨h, serial, s, rfl, hk⟩ | ⟨ws, rfl⟩
  · exact hi.keeps hk
  · rw [emit_cons]
    exact (hi.deliver h serial).keeps hk
  · refine ⟨fun ho => ?_, acksDelivered_emit hi.acks fun _ _ _ _ hm => ?_⟩
    · cases ((overran_emit p p _ log).mp ho).1 rfl _ (List.mem_singleton_self _)
    · cases List.mem_singleton.mp hm

/-! ## Runs -/

/-- The serials of every live window with no overrun, and every acknowledgment that no overrun of
its window precedes, were delivered. -/
structure SerialsInv (W : World) : Prop where
  /-- The log's acknowledgments name delivered serials. -/
  acks : AcksDelivered W.log
  /-- Each serial a live window with no overrun holds was delivered to it. -/
  held : ∀ p w, W.heap p = some w → overran p W.log = false → ∀ s, w.Holds s →
    ∃ h, (p, .configure h s) ∈ W.log

/-- Every step keeps the serials' invariant. -/
theorem SerialsInv.step {X : Extern} {W W' : World} {op : Op} (hi : SerialsInv W)
    (hs : step X W op = some W') : SerialsInv W' := by
  rcases step_cases hs with ⟨h₁, h₂, -⟩ | ⟨_, _, _, _, _, _, _, _, h₁, h₂, -⟩ |
    ⟨p, w, hp, h₁, h₂, -⟩ | ⟨p, w, w₁, sent, hp, hm, h₁, h₂, -⟩
  · exact ⟨h₂ ▸ hi.acks, fun q v hq => h₂ ▸ hi.held q v (h₁ ▸ hq)⟩
  · refine ⟨h₂ ▸ hi.acks, fun q v hq => h₂ ▸ ?_⟩
    rw [h₁] at hq
    rcases update_eq_some hq with ⟨-, ⟨⟩⟩ | ⟨-, hq⟩
    · exact fun _ s hs => (hs.2.elim hs.1 hs.1).elim
    · exact hi.held q v hq
  · refine ⟨h₂ ▸ hi.acks, fun q v hq => h₂ ▸ ?_⟩
    rw [h₁] at hq
    rcases update_eq_some hq with ⟨-, ⟨⟩⟩ | ⟨-, hq⟩
    exact hi.held q v hq
  · have hr := hm.serialInv ⟨hi.held p w hp, hi.acks⟩
    refine ⟨h₂ ▸ hr.acks, fun q v hq => h₂ ▸ ?_⟩
    rw [h₁] at hq
    rcases update_eq_some hq with ⟨rfl, ⟨⟩⟩ | ⟨-, hq⟩
    · exact hr.held
    · intro ho s hs
      obtain ⟨h, hh⟩ := hi.held q v hq ((overran_emit q p sent W.log).mp ho).2 s hs
      exact ⟨h, mem_emit.mpr (.inr hh)⟩

/-- Every reachable world meets the serials' invariant. -/
theorem Reachable.serialsInv {X : Extern} {W : World} (hW : Reachable X W) : SerialsInv W := by
  induction hW with
  | init => exact ⟨trivial, fun _ _ h => nomatch h⟩
  | step _ _ hs ih => exact ih.step hs

/-- Along every run, every acknowledgment the window code sends before any toplevel configure
overruns its window's `next_config.states` names a nonzero serial that an `xdg_surface.configure`
event delivered to the same window before it, and every serial that a live window with no overrun
holds, pending or queued, was delivered to it: until an overrun, the configure engine never
acknowledges serial 0 and never makes a serial up. -/
theorem acks_name_delivered_serials {X : Extern} {W : World} (hW : Reachable X W) :
    (∀ newer older p h s hs, W.log = newer ++ (p, .ackConfigure h s hs) :: older →
      overran p older = false → s ≠ 0 ∧ ∃ h', (p, .configure h' s) ∈ older) ∧
      ∀ p w, W.heap p = some w → overran p W.log = false → ∀ s, s ≠ 0 →
        (s = w.pendingConfig.serial ∨ s = w.nextConfig.serial) → ∃ h, (p, .configure h s) ∈ W.log := by
  have hi := hW.serialsInv
  refine ⟨fun newer older p h s hs hl ho => ?_, fun p w hp ho s h0 hs => hi.held p w hp ho s ⟨h0, hs⟩⟩
  exact (hl ▸ hi.acks).drop.1 ho h s hs rfl

/-- After `lostSurfaceRun`, serial 7 is acknowledged on `xdg_surface` 3 (the second newest
message), and was delivered to the same window on `xdg_surface` 1 before. -/
theorem acks_name_delivered_serials_lost_surface :
    (7 ≠ 0 ∧ ∃ h', (0, Msg.configure h' 7) ∈ lostSurfaceState.log.drop 2) ∧
      ∀ p w, lostSurfaceState.heap p = some w → overran p lostSurfaceState.log = false →
        ∀ s, s ≠ 0 → (s = w.pendingConfig.serial ∨ s = w.nextConfig.serial) →
          ∃ h, (p, .configure h s) ∈ lostSurfaceState.log :=
  have h := acks_name_delivered_serials (W := lostSurfaceState) (reachable_run_getD _ (by decide))
  ⟨h.1 (lostSurfaceState.log.take 1) _ 0 3 7 (some (SlHostSurface.sample 60 20 20 0)) (by decide)
    (by decide), h.2⟩

/-! ## The order of acknowledgments

The compositor's serials increase (`wl_display_next_serial`), and a client may skip a configure
but must not acknowledge a serial twice, nor one older than a serial it already acknowledged.
Over the serials delivered so far, the pending serial is below the queued one and both exceed
every acknowledged serial (`OrderInv`). Acknowledging the pending serial keeps this, since the
queued one then becomes pending; a delivery keeps it, since the new serial exceeds every serial
delivered before it and so every serial held or acknowledged (`SerialInv`). -/

/-- The serial a message acknowledges. -/
def Msg.ackSerial : Msg → Option Nat
  | .ackConfigure _ s _ => some s
  | _ => none

/-- The serial a configure event delivers. -/
def Msg.configureSerial : Msg → Option Nat
  | .configure _ s => some s
  | _ => none

/-- The serials that the messages about window `p` in a log carry, read by `f`, newest first. -/
def serialsOf (f : Msg → Option Nat) (p : Nat) (log : List (Nat × Msg)) : List Nat :=
  log.filterMap fun e => if e.1 = p then f e.2 else none

/-- Emitting messages for `q` puts their serials, newest first, before the log's when `q = p`. -/
theorem serialsOf_emit (f : Msg → Option Nat) (p q : Nat) (sent : List Msg)
    (log : List (Nat × Msg)) :
    serialsOf f p (emit q sent log) =
      (if q = p then (sent.filterMap f).reverse else []) ++ serialsOf f p log := by
  simp only [serialsOf, emit, List.filterMap_append, List.filterMap_reverse, List.filterMap_map]
  split <;> simp [*, Function.comp_def]

/-- A serial of window `p` in the log is read from one of its messages. -/
theorem mem_serialsOf {f : Msg → Option Nat} {p a : Nat} {log : List (Nat × Msg)} :
    a ∈ serialsOf f p log ↔ ∃ m, (p, m) ∈ log ∧ f m = some a := by
  simp only [serialsOf, List.mem_filterMap]
  constructor
  · rintro ⟨⟨q, m⟩, he, hf⟩
    split at hf
    · subst_vars
      exact ⟨m, he, hf⟩
    · cases hf
  · rintro ⟨m, he, hf⟩
    exact ⟨(p, m), he, by simp [hf]⟩

/-- Quiet messages carry no acknowledged serial. -/
theorem ackSerials_quiet {sent : List Msg} (h : ∀ m ∈ sent, m.Quiet) :
    sent.filterMap Msg.ackSerial = [] :=
  List.filterMap_eq_nil_iff.mpr fun m hm => by cases m <;> first | rfl | exact (h _ hm).elim

/-- Every serial acknowledged about a window `p` whose log records no overrun was delivered to
it. -/
theorem AcksDelivered.acked_delivered {log : List (Nat × Msg)} (hl : AcksDelivered log)
    {p a : Nat} (ho : overran p log = false) (ha : a ∈ serialsOf Msg.ackSerial p log) :
    a ∈ serialsOf Msg.configureSerial p log := by
  obtain ⟨m, hm, hf⟩ := mem_serialsOf.mp ha
  cases m <;> cases hf
  obtain ⟨newer, older, rfl⟩ := List.append_of_mem hm
  rw [overran_append, Bool.or_eq_false_iff] at ho
  obtain ⟨-, h', hh⟩ := hl.drop.1 (overran_of_cons ho.2) _ _ _ rfl
  exact mem_serialsOf.mpr ⟨_, List.mem_append_right _ (List.mem_cons_of_mem _ hh), rfl⟩

/-- What the order of window `p`'s acknowledgments needs of the window and the log. -/
structure OrderInv (p : Nat) (w : SlWindow) (log : List (Nat × Msg)) : Prop where
  /-- The acknowledged serials decrease going back in the log. -/
  sorted : (serialsOf Msg.ackSerial p log).Sorted (· > ·)
  /-- Every serial the window holds exceeds every acknowledged one. -/
  above : ∀ s, w.Holds s → ∀ a ∈ serialsOf Msg.ackSerial p log, a < s
  /-- The pending serial is below the queued one. -/
  queued : w.pendingConfig.serial ≠ 0 → w.nextConfig.serial ≠ 0 →
    w.pendingConfig.serial < w.nextConfig.serial

/-- The invariant reads only the log's acknowledged serials. -/
theorem OrderInv.of_acks {p : Nat} {w : SlWindow} {log log' : List (Nat × Msg)}
    (hi : OrderInv p w log) (he : serialsOf Msg.ackSerial p log' = serialsOf Msg.ackSerial p log) :
    OrderInv p w log' :=
  ⟨he ▸ hi.sorted, fun s hs => he ▸ hi.above s hs, hi.queued⟩

/-- A step that sends no acknowledgment keeps the order when the window holds no new serial and
keeps its pending serial below its queued one. -/
theorem OrderInv.quiet {p : Nat} {w w' : SlWindow} {sent : List Msg} {log : List (Nat × Msg)}
    (hi : OrderInv p w log) (hh : ∀ s, w'.Holds s → w.Holds s)
    (hq : sent.filterMap Msg.ackSerial = [])
    (hn : w'.pendingConfig.serial ≠ 0 → w'.nextConfig.serial ≠ 0 →
      w'.pendingConfig.serial < w'.nextConfig.serial) :
    OrderInv p w' (emit p sent log) :=
  have he : serialsOf Msg.ackSerial p (emit p sent log) = serialsOf Msg.ackSerial p log := by
    simp [serialsOf_emit, hq]
  ⟨he ▸ hi.sorted, fun s hs => he ▸ hi.above s (hh s hs), hn⟩

/-- A window with the same engine state that sends quiet messages keeps the invariant. -/
theorem OrderInv.of_engine {p : Nat} {w w' : SlWindow} {sent : List Msg} {log : List (Nat × Msg)}
    (hi : OrderInv p w log) (he : w'.engine = w.engine) (hq : ∀ m ∈ sent, m.Quiet) :
    OrderInv p w' (emit p sent log) := by
  simp only [SlWindow.engine, Prod.mk.injEq] at he
  refine hi.quiet (fun s hs => ?_) (ackSerials_quiet hq) ?_
  · simpa only [SlWindow.Holds, he.2.2.1, he.2.2.2] using hs
  · rw [he.2.2.1, he.2.2.2]
    exact hi.queued

/-- `sl_configure_window` keeps the invariant. -/
theorem slConfigureWindow_order {p : Nat} {w w' : SlWindow} {sent : List Msg}
    {log : List (Nat × Msg)} (hi : OrderInv p w log) (h : slConfigureWindow w = some (w', sent)) :
    OrderInv p w' (emit p sent log) := by
  have hk := (slConfigureWindow_keeps h).held
  obtain ⟨-, -, rfl, pre, hpre, rfl⟩ := slConfigureWindow_some h
  refine hi.quiet hk ?_ fun _ h => absurd rfl h
  simp [ackSerials_quiet fun m hm => (hpre m hm).quiet, Msg.ackSerial]

/-- An acknowledgment names the pending serial, above every acknowledged one, and leaves the
queued serial, above the pending one. -/
theorem ackOf_order {fix : Bool} {p : Nat} {w : SlWindow} {hs : Option SlHostSurface}
    {log : List (Nat × Msg)} (hi : OrderInv p w log) (hb : ¬AckBlocked fix w hs) :
    OrderInv p w.clearPending (emit p (ackOf w hs) log) := by
  have h0 : w.pendingConfig.serial ≠ 0 := fun h => hb (.inl h)
  cases hx : w.xdgSurface with
  | none =>
    rw [show ackOf w hs = [] by simp [ackOf, hx]]
    exact hi.quiet (ackOf_keeps hb).held rfl fun h => absurd rfl h
  | some x =>
    have he : serialsOf Msg.ackSerial p (emit p (ackOf w hs) log) =
        w.pendingConfig.serial :: serialsOf Msg.ackSerial p log := by
      simp [ackOf, hx, serialsOf_emit, Msg.ackSerial]
    refine ⟨he ▸ List.sorted_cons.mpr ⟨fun a ha => hi.above _ ⟨h0, .inl rfl⟩ a ha, hi.sorted⟩,
      fun s ⟨hs0, hs⟩ a ha => ?_, fun h => absurd rfl h⟩
    have hn : s = w.nextConfig.serial := hs.resolve_left hs0
    rw [he] at ha
    rcases List.mem_cons.mp ha with rfl | ha
    · exact hn ▸ hi.queued h0 (hn ▸ hs0)
    · exact hi.above s ⟨hs0, .inr hn⟩ a ha

/-- `sl_process_pending_configure_acks` keeps the invariant. -/
theorem slProcessPendingConfigureAcks_order {fix b : Bool} {p : Nat} {w w' : SlWindow}
    {hs : Option SlHostSurface} {log : List (Nat × Msg)} {sent : List Msg} (hi : OrderInv p w log)
    (h : slProcessPendingConfigureAcks fix w hs = some (b, w', sent)) :
    OrderInv p w' (emit p sent log) := by
  rcases slProcessPendingConfigureAcks_cases h with ⟨-, -, rfl, rfl⟩ | ⟨hb, -, hrest⟩
  · exact hi
  · rcases hrest with ⟨-, rfl, rfl⟩ | ⟨-, rest, hc, rfl⟩
    · exact ackOf_order hi hb
    · rw [emit_append]
      exact slConfigureWindow_order (ackOf_order hi hb) hc

/-- `sl_commit` keeps the invariant. -/
theorem slCommit_order {fix : Bool} {p : Nat} {w w' : SlWindow} {hs : Option SlHostSurface}
    {log : List (Nat × Msg)} {sent : List Msg} (hi : OrderInv p w log)
    (h : slCommit fix w hs = some (w', sent)) : OrderInv p w' (emit p sent log) := by
  obtain ⟨b, sent₀, h₁, rfl⟩ := slCommit_some h
  rw [emit_append]
  refine (slProcessPendingConfigureAcks_order hi h₁).of_engine rfl fun m hm => ?_
  split at hm
  · obtain ⟨s, -, rfl⟩ := Option.mem_map.mp (Option.mem_toList.mp hm)
    trivial
  · cases hm

/-- The surface listener keeps the invariant once the new serial is queued. -/
theorem slInternalXdgSurfaceConfigure_order {fix : Bool} {p : Nat} {w w' : SlWindow}
    {hs : Option SlHostSurface} {serial : Nat} {log : List (Nat × Msg)} {sent : List Msg}
    (hi : OrderInv p (w.queue serial) log)
    (h : slInternalXdgSurfaceConfigure fix w hs serial = some (w', sent)) :
    OrderInv p w' (emit p sent log) := by
  rcases slInternalXdgSurfaceConfigure_cases h with ⟨-, rfl, rfl⟩ | ⟨-, w₁, s₁, s₂, h₁, h₂, rfl⟩
  · exact hi
  · rw [emit_append]
    exact slCommit_order (slConfigureWindow_order hi h₁) h₂

/-- A delivered serial above every serial delivered before it is queued above the pending serial
and every acknowledged one. -/
theorem OrderInv.deliver {p : Nat} {w : SlWindow} {log : List (Nat × Msg)} (hi : OrderInv p w log)
    (hs : SerialInv p w log) (ho : overran p log = false) {serial : Nat}
    (hgt : ∀ d ∈ serialsOf Msg.configureSerial p log, d < serial) (h : Nat) :
    OrderInv p (w.queue serial) ((p, .configure h serial) :: log) := by
  have he : serialsOf Msg.ackSerial p ((p, .configure h serial) :: log) =
      serialsOf Msg.ackSerial p log := by
    simp [serialsOf, Msg.ackSerial]
  have hheld : ∀ s, w.Holds s → s < serial := fun s hs' =>
    let ⟨_, hh⟩ := hs.held ho s hs'
    hgt s (mem_serialsOf.mpr ⟨_, hh, rfl⟩)
  refine ⟨he ▸ hi.sorted, fun s ⟨h0, hs'⟩ a ha => ?_, fun h0 _ => hheld _ ⟨h0, .inl rfl⟩⟩
  rw [he] at ha
  rcases hs' with hs' | rfl
  · exact hi.above s ⟨h0, .inl hs'⟩ a ha
  · exact hgt a (hs.acks.acked_delivered ho ha)

/-- Every move that leaves no overrun of window `p` logged keeps the order of its
acknowledgments, given that the serials delivered to it increase. -/
theorem Moves.orderInv {X : Extern} {W : World} {p : Nat} {w w' : SlWindow} {sent : List Msg}
    {ctx : SlContext} {fresh : Nat} {log : List (Nat × Msg)} (hm : Moves X W p w w' sent ctx fresh)
    (hs : SerialInv p w log) (hi : OrderInv p w log)
    (hd : (serialsOf Msg.configureSerial p (emit p sent log)).Sorted (· > ·))
    (ho : overran p (emit p sent log) = false) :
    OrderInv p w' (emit p sent log) := by
  obtain ⟨hsent, hlog⟩ := (overran_emit p p sent log).mp ho
  rcases hm.engine_cases with ⟨he, hq⟩ | ⟨h, serial, s, -, rfl, hc⟩ | ⟨hs', hc⟩ |
    ⟨w₀, w₁, hs', pre, s, r, -, he, hq, hc, rfl, rfl⟩ | ⟨ws, -, -, rfl, -⟩
  · exact hi.of_engine he hq
  · have hc' : serialsOf Msg.configureSerial p ((p, .configure h serial) :: log) =
        serial :: serialsOf Msg.configureSerial p log := by
      simp [serialsOf, Msg.configureSerial]
    rw [emit_cons] at hd ⊢
    rw [serialsOf_emit, hc'] at hd
    exact slInternalXdgSurfaceConfigure_order
      (hi.deliver hs hlog (List.pairwise_cons.mp (List.pairwise_append.mp hd).2.1).1 h) hc
  · exact slCommit_order hi hc
  · rw [emit_append]
    have h := slCommit_order (hi.of_engine he hq) hc
    exact ⟨h.sorted, h.above, h.queued⟩
  · cases hsent rfl _ (List.mem_singleton_self _)

/-- For every window `p` whose delivered serials increase and whose log records no overrun, the
order of its acknowledgments holds in every reachable state, and of its live window. -/
theorem Reachable.orderInv {X : Extern} {W : World} (hW : Reachable X W) (p : Nat) :
    (serialsOf Msg.configureSerial p W.log).Sorted (· > ·) → overran p W.log = false →
      (serialsOf Msg.ackSerial p W.log).Sorted (· > ·) ∧
        ∀ w, W.heap p = some w → OrderInv p w W.log := by
  induction hW with
  | init => exact fun _ _ => ⟨List.sorted_nil, fun _ h => nomatch h⟩
  | @step W W' op hW hs ih =>
    intro hd ho
    rcases step_cases hs with ⟨h₁, h₂, -⟩ | ⟨_, _, _, _, _, _, _, _, h₁, h₂, -⟩ |
      ⟨q, w, hq, h₁, h₂, -⟩ | ⟨q, w, w₁, sent, hq, hm, h₁, h₂, -⟩ <;> rw [h₂] at hd ho ⊢ <;> rw [h₁]
    · exact ih hd ho
    · obtain ⟨hsorted, hw⟩ := ih hd ho
      refine ⟨hsorted, fun v hv => ?_⟩
      rcases update_eq_some hv with ⟨-, ⟨⟩⟩ | ⟨-, hv⟩
      · exact ⟨hsorted, fun s hs => (hs.2.elim hs.1 hs.1).elim, fun h => absurd rfl h⟩
      · exact hw v hv
    · obtain ⟨hsorted, hw⟩ := ih hd ho
      refine ⟨hsorted, fun v hv => ?_⟩
      rcases update_eq_some hv with ⟨-, ⟨⟩⟩ | ⟨-, hv⟩
      exact hw v hv
    · have hd' := hd
      rw [serialsOf_emit] at hd'
      obtain ⟨hsorted, hw⟩ := ih (List.pairwise_append.mp hd').2.1 ((overran_emit p q sent _).mp ho).2
      by_cases hqp : q = p
      · subst hqp
        have hr := hm.orderInv ⟨hW.serialsInv.held q w hq, hW.serialsInv.acks⟩ (hw w hq) hd ho
        refine ⟨hr.sorted, fun v hv => ?_⟩
        rcases update_eq_some hv with ⟨-, ⟨⟩⟩ | ⟨hne, -⟩
        · exact hr
        · exact absurd rfl hne
      · have he : serialsOf Msg.ackSerial p (emit q sent W.log) = serialsOf Msg.ackSerial p W.log := by
          simp [serialsOf_emit, hqp]
        refine ⟨he ▸ hsorted, fun v hv => ?_⟩
        rcases update_eq_some hv with ⟨rfl, -⟩ | ⟨-, hv⟩
        · exact absurd rfl hqp
        · exact (hw v hv).of_acks he

/-- When the serials the compositor delivers to a window increase, as `wl_display_next_serial`
makes them, and no toplevel configure overruns its `next_config.states`, the window code
acknowledges that window's serials in increasing order along every run: it may skip a serial that
a newer one replaced in `next_config`, but it never acknowledges a serial twice, nor one older
than a serial it already acknowledged. -/
theorem acks_in_delivery_order {X : Extern} {W : World} (hW : Reachable X W) (p : Nat)
    (hd : (serialsOf Msg.configureSerial p W.log).Sorted (· > ·)) (ho : overran p W.log = false) :
    (serialsOf Msg.ackSerial p W.log).Sorted (· > ·) :=
  (hW.orderInv p hd ho).1

/-- A managed window is paired and updated, and the compositor delivers serials 7, 8 and 9 with
proposals of 20, 30 and 40 pixels while 7 is owed; the host surface then reaches 20 and 40
pixels. Serial 7 is acknowledged, 8 is replaced by 9 in `next_config`, and 9 is acknowledged. -/
def orderRun : List Op :=
  [.create 100 0 0 10 10 0 true Props.unset, .surface 5 (some (SlHostSurface.sample 50 10 10 0)),
    .pair 0 5, .windowUpdate 0, .xdgToplevelConfigure 0 20 20 [], .xdgSurfaceConfigure 0 7,
    .xdgToplevelConfigure 0 30 30 [], .xdgSurfaceConfigure 0 8,
    .xdgToplevelConfigure 0 40 40 [], .xdgSurfaceConfigure 0 9,
    .commit 0 (some (SlHostSurface.sample 50 20 20 0)),
    .commit 0 (some (SlHostSurface.sample 50 40 40 0))]

/-- The state after `orderRun`, with `COMMIT_LOOP_FIX`. -/
def orderState : World :=
  (run (Extern.unscaled true) (World.init (SlContext.sample true) fun _ => none) orderRun).getD
    (World.init (SlContext.sample true) fun _ => none)

/-- After `orderRun` serials 7, 8 and 9 were delivered in order and 7 and 9 acknowledged in
order, skipping 8. -/
theorem acks_in_delivery_order_skip :
    serialsOf Msg.configureSerial 0 orderState.log = [9, 8, 7] ∧
      ([9, 8, 7] : List Nat).Sorted (· > ·) ∧ overran 0 orderState.log = false ∧
      serialsOf Msg.ackSerial 0 orderState.log = [9, 7] ∧
        (serialsOf Msg.ackSerial 0 orderState.log).Sorted (· > ·) :=
  ⟨by decide, by decide, by decide, by decide,
    acks_in_delivery_order (W := orderState) (reachable_run_getD _ (by decide)) 0 (by decide)
      (by decide)⟩

end Sommelier

import Sommelier.Acks

/-!
# The commit loop fix

With `COMMIT_LOOP_FIX`, `sl_process_pending_configure_acks` returns early on a pending configure
that changes nothing: no mask and no states. Such a configure is still owed, and only an overrun
of `next_config.states` writes `pending_config` besides `sl_configure_window`, which requires it
to be clear. A window whose owed configure is empty is therefore stalled for good unless the
compositor's states overrun the buffer (`stalled_configure_persists`): every later configure
queues behind it and no acknowledgment is ever sent for it. The state is reachable, by the first
`xdg_surface.configure` of an unmanaged window, whose toplevel listener never writes a proposal,
and of a managed window after a toplevel configure of size 0 × 0 with no states
(`stalled_configure_reachable`).
-/

namespace Sommelier

/-- An owed configure with no mask and no states, on which `sl_process_pending_configure_acks`
returns early under `COMMIT_LOOP_FIX`. -/
def Stalled (w : SlWindow) : Prop :=
  w.pendingConfig.serial ≠ 0 ∧ w.pendingConfig.mask = 0 ∧ w.pendingConfig.statesLength = 0

instance (w : SlWindow) : Decidable (Stalled w) := inferInstanceAs (Decidable (_ ∧ _ ∧ _))

/-- With `COMMIT_LOOP_FIX`, `sl_commit` on a stalled window does nothing. -/
theorem slCommit_stalled {w : SlWindow} (hs : Stalled w) (host : Option SlHostSurface) :
    slCommit true w host = some (w, []) := by
  simp [slCommit, slProcessPendingConfigureAcks_blocked (.inr (.inl ⟨rfl, hs.2⟩))]

/-- With `COMMIT_LOOP_FIX`, the surface listener on a stalled window only queues the serial. -/
theorem slInternalXdgSurfaceConfigure_stalled {w : SlWindow} (hs : Stalled w)
    (host : Option SlHostSurface) (serial : Nat) :
    slInternalXdgSurfaceConfigure true w host serial = some (w.queue serial, []) := by
  simp [slInternalXdgSurfaceConfigure, SlWindow.queue, hs.1]

/-- Under `COMMIT_LOOP_FIX`, every move of a stalled window that overruns nothing keeps its pending
configure and sends neither an acknowledgment nor a new pending configure. -/
theorem Moves.stalled {X : Extern} (hfix : X.commitLoopFix = true) {W : World} {p : Nat}
    {w w' : SlWindow} {sent : List Msg} {ctx : SlContext} {fresh : Nat}
    (hm : Moves X W p w w' sent ctx fresh) (hs : Stalled w) (ho : ∀ m ∈ sent, m.isOverrun = false) :
    w'.pendingConfig = w.pendingConfig ∧ ∀ m ∈ sent, m.Quiet := by
  rcases hm.engine_cases with ⟨he, hq⟩ | ⟨h, serial, s, -, rfl, hc⟩ | ⟨host, hc⟩ |
    ⟨w₀, w₁, host, pre, s, r, -, he, hq, hc, rfl, rfl⟩ | ⟨ws, -, -, rfl, -⟩
  · exact ⟨(congrArg (·.2.2.1) he :), hq⟩
  · rw [hfix, slInternalXdgSurfaceConfigure_stalled hs, Option.some.injEq, Prod.mk.injEq] at hc
    obtain ⟨rfl, rfl⟩ := hc
    exact ⟨rfl, fun m hm => by rw [List.mem_singleton.mp hm]; trivial⟩
  · rw [hfix, slCommit_stalled hs, Option.some.injEq, Prod.mk.injEq] at hc
    obtain ⟨rfl, rfl⟩ := hc
    exact ⟨rfl, fun _ h => absurd h (List.not_mem_nil _)⟩
  · have hp : w₀.pendingConfig = w.pendingConfig := (congrArg (·.2.2.1) he :)
    have hs₀ : Stalled w₀ := by rw [Stalled, hp]; exact hs
    rw [slCommit_stalled hs₀, Option.some.injEq, Prod.mk.injEq] at hc
    obtain ⟨rfl, rfl⟩ := hc
    exact ⟨hp, fun m hm => hq m (by simpa using hm)⟩
  · cases ho _ (List.mem_singleton_self _)

/-- What the runs from a state keep of window `p` once its pending configure is `P`, as long as
no message about `p` since records an overrun: the window is gone for good, or still has `P`; and
every message about `p` sent since is quiet. -/
def StallKept (W₀ : World) (p : Nat) (P : SlConfig) (W : World) : Prop :=
  p < W.nextWindow ∧ ∃ new, W.log = new ++ W₀.log ∧ (overran p new = false →
    (W.heap p = none ∨ ∃ w, W.heap p = some w ∧ w.pendingConfig = P) ∧
      ∀ e ∈ new, e.1 = p → e.2.Quiet)

/-- With `COMMIT_LOOP_FIX`, every step keeps `StallKept`: while no overrun of `p` is logged, the
window is gone or keeps its stalled `pending_config`, and it is sent only quiet messages. -/
theorem StallKept.step {X : Extern} (hfix : X.commitLoopFix = true) {W₀ W W' : World} {p : Nat}
    {P : SlConfig} (hP : P.serial ≠ 0 ∧ P.mask = 0 ∧ P.statesLength = 0) {op : Op}
    (hk : StallKept W₀ p P W) (h : step X W op = some W') : StallKept W₀ p P W' := by
  obtain ⟨hlt, new, hlog, hk⟩ := hk
  rcases step_cases h with ⟨h₁, h₂, -, h₄, -⟩ | ⟨_, _, _, _, _, _, _, _, h₁, h₂, -, h₄, -⟩ |
    ⟨q, w, hq, h₁, h₂, -, h₄, -⟩ | ⟨q, w, w', sent, hq, hm, h₁, h₂, h₄⟩
  · exact ⟨h₄ ▸ hlt, new, h₂ ▸ hlog, h₁ ▸ hk⟩
  · refine ⟨by omega, new, h₂ ▸ hlog, fun ho => ⟨?_, (hk ho).2⟩⟩
    rw [h₁, Function.update_noteq (Nat.ne_of_lt hlt)]
    exact (hk ho).1
  · refine ⟨h₄ ▸ hlt, new, h₂ ▸ hlog, fun ho => ⟨?_, (hk ho).2⟩⟩
    rw [h₁]
    by_cases hqp : p = q
    · subst hqp; exact .inl (Function.update_same _ _ _)
    · rw [Function.update_noteq hqp]; exact (hk ho).1
  · refine ⟨h₄ ▸ hlt, emit q sent new, by rw [h₂, hlog, emit, emit, List.append_assoc], fun ho => ?_⟩
    obtain ⟨hsent, hnew⟩ := (overran_emit p q sent new).mp ho
    obtain ⟨hlive, hquiet⟩ := hk hnew
    /- A move of `p` itself finds it live with `P`, and keeps `P` with quiet messages. -/
    have hstall : p = q → w'.pendingConfig = P ∧ ∀ m ∈ sent, m.Quiet := by
      rintro rfl
      obtain ⟨w₀, hw₀, hP₀⟩ := hlive.resolve_left (by simp [hq])
      rw [hq, Option.some.injEq] at hw₀
      subst hw₀
      have := hm.stalled hfix (by rw [Stalled, hP₀]; exact hP) (hsent rfl)
      exact ⟨this.1.trans hP₀, this.2⟩
    refine ⟨?_, fun e he hep => ?_⟩
    · rw [h₁]
      by_cases hqp : p = q
      · subst hqp; exact .inr ⟨w', Function.update_same _ _ _, (hstall rfl).1⟩
      · rw [Function.update_noteq hqp]; exact hlive
    · rcases List.mem_append.mp he with he | he
      · obtain ⟨m, hm', rfl⟩ := List.mem_map.mp (List.mem_reverse.mp he)
        exact (hstall hep.symm).2 m hm'
      · exact hquiet e he hep

end Sommelier

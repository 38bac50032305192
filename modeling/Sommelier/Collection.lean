import Sommelier.Parents

/-!
# The window collection

The windows of the context are kept in two lists, `ctx->windows` for paired windows and
`ctx->unpaired_windows` for the others, and a window's compositor-side handles follow its
pairing: an unpaired window has none, a role needs an `xdg_surface` (and an aura surface when the
aura shell is bound), and a realized window is paired and has a role. `CollectionInv` states this
of a world; the constructor, the destructor and every move keep it, the pairing transition of
`sl_window_update` through `pairingTransition_lists`. As a consequence every parent that
`sl_window_update` resolves has an `xdg_surface`, and an aura surface when the aura shell is bound
(`updateParent_ready`).
-/

namespace Sommelier

/-- Window `p`'s place in the two lists: in `ctx->windows` when paired and in
`ctx->unpaired_windows` when unpaired, so in exactly one of them. -/
def Placed (ctx : SlContext) (p : Nat) (unpaired : Bool) : Prop :=
  (p ∈ ctx.windows ↔ unpaired = false) ∧ (p ∈ ctx.unpairedWindows ↔ unpaired = true)

/-- The compositor-side handles of a window, where `aura` says whether the aura shell is bound. -/
structure HandlesInv (aura : Bool) (w : SlWindow) : Prop where
  /-- An unpaired window has no handle and is not realized. -/
  bare : w.unpaired = true → w.xdgSurface = none ∧ w.xdgToplevel = none ∧ w.xdgPopup = none ∧
    w.auraSurface = none ∧ w.realized = false
  /-- A role needs an `xdg_surface`, and an aura surface when the aura shell is bound. -/
  role : (w.xdgToplevel.isSome ∨ w.xdgPopup.isSome) →
    w.xdgSurface.isSome ∧ (aura = true → w.auraSurface.isSome)
  /-- A realized window is paired and has an `xdg_surface` and a role. -/
  realized : w.realized = true →
    w.unpaired = false ∧ w.xdgSurface.isSome ∧ (w.xdgToplevel.isSome ∨ w.xdgPopup.isSome)

/-- What `HandlesInv` reads of a window: its pairing flag, its handles and `realized`. -/
def SlWindow.handles (w : SlWindow) :
    Bool × Option Nat × Option Nat × Option Nat × Option Nat × Bool :=
  (w.unpaired, w.xdgSurface, w.xdgToplevel, w.xdgPopup, w.auraSurface, w.realized)

/-- The invariant reads only the window's handles. -/
theorem HandlesInv.of_handles {aura : Bool} {w w' : SlWindow} (hi : HandlesInv aura w)
    (h : w'.handles = w.handles) : HandlesInv aura w' := by
  simp only [SlWindow.handles, Prod.mk.injEq] at h
  obtain ⟨hu, hx, ht, hp, ha, hr⟩ := h
  exact ⟨fun h => by rw [hx, ht, hp, ha, hr]; exact hi.bare (hu ▸ h),
    fun h => by rw [hx, ha]; exact hi.role (by rwa [ht, hp] at h),
    fun h => by rw [hu, hx, ht, hp]; exact hi.realized (hr ▸ h)⟩

/-- The window collection's invariant. -/
structure CollectionInv (W : World) : Prop where
  /-- No window is twice in a list. -/
  nodup : W.ctx.windows.Nodup ∧ W.ctx.unpairedWindows.Nodup
  /-- A live window is in the list its pairing says. -/
  placed : ∀ p w, W.heap p = some w → Placed W.ctx p w.unpaired
  /-- A pointer with no live window is in neither list. -/
  unlisted : ∀ p, W.heap p = none → p ∉ W.ctx.windows ∧ p ∉ W.ctx.unpairedWindows
  /-- Every live window's handles follow its pairing. -/
  handles : ∀ p w, W.heap p = some w → HandlesInv W.ctx.auraShell.isSome w

/-! ## The lists -/

/-- The lists of `ctx` hold no window twice, and every window but `p` as those of `ctx₀` do. -/
def ListsFrame (ctx₀ ctx : SlContext) (p : Nat) : Prop :=
  (ctx.windows.Nodup ∧ ctx.unpairedWindows.Nodup) ∧
    ∀ q, q ≠ p → ((q ∈ ctx.windows ↔ q ∈ ctx₀.windows) ∧
      (q ∈ ctx.unpairedWindows ↔ q ∈ ctx₀.unpairedWindows))

/-- Unlinking `p` removes it, and only it, from both lists. -/
theorem SlContext.unlink_mem {ctx : SlContext} (hn : ctx.windows.Nodup ∧ ctx.unpairedWindows.Nodup)
    (p q : Nat) : (q ∈ (ctx.unlink p).windows ↔ q ≠ p ∧ q ∈ ctx.windows) ∧
      (q ∈ (ctx.unlink p).unpairedWindows ↔ q ≠ p ∧ q ∈ ctx.unpairedWindows) :=
  ⟨hn.1.mem_erase_iff, hn.2.mem_erase_iff⟩

/-- Unlinking keeps both lists free of duplicates. -/
theorem SlContext.unlink_nodup {ctx : SlContext} (hn : ctx.windows.Nodup ∧ ctx.unpairedWindows.Nodup)
    (p : Nat) : (ctx.unlink p).windows.Nodup ∧ (ctx.unlink p).unpairedWindows.Nodup :=
  ⟨hn.1.erase p, hn.2.erase p⟩

/-- The pairing transition keeps the lists free of repeats, places the window by its new flag,
and moves no other window. -/
theorem pairingTransition_lists (objects : Nat → Option SlHostSurface) {ctx : SlContext} (p : Nat)
    {w : SlWindow} (hn : ctx.windows.Nodup ∧ ctx.unpairedWindows.Nodup)
    (hp : Placed ctx p w.unpaired) :
    ListsFrame ctx (pairingTransition objects ctx p w).1 p ∧
      Placed (pairingTransition objects ctx p w).1 p (pairingTransition objects ctx p w).2.1.unpaired := by
  have hu := SlContext.unlink_mem hn p
  have hnu := SlContext.unlink_nodup hn p
  unfold pairingTransition
  dsimp only
  split_ifs
  -- An unpaired window with a live resource moves to the head of `ctx->windows`.
  · refine ⟨⟨⟨List.nodup_cons.mpr ⟨fun h => ((hu p).1.mp h).1 rfl, hnu.1⟩, hnu.2⟩, fun q hq => ?_⟩,
      ?_, ?_⟩
    · simp [List.mem_cons, hq, (hu q).1, (hu q).2]
    · simp
    · simp [(hu p).2]
  · exact ⟨⟨hn, fun _ _ => ⟨Iff.rfl, Iff.rfl⟩⟩, hp⟩
  -- A paired window without a host surface id moves to the head of `ctx->unpaired_windows`.
  · refine ⟨⟨⟨hnu.1, List.nodup_cons.mpr ⟨fun h => ((hu p).2.mp h).1 rfl, hnu.2⟩⟩, fun q hq => ?_⟩,
      ?_, ?_⟩
    · simp [List.mem_cons, hq, (hu q).1, (hu q).2]
    · simp [(hu p).1]
    · simp
  · exact ⟨⟨hn, fun _ _ => ⟨Iff.rfl, Iff.rfl⟩⟩, hp⟩

/-! ## The handles -/

theorem HandlesInv.new (aura : Bool) (id : Nat) (x y width height borderWidth : Int)
    (managed : Bool) (props : Props) :
    HandlesInv aura (SlWindow.new id x y width height borderWidth managed props) :=
  ⟨fun _ => ⟨rfl, rfl, rfl, rfl, rfl⟩, fun h => by simp [SlWindow.new, SlWindow.blank] at h,
    fun h => by simp [SlWindow.new, SlWindow.blank] at h⟩

/-- A torn-down window meets the invariant: it has no handles and is not realized. -/
theorem HandlesInv.teardown (aura : Bool) (w : SlWindow) : HandlesInv aura (teardown w).1 :=
  ⟨fun _ => ⟨rfl, rfl, rfl, rfl, rfl⟩, fun h => by simp at h,
    fun h => by simp at h⟩

/-- The window that `sl_window_update` commits is paired and has an `xdg_surface`, a role, and an
aura surface when the aura shell is bound; the commit and the realization keep that. -/
theorem HandlesInv.update {X : Extern} {W : World} {p : Nat} {w w₁ w₂ : SlWindow}
    {ctx : SlContext} {hs : SlHostSurface} {sent : List Msg}
    (hr : pairingTransition W.objects W.ctx p w = (ctx, w₁, some hs))
    (h : finishUpdate X (reconcile X W ctx p w₁ hs).host (reconcile X W ctx p w₁ hs).window =
      some (w₂, sent)) :
    HandlesInv W.ctx.auraShell.isSome w₂ := by
  have hpaired := pairingTransition_paired
    (show (pairingTransition W.objects W.ctx p w).2.2 = some hs by rw [hr])
  rw [hr] at hpaired
  obtain ⟨ws, us, hctx⟩ := pairingTransition_ctx W.objects W.ctx p w
  rw [hr] at hctx
  have hca : ctx.auraShell = W.ctx.auraShell := by
    have := congrArg SlContext.auraShell hctx
    exact this
  obtain ⟨hcore, hsurf, hrole, haura, -⟩ := reconcile_window X W ctx p w₁ hs
  have hu : (reconcile X W ctx p w₁ hs).window.unpaired = false :=
    (congrArg SlWindow.unpaired hcore).trans hpaired
  obtain ⟨g, pc, nc, r, rfl⟩ := finishUpdate_frame h
  refine ⟨fun h' => absurd (hu.symm.trans h') (by decide), fun _ => ⟨by simp [hsurf], fun ha => ?_⟩,
    fun _ => ⟨hu, by simp [hsurf], hrole⟩⟩
  exact haura (hca ▸ ha)

/-- Every move keeps the lists and the window's handles. -/
theorem Moves.collection {X : Extern} {W : World} {p : Nat} {w w' : SlWindow} {sent : List Msg}
    {ctx : SlContext} {fresh : Nat} (hm : Moves X W p w w' sent ctx fresh)
    (hn : W.ctx.windows.Nodup ∧ W.ctx.unpairedWindows.Nodup) (hp : Placed W.ctx p w.unpaired)
    (hh : HandlesInv W.ctx.auraShell.isSome w) :
    ListsFrame W.ctx ctx p ∧ Placed ctx p w'.unpaired ∧ HandlesInv W.ctx.auraShell.isSome w' := by
  have same : ListsFrame W.ctx W.ctx p := ⟨hn, fun _ _ => ⟨Iff.rfl, Iff.rfl⟩⟩
  cases hm with
  | surfaceConfigure _ h =>
    obtain ⟨g, pc, nc, rfl⟩ := slInternalXdgSurfaceConfigure_engine h
    exact ⟨same, hp, hh.of_handles rfl⟩
  | toplevelConfigure width height states =>
    obtain ⟨m, v, sl, st, a, c, act, h⟩ := slInternalXdgToplevelConfigure_window X W.ctx p w
      (getObject W.objects (w.pairedSurface.getD 0)) width height states
    obtain ⟨hw, hu⟩ := slInternalXdgToplevelConfigure_lists X W.ctx p w
      (getObject W.objects (w.pairedSurface.getD 0)) width height states
    rw [h]
    refine ⟨⟨?_, fun q _ => ?_⟩, ?_, hh.of_handles rfl⟩ <;> (try unfold Placed) <;> rw [hw, hu]
    · exact hn
    · exact ⟨Iff.rfl, Iff.rfl⟩
    · exact hp
  | close => exact ⟨same, hp, hh⟩
  | commit h =>
    obtain ⟨g, pc, nc, rfl⟩ := slCommit_engine h
    exact ⟨same, hp, hh.of_handles rfl⟩
  | @teardown ctx w₁ hr =>
    have := pairingTransition_lists W.objects p hn hp
    rw [hr] at this
    exact ⟨this.1, this.2, HandlesInv.teardown _ w₁⟩
  | @update ctx w₁ w₂ hs sent hr h =>
    have hl := pairingTransition_lists W.objects p hn hp
    rw [hr] at hl
    refine ⟨hl.1, ?_, HandlesInv.update hr h⟩
    obtain ⟨g, pc, nc, r, rfl⟩ := finishUpdate_frame h
    exact (congrArg SlWindow.unpaired (reconcile_window X W ctx p w₁ hs).1) ▸ hl.2
  | pair id => exact ⟨same, hp, hh.of_handles rfl⟩
  | properties props => exact ⟨same, hp, hh.of_handles rfl⟩

/-! ## Runs -/

theorem CollectionInv.of_eq {W W' : World} (hi : CollectionInv W) (h₁ : W'.heap = W.heap)
    (h₃ : W'.ctx = W.ctx) : CollectionInv W' := by
  refine ⟨?_, ?_, ?_, ?_⟩ <;> simp only [h₁, h₃]
  exacts [hi.nodup, hi.placed, hi.unlisted, hi.handles]

/-- Every step keeps the collection's invariant. -/
theorem CollectionInv.step {X : Extern} {W W' : World} {op : Op} (hb : Bounded W)
    (hi : CollectionInv W) (h : step X W op = some W') : CollectionInv W' := by
  obtain ⟨ws₀, us₀, f₀, n₀, hctx⟩ := step_ctx h
  have haura : W'.ctx.auraShell = W.ctx.auraShell := by rw [hctx]; rfl
  rcases step_cases h with ⟨h₁, -, h₃, -⟩ | ⟨_, _, _, _, _, _, _, _, h₁, -, h₃, -⟩ |
    ⟨p, w, hp, h₁, -, h₃, -⟩ | ⟨p, w, w', sent, hp, hm, h₁, -⟩
  -- Nothing changes.
  · exact hi.of_eq h₁ h₃
  -- A new window is pushed on `ctx->unpaired_windows`.
  · have hfresh : W.nextWindow ∉ W.ctx.windows ∧ W.nextWindow ∉ W.ctx.unpairedWindows :=
      hi.unlisted _ (hb.heap _ le_rfl)
    refine ⟨?_, fun q w' hq => ?_, fun q hq => ?_, fun q w' hq => ?_⟩
    · rw [h₃]
      exact ⟨hi.nodup.1, List.nodup_cons.mpr ⟨hfresh.2, hi.nodup.2⟩⟩
    · rw [h₁] at hq
      rw [h₃]
      rcases update_eq_some hq with ⟨rfl, ⟨⟩⟩ | ⟨hq', hq⟩
      · exact ⟨by simp [hfresh.1, SlWindow.new, SlWindow.blank], by simp [SlWindow.new, SlWindow.blank]⟩
      · have := hi.placed q w' hq
        exact ⟨this.1, by simp [hq', this.2]⟩
    · rw [h₁] at hq
      rw [h₃]
      by_cases hq' : q = W.nextWindow
      · subst hq'; simp at hq
      · rw [Function.update_noteq hq'] at hq
        exact ⟨(hi.unlisted q hq).1, by simp [hq', (hi.unlisted q hq).2]⟩
    · rw [h₁] at hq
      rw [haura]
      rcases update_eq_some hq with ⟨-, ⟨⟩⟩ | ⟨-, hq⟩
      · exact HandlesInv.new ..
      · exact hi.handles q w' hq
  -- A window is destroyed and leaves its list.
  · have hd : ∀ q, (q ∈ (slWindowDestroy W.ctx p).windows ↔ q ≠ p ∧ q ∈ W.ctx.windows) ∧
        (q ∈ (slWindowDestroy W.ctx p).unpairedWindows ↔ q ≠ p ∧ q ∈ W.ctx.unpairedWindows) := by
      intro q
      unfold slWindowDestroy
      split_ifs <;> exact SlContext.unlink_mem hi.nodup p q
    have hdn : (slWindowDestroy W.ctx p).windows.Nodup ∧
        (slWindowDestroy W.ctx p).unpairedWindows.Nodup := by
      unfold slWindowDestroy
      split_ifs <;> exact SlContext.unlink_nodup hi.nodup p
    refine ⟨?_, fun q w' hq => ?_, fun q hq => ?_, fun q w' hq => ?_⟩
    · rw [h₃]
      exact hdn
    · rw [h₁] at hq
      rw [h₃]
      rcases update_eq_some hq with ⟨-, ⟨⟩⟩ | ⟨hq', hq⟩
      have := hi.placed q w' hq
      exact ⟨(hd q).1.trans (by simp [hq', this.1]), (hd q).2.trans (by simp [hq', this.2])⟩
    · rw [h₁] at hq
      rw [h₃, (hd q).1, (hd q).2]
      by_cases hq' : q = p
      · simp [hq']
      · rw [Function.update_noteq hq'] at hq
        exact ⟨fun h => (hi.unlisted q hq).1 h.2, fun h => (hi.unlisted q hq).2 h.2⟩
    · rw [h₁] at hq
      rw [haura]
      rcases update_eq_some hq with ⟨-, ⟨⟩⟩ | ⟨-, hq⟩
      exact hi.handles q w' hq
  -- A live window moves.
  · obtain ⟨hl, hpl, hh⟩ := hm.collection hi.nodup (hi.placed p w hp) (hi.handles p w hp)
    refine ⟨hl.1, fun q w₁ hq => ?_, fun q hq => ?_, fun q w₁ hq => ?_⟩ <;> rw [h₁] at hq
    · rcases update_eq_some hq with ⟨rfl, ⟨⟩⟩ | ⟨hq', hq⟩
      · exact hpl
      · rw [Placed, (hl.2 q hq').1, (hl.2 q hq').2]
        exact hi.placed q w₁ hq
    · have hq' : q ≠ p := by rintro rfl; simp at hq
      rw [Function.update_noteq hq'] at hq
      rw [(hl.2 q hq').1, (hl.2 q hq').2]
      exact hi.unlisted q hq
    · rw [haura]
      rcases update_eq_some hq with ⟨-, ⟨⟩⟩ | ⟨-, hq⟩
      · exact hh
      · exact hi.handles q w₁ hq

/-- Every reachable world meets the collection's invariant. -/
theorem Reachable.collectionInv {X : Extern} {W : World} (hW : Reachable X W) : CollectionInv W := by
  induction hW with
  | init =>
    exact ⟨⟨List.nodup_nil, List.nodup_nil⟩, (fun _ _ h => by cases h),
      (fun _ _ => ⟨List.not_mem_nil _, List.not_mem_nil _⟩), (fun _ _ h => by cases h)⟩
  | step _ hW hs ih => exact ih.step hW.bounds hs

/-! ## Parents -/

/-- A window with a toplevel, or a realized one, has an `xdg_surface`, and an aura surface when the
aura shell is bound: what a parent needs. -/
theorem HandlesInv.ready {aura : Bool} {w : SlWindow} (hh : HandlesInv aura w)
    (h : w.xdgToplevel.isSome = true ∨ w.realized = true) :
    w.xdgSurface.isSome ∧ (aura = true → w.auraSurface.isSome) := by
  rcases h with h | h
  · exact hh.role (.inl h)
  · exact hh.role (hh.realized h).2.2

/-- Every parent that `sl_window_update` resolves has an `xdg_surface`, and an aura surface when
the aura shell is bound. -/
theorem updateParent_ready {X : Extern} {W : World} (hi : CollectionInv W) {p q : Nat}
    (h : updateParent X W p = some q) :
    ∃ s, W.heap q = some s ∧ s.xdgSurface.isSome ∧ (W.ctx.auraShell.isSome → s.auraSurface.isSome) := by
  cases hp : W.heap p with
  | none => simp [updateParent, hp] at h
  | some w =>
    obtain ⟨ctx, w₁, hs, hr, -, hq⟩ := updateParent_some hp h
    obtain ⟨u, ps, rfl⟩ := pairingTransition_window_of hr
    obtain ⟨ps', hb⟩ := bindPairedSurface_window X hs { w with unpaired := u, pairedSurface := ps }
    rw [hb] at hq
    -- The parent is a toplevel or a realized window, as `peek` shows it.
    obtain ⟨s, hs', hready⟩ : ∃ s, peek W.heap p { { w with unpaired := u, pairedSurface := ps } with
        pairedSurface := ps' } q = some s ∧ (s.xdgToplevel.isSome = true ∨ s.realized = true) := by
      rcases hq with ⟨-, s, hs', -, ht⟩ | ⟨s, o, hs', hre, -⟩
      · exact ⟨s, hs', .inl ht⟩
      · exact ⟨s, hs', .inr hre⟩
    by_cases hqp : q = p
    · subst hqp
      rw [peek_self, Option.some.injEq] at hs'
      subst hs'
      exact ⟨w, hp, (hi.handles q w hp).ready hready⟩
    · rw [peek_ne _ _ hqp] at hs'
      exact ⟨s, hs', (hi.handles q s hs').ready hready⟩

/-- In every reachable state, a live window is in `ctx->windows` when paired and in
`ctx->unpaired_windows` when unpaired, and a pointer with no live window is in neither; an
unpaired window has no handle and is not realized; a role needs an `xdg_surface`; a realized
window is paired and has an `xdg_surface`, a role, and an aura surface when the aura shell is
bound; and every parent that `sl_window_update` resolves has an `xdg_surface`, and an aura
surface when the aura shell is bound. -/
theorem window_collection_wf {X : Extern} {W : World} (hW : Reachable X W) :
    (∀ p w, W.heap p = some w →
      (p ∈ W.ctx.windows ↔ w.unpaired = false) ∧ (p ∈ W.ctx.unpairedWindows ↔ w.unpaired = true)) ∧
    (∀ p, W.heap p = none → p ∉ W.ctx.windows ∧ p ∉ W.ctx.unpairedWindows) ∧
    (∀ p w, W.heap p = some w → w.unpaired = true →
      w.xdgSurface = none ∧ w.xdgToplevel = none ∧ w.xdgPopup = none ∧ w.auraSurface = none ∧
        w.realized = false) ∧
    (∀ p w, W.heap p = some w → (w.xdgToplevel.isSome ∨ w.xdgPopup.isSome) → w.xdgSurface.isSome) ∧
    (∀ p w, W.heap p = some w → w.realized = true →
      w.unpaired = false ∧ w.xdgSurface.isSome ∧ (w.xdgToplevel.isSome ∨ w.xdgPopup.isSome) ∧
        (W.ctx.auraShell.isSome → w.auraSurface.isSome)) ∧
    (∀ p q, updateParent X W p = some q →
      ∃ s, W.heap q = some s ∧ s.xdgSurface.isSome ∧ (W.ctx.auraShell.isSome → s.auraSurface.isSome)) := by
  have hi := hW.collectionInv
  refine ⟨hi.placed, hi.unlisted, fun p w hp => (hi.handles p w hp).bare,
    fun p w hp h => ((hi.handles p w hp).role h).1, fun p w hp h => ?_,
    fun p q h => updateParent_ready hi h⟩
  obtain ⟨hu, hs, hr⟩ := (hi.handles p w hp).realized h
  exact ⟨hu, hs, hr, ((hi.handles p w hp).role hr).2⟩

/-- A managed window is paired, updated and realized; an unmanaged window is given a host surface
but not yet updated; a third window is created and destroyed. -/
def collectionRun : List Op :=
  [.create 100 0 0 10 10 0 true Props.unset, .surface 5 (some (SlHostSurface.sample 50 10 10 1)),
    .pair 0 5, .windowUpdate 0, .create 101 0 0 10 10 0 false Props.unset,
    .surface 6 (some (SlHostSurface.sample 60 10 10 0)), .pair 1 6,
    .create 102 0 0 10 10 0 true Props.unset, .destroy 2]

/-- The state after `collectionRun` on Xwayland. -/
def collectionState : World :=
  (run (Extern.unscaled true) (World.init (SlContext.sample true) fun _ => none) collectionRun).getD
    (World.init (SlContext.sample true) fun _ => none)

/-- After `collectionRun` window `0` is paired, window `1` is unpaired with `0` as its parent,
window `2` is destroyed, and the state meets `window_collection_wf`. -/
theorem window_collection_wf_run :
    collectionState.ctx.windows = [0] ∧ collectionState.ctx.unpairedWindows = [1] ∧
      collectionState.heap 2 = none ∧ updateParent (Extern.unscaled true) collectionState 1 = some 0 ∧
    ((∀ p w, collectionState.heap p = some w →
      (p ∈ collectionState.ctx.windows ↔ w.unpaired = false) ∧
        (p ∈ collectionState.ctx.unpairedWindows ↔ w.unpaired = true)) ∧
    (∀ p, collectionState.heap p = none →
      p ∉ collectionState.ctx.windows ∧ p ∉ collectionState.ctx.unpairedWindows) ∧
    (∀ p w, collectionState.heap p = some w → w.unpaired = true →
      w.xdgSurface = none ∧ w.xdgToplevel = none ∧ w.xdgPopup = none ∧ w.auraSurface = none ∧
        w.realized = false) ∧
    (∀ p w, collectionState.heap p = some w → (w.xdgToplevel.isSome ∨ w.xdgPopup.isSome) →
      w.xdgSurface.isSome) ∧
    (∀ p w, collectionState.heap p = some w → w.realized = true →
      w.unpaired = false ∧ w.xdgSurface.isSome ∧ (w.xdgToplevel.isSome ∨ w.xdgPopup.isSome) ∧
        (collectionState.ctx.auraShell.isSome → w.auraSurface.isSome)) ∧
    (∀ p q, updateParent (Extern.unscaled true) collectionState p = some q →
      ∃ s, collectionState.heap q = some s ∧ s.xdgSurface.isSome ∧
        (collectionState.ctx.auraShell.isSome → s.auraSurface.isSome))) :=
  ⟨by decide, by decide, by decide, by decide, window_collection_wf (reachable_run_getD _ (by decide))⟩

end Sommelier

import Sommelier.Step

/-!
# Parents and roles

`sl_window_update` resolves a parent with two scans of `ctx->windows`: for a managed transient
window, the first window whose X id is `transient_for`, if it has a toplevel; otherwise the
realized window with a live host resource, a host surface id other than the window's own, and
the largest last event serial. `resolveParent_some` says what a resolved parent is, and
`parent_resolution_matches_reference` that, when the paired windows have distinct ids, it is the
reference parent `ParentRef`: the fallback scan is a last maximum (`LastMax`, the later window on
equal serials), and the transient scan's first match is the only window with that id.

The fallback scan never resolves the window itself, since the window shares its own host surface
id; the transient scan can, when `transient_for` names the window's own X id and the window
already has a toplevel (`updateParent_self`), against the comment "Do not use ourselves as the
parent" over the fallback scan: the window's second update then makes its toplevel its own parent
(`window_update_self_parent`). The parent links sent to the compositor can also form cycles, when
the event serials of two windows change order between their updates. The role branch reads the parent resolved at each
update, so without Xwayland a window that got a popup while a parent existed gets a toplevel as
well once the parent is gone (`window_update_second_role`).
-/

namespace Sommelier

/-- The transient scan resolves a window of the list with the id `transient_for` and a toplevel. -/
theorem transientScan_some {peek : Nat → Option SlWindow} {transientFor q : Nat} {ws : List Nat}
    (h : transientScan peek transientFor ws = some q) :
    q ∈ ws ∧ ∃ s, peek q = some s ∧ s.id = transientFor ∧ s.xdgToplevel.isSome = true := by
  induction ws with
  | nil => cases h
  | cons r rs ih =>
    unfold transientScan at h
    split at h
    · rename_i s hs
      by_cases h₁ : s.id = transientFor
      · rw [if_pos h₁] at h
        by_cases h₂ : s.xdgToplevel.isSome = true
        · rw [if_pos h₂, Option.some.injEq] at h
          exact ⟨h ▸ List.mem_cons_self _ _, s, h ▸ hs, h₁, h₂⟩
        · rw [if_neg h₂] at h
          cases h
      · rw [if_neg h₁] at h
        exact ⟨List.mem_cons_of_mem _ (ih h).1, (ih h).2⟩
    · exact ⟨List.mem_cons_of_mem _ (ih h).1, (ih h).2⟩

/-- What the fallback scan accepts: a realized window with a live host resource and a host surface
id other than `self`. -/
def FallbackCandidate (peek : Nat → Option SlWindow) (objects : Nat → Option SlHostSurface)
    (self q : Nat) : Prop :=
  ∃ s hs, peek q = some s ∧ s.realized = true ∧ getObject objects s.hostSurfaceId = some hs ∧
    s.hostSurfaceId ≠ self

/-- One step of the fallback scan keeps its candidate or takes an accepted window. -/
theorem fallbackStep_some {peek : Nat → Option SlWindow} {objects : Nat → Option SlHostSurface}
    {self : Nat} {acc : Option Nat × Nat} {r q : Nat}
    (h : (fallbackStep peek objects self acc r).1 = some q) :
    acc.1 = some q ∨ (q = r ∧ FallbackCandidate peek objects self r) := by
  unfold fallbackStep at h
  split at h
  · exact .inl h
  · rename_i s hs
    split at h
    · exact .inl h
    · rename_i hr
      split at h
      · exact .inl h
      · rename_i o ho
        split_ifs at h with h₁ h₂
        · exact .inl h
        · exact .inl h
        · cases h
          exact .inr ⟨rfl, s, o, hs, by simpa using hr, ho, h₂⟩

/-- The fallback scan's result is its start or an accepted window of the list. -/
theorem foldl_fallbackStep_some {peek : Nat → Option SlWindow}
    {objects : Nat → Option SlHostSurface} {self q : Nat} {ws : List Nat} {acc : Option Nat × Nat}
    (h : (ws.foldl (fallbackStep peek objects self) acc).1 = some q) :
    acc.1 = some q ∨ (q ∈ ws ∧ FallbackCandidate peek objects self q) := by
  induction ws generalizing acc with
  | nil => exact .inl h
  | cons r rs ih =>
    rcases ih h with h' | ⟨hm, hc⟩
    · rcases fallbackStep_some h' with h'' | ⟨rfl, hc⟩
      · exact .inl h''
      · exact .inr ⟨List.mem_cons_self _ _, hc⟩
    · exact .inr ⟨List.mem_cons_of_mem _ hm, hc⟩

/-- The fallback scan resolves a candidate of the list. -/
theorem fallbackScan_some {peek : Nat → Option SlWindow} {objects : Nat → Option SlHostSurface}
    {self q : Nat} {ws : List Nat} (h : fallbackScan peek objects self ws = some q) :
    q ∈ ws ∧ FallbackCandidate peek objects self q :=
  (foldl_fallbackStep_some h).resolve_left nofun

/-- A resolved parent is a window of `ctx->windows`: a toplevel with the id `transient_for` of a
managed window, or a candidate of the fallback scan. -/
theorem resolveParent_some {peek : Nat → Option SlWindow} {objects : Nat → Option SlHostSurface}
    {ctx : SlContext} {w : SlWindow} {q : Nat} (h : resolveParent peek objects ctx w = some q) :
    q ∈ ctx.windows ∧
      ((w.managed = true ∧ ∃ s, peek q = some s ∧ s.id = w.props.transientFor ∧
          s.xdgToplevel.isSome = true) ∨
        FallbackCandidate peek objects w.hostSurfaceId q) := by
  unfold resolveParent at h
  dsimp only at h
  by_cases ht : w.managed = true ∧ w.props.transientFor ≠ XCB_WINDOW_NONE
  · rw [if_pos ht] at h
    split at h
    · exact ⟨(fallbackScan_some h).1, .inr (fallbackScan_some h).2⟩
    · exact ⟨(transientScan_some h).1, .inl ⟨ht.1, (transientScan_some h).2⟩⟩
  · rw [if_neg ht] at h
    split at h
    · exact ⟨(fallbackScan_some h).1, .inr (fallbackScan_some h).2⟩
    · cases h

/-- Reading the window being updated gives its local copy. -/
theorem peek_self (heap : Nat → Option SlWindow) (p : Nat) (w : SlWindow) :
    peek heap p w p = some w := if_pos rfl

/-- Reading another window goes to the heap. -/
theorem peek_ne (heap : Nat → Option SlWindow) {p q : Nat} (w : SlWindow) (h : q ≠ p) :
    peek heap p w q = heap q := if_neg h

/-- Everything about the parent that `sl_window_update` resolves for window `p`: through `peek`,
it is a window of the paired list that is a toplevel named by `transient_for`, or a candidate of
the fallback scan; `w₁` is the window after the pairing transition, with `w`'s handles. -/
theorem updateParent_some {X : Extern} {W : World} {p q : Nat} {w : SlWindow}
    (hp : W.heap p = some w) (h : updateParent X W p = some q) :
    ∃ ctx w₁ hs, pairingTransition W.objects W.ctx p w = (ctx, w₁, some hs) ∧
      q ∈ ctx.windows ∧
      ((w.managed = true ∧ ∃ s, peek W.heap p (bindPairedSurface X hs w₁).2 q = some s ∧
          s.id = w.props.transientFor ∧ s.xdgToplevel.isSome = true) ∨
        FallbackCandidate (peek W.heap p (bindPairedSurface X hs w₁).2)
          (reconcile X W ctx p w₁ hs).objects w.hostSurfaceId q) := by
  simp only [updateParent, hp] at h
  rcases hr : pairingTransition W.objects W.ctx p w with ⟨ctx, w₁, _ | hs⟩ <;> rw [hr] at h
  · cases h
  · obtain ⟨u, ps, rfl⟩ := pairingTransition_window_of hr
    obtain ⟨ps', hb⟩ := bindPairedSurface_window X hs { w with unpaired := u, pairedSurface := ps }
    obtain ⟨hm, hq⟩ := resolveParent_some h
    rw [hb] at hq
    exact ⟨ctx, _, hs, rfl, hm, by rw [hb]; exact hq⟩

/-! ## The parent the scans should find -/

/-- The last event serial of window `q`'s host surface, as the fallback scan reads it (`0` when
`q` has no live host resource). -/
def eventSerial (peek : Nat → Option SlWindow) (objects : Nat → Option SlHostSurface) (q : Nat) :
    Nat :=
  (((peek q).bind fun s => getObject objects s.hostSurfaceId).map (·.lastEventSerial)).getD 0

/-- The window the fallback scan should find in `ws`: the candidate with the largest last event
serial, the later one in the list on ties, or none when `ws` has no candidate. -/
def LastMax (peek : Nat → Option SlWindow) (objects : Nat → Option SlHostSurface) (self : Nat)
    (ws : List Nat) : Option Nat → Prop
  | none => ∀ q ∈ ws, ¬FallbackCandidate peek objects self q
  | some q => ∃ before after, ws = before ++ q :: after ∧ FallbackCandidate peek objects self q ∧
      (∀ r ∈ before, FallbackCandidate peek objects self r →
        eventSerial peek objects r ≤ eventSerial peek objects q) ∧
      ∀ r ∈ after, FallbackCandidate peek objects self r →
        eventSerial peek objects r < eventSerial peek objects q

/-- A window of `ctx->windows` that the transient scan for managed window `w` should find: it has
the X id `transient_for` and a toplevel. -/
def TransientParent (peek : Nat → Option SlWindow) (ctx : SlContext) (w : SlWindow) (q : Nat) :
    Prop :=
  w.managed = true ∧ w.props.transientFor ≠ XCB_WINDOW_NONE ∧ q ∈ ctx.windows ∧
    ∃ s, peek q = some s ∧ s.id = w.props.transientFor ∧ s.xdgToplevel.isSome = true

/-- The parent `sl_window_update` should resolve for `w`: the transient parent when there is one,
whatever the event serials; otherwise, for an unmanaged or transient window, the last maximum of
the fallback scan; otherwise none. -/
def ParentRef (peek : Nat → Option SlWindow) (objects : Nat → Option SlHostSurface)
    (ctx : SlContext) (w : SlWindow) (r : Option Nat) : Prop :=
  (∀ q, TransientParent peek ctx w q → r = some q) ∧
    ((∀ q, ¬TransientParent peek ctx w q) →
      (w.managed = false ∨ w.props.transientFor ≠ XCB_WINDOW_NONE) →
        LastMax peek objects w.hostSurfaceId ctx.windows r) ∧
    (w.managed = true → w.props.transientFor = XCB_WINDOW_NONE → r = none)

section Scans

variable {peek : Nat → Option SlWindow} {objects : Nat → Option SlHostSurface} {self : Nat}

/-- One step of the fallback scan keeps its best window, or takes a candidate whose serial is not
below the best one's. -/
theorem fallbackStep_cases (acc : Option Nat × Nat) (q : Nat) :
    (fallbackStep peek objects self acc q = acc ∧
      (¬FallbackCandidate peek objects self q ∨ eventSerial peek objects q < acc.2)) ∨
    (FallbackCandidate peek objects self q ∧ acc.2 ≤ eventSerial peek objects q ∧
      fallbackStep peek objects self acc q = (some q, eventSerial peek objects q)) := by
  unfold fallbackStep
  rcases hs : peek q with _ | s
  · exact .inl ⟨rfl, .inl fun ⟨s, _, h, _⟩ => by simp [hs] at h⟩
  dsimp only
  by_cases hr : s.realized = false
  · rw [if_pos hr]
    exact .inl ⟨rfl, .inl fun ⟨s', _, h, h', _⟩ => by simp_all⟩
  rw [if_neg hr]
  rcases ho : getObject objects s.hostSurfaceId with _ | o
  · exact .inl ⟨rfl, .inl fun ⟨s', _, h, _, h', _⟩ => by simp_all⟩
  have he : eventSerial peek objects q = o.lastEventSerial := by simp [eventSerial, hs, ho]
  dsimp only
  rw [he]
  by_cases hlt : acc.2 > o.lastEventSerial
  · exact .inl ⟨if_pos hlt, .inr hlt⟩
  rw [if_neg hlt]
  by_cases hself : s.hostSurfaceId = self
  · rw [if_pos hself]
    exact .inl ⟨rfl, .inl fun ⟨s', _, h, _, _, h'⟩ => by simp_all⟩
  rw [if_neg hself]
  exact .inr ⟨⟨s, o, hs, by simpa using hr, ho, hself⟩, by omega, rfl⟩

/-- The last maximum bounds the serial of every candidate of the list. -/
theorem LastMax.le {ws : List Nat} {q r : Nat} (h : LastMax peek objects self ws (some q))
    (hr : r ∈ ws) (hc : FallbackCandidate peek objects self r) :
    eventSerial peek objects r ≤ eventSerial peek objects q := by
  obtain ⟨before, after, rfl, -, hb, ha⟩ := h
  rcases List.mem_append.mp hr with hr | hr
  · exact hb r hr hc
  · rcases List.mem_cons.mp hr with rfl | hr
    · exact le_rfl
    · exact Nat.le_of_lt (ha r hr hc)

/-- What the fallback scan carries after a prefix `ws` of the list: the last maximum of `ws`, and
its serial, or `0` when there is none. -/
def ScanState (peek : Nat → Option SlWindow) (objects : Nat → Option SlHostSurface) (self : Nat)
    (ws : List Nat) (acc : Option Nat × Nat) : Prop :=
  LastMax peek objects self ws acc.1 ∧ acc.2 = acc.1.elim 0 (eventSerial peek objects)

/-- One step of the fallback scan carries its state to a longer prefix. -/
theorem ScanState.snoc {ws : List Nat} {acc : Option Nat × Nat}
    (h : ScanState peek objects self ws acc) (v : Nat) :
    ScanState peek objects self (ws ++ [v]) (fallbackStep peek objects self acc v) := by
  obtain ⟨hmax, hser⟩ := h
  rcases fallbackStep_cases acc v with ⟨he, hv⟩ | ⟨hc, hle, he⟩ <;> rw [he]
  -- The step keeps the best window: `v` is no candidate, or below it.
  · refine ⟨?_, hser⟩
    rcases acc with ⟨_ | q, n⟩ <;> dsimp only at hmax hser hv ⊢
    · intro r hr hc
      rcases List.mem_append.mp hr with hr | hr
      · exact hmax r hr hc
      · rw [List.mem_singleton.mp hr] at hc
        exact hv.elim (· hc) fun h => by simp [hser] at h
    · obtain ⟨before, after, rfl, hq, hb, ha⟩ := hmax
      refine ⟨before, after ++ [v], by simp, hq, hb, fun r hr hc => ?_⟩
      rcases List.mem_append.mp hr with hr | hr
      · exact ha r hr hc
      · rw [List.mem_singleton.mp hr] at hc ⊢
        exact hv.elim (absurd hc) fun h => by rwa [hser] at h
  -- The step takes `v`, whose serial bounds every earlier candidate.
  · refine ⟨⟨ws, [], rfl, hc, fun r hr hcr => ?_, fun _ h => absurd h (List.not_mem_nil _)⟩, rfl⟩
    rcases acc with ⟨_ | q, n⟩ <;> dsimp only at hmax hser hle
    · exact absurd hcr (hmax r hr)
    · exact (hmax.le hr hcr).trans (by rwa [hser] at hle)

/-- The fallback scan carries its state over the whole list. -/
theorem ScanState.foldl {pre : List Nat} {acc : Option Nat × Nat}
    (h : ScanState peek objects self pre acc) (ws : List Nat) :
    ScanState peek objects self (pre ++ ws) (ws.foldl (fallbackStep peek objects self) acc) := by
  induction ws generalizing pre acc with
  | nil => simpa using h
  | cons v ws ih =>
    rw [List.foldl_cons, ← List.singleton_append, ← List.append_assoc]
    exact ih (h.snoc v)

/-- The fallback scan finds the last maximum of the list. -/
theorem fallbackScan_lastMax (ws : List Nat) :
    LastMax peek objects self ws (fallbackScan peek objects self ws) :=
  (ScanState.foldl (show ScanState peek objects self [] (none, 0) from
    ⟨fun _ h => absurd h (List.not_mem_nil _), rfl⟩) ws).1

/-- A list has one last maximum. -/
theorem LastMax.unique {ws : List Nat} {r r' : Option Nat} (h : LastMax peek objects self ws r)
    (h' : LastMax peek objects self ws r') : r = r' := by
  rcases r with _ | q <;> rcases r' with _ | q'
  · rfl
  · obtain ⟨before, after, rfl, hc, -⟩ := h'
    exact absurd hc (h q' (by simp))
  · obtain ⟨before, after, rfl, hc, -⟩ := h
    exact absurd hc (h' q (by simp))
  · obtain ⟨b, a, hws, hc, hb, ha⟩ := h
    obtain ⟨b', a', hws', hc', hb', ha'⟩ := h'
    rw [hws'] at hws
    -- Of two different maxima, the later one would be strictly below the earlier one.
    rcases List.append_eq_append_iff.mp hws with ⟨m, rfl, hm⟩ | ⟨m, rfl, hm⟩
    · cases m with
      | nil => simp only [List.nil_append, List.cons.injEq] at hm; exact congrArg some hm.1.symm
      | cons x m =>
        simp only [List.cons_append, List.cons.injEq] at hm
        obtain ⟨rfl, rfl⟩ := hm
        exact absurd (hb q' (by simp) hc') (Nat.not_le.mpr (ha' q (by simp) hc))
    · cases m with
      | nil => simp only [List.nil_append, List.cons.injEq] at hm; exact congrArg some hm.1
      | cons x m =>
        simp only [List.cons_append, List.cons.injEq] at hm
        obtain ⟨rfl, rfl⟩ := hm
        exact absurd (hb' q (by simp) hc) (Nat.not_le.mpr (ha q' (by simp) hc'))

end Scans

/-- With distinct ids, the transient scan finds the window of the list named by `transient_for`
when it has a toplevel. -/
theorem transientScan_of_mem {peek : Nat → Option SlWindow} {tf q : Nat} {s : SlWindow}
    {ws : List Nat} (hids : ((ws.filterMap peek).map SlWindow.id).Nodup) (hq : q ∈ ws)
    (hs : peek q = some s) (hid : s.id = tf) (ht : s.xdgToplevel.isSome = true) :
    transientScan peek tf ws = some q := by
  induction ws with
  | nil => cases hq
  | cons r rs ih =>
    unfold transientScan
    rcases hr : peek r with _ | s'
    · simp only [List.filterMap_cons, hr] at hids
      exact ih hids ((List.mem_cons.mp hq).resolve_left (by rintro rfl; simp [hs] at hr))
    · simp only [List.filterMap_cons, hr, List.map_cons, List.nodup_cons] at hids
      by_cases hrq : r = q
      · subst hrq
        rw [hs, Option.some.injEq] at hr
        subst hr
        simp [hid, ht]
      · have hq' : q ∈ rs := (List.mem_cons.mp hq).resolve_left (Ne.symm hrq)
        -- Another window of the list has `s`'s id, so `r` does not.
        have hne : s'.id ≠ tf := fun h => hids.1 (List.mem_map.mpr
          ⟨s, List.mem_filterMap.mpr ⟨q, hq', hs⟩, hid.trans h.symm⟩)
        dsimp only
        rw [if_neg hne]
        exact ih hids.2 hq'

/-- The parent that `sl_window_update` resolves satisfies the reference. -/
theorem resolveParent_ref {peek : Nat → Option SlWindow} {objects : Nat → Option SlHostSurface}
    {ctx : SlContext} {w : SlWindow} (hids : ((ctx.windows.filterMap peek).map SlWindow.id).Nodup) :
    ParentRef peek objects ctx w (resolveParent peek objects ctx w) := by
  unfold resolveParent
  dsimp only
  refine ⟨fun q ⟨hm, htf, hq, s, hs, hid, ht⟩ => ?_, fun hno hcase => ?_, fun hm htf => ?_⟩
  · simp [hm, htf, transientScan_of_mem hids hq hs hid ht]
  · -- No transient parent: the transient scan, if it runs, finds nothing.
    have hnone : (if w.managed = true ∧ w.props.transientFor ≠ XCB_WINDOW_NONE then
        transientScan peek w.props.transientFor ctx.windows else none) = none := by
      split_ifs with h
      · rcases hsc : transientScan peek w.props.transientFor ctx.windows with _ | q
        · rfl
        · obtain ⟨hq, hs⟩ := transientScan_some hsc
          exact absurd ⟨h.1, h.2, hq, hs⟩ (hno q)
      · rfl
    rw [hnone, if_pos (hcase.imp_right fun h => ⟨rfl, h⟩)]
    exact fallbackScan_lastMax _
  · simp [hm, htf]

/-- The reference names one parent. -/
theorem ParentRef.unique {peek : Nat → Option SlWindow} {objects : Nat → Option SlHostSurface}
    {ctx : SlContext} {w : SlWindow} {r r' : Option Nat} (h : ParentRef peek objects ctx w r)
    (h' : ParentRef peek objects ctx w r') : r = r' := by
  by_cases ht : ∃ q, TransientParent peek ctx w q
  · obtain ⟨q, hq⟩ := ht
    rw [h.1 q hq, h'.1 q hq]
  · have hno : ∀ q, ¬TransientParent peek ctx w q := fun q hq => ht ⟨q, hq⟩
    by_cases hc : w.managed = false ∨ w.props.transientFor ≠ XCB_WINDOW_NONE
    · exact (h.2.1 hno hc).unique (h'.2.1 hno hc)
    · simp only [not_or, Bool.not_eq_false, not_not] at hc
      rw [h.2.2 hc.1 hc.2, h'.2.2 hc.1 hc.2]

/-- For every window and every list of paired windows with distinct ids, the parent that
`sl_window_update` resolves is the reference's: the window named by `transient_for` when a
managed window has one with a toplevel, whatever the event serials; otherwise, for an unmanaged or
transient window, the realized window with a live host resource and another host surface id that
has the largest last event serial, the later one on ties; otherwise none. -/
theorem parent_resolution_matches_reference (peek : Nat → Option SlWindow)
    (objects : Nat → Option SlHostSurface) (ctx : SlContext) (w : SlWindow)
    (hids : ((ctx.windows.filterMap peek).map SlWindow.id).Nodup) (r : Option Nat) :
    resolveParent peek objects ctx w = r ↔ ParentRef peek objects ctx w r :=
  ⟨fun h => h ▸ resolveParent_ref hids, (resolveParent_ref hids).unique⟩

/-- Two paired windows with ids 7 and 8, for a managed window transient for 7. -/
def twoWindows (q : Nat) : Option SlWindow :=
  if q = 0 then some { SlWindow.new 7 0 0 10 10 0 true Props.unset with xdgToplevel := some 3 }
  else if q = 1 then some { SlWindow.new 8 0 0 10 10 0 true Props.unset with realized := true }
  else none

/-- With two paired windows of ids 7 and 8, a managed window transient for 7 gets window `0`
as its parent, as the reference says. -/
theorem parent_resolution_matches_reference_two :
    resolveParent twoWindows (fun _ => none) { SlContext.sample false with windows := [0, 1] }
        (SlWindow.blank true { Props.unset with transientFor := 7 }) = some 0 ↔
      ParentRef twoWindows (fun _ => none) { SlContext.sample false with windows := [0, 1] }
        (SlWindow.blank true { Props.unset with transientFor := 7 }) (some 0) :=
  parent_resolution_matches_reference _ _ _ _ (by decide) _

/-! ## A window as its own parent -/

/-- A managed window whose `transient_for` is its own X id is paired and updated once. -/
def selfParentRun : List Op :=
  [.create 100 0 0 10 10 0 true { Props.unset with transientFor := 100 },
    .surface 5 (some (SlHostSurface.sample 50 10 10 0)), .pair 0 5, .windowUpdate 0]

/-- Two unmanaged windows are updated while their last event serials change order. -/
def parentCycleRun : List Op :=
  [.create 100 0 0 10 10 0 false Props.unset, .create 101 0 0 10 10 0 false Props.unset,
    .surface 5 (some (SlHostSurface.sample 50 10 10 1)), .surface 6 (some (SlHostSurface.sample 60 10 10 0)),
    .pair 0 5, .pair 1 6, .windowUpdate 0, .windowUpdate 1,
    .surface 6 (some (SlHostSurface.sample 60 10 10 2)), .windowUpdate 0]

/-- On Xwayland, the second update of the window of `selfParentRun` sends
`xdg_toplevel_set_parent` with its own toplevel as the parent; and the latest parent links of the
two windows of `parentCycleRun` name each other's toplevel. -/
theorem window_update_self_parent :
    (∃ W, Reachable (Extern.unscaled true) W ∧ (W.heap 0).bind (·.xdgToplevel) = some 2 ∧
        W.log.head? = some (0, .setParent 2 (some 2))) ∧
      ∃ W, Reachable (Extern.unscaled true) W ∧ (W.heap 0).bind (·.xdgToplevel) = some 2 ∧
        (W.heap 1).bind (·.xdgToplevel) = some 4 ∧
        W.log.take 2 = [(0, .setParent 2 (some 4)), (1, .setParent 4 (some 2))] := by
  constructor
  · obtain ⟨W, hW, h⟩ := reach_of_run (Extern.unscaled true) (SlContext.sample true)
      (fun _ => none) (selfParentRun ++ [.windowUpdate 0])
      (fun W => decide ((W.heap 0).bind (·.xdgToplevel) = some 2 ∧
        W.log.head? = some (0, .setParent 2 (some 2)))) (by decide)
    exact ⟨W, hW, of_decide_eq_true h⟩
  · obtain ⟨W, hW, h⟩ := reach_of_run (Extern.unscaled true) (SlContext.sample true)
      (fun _ => none) parentCycleRun
      (fun W => decide ((W.heap 0).bind (·.xdgToplevel) = some 2 ∧
        (W.heap 1).bind (·.xdgToplevel) = some 4 ∧
        W.log.take 2 = [(0, .setParent 2 (some 4)), (1, .setParent 4 (some 2))])) (by decide)
    exact ⟨W, hW, of_decide_eq_true h⟩

/-! ## Roles -/

/-- Without Xwayland, an unmanaged window gets a popup under a realized window, which is then
destroyed, and the window is updated again. -/
def secondRoleRun : List Op :=
  [.create 100 0 0 10 10 0 true Props.unset, .surface 5 (some (SlHostSurface.sample 50 10 10 0)),
    .pair 0 5, .windowUpdate 0, .create 101 0 0 10 10 0 false Props.unset,
    .surface 6 (some (SlHostSurface.sample 60 10 10 0)), .pair 1 6, .windowUpdate 1, .destroy 0,
    .windowUpdate 1]

/-- After `secondRoleRun`, window `1` holds the popup it got from its first update and the toplevel
it got from its second: `sl_window_update` asked for a second role of its `xdg_surface`. -/
theorem window_update_second_role :
    ∃ W, Reachable (Extern.unscaled true) W ∧ (W.heap 1).bind (·.xdgPopup) = some 4 ∧
      (W.heap 1).bind (·.xdgToplevel) = some 5 ∧
      W.log.take 2 = [(1, .getToplevel 5 (some 3)), (1, .getPopup 4 (some 3) (some 1) 0 0)] := by
  obtain ⟨W, hW, h⟩ := reach_of_run (Extern.unscaled true) (SlContext.sample false)
    (fun _ => none) secondRoleRun
    (fun W => decide ((W.heap 1).bind (·.xdgPopup) = some 4 ∧
      (W.heap 1).bind (·.xdgToplevel) = some 5 ∧
      W.log.take 2 = [(1, .getToplevel 5 (some 3)), (1, .getPopup 4 (some 3) (some 1) 0 0)]))
    (by decide)
  exact ⟨W, hW, of_decide_eq_true h⟩

end Sommelier

import Sommelier.Deliveries

/-!
# The compositor's objects

The window code creates compositor objects (`xdg_surface`, `xdg_toplevel`, `xdg_popup` and the
aura surface) with fresh ids, sends requests on them, and destroys them when `sl_window_update`
finds no host resource. A protocol error on the compositor's side would follow from a request on
an object that is not alive, from destroying one twice, or from reusing an id.

`Alive` and `Named` read the lifecycle of an object off the log, and `WellScoped` says that every
message of the log names only live objects and creates only objects never named before. Each stage
of `sl_window_update` keeps `Ready`: the log is well scoped, names only objects below the fresh
counter, and the window's objects are alive, distinct and held by no other window. The stages
send requests on the window's objects or its parent's (`Ready.uses`), create the fresh object
(`Ready.create`), or destroy the window's objects in the teardown (`teardown_ready`). So every
move keeps it (`Moves.objects`), every run keeps `ObjectsInv`, and along every run no message
names an object that is not alive, and none follows a destroy of an object it names
(`objects_lifecycle`); the objects of live windows are alive and not shared
(`window_objects_owned`).
-/

namespace Sommelier

/-! ## Objects on the wire -/

/-- The compositor object a message creates. -/
def Msg.creates : Msg → Option Nat
  | .getXdgSurface o _ | .getToplevel o _ | .getPopup o .. | .getAuraSurface o _ => some o
  | _ => none

/-- The compositor object a message destroys. -/
def Msg.destroys : Msg → Option Nat
  | .auraDestroy o | .toplevelDestroy o | .popupDestroy o | .xdgSurfaceDestroy o => some o
  | _ => none

/-- The compositor objects of the file that a message is on or passes, other than the one it
creates: the host's `wl_surface` proxies are the client's, not the file's, and are left out. -/
def Msg.objects : Msg → List Nat
  | .configure x _ | .ackConfigure x _ _ => [x]
  | .getToplevel _ x => x.toList
  | .getPopup _ x parent _ _ => x.toList ++ parent.toList
  | .setParent t parent => t :: parent.toList
  | .setTitle t _ | .setMinSize t _ _ | .setMaxSize t _ _ | .setMaximized t | .setFullscreen t => [t]
  | .auraSetFrame a _ | .auraSetFrameColors a _ | .auraSetStartupId a _ | .auraSetApplicationId a _
  | .auraSetFullscreenMode a _ => [a]
  | .auraSetParent a parent _ _ => a :: parent.toList
  | .auraDestroy o | .toplevelDestroy o | .popupDestroy o | .xdgSurfaceDestroy o => [o]
  | _ => []

/-- A message that creates and destroys nothing and names only objects among `xs`. -/
def Msg.Uses (xs : List Nat) (m : Msg) : Prop :=
  m.creates = none ∧ m.destroys = none ∧ ∀ o ∈ m.objects, o ∈ xs

/-- A message that uses only objects of `xs` uses only objects of a larger list. -/
theorem Msg.Uses.mono {xs ys : List Nat} {m : Msg} (h : m.Uses xs) (hxy : xs ⊆ ys) : m.Uses ys :=
  ⟨h.1, h.2.1, fun o ho => hxy (h.2.2 o ho)⟩

/-- Object `o` is alive after a log, newest message first: a message created it and no later
message destroyed it. -/
def Alive (o : Nat) : List (Nat × Msg) → Prop
  | [] => False
  | e :: log => e.2.destroys ≠ some o ∧ (e.2.creates = some o ∨ Alive o log)

/-- A message of the log creates or names object `o`. -/
def Named (o : Nat) (log : List (Nat × Msg)) : Prop :=
  ∃ e ∈ log, e.2.creates = some o ∨ o ∈ e.2.objects

/-- The lifecycle of the compositor's objects along a log, newest message first: every message
names only objects alive before it, and creates only objects never named before it. -/
def WellScoped : List (Nat × Msg) → Prop
  | [] => True
  | e :: log =>
    (∀ o ∈ e.2.objects, Alive o log) ∧ (∀ o ∈ e.2.creates.toList, ¬Named o log) ∧ WellScoped log

instance Alive.decidable (o : Nat) : (log : List (Nat × Msg)) → Decidable (Alive o log)
  | [] => isFalse id
  | _ :: log =>
    have := Alive.decidable o log
    inferInstanceAs (Decidable (_ ∧ (_ ∨ _)))

instance (o : Nat) (log : List (Nat × Msg)) : Decidable (Named o log) :=
  inferInstanceAs (Decidable (∃ e ∈ log, _))

instance WellScoped.decidable : (log : List (Nat × Msg)) → Decidable (WellScoped log)
  | [] => isTrue trivial
  | _ :: log =>
    have := WellScoped.decidable log
    inferInstanceAs (Decidable (_ ∧ _ ∧ _))

/-- An object alive after a log is named by it. -/
theorem Alive.named {o : Nat} : ∀ {log : List (Nat × Msg)}, Alive o log → Named o log
  | e :: _, ⟨_, .inl hc⟩ => ⟨e, List.mem_cons_self _ _, .inl hc⟩
  | _ :: _, ⟨_, .inr ha⟩ =>
    let ⟨e', he', h⟩ := ha.named
    ⟨e', List.mem_cons_of_mem _ he', h⟩

/-- An object is named after emitting messages when one of them names it or the log did. -/
theorem named_emit {o p : Nat} {sent : List Msg} {log : List (Nat × Msg)} :
    Named o (emit p sent log) ↔ (∃ m ∈ sent, m.creates = some o ∨ o ∈ m.objects) ∨ Named o log := by
  simp only [Named, mem_emit]
  constructor
  · rintro ⟨e, ⟨-, he⟩ | he, h⟩
    · exact .inl ⟨e.2, he, h⟩
    · exact .inr ⟨e, he, h⟩
  · rintro (⟨m, hm, h⟩ | ⟨e, he, h⟩)
    · exact ⟨(p, m), .inl ⟨rfl, hm⟩, h⟩
    · exact ⟨e, .inr he, h⟩

/-- A message that only uses objects keeps every object alive or dead as it was. -/
theorem alive_cons_of_uses {o q : Nat} {m : Msg} {xs : List Nat} (hm : m.Uses xs)
    (log : List (Nat × Msg)) : Alive o ((q, m) :: log) ↔ Alive o log := by
  simp only [Alive, hm.1, hm.2.1, ne_eq, reduceCtorEq, not_false_eq_true, false_or, true_and]

/-- Messages that create and destroy nothing leave every object as alive as it was. -/
theorem alive_emit_uses {o p : Nat} {xs : List Nat} :
    ∀ {sent : List Msg} {log : List (Nat × Msg)}, (∀ m ∈ sent, m.Uses xs) →
      (Alive o (emit p sent log) ↔ Alive o log)
  | [], _, _ => Iff.rfl
  | m :: _, log, hs => by
    rw [emit_cons, alive_emit_uses fun m' hm' => hs m' (List.mem_cons_of_mem _ hm'),
      alive_cons_of_uses (hs m (List.mem_cons_self _ _))]

/-- Messages on live objects that create and destroy nothing keep a log well scoped. -/
theorem WellScoped.emit_uses {p : Nat} {xs : List Nat} :
    ∀ {sent : List Msg} {log : List (Nat × Msg)}, WellScoped log → (∀ o ∈ xs, Alive o log) →
      (∀ m ∈ sent, m.Uses xs) → WellScoped (emit p sent log)
  | [], _, h, _, _ => h
  | m :: _, log, h, hx, hs => by
    have hm := hs m (List.mem_cons_self _ _)
    rw [emit_cons]
    refine WellScoped.emit_uses ⟨fun o h => hx o (hm.2.2 o h), by simp [hm.1], h⟩
      (fun o h => (alive_cons_of_uses hm log).mpr (hx o h)) fun m' hm' => hs m' (List.mem_cons_of_mem _ hm')

/-- The object a message destroys is one of the objects it names. -/
theorem Msg.destroys_mem_objects {m : Msg} {o : Nat} (h : m.destroys = some o) : o ∈ m.objects := by
  cases m <;> cases h <;> exact List.mem_singleton_self _

/-- The messages older than one of a well scoped log are well scoped. -/
theorem WellScoped.drop {e : Nat × Msg} {older : List (Nat × Msg)} :
    ∀ {newer : List (Nat × Msg)}, WellScoped (newer ++ e :: older) → WellScoped (e :: older)
  | [], h => h
  | _ :: _, h => WellScoped.drop h.2.2

/-- An object that a message destroys is alive after it only if a newer message creates it. -/
theorem Alive.created_after_destroy {o q : Nat} {m : Msg} (hd : m.destroys = some o)
    {older : List (Nat × Msg)} :
    ∀ {newer : List (Nat × Msg)}, Alive o (newer ++ (q, m) :: older) → ∃ e ∈ newer, e.2.creates = some o
  | [], h => absurd hd h.1
  | e :: _, ⟨_, h⟩ => h.elim (fun hc => ⟨e, List.mem_cons_self _ _, hc⟩) fun ha =>
    let ⟨e', he', hc⟩ := Alive.created_after_destroy hd ha
    ⟨e', List.mem_cons_of_mem _ he', hc⟩

/-- In a well scoped log, no message newer than the one that destroys an object names it or
creates it again. -/
theorem WellScoped.after_destroy {o q : Nat} {m : Msg} (hd : m.destroys = some o)
    {older : List (Nat × Msg)} :
    ∀ {newer : List (Nat × Msg)}, WellScoped (newer ++ (q, m) :: older) →
      ∀ e ∈ newer, o ∉ e.2.objects ∧ e.2.creates ≠ some o
  | [], _ => fun _ h => nomatch h
  | e :: newer, ⟨hobj, hcre, hrest⟩ => by
    have ih := WellScoped.after_destroy hd hrest
    have hnamed : Named o (newer ++ (q, m) :: older) :=
      ⟨(q, m), List.mem_append_right _ (List.mem_cons_self _ _), .inr (Msg.destroys_mem_objects hd)⟩
    intro e' he'
    rcases List.mem_cons.mp he' with rfl | he'
    · refine ⟨fun ho => ?_, fun hc => hcre o (by simp [hc]) hnamed⟩
      obtain ⟨e'', he'', hc⟩ := (hobj o ho).created_after_destroy hd
      exact (ih e'' he'').2 hc
    · exact ih e' he'

/-! ## The objects a window holds -/

/-- The compositor objects a window holds. -/
def SlWindow.objects (w : SlWindow) : List Nat :=
  w.xdgSurface.toList ++ w.xdgToplevel.toList ++ w.xdgPopup.toList ++ w.auraSurface.toList

/-- The window's `xdg_surface` is one of its objects. -/
theorem SlWindow.surface_mem_objects (w : SlWindow) : ∀ o ∈ w.xdgSurface.toList, o ∈ w.objects :=
  fun _ h => List.mem_append_left _ (List.mem_append_left _ (List.mem_append_left _ h))

/-- The window's `xdg_toplevel` is one of its objects. -/
theorem SlWindow.toplevel_mem_objects (w : SlWindow) : ∀ o ∈ w.xdgToplevel.toList, o ∈ w.objects :=
  fun _ h => List.mem_append_left _ (List.mem_append_left _ (List.mem_append_right _ h))

/-- The window's aura surface is one of its objects. -/
theorem SlWindow.aura_mem_objects (w : SlWindow) : ∀ o ∈ w.auraSurface.toList, o ∈ w.objects :=
  fun _ h => List.mem_append_right _ h

/-! ## The configure engine and the teardown -/

theorem applyMask_uses (c : SlConfig) (w : SlWindow) : ∀ m ∈ (applyMask c w).2, m.Uses [] := by
  intro m hm
  simp only [applyMask] at hm
  split at hm <;> simp only [List.cons_append, List.nil_append, List.mem_cons,
    List.not_mem_nil, or_false] at hm <;> rcases hm with rfl | rfl | rfl <;>
    exact ⟨rfl, rfl, fun _ h => nomatch h⟩

/-- `sl_configure_window` sends only X requests, which name no compositor object. -/
theorem slConfigureWindow_uses {w w' : SlWindow} {sent : List Msg}
    (h : slConfigureWindow w = some (w', sent)) : ∀ m ∈ sent, m.Uses [] := by
  unfold slConfigureWindow at h
  split at h
  · cases h
  obtain ⟨-, rfl⟩ := Prod.mk.inj (Option.some.inj h)
  have happ : ∀ m ∈ (if w.nextConfig.mask = 0 then (w, []) else applyMask w.nextConfig w).2,
      m.Uses [] := by
    split
    · exact fun _ h => nomatch h
    · exact applyMask_uses _ _
  intro m hm
  rcases List.mem_append.mp hm with hm | hm
  · cases hmg : w.managed <;>
      simp only [hmg, if_true, if_false, Bool.false_eq_true, List.mem_append, List.mem_singleton] at hm
    · exact happ m hm
    · rcases hm with hm | rfl
      · exact happ m hm
      · exact ⟨rfl, rfl, fun _ h => nomatch h⟩
  · rw [List.mem_singleton.mp hm]
    exact ⟨rfl, rfl, fun _ h => nomatch h⟩

/-- The acknowledgment uses only the window's `xdg_surface`. -/
theorem ackOf_uses (w : SlWindow) (hs : Option SlHostSurface) :
    ∀ m ∈ ackOf w hs, m.Uses w.xdgSurface.toList := by
  simp only [ackOf, Option.mem_toList, Option.mem_map]
  rintro _ ⟨h, hw, rfl⟩
  exact ⟨rfl, rfl, fun o ho => by rw [List.mem_singleton.mp ho]; exact Option.mem_toList.mpr hw⟩

/-- `sl_process_pending_configure_acks` uses only the window's `xdg_surface`. -/
theorem slProcessPendingConfigureAcks_uses {fix b : Bool} {w w' : SlWindow}
    {hs : Option SlHostSurface} {sent : List Msg}
    (h : slProcessPendingConfigureAcks fix w hs = some (b, w', sent)) :
    ∀ m ∈ sent, m.Uses w.xdgSurface.toList := by
  rcases slProcessPendingConfigureAcks_cases h with ⟨-, -, -, rfl⟩ | ⟨-, -, ⟨-, -, rfl⟩ | ⟨-, rest, hc, rfl⟩⟩
  · exact fun _ h => nomatch h
  · exact ackOf_uses w hs
  · intro m hm
    rcases List.mem_append.mp hm with hm | hm
    · exact ackOf_uses w hs m hm
    · exact (slConfigureWindow_uses hc m hm).mono (List.nil_subset _)

/-- `sl_commit` sends requests on the window's `xdg_surface` and on no other object of the
file. -/
theorem slCommit_uses {fix : Bool} {w w' : SlWindow} {hs : Option SlHostSurface} {sent : List Msg}
    (h : slCommit fix w hs = some (w', sent)) : ∀ m ∈ sent, m.Uses w.xdgSurface.toList := by
  obtain ⟨b, sent₀, h₁, rfl⟩ := slCommit_some h
  intro m hm
  rcases List.mem_append.mp hm with hm | hm
  · exact slProcessPendingConfigureAcks_uses h₁ m hm
  · split at hm
    · obtain ⟨s, -, rfl⟩ := Option.mem_map.mp (Option.mem_toList.mp hm)
      exact ⟨rfl, rfl, fun _ h => nomatch h⟩
    · cases hm

/-- The surface listener uses only the window's `xdg_surface`. -/
theorem slInternalXdgSurfaceConfigure_uses {fix : Bool} {w w' : SlWindow}
    {hs : Option SlHostSurface} {serial : Nat} {sent : List Msg}
    (h : slInternalXdgSurfaceConfigure fix w hs serial = some (w', sent)) :
    ∀ m ∈ sent, m.Uses w.xdgSurface.toList := by
  rcases slInternalXdgSurfaceConfigure_cases h with ⟨-, -, rfl⟩ | ⟨-, w₁, s₁, s₂, h₁, h₂, rfl⟩
  · exact fun _ h => nomatch h
  · obtain ⟨-, -, rfl, -⟩ := slConfigureWindow_some h₁
    intro m hm
    rcases List.mem_append.mp hm with hm | hm
    · exact (slConfigureWindow_uses h₁ m hm).mono (List.nil_subset _)
    · exact slCommit_uses h₂ m hm

/-- The end of `sl_window_update` sends requests on the window's `xdg_surface` and on no other
object of the file. -/
theorem finishUpdate_uses {X : Extern} {hs : SlHostSurface} {w w' : SlWindow} {sent : List Msg}
    (h : finishUpdate X hs w = some (w', sent)) : ∀ m ∈ sent, m.Uses w.xdgSurface.toList := by
  obtain ⟨w₁, hc, -⟩ := finishUpdate_some h
  rcases hc with ⟨-, hc⟩ | ⟨-, -, rfl⟩
  · exact slCommit_uses hc
  · intro m hm
    rw [List.mem_singleton.mp hm]
    exact ⟨rfl, rfl, fun _ h => nomatch h⟩

/-- A message that destroys object `o` and names no other. -/
def Msg.Ends (o : Nat) (m : Msg) : Prop :=
  m.creates = none ∧ m.destroys = some o ∧ m.objects = [o]

/-- An object is named after one more entry when the entry names it or the log did. -/
theorem named_cons {o : Nat} {e : Nat × Msg} {log : List (Nat × Msg)} :
    Named o (e :: log) ↔ (e.2.creates = some o ∨ o ∈ e.2.objects) ∨ Named o log := by
  simp only [Named, List.mem_cons, or_and_right, exists_or, exists_eq_left]

/-- After a message that ends `o`, an object is alive when it is not `o` and was alive before. -/
theorem alive_cons_ends {o : Nat} {m : Msg} (hm : m.Ends o) (o' q : Nat) (log : List (Nat × Msg)) :
    Alive o' ((q, m) :: log) ↔ o' ≠ o ∧ Alive o' log := by
  simp only [Alive, hm.1, hm.2.1, ne_eq, Option.some.injEq, reduceCtorEq, false_or, eq_comm]

/-- Destroying distinct live objects, each once, keeps the log well scoped, names nothing new,
and kills exactly those objects. -/
theorem emit_ends {p : Nat} {os : List Nat} {sent : List Msg} (h : List.Forall₂ Msg.Ends os sent) :
    ∀ {log : List (Nat × Msg)}, os.Nodup → (∀ o ∈ os, Alive o log) → WellScoped log →
      WellScoped (emit p sent log) ∧ (∀ o, Named o (emit p sent log) → Named o log) ∧
        ∀ o, Alive o (emit p sent log) ↔ Alive o log ∧ o ∉ os := by
  induction h with
  | nil => exact fun _ _ hs => ⟨hs, fun _ => id, fun o => by simp [emit]⟩
  | @cons o m os sent hm _ ih =>
    intro log hn ha hs
    obtain ⟨hno, hn⟩ := List.nodup_cons.mp hn
    have hao := ha o (List.mem_cons_self _ _)
    obtain ⟨h₁, h₂, h₃⟩ := ih hn
      (fun o' ho' => (alive_cons_ends hm o' p log).mpr
        ⟨fun h => hno (h ▸ ho'), ha o' (List.mem_cons_of_mem _ ho')⟩)
      ⟨by rw [hm.2.2]; simpa using hao, by simp [hm.1], hs⟩
    rw [emit_cons]
    refine ⟨h₁, fun o' ho' => ?_, fun o' => ?_⟩
    · rcases named_cons.mp (h₂ o' ho') with (hc | ho) | hn
      · exact absurd hc (by simp [hm.1])
      · obtain rfl : o' = o := by simpa [hm.2.2] using ho
        exact hao.named
      · exact hn
    · rw [h₃, alive_cons_ends hm, List.mem_cons]
      tauto

/-- The teardown ends the aura surface, the toplevel, the popup and the `xdg_surface`, in
that order, one message each. -/
theorem teardown_ends (w : SlWindow) :
    List.Forall₂ Msg.Ends (w.auraSurface.toList ++ w.xdgToplevel.toList ++ w.xdgPopup.toList ++
      w.xdgSurface.toList) (teardown w).2 := by
  have one : ∀ (a : Option Nat) (f : Nat → Msg), (∀ o, (f o).Ends o) →
      List.Forall₂ Msg.Ends a.toList (a.map f).toList := by
    rintro (_ | o) f hf
    · exact .nil
    · exact .cons (hf o) .nil
  exact List.rel_append (List.rel_append (List.rel_append
    (one _ Msg.auraDestroy fun _ => ⟨rfl, rfl, rfl⟩) (one _ Msg.toplevelDestroy fun _ => ⟨rfl, rfl, rfl⟩))
    (one _ Msg.popupDestroy fun _ => ⟨rfl, rfl, rfl⟩)) (one _ Msg.xdgSurfaceDestroy fun _ => ⟨rfl, rfl, rfl⟩)

/-- The teardown's objects are the window's objects. -/
theorem teardown_perm (w : SlWindow) :
    (w.auraSurface.toList ++ w.xdgToplevel.toList ++ w.xdgPopup.toList ++ w.xdgSurface.toList).Perm
      w.objects := by
  rw [List.perm_iff_count]
  intro o
  simp only [SlWindow.objects, List.count_append]
  omega

section Stages

variable {heap : Nat → Option SlWindow} {p : Nat}

/-- What a stage of `sl_window_update` on window `p` keeps of the log so far, the next fresh
object `n` and the window `w`: the log is well scoped and names only objects below `n`, the
objects of `w` are distinct and alive, and those of every other live window are alive and not
`w`'s. -/
structure Ready (heap : Nat → Option SlWindow) (p : Nat) (log : List (Nat × Msg)) (n : Nat)
    (w : SlWindow) : Prop where
  /-- The log is well scoped. -/
  wellScoped : WellScoped log
  /-- The log names only objects below `n`. -/
  named : ∀ o, Named o log → o < n
  /-- The window's objects are alive. -/
  own : ∀ o ∈ w.objects, Alive o log
  /-- The window's objects are distinct. -/
  nodup : w.objects.Nodup
  /-- Every other live window's objects are alive and not this window's. -/
  others : ∀ q v, heap q = some v → q ≠ p → ∀ o ∈ v.objects, Alive o log ∧ o ∉ w.objects

/-- A stage from `(log, n, w)` with result `(n', w', sent)`: ready for the next one. -/
def Ready.Then (heap : Nat → Option SlWindow) (p : Nat) (log : List (Nat × Msg))
    (r : Nat × SlWindow × List Msg) : Prop :=
  Ready heap p (emit p r.2.2 log) r.1 r.2.1

/-- Readiness reads only the window's objects. -/
theorem Ready.window {log : List (Nat × Msg)} {n : Nat} {w w' : SlWindow} (hr : Ready heap p log n w)
    (h : w'.objects = w.objects) : Ready heap p log n w' :=
  ⟨hr.wellScoped, hr.named, h ▸ hr.own, h ▸ hr.nodup, h ▸ hr.others⟩

/-- The objects that a stage reads off a parent, through `peek`, are alive. -/
theorem Ready.parent_alive {log : List (Nat × Msg)} {n : Nat} {w : SlWindow}
    (hr : Ready heap p log n w) {f : SlWindow → Option Nat}
    (hf : ∀ v, ∀ o ∈ (f v).toList, o ∈ v.objects) (parent : Option Nat) :
    ∀ o ∈ (parent.bind fun q => (peek heap p w q).bind f).toList, Alive o log := by
  intro o ho
  obtain ⟨q, -, hq⟩ := Option.bind_eq_some.mp (Option.mem_toList.mp ho)
  obtain ⟨v, hv, ho⟩ := Option.bind_eq_some.mp hq
  have hv : ∀ o ∈ v.objects, Alive o log := by
    unfold peek at hv
    split at hv
    · cases hv
      exact hr.own
    · exact fun o ho => (hr.others q v hv ‹_› o ho).1
  exact hv o (hf v o (Option.mem_toList.mpr ho))

/-- Messages on live objects that create and destroy nothing. -/
theorem Ready.uses {log : List (Nat × Msg)} {n : Nat} {w : SlWindow} (hr : Ready heap p log n w)
    (xs : List Nat) (hx : ∀ o ∈ xs, Alive o log) {sent : List Msg} (hs : ∀ m ∈ sent, m.Uses xs) :
    Ready heap p (emit p sent log) n w := by
  have ha : ∀ o, Alive o (emit p sent log) ↔ Alive o log := fun o => alive_emit_uses hs
  refine ⟨hr.wellScoped.emit_uses hx hs, fun o ho => ?_, fun o h => (ha o).mpr (hr.own o h),
    hr.nodup, fun q v hq hne o h => ?_⟩
  · rcases named_emit.mp ho with ⟨m, hm, h | h⟩ | h
    · rw [(hs m hm).1] at h; cases h
    · exact hr.named o (hx o ((hs m hm).2.2 o h)).named
    · exact hr.named o h
  · obtain ⟨h₁, h₂⟩ := hr.others q v hq hne o h
    exact ⟨(ha o).mpr h₁, h₂⟩

/-- A message that creates object `n`, the next fresh one, which the window then holds. -/
theorem Ready.create {log : List (Nat × Msg)} {n : Nat} {w w' : SlWindow} {m : Msg}
    (hr : Ready heap p log n w) (hc : m.creates = some n) (hd : m.destroys = none)
    (ho : ∀ o ∈ m.objects, Alive o log) (hw : w'.objects.Perm (n :: w.objects)) :
    Ready heap p ((p, m) :: log) (n + 1) w' := by
  have hfresh : ∀ o, Alive o log → o ≠ n := fun o h he => Nat.lt_irrefl n (he ▸ hr.named o h.named)
  have ha : ∀ o, Alive o ((p, m) :: log) ↔ o = n ∨ Alive o log := by
    intro o
    simp only [Alive, hd, hc, ne_eq, reduceCtorEq, not_false_eq_true, true_and, Option.some.injEq,
      eq_comm]
  have hmem : ∀ o, o ∈ w'.objects ↔ o = n ∨ o ∈ w.objects := fun o => by
    rw [hw.mem_iff, List.mem_cons]
  refine ⟨⟨ho, by simpa [hc] using fun h => Nat.lt_irrefl n (hr.named n h), hr.wellScoped⟩,
    fun o ⟨e, he, h⟩ => ?_, fun o h => ?_,
    hw.nodup_iff.mpr (List.nodup_cons.mpr ⟨fun h => hfresh n (hr.own n h) rfl, hr.nodup⟩),
    fun q v hq hne o h => ?_⟩
  · rcases List.mem_cons.mp he with rfl | he
    · rcases h with h | h
      · rw [hc] at h; cases h; exact Nat.lt_succ_self n
      · exact Nat.lt_succ_of_lt (hr.named o (ho o h).named)
    · exact Nat.lt_succ_of_lt (hr.named o ⟨e, he, h⟩)
  · rcases (hmem o).mp h with rfl | h
    · exact (ha o).mpr (.inl rfl)
    · exact (ha o).mpr (.inr (hr.own o h))
  · obtain ⟨h₁, h₂⟩ := hr.others q v hq hne o h
    refine ⟨(ha o).mpr (.inr h₁), fun h' => ?_⟩
    rcases (hmem o).mp h' with rfl | h'
    · exact hfresh o h₁ rfl
    · exact h₂ h'

/-- Creating the `xdg_surface` keeps the window ready. -/
theorem ensureXdgSurface_ready {log : List (Nat × Msg)} {n : Nat} {w : SlWindow}
    (hr : Ready heap p log n w) (hs : SlHostSurface) :
    Ready.Then heap p log (ensureXdgSurface hs n w) := by
  cases hx : w.xdgSurface with
  | some x =>
    simp only [Ready.Then, ensureXdgSurface, hx]
    exact hr
  | none =>
    simp only [Ready.Then, ensureXdgSurface, hx]
    exact hr.create rfl rfl (fun _ h => nomatch h) (by simp [SlWindow.objects, hx])

/-- `sl_update_application_id` uses only the aura surface, and every message names it. -/
theorem slUpdateApplicationId_uses (ctx : SlContext) (w : SlWindow) :
    ∀ m ∈ slUpdateApplicationId ctx w, m.Uses w.auraSurface.toList ∧ m.objects ≠ [] := by
  -- Every message it sends sets the application id on the aura surface.
  have h : ∀ a x, w.auraSurface = some a → (Msg.auraSetApplicationId a x).Uses w.auraSurface.toList ∧
      (Msg.auraSetApplicationId a x).objects ≠ [] :=
    fun a x ha => ⟨⟨rfl, rfl, fun o ho => by rw [ha]; exact ho⟩, List.cons_ne_nil _ _⟩
  unfold slUpdateApplicationId
  split
  · exact fun _ h => nomatch h
  · rename_i a ha
    split
    · exact fun m hm => List.mem_singleton.mp hm ▸ h a _ ha
    · split
      · exact fun m hm => List.mem_singleton.mp hm ▸ h a _ ha
      · exact fun _ h => nomatch h

/-- Setting an absent toplevel adds it to the window's objects. -/
theorem SlWindow.objects_toplevel {w : SlWindow} (h : w.xdgToplevel = none) (t : Nat) :
    { w with xdgToplevel := some t }.objects.Perm (t :: w.objects) := by
  simp [SlWindow.objects, h]

/-- Setting an absent popup adds it to the window's objects. -/
theorem SlWindow.objects_popup {w : SlWindow} (h : w.xdgPopup = none) (t : Nat) :
    { w with xdgPopup := some t }.objects.Perm (t :: w.objects) := by
  simp only [SlWindow.objects, h, Option.toList_some, Option.toList_none, List.append_nil,
    List.nil_append, List.append_assoc, List.singleton_append]
  rw [← List.append_assoc, ← List.append_assoc]
  exact List.perm_middle

/-- Setting an absent aura surface adds it to the window's objects. -/
theorem SlWindow.objects_aura {w : SlWindow} (h : w.auraSurface = none) (t : Nat) :
    { w with auraSurface := some t }.objects.Perm (t :: w.objects) := by
  simp only [SlWindow.objects, h, Option.toList_some, Option.toList_none, List.append_nil,
    List.append_assoc]
  rw [← List.append_assoc, ← List.append_assoc, ← List.append_assoc]
  exact List.perm_append_singleton _ _

/-- The aura block creates the aura surface when the window has none (as object `n`), and
otherwise sends only requests on the aura surface. -/
theorem auraBlock_sent (X : Extern) (ctx : SlContext) (v : Nat) (hs : SlHostSurface) (n : Nat)
    (w : SlWindow) : ∃ rest, (auraBlock X ctx v hs n w).2.2 =
      (if w.auraSurface.isSome then [] else [Msg.getAuraSurface n hs.proxy]) ++ rest ∧
      ∀ m ∈ rest, m.Uses [w.auraSurface.getD n] ∧ m.objects ≠ [] := by
  cases ha : w.auraSurface <;> simp only [auraBlock, ha] <;> refine ⟨_, rfl, fun m hm => ?_⟩ <;>
    simp only [List.append_eq, List.mem_append, List.mem_cons, List.not_mem_nil, or_false,
      Option.getD_none, Option.getD_some] at hm ⊢
  all_goals
    rcases hm with rfl | ((rfl | rfl) | hm) | hm
    iterate 3 exact ⟨⟨rfl, rfl, fun _ h => h⟩, List.cons_ne_nil _ _⟩
    · exact slUpdateApplicationId_uses ctx _ m hm
    · split at hm
      · rw [List.mem_singleton.mp hm]
        exact ⟨⟨rfl, rfl, fun _ h => h⟩, List.cons_ne_nil _ _⟩
      · cases hm

/-- The aura stage of `sl_window_update` keeps the window ready. -/
theorem auraStage_ready {log : List (Nat × Msg)} {n : Nat} {w : SlWindow}
    (hr : Ready heap p log n w) (X : Extern) (ctx : SlContext) (hs : SlHostSurface) :
    Ready.Then heap p log (auraStage X ctx hs n w) := by
  cases hv : ctx.auraShell with
  | none =>
    simp only [Ready.Then, auraStage, hv]
    exact hr
  | some v =>
    obtain ⟨rest, hsent, hrest⟩ := auraBlock_sent X ctx v hs n w
    simp only [Ready.Then, auraStage, hv, hsent, emit_append]
    cases ha : w.auraSurface with
    | some a =>
      simp only [auraBlock, ha, Option.isSome_some, if_true, Option.getD_some] at hrest ⊢
      have hw : { w with auraSurface := some a }.objects = w.objects := by simp [SlWindow.objects, ha]
      exact (hr.window hw).uses [a] (by simpa using hr.own a (by simp [SlWindow.objects, ha]))
        fun m hm => (hrest m hm).1
    | none =>
      simp only [auraBlock, ha, Option.isSome_none, Bool.false_eq_true, if_false, Option.getD_none]
        at hrest ⊢
      have hr₁ := hr.create (m := .getAuraSurface n hs.proxy) rfl rfl (fun _ h => nomatch h)
        (SlWindow.objects_aura ha n)
      exact hr₁.uses [n] (by simpa using hr₁.own n (by simp [SlWindow.objects]))
        fun m hm => (hrest m hm).1

/-- The toplevel branch creates the toplevel when the window has none (as object `n`, on the
window's `xdg_surface`), and otherwise sends only requests on the toplevel, with the parent's
toplevel as an argument. -/
theorem assignToplevel_sent (X : Extern) (parent : Option Nat) (sc : Option SurfaceScale) (n : Nat)
    (w : SlWindow) : ∃ rest, (assignToplevel X heap p parent sc n w).2.2 =
      (if w.xdgToplevel.isSome then [] else [Msg.getToplevel n w.xdgSurface]) ++ rest ∧
      ∀ m ∈ rest, m.Uses (w.xdgToplevel.getD n :: (parent.bind fun q =>
        (peek heap p { w with xdgToplevel := some (w.xdgToplevel.getD n) } q).bind
          (·.xdgToplevel)).toList) ∧ m.objects ≠ [] := by
  cases ht : w.xdgToplevel <;> simp only [assignToplevel, ht] <;> refine ⟨_, rfl, fun m hm => ?_⟩ <;>
    simp only [List.append_eq, List.mem_append, List.nil_append, Option.getD_none,
      Option.getD_some] at hm ⊢
  all_goals
    rcases hm with ((((hm | hm) | hm) | hm) | hm) | hm
    · cases parent
      · cases hm
      · rw [List.mem_singleton.mp hm]
        exact ⟨⟨rfl, rfl, fun o h => h⟩, List.cons_ne_nil _ _⟩
    · obtain ⟨s, -, rfl⟩ := Option.map_eq_some'.mp (Option.mem_toList.mp hm)
      exact ⟨⟨rfl, rfl, fun _ h => List.mem_singleton.mp h ▸ List.mem_cons_self _ _⟩,
        List.cons_ne_nil _ _⟩
    all_goals
      split at hm
      · rw [List.mem_singleton.mp hm]
        exact ⟨⟨rfl, rfl, fun _ h => List.mem_singleton.mp h ▸ List.mem_cons_self _ _⟩,
          List.cons_ne_nil _ _⟩
      · cases hm

/-- Giving the window its role keeps it ready. -/
theorem assignRole_ready {log : List (Nat × Msg)} {n : Nat} {w : SlWindow}
    (hr : Ready heap p log n w) (X : Extern) (ctx : SlContext) (parent : Option Nat)
    (sc : Option SurfaceScale) : Ready.Then heap p log (assignRole X ctx heap p parent sc n w) := by
  have hsurf : ∀ o ∈ w.xdgSurface.toList, Alive o log := fun o h =>
    hr.own o (w.surface_mem_objects o h)
  unfold assignRole
  split
  · -- The toplevel, held or created, and then the requests on it.
    obtain ⟨rest, hsent, hrest⟩ := @assignToplevel_sent heap p X parent sc n w
    simp only [Ready.Then, hsent, emit_append]
    have tail : ∀ t n' log', w.xdgToplevel.getD n = t →
        Ready heap p log' n' { w with xdgToplevel := some t } →
        Ready heap p (emit p rest log') n' { w with xdgToplevel := some t } := by
      rintro t n' log' rfl hr₁
      refine hr₁.uses _ (fun o ho => ?_) fun m hm => (hrest m hm).1
      rcases List.mem_cons.mp ho with rfl | ho
      · exact hr₁.own _ (by simp [SlWindow.objects])
      · exact hr₁.parent_alive SlWindow.toplevel_mem_objects parent o ho
    cases ht : w.xdgToplevel with
    | some t =>
      simp only [assignToplevel, ht, Option.isSome_some, if_true] at tail ⊢
      exact tail t n log rfl (hr.window (by simp [SlWindow.objects, ht]))
    | none =>
      simp only [assignToplevel, ht, Option.isSome_none, Bool.false_eq_true, if_false] at tail ⊢
      exact tail n (n + 1) _ rfl (hr.create (m := .getToplevel n w.xdgSurface) rfl rfl hsurf
        (SlWindow.objects_toplevel ht n))
  · -- A popup, created on the parent's `xdg_surface` when the window has none.
    split
    · rename_i q hp _
      split
      rename_i dx dy _
      exact hr.create (m := .getPopup n w.xdgSurface _ dx dy) rfl rfl
        (fun o ho => (List.mem_append.mp ho).elim (hsurf o)
          (hr.parent_alive SlWindow.surface_mem_objects (some q) o))
        (SlWindow.objects_popup hp n)
    · exact hr

/-- Setting the aura surface's parent uses only the window's aura surface and its parent's. -/
theorem auraParent_uses (X : Extern) (ctx : SlContext) (parent : Option Nat)
    (sc : Option SurfaceScale) (w : SlWindow) :
    ∀ m ∈ auraParent X ctx heap p parent sc w, m.Uses (w.auraSurface.toList ++
      (parent.bind fun q => (peek heap p w q).bind (·.auraSurface)).toList) := by
  intro m hm
  unfold auraParent at hm
  split at hm
  · rename_i q _ a ha
    split_ifs at hm
    · split at hm
      rw [List.mem_singleton.mp hm]
      refine ⟨rfl, rfl, fun o ho => ?_⟩
      rw [ha]
      exact ho
    · cases hm
  · cases hm

/-- The stages of `sl_window_update` between the pairing transition and the commit keep a window
ready. -/
theorem reconcile_ready {X : Extern} {W : World} {ctx : SlContext} {w : SlWindow}
    (hr : Ready W.heap p W.log W.fresh w) (hs : SlHostSurface) :
    Ready W.heap p (emit p (reconcile X W ctx p w hs).sent W.log) (reconcile X W ctx p w hs).fresh
      (reconcile X W ctx p w hs).window := by
  obtain ⟨ps, hps⟩ := bindPairedSurface_window X hs w
  obtain ⟨d, hd⟩ := queryDepth_eq W.depthReply { w with pairedSurface := ps }
  have h₀ : Ready W.heap p W.log W.fresh { { w with pairedSurface := ps } with depth := d } :=
    hr.window rfl
  have h₁ := ensureXdgSurface_ready h₀ (bindPairedSurface X hs w).1
  have h₂ := auraStage_ready h₁ X ctx (bindPairedSurface X hs w).1
  simp only [reconcile, hps, hd, emit_append]
  refine (fun h₃ => Ready.uses h₃ _ (fun o ho => ?_) (auraParent_uses X ctx _ _ _))
    (assignRole_ready h₂ X ctx _ _)
  rcases List.mem_append.mp ho with ho | ho
  · exact h₃.own o (SlWindow.aura_mem_objects _ o ho)
  · exact h₃.parent_alive SlWindow.aura_mem_objects _ o ho

/-- Messages on the window's `xdg_surface` or on no object, that create and destroy nothing,
leave a window with the same objects ready. -/
theorem Ready.engine {log : List (Nat × Msg)} {n : Nat} {w w' : SlWindow} (hr : Ready heap p log n w)
    {sent : List Msg} (hs : ∀ m ∈ sent, m.Uses w.xdgSurface.toList) (hw : w'.objects = w.objects) :
    Ready heap p (emit p sent log) n w' :=
  (hr.uses _ (fun o h => hr.own o (w.surface_mem_objects o h)) hs).window hw

/-- The teardown destroys the window's objects, each alive and each once. -/
theorem teardown_ready {log : List (Nat × Msg)} {n : Nat} {w : SlWindow}
    (hr : Ready heap p log n w) : Ready heap p (emit p (teardown w).2 log) n (teardown w).1 := by
  have hperm := teardown_perm w
  obtain ⟨h₁, h₂, h₃⟩ := emit_ends (p := p) (teardown_ends w) (hperm.nodup_iff.mpr hr.nodup)
    (fun o ho => hr.own o (hperm.subset ho)) hr.wellScoped
  refine ⟨h₁, fun o ho => hr.named o (h₂ o ho), fun o ho => (nomatch ho), List.nodup_nil,
    fun q v hq hne o ho => ⟨(h₃ o).mpr ⟨(hr.others q v hq hne o ho).1, fun h => ?_⟩, fun h => nomatch h⟩⟩
  exact (hr.others q v hq hne o ho).2 (hperm.subset h)

/-- The commit that ends `sl_window_update` keeps the window ready. -/
theorem finishUpdate_ready {X : Extern} {hs : SlHostSurface} {log : List (Nat × Msg)} {n : Nat}
    {w w' : SlWindow} {sent : List Msg} (hr : Ready heap p log n w)
    (h : finishUpdate X hs w = some (w', sent)) : Ready heap p (emit p sent log) n w' := by
  obtain ⟨g, pc, nc, r, rfl⟩ := finishUpdate_frame h
  exact hr.engine (finishUpdate_uses h) rfl

end Stages

/-! ## Moves -/

/-- Every move keeps the window ready: it sends requests only on live objects, creates only fresh
ones, and destroys only the window's own. -/
theorem Moves.objects {X : Extern} {W : World} {p : Nat} {w w' : SlWindow} {sent : List Msg}
    {ctx : SlContext} {fresh : Nat} (hm : Moves X W p w w' sent ctx fresh)
    (hr : Ready W.heap p W.log W.fresh w) : Ready W.heap p (emit p sent W.log) fresh w' := by
  cases hm with
  | surfaceConfigure hx h =>
    obtain ⟨g, pc, nc, rfl⟩ := slInternalXdgSurfaceConfigure_engine h
    refine hr.engine (fun m hm => ?_) rfl
    rcases List.mem_cons.mp hm with rfl | hm
    · exact ⟨rfl, rfl, fun o ho => by rw [List.mem_singleton.mp ho, hx]; exact List.mem_singleton_self _⟩
    · exact slInternalXdgSurfaceConfigure_uses h m hm
  | toplevelConfigure width height states =>
    obtain ⟨_, _, _, _, _, _, _, h⟩ := slInternalXdgToplevelConfigure_window X W.ctx p w
      (getObject W.objects (w.pairedSurface.getD 0)) width height states
    rw [h]
    exact hr.engine (fun m hm => by rw [mem_overrunRecord hm]; exact ⟨rfl, rfl, fun _ h => nomatch h⟩)
      rfl
  | close =>
    refine hr.uses [] (fun _ h => nomatch h) fun m hm => ?_
    rw [List.mem_singleton.mp hm]
    exact ⟨rfl, rfl, fun _ h => nomatch h⟩
  | commit h =>
    obtain ⟨g, pc, nc, rfl⟩ := slCommit_engine h
    exact hr.engine (slCommit_uses h) rfl
  | teardown hr' =>
    obtain ⟨u, ps, rfl⟩ := pairingTransition_window_of hr'
    exact teardown_ready (hr.window rfl)
  | @update ctx w₁ w₂ hs sent hr' h =>
    obtain ⟨u, ps, hw₁⟩ := pairingTransition_window_of hr'
    have h₀ : Ready W.heap p W.log W.fresh w₁ := hr.window (by rw [hw₁]; rfl)
    rw [emit_append]
    exact finishUpdate_ready (reconcile_ready h₀ hs) h
  | pair id => exact hr.window rfl
  | properties props => exact hr.window rfl

/-! ## Runs -/

/-- The objects' invariant over the whole proxy. -/
structure ObjectsInv (W : World) : Prop where
  /-- The log is well scoped. -/
  wellScoped : WellScoped W.log
  /-- The log names only objects already allocated. -/
  named : ∀ o, Named o W.log → o < W.fresh
  /-- A live window's objects are alive and distinct. -/
  held : ∀ p w, W.heap p = some w → (∀ o ∈ w.objects, Alive o W.log) ∧ w.objects.Nodup
  /-- No two live windows share an object. -/
  apart : ∀ p q v w, W.heap p = some v → W.heap q = some w → p ≠ q → ∀ o ∈ v.objects, o ∉ w.objects

/-- Under the invariant every live window is ready. -/
theorem ObjectsInv.ready {W : World} (hi : ObjectsInv W) {p : Nat} {w : SlWindow}
    (hp : W.heap p = some w) : Ready W.heap p W.log W.fresh w :=
  ⟨hi.wellScoped, hi.named, (hi.held p w hp).1, (hi.held p w hp).2,
    fun q v hq hne o ho => ⟨(hi.held q v hq).1 o ho, hi.apart q p v w hq hp hne o ho⟩⟩

/-- An operation that sends nothing, allocates nothing and leaves every window's objects or gives
it none keeps the invariant. -/
theorem ObjectsInv.of_heap {W W' : World} (hi : ObjectsInv W) (hl : W'.log = W.log)
    (hf : W'.fresh = W.fresh) (hh : ∀ q v, W'.heap q = some v → W.heap q = some v ∨ v.objects = []) :
    ObjectsInv W' := by
  refine ⟨hl ▸ hi.wellScoped, hl ▸ hf ▸ hi.named, fun q v hq => ?_, fun q r v u hq hr hne o ho => ?_⟩
  · rcases hh q v hq with hq | hv
    · exact hl ▸ hi.held q v hq
    · rw [hv]
      exact ⟨fun _ h => (nomatch h), List.nodup_nil⟩
  · rcases hh q v hq with hq | hv
    · rcases hh r u hr with hr | hu
      · exact hi.apart q r v u hq hr hne o ho
      · rw [hu]
        exact List.not_mem_nil o
    · rw [hv] at ho
      cases ho

/-- Every step keeps the objects' invariant. -/
theorem ObjectsInv.step {X : Extern} {W W' : World} {op : Op} (hi : ObjectsInv W)
    (h : step X W op = some W') : ObjectsInv W' := by
  rcases step_cases h with ⟨h₁, h₂, -, -, h₅⟩ | ⟨_, _, _, _, _, _, _, _, h₁, h₂, -, -, h₅⟩ |
    ⟨p, w, hp, h₁, h₂, -, -, h₅⟩ | ⟨p, w, w', sent, hp, hm, h₁, h₂, -⟩
  · exact hi.of_heap h₂ h₅ fun q v hq => .inl (h₁ ▸ hq)
  · refine hi.of_heap h₂ h₅ fun q v hq => ?_
    rw [h₁] at hq
    rcases update_eq_some hq with ⟨-, ⟨⟩⟩ | ⟨-, hq⟩
    · exact .inr rfl
    · exact .inl hq
  · refine hi.of_heap h₂ h₅ fun q v hq => ?_
    rw [h₁] at hq
    rcases update_eq_some hq with ⟨-, ⟨⟩⟩ | ⟨-, hq⟩
    exact .inl hq
  · have hr := hm.objects (hi.ready hp)
    rw [← h₂] at hr
    refine ⟨hr.wellScoped, hr.named, fun q v hq => ?_, fun q r v u hq hr' hne o ho => ?_⟩
    · rw [h₁] at hq
      rcases update_eq_some hq with ⟨-, ⟨⟩⟩ | ⟨hq', hq⟩
      · exact ⟨hr.own, hr.nodup⟩
      · exact ⟨fun o ho => (hr.others q v hq hq' o ho).1, (hi.held q v hq).2⟩
    · rw [h₁] at hq hr'
      rcases update_eq_some hq with ⟨rfl, ⟨⟩⟩ | ⟨hq', hq₁⟩ <;>
        rcases update_eq_some hr' with ⟨rfl, ⟨⟩⟩ | ⟨hr'', hr₁⟩
      · exact absurd rfl hne
      · exact fun h => (hr.others r u hr₁ hr'' o h).2 ho
      · exact (hr.others q v hq₁ hq' o ho).2
      · exact hi.apart q r v u hq₁ hr₁ hne o ho

/-- Every reachable world meets the objects' invariant. -/
theorem Reachable.objectsInv {X : Extern} {W : World} (hW : Reachable X W) : ObjectsInv W := by
  induction hW with
  | init => exact ⟨trivial, fun _ ⟨_, he, _⟩ => absurd he (List.not_mem_nil _),
      fun _ _ h => (nomatch h), fun _ _ _ _ h => nomatch h⟩
  | step _ _ hs ih => exact ih.step hs

/-- Along every run, each message the window code sends names only compositor objects created
before it and not destroyed since, creates only objects never named before, and is followed by no
message that names, destroys again or creates again an object it destroys. -/
theorem objects_lifecycle {X : Extern} {W : World} (hW : Reachable X W) :
    ∀ newer older q m, W.log = newer ++ (q, m) :: older →
      (∀ o ∈ m.objects, Alive o older) ∧ (∀ o, m.creates = some o → ¬Named o older) ∧
        ∀ o, m.destroys = some o → ∀ e ∈ newer, o ∉ e.2.objects ∧ e.2.creates ≠ some o := by
  intro newer older q m hl
  have hs := hl ▸ hW.objectsInv.wellScoped
  obtain ⟨hobj, hcre, -⟩ := hs.drop
  exact ⟨hobj, fun o hc => hcre o (by simp [hc]), fun o hd => hs.after_destroy hd⟩

/-- The state after `lostSurfaceRun`, with `COMMIT_LOOP_FIX`: its log holds the teardown of
`xdg_surface` 1 (the fifth newest message), after which `xdg_surface` 3 is created. -/
def lostSurfaceState : World :=
  (run (Extern.unscaled true) (World.init (SlContext.sample true) fun _ => none) lostSurfaceRun).getD
    (World.init (SlContext.sample true) fun _ => none)

/-- In the log of `lostSurfaceState`, the destruction of `xdg_surface` `1` meets
`objects_lifecycle`. -/
theorem objects_lifecycle_lost_surface :
    (∀ o ∈ (Msg.xdgSurfaceDestroy 1).objects, Alive o (lostSurfaceState.log.drop 5)) ∧
      (∀ o, (Msg.xdgSurfaceDestroy 1).creates = some o → ¬Named o (lostSurfaceState.log.drop 5)) ∧
      ∀ o, (Msg.xdgSurfaceDestroy 1).destroys = some o →
        ∀ e ∈ lostSurfaceState.log.take 4, o ∉ e.2.objects ∧ e.2.creates ≠ some o :=
  objects_lifecycle (W := lostSurfaceState) (reachable_run_getD _ (by decide)) _ _ 0 _ (by decide)

/-- In every reachable state, the compositor objects a live window holds are alive, distinct, and
held by no other live window. -/
theorem window_objects_owned {X : Extern} {W : World} (hW : Reachable X W) {p : Nat} {w : SlWindow}
    (hp : W.heap p = some w) :
    (∀ o ∈ w.objects, Alive o W.log) ∧ w.objects.Nodup ∧
      ∀ q v, W.heap q = some v → q ≠ p → ∀ o ∈ w.objects, o ∉ v.objects := by
  have hi := hW.objectsInv
  exact ⟨(hi.held p w hp).1, (hi.held p w hp).2, fun q v hq hne => hi.apart p q w v hp hq (Ne.symm hne)⟩

/-- After `lostSurfaceRun` window `0` meets `window_objects_owned`. -/
theorem window_objects_owned_lost_surface :
    (∀ o ∈ ((lostSurfaceState.heap 0).getD (SlWindow.blank true Props.unset)).objects,
        Alive o lostSurfaceState.log) ∧
      ((lostSurfaceState.heap 0).getD (SlWindow.blank true Props.unset)).objects.Nodup ∧
      ∀ q v, lostSurfaceState.heap q = some v → q ≠ 0 →
        ∀ o ∈ ((lostSurfaceState.heap 0).getD (SlWindow.blank true Props.unset)).objects,
          o ∉ v.objects :=
  window_objects_owned (reachable_run_getD _ (by decide))
    (Option.getD_of_ne_none (Option.ne_none_iff_isSome.mpr (by decide)) _).symm

end Sommelier

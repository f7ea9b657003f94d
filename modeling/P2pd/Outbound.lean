import P2pd.Ownership

/-!
# Outbound calls

A `CallUnary` worker stores its cancel function in `d.cancelUnary` under the
call id its client chose, and deletes it on its way out.  The map is shared by
every session of the daemon and keyed by the call id alone.  What a step can do
to the map and to the workers is said once, in `step_outbound_cases`; the
invariant that every entry belongs to a worker still holding it, and the
conditions under which a worker's own entry survives, follow from it.  The
last part follows one call through `doUnaryCall` and `exchangeMessages` when
its context is cancelled.
-/

namespace P2pd

/-- Whether a `CallUnary` worker has stored its cancel function and not yet run
its deferred `Delete`. -/
def CallUnaryPc.stored : CallUnaryPc → Bool
  | .start | .finished => false
  | _ => true

namespace Daemon

variable {s t : Daemon} {a : Action}

theorem spawnWorker_callWorkers (s : Daemon) (sid : Nat) (callID : Uuid)
    (msg : Option RequestMessage) :
    (s.spawnWorker sid callID msg).callWorkers = s.callWorkers ∨
      ∃ w : CallUnaryWorker, w.pc = .start ∧ w.cancelled = false ∧
        (s.spawnWorker sid callID msg).callWorkers =
          Function.update s.callWorkers s.nextRoutine (some w) := by
  rcases msg with _ | ⟨_⟩ | ⟨call⟩ | _ | _
  · exact .inl rfl
  · exact .inl rfl
  · exact .inr ⟨_, rfl, rfl, rfl⟩
  all_goals exact .inl rfl

/-- How a step other than a worker's `Store` or `Delete` can change the record
of worker `g`: not at all, by a spawn at the counter, or by a move that keeps
the worker's session and call id and whether its cancel function is stored. -/
def CallWorkerMoves (s t : Daemon) (g : Nat) : Prop :=
  t.callWorkers g = s.callWorkers g ∨
    (g = s.nextRoutine ∧ ∃ w, t.callWorkers g = some w ∧ w.pc = .start) ∨
    ∃ w w', s.callWorkers g = some w ∧ t.callWorkers g = some w' ∧
      w'.session = w.session ∧ w'.callID = w.callID ∧ w'.pc.stored = w.pc.stored

theorem callWorkerMoves_update {g : Nat} {w w' : CallUnaryWorker}
    (worker : s.callWorkers g = some w)
    (after : t.callWorkers = Function.update s.callWorkers g (some w'))
    (session : w'.session = w.session) (callID : w'.callID = w.callID)
    (stored : w'.pc.stored = w.pc.stored) (g' : Nat) :
    CallWorkerMoves s t g' := by
  by_cases same : g' = g
  · subst same
    exact .inr (.inr ⟨w, w', worker, by simp [after], session, callID, stored⟩)
  · exact .inl (by simp [after, same])

/-- Everything one step can do to `cancelUnary` and the `CallUnary` workers:
move workers without touching the map, or run one worker's `Store`, or run one
worker's deferred `Delete` and `cancel`. -/
theorem step_outbound_cases (stepped : s.step a = some t) :
    (t.cancelUnary = s.cancelUnary ∧ ∀ g, CallWorkerMoves s t g) ∨
      (∃ g w, a = .callUnaryWorker g ∧ s.callWorkers g = some w ∧ w.pc = .start ∧
        t.cancelUnary = Function.update s.cancelUnary w.callID (some g) ∧
        t.callWorkers = Function.update s.callWorkers g (some { w with pc := .dialing })) ∨
      ∃ g w, a = .callUnaryWorker g ∧ s.callWorkers g = some w ∧ w.pc = .exiting ∧
        t.cancelUnary = Function.update s.cancelUnary w.callID none ∧
        t.callWorkers = Function.update s.callWorkers g
          (some { w with cancelled := true, pc := .finished }) := by
  cases touches : a.touchesOutbound
  · obtain ⟨cancel, workers, -⟩ := step_outbound_frame stepped touches
    exact .inl ⟨cancel, fun g => .inl (by rw [workers])⟩
  unfold step at stepped
  split at stepped
  · cases stepped
  cases a <;> simp only [Action.touchesOutbound, reduceCtorEq] at touches
  case readLoop sid frame =>
    rcases readLoop_cases stepped with rfl | ⟨callID, msg, rfl⟩ | ⟨handlers, -, rfl⟩
    · exact .inl ⟨rfl, fun g => .inl rfl⟩
    · refine .inl ⟨by simp, fun g => ?_⟩
      rcases spawnWorker_callWorkers s sid callID msg with same | ⟨w, started, -, spawned⟩
      · exact .inl (by rw [same])
      · by_cases fresh : g = s.nextRoutine
        · exact .inr (.inl ⟨fresh, w, by simp [spawned, fresh], started⟩)
        · exact .inl (by simp [spawned, fresh])
    · exact .inl ⟨rfl, fun g => .inl rfl⟩
  case callUnaryWorker g =>
    simp only [callUnaryWorker] at stepped
    split at stepped
    · rename_i w worker
      split at stepped <;> cases stepped
      · exact .inr (.inl ⟨g, w, rfl, worker, ‹_›, rfl, rfl⟩)
      · exact .inl ⟨rfl, callWorkerMoves_update worker rfl rfl rfl
          (by simp [*, CallUnaryPc.stored])⟩
      · exact .inr (.inr ⟨g, w, rfl, worker, ‹_›, rfl, rfl⟩)
    · cases stepped
  case dial g outcome =>
    simp only [dial] at stepped
    split at stepped
    · rename_i w worker
      (repeat' split at stepped) <;> cases stepped <;>
        exact .inl ⟨rfl, callWorkerMoves_update worker rfl rfl rfl
          (by simp [*, CallUnaryPc.stored])⟩
    · cases stepped
  case receiveResponse g =>
    simp only [receiveResponse] at stepped
    split at stepped
    · rename_i w e worker _
      (repeat' split at stepped) <;> cases stepped <;>
        exact .inl ⟨rfl, callWorkerMoves_update worker rfl rfl rfl
          (by simp [*, CallUnaryPc.stored])⟩
    · cases stepped
  case receiveDone g =>
    simp only [receiveDone] at stepped
    split at stepped
    · rename_i w worker
      split at stepped <;> cases stepped
      exact .inl ⟨rfl, callWorkerMoves_update worker rfl rfl rfl
        (by simp_all [CallUnaryPc.stored])⟩
    · cases stepped
  case cancelWorker g =>
    simp only [cancelWorker] at stepped
    split at stepped
    · split at stepped <;> cases stepped
      · exact .inl ⟨rfl, fun g => .inl rfl⟩
      · rename_i worker _
        refine .inl ⟨rfl, fun g' => ?_⟩
        cases present : s.callWorkers worker with
        | none => exact .inl (by by_cases same : g' = worker <;> simp [same, present])
        | some v =>
            exact @callWorkerMoves_update _ _ _ _ { v with cancelled := true } present
              (by simp [present]) rfl rfl rfl g'
    · cases stepped
  all_goals
    simp only [exchangeWrite, exchangeRead, exchangeAbandon] at stepped
    (repeat' split at stepped) <;> cases stepped <;> exact .inl ⟨rfl, fun g => .inl rfl⟩

/-- A record that moves keeps what it had: a worker that exists is still
there, with its session, call id and stored cancel function. -/
theorem CallWorkerMoves.kept {g : Nat} {w : CallUnaryWorker} (moves : CallWorkerMoves s t g)
    (fresh : s.Fresh) (worker : s.callWorkers g = some w) :
    ∃ w', t.callWorkers g = some w' ∧ w'.session = w.session ∧ w'.callID = w.callID ∧
      w'.pc.stored = w.pc.stored := by
  rcases moves with same | ⟨rfl, -⟩ | ⟨v, v', worker', after, moved⟩
  · exact ⟨w, same.trans worker, rfl, rfl, rfl⟩
  · simp [(fresh.routines _ le_rfl).2.1] at worker
  · cases worker.symm.trans worker'
    exact ⟨v', after, moved⟩

/-- A worker that holds its cancel function after a move held it before. -/
theorem CallWorkerMoves.stored_before {g : Nat} {w' : CallUnaryWorker}
    (moves : CallWorkerMoves s t g) (worker : t.callWorkers g = some w')
    (stored : w'.pc.stored = true) :
    ∃ w, s.callWorkers g = some w ∧ w.callID = w'.callID ∧ w.pc.stored = true := by
  rcases moves with
    same | ⟨-, v, spawned, started⟩ | ⟨v, v', worker', after, -, callID, moved⟩
  · exact ⟨w', same.symm.trans worker, rfl, stored⟩
  · cases spawned.symm.trans worker
    simp [started, CallUnaryPc.stored] at stored
  · cases after.symm.trans worker
    exact ⟨v, worker', callID.symm, moved.symm.trans stored⟩

/-! ## The cancel registry -/

/-- What `cancelUnary` holds: only the cancel functions of workers that stored
them under their own call id and have not deleted them. -/
structure CancelInvariant (s : Daemon) : Prop where
  /-- Every entry is the cancel function of a worker that holds it, stored
  under the worker's call id. -/
  entry_stored : ∀ c g, s.cancelUnary c = some g →
    ∃ w, s.callWorkers g = some w ∧ w.callID = c ∧ w.pc.stored = true

theorem cancelInvariant_init (config : Config) : (Daemon.init config).CancelInvariant where
  entry_stored _ _ present := by simp [Daemon.init] at present

namespace CancelInvariant

/-- The invariant reads only `cancelUnary` and the `CallUnary` workers. -/
theorem congr (inv : s.CancelInvariant) (cancel : t.cancelUnary = s.cancelUnary)
    (workers : t.callWorkers = s.callWorkers) : t.CancelInvariant where
  entry_stored := cancel ▸ workers ▸ inv.entry_stored

/-- Moving workers keeps the invariant. -/
theorem moves (inv : s.CancelInvariant) (fresh : s.Fresh) (cancel : t.cancelUnary = s.cancelUnary)
    (moves : ∀ g, CallWorkerMoves s t g) : t.CancelInvariant where
  entry_stored c g entry := by
    obtain ⟨w, worker, rfl, stored⟩ := inv.entry_stored c g (cancel ▸ entry)
    obtain ⟨w', worker', -, callID, stored'⟩ := (moves g).kept fresh worker
    exact ⟨w', worker', callID, stored'.trans stored⟩

/-- A worker's `Store` keeps the invariant. -/
theorem store (inv : s.CancelInvariant) {g : Nat} {w : CallUnaryWorker}
    (worker : s.callWorkers g = some w) (started : w.pc = .start) :
    ({ s with cancelUnary := Function.update s.cancelUnary w.callID (some g) }.setCallWorker g
      { w with pc := .dialing }).CancelInvariant where
  entry_stored c g' entry := by
    simp only [setCallWorker, Function.update_apply] at entry ⊢
    split_ifs at entry with same
    · cases entry
      exact ⟨{ w with pc := .dialing }, by simp, same.symm, rfl⟩
    · obtain ⟨w', worker', rfl, stored⟩ := inv.entry_stored c g' entry
      have other : g' ≠ g := by
        rintro rfl
        cases worker.symm.trans worker'
        simp [started, CallUnaryPc.stored] at stored
      exact ⟨w', by simp [other, worker'], rfl, stored⟩

/-- A worker's deferred `Delete` and `cancel` keep the invariant. -/
theorem delete (inv : s.CancelInvariant) {g : Nat} {w : CallUnaryWorker}
    (worker : s.callWorkers g = some w) :
    ({ s with cancelUnary := Function.update s.cancelUnary w.callID none }.setCallWorker g
      { w with cancelled := true, pc := .finished }).CancelInvariant where
  entry_stored c g' entry := by
    simp only [setCallWorker, Function.update_apply] at entry ⊢
    split_ifs at entry with same
    obtain ⟨w', worker', rfl, stored⟩ := inv.entry_stored c g' entry
    have other : g' ≠ g := by
      rintro rfl
      cases worker.symm.trans worker'
      exact same rfl
    exact ⟨w', by simp [other, worker'], rfl, stored⟩

end CancelInvariant

theorem step_cancelInvariant (inv : s.CancelInvariant) (fresh : s.Fresh)
    (stepped : s.step a = some t) : t.CancelInvariant := by
  rcases step_outbound_cases stepped with ⟨cancel, moves⟩ |
      ⟨g, w, -, worker, started, cancel, workers⟩ | ⟨g, w, -, worker, -, cancel, workers⟩
  · exact inv.moves fresh cancel moves
  · exact (inv.store worker started).congr cancel workers
  · exact (inv.delete worker).congr cancel workers


end Daemon

theorem Reachable.cancelInvariant {s : Daemon} (reachable : Reachable s) :
    s.CancelInvariant := by
  induction reachable with
  | init config => exact Daemon.cancelInvariant_init config
  | step a reachable stepped ih => exact Daemon.step_cancelInvariant ih reachable.fresh stepped

/-! ## Cancellation -/

namespace Daemon

variable {s t : Daemon} {a : Action}

/-- A worker's context is cancelled only by a `Cancel` worker calling the
cancel function it loaded from `cancelUnary`, or by the worker's own deferred
`cancel`. -/
theorem step_cancels {g : Nat} {w w' : CallUnaryWorker} (stepped : s.step a = some t)
    (before : s.callWorkers g = some w) (after : t.callWorkers g = some w')
    (live : w.cancelled = false) (cancelled : w'.cancelled = true) :
    (∃ g' cw, a = .cancelWorker g' ∧ s.cancelWorkers g' = some cw ∧ cw.pc = .calling g) ∨
      (a = .callUnaryWorker g ∧ w.pc = .exiting) := by
  have kept : t.callWorkers g ≠ s.callWorkers g := by
    rw [after, before]; rintro ⟨⟩; simp [live] at cancelled
  cases touches : a.touchesOutbound
  · exact absurd (by rw [(step_outbound_frame stepped touches).2.1]) kept
  unfold step at stepped
  split at stepped
  · cases stepped
  cases a <;> simp only [Action.touchesOutbound, reduceCtorEq] at touches
  case readLoop sid frame =>
    rcases readLoop_cases stepped with rfl | ⟨callID, msg, rfl⟩ | ⟨handlers, -, rfl⟩
    · exact absurd rfl kept
    · rcases spawnWorker_callWorkers s sid callID msg with same | ⟨v, -, spawnLive, spawned⟩
      · exact absurd (by rw [same]) kept
      · by_cases fresh : g = s.nextRoutine
        · simp [spawned, fresh] at after
          simp [← after, spawnLive] at cancelled
        · exact absurd (by simp [spawned, fresh]) kept
    · exact absurd rfl kept
  case cancelWorker g' =>
    simp only [cancelWorker] at stepped
    split at stepped
    · rename_i cw present
      split at stepped <;> cases stepped
      · exact absurd rfl kept
      · rename_i target calling
        by_cases same : g = target
        · exact .inl ⟨g', cw, rfl, present, same ▸ calling⟩
        · exact absurd (by simp [same]) kept
    · cases stepped
  case callUnaryWorker g' =>
    simp only [callUnaryWorker] at stepped
    split at stepped
    · rename_i v present
      by_cases same : g = g'
      · subst same
        cases before.symm.trans present
        split at stepped <;> cases stepped <;>
          simp only [setCallWorker, Function.update_same, Option.some.injEq] at after <;>
          subst after
        · simp [live] at cancelled
        · simp [live] at cancelled
        · exact .inr ⟨rfl, ‹_›⟩
      · split at stepped <;> cases stepped <;> exact absurd (by simp [same, writeMsg]) kept
    · cases stepped
  all_goals
    simp only [dial, receiveResponse, receiveDone, exchangeWrite, exchangeRead,
      exchangeAbandon] at stepped
    (repeat' split at stepped) <;> cases stepped <;>
      simp only [setCallWorker, setExchange, Function.update_apply] at after <;>
      (try split_ifs at after) <;> (try simp only [Option.some.injEq] at after) <;>
      (try subst after) <;> simp_all

/-- A worker's record, once spawned, stays. -/
theorem step_callWorker_kept {g : Nat} {w : CallUnaryWorker} (fresh : s.Fresh)
    (stepped : s.step a = some t) (worker : s.callWorkers g = some w) :
    ∃ w', t.callWorkers g = some w' := by
  rcases step_outbound_cases stepped with ⟨-, moves⟩ | ⟨g', v, -, -, -, -, workers⟩ |
      ⟨g', v, -, -, -, -, workers⟩
  · obtain ⟨w', kept, -⟩ := (moves g).kept fresh worker
    exact ⟨w', kept⟩
  all_goals
    by_cases same : g = g'
    · exact ⟨_, by rw [workers, same, Function.update_same]⟩
    · exact ⟨w, by simp [workers, same, worker]⟩

/-- A `Cancel` worker whose `Load` finds the cancel function of worker `g`
cancels `g` with its next step. -/
theorem cancelWorker_cancels {g g' : Nat} {w : CallUnaryWorker} {cw : CancelWorker}
    (live : s.crashed = false) (cancelling : s.cancelWorkers g' = some cw)
    (started : cw.pc = .start) (entry : s.cancelUnary cw.callID = some g)
    (worker : s.callWorkers g = some w) :
    ∃ u v, s.step (.cancelWorker g') = some u ∧ u.step (.cancelWorker g') = some v ∧
      v.callWorkers g = some { w with cancelled := true } :=
  ⟨_, _, by simp [step, live, cancelWorker, cancelling, started, entry]; rfl, by
    simp [step, live, cancelWorker, cancelling]; rfl, by simp [worker]⟩

/-- Along a run, a worker's context goes from live to cancelled only at a step
of a `Cancel` worker calling its cancel function or at the worker's own exit. -/
theorem run_cancels {g : Nat} : ∀ {actions : List Action} {s t : Daemon} {w w' : CallUnaryWorker},
    Reachable s → s.run actions = some t → s.callWorkers g = some w →
    t.callWorkers g = some w' → w.cancelled = false → w'.cancelled = true →
    ∃ pre a post u, actions = pre ++ a :: post ∧ s.run pre = some u ∧
      ((∃ g' cw, a = .cancelWorker g' ∧ u.cancelWorkers g' = some cw ∧ cw.pc = .calling g) ∨
        (a = .callUnaryWorker g ∧ ∃ v, u.callWorkers g = some v ∧ v.pc = .exiting))
  | [], s, t, w, w', _, ran, worker, worker', live, cancelled => by
      cases ran
      cases worker.symm.trans worker'
      simp [live] at cancelled
  | a :: rest, s, t, w, w', reachable, ran, worker, worker', live, cancelled => by
      obtain ⟨u, stepped, ran⟩ := run_cons_eq_some ran
      obtain ⟨v, kept⟩ := step_callWorker_kept reachable.fresh stepped worker
      cases vCancelled : v.cancelled
      · obtain ⟨pre, b, post, x, rfl, ranPre, cause⟩ :=
          run_cancels (reachable.step a stepped) ran kept worker' vCancelled cancelled
        exact ⟨a :: pre, b, post, x, rfl, by simp [stepped, ranPre], cause⟩
      · refine ⟨[], a, rest, s, rfl, rfl, ?_⟩
        rcases step_cancels stepped worker kept live vCancelled with cause | ⟨rfl, exiting⟩
        · exact .inl cause
        · exact .inr ⟨rfl, w, worker, exiting⟩

/-- In the step from `s` to `t`, a `CallUnary` worker other than `g`, with the
call id under which `g` holds its cancel function, runs its `Store` or its
deferred `Delete`: it enters or leaves the stretch between the two. -/
def CancelEntryContested (s t : Daemon) (g : Nat) : Prop :=
  ∃ w g' w₀ w', s.callWorkers g = some w ∧ w.pc.stored = true ∧ g' ≠ g ∧
    s.callWorkers g' = some w₀ ∧ t.callWorkers g' = some w' ∧ w'.callID = w.callID ∧
    w'.pc.stored ≠ w₀.pc.stored

/-- Worker `g`, while it holds its cancel function, is the entry for its call id. -/
def OwnsCancelEntry (s : Daemon) (g : Nat) : Prop :=
  ∀ w, s.callWorkers g = some w → w.pc.stored = true → s.cancelUnary w.callID = some g

/-- A worker that does not hold its cancel function owns its entry vacuously. -/
theorem ownsCancelEntry_of_unstored {g : Nat} (unstored : ∀ w, s.callWorkers g = some w →
    w.pc.stored = false) : s.OwnsCancelEntry g :=
  fun w worker stored => by simp [unstored w worker] at stored

/-- A step keeps worker `g`'s entry unless another worker with its call id
runs its `Store` or `Delete` in it. -/
theorem step_ownsCancelEntry {g : Nat} (owns : s.OwnsCancelEntry g)
    (stepped : s.step a = some t) (uncontested : ¬ s.CancelEntryContested t g) :
    t.OwnsCancelEntry g := by
  intro w' worker' stored'
  rcases step_outbound_cases stepped with ⟨cancel, moves⟩ |
      ⟨g₀, v, -, present, atPc, cancel, workers⟩ | ⟨g₀, v, -, present, atPc, cancel, workers⟩
  · obtain ⟨w, worker, callID, stored⟩ := (moves g).stored_before worker' stored'
    rw [cancel, ← callID]
    exact owns w worker stored
  all_goals
    by_cases same : g = g₀
    · subst same
      simp only [workers, Function.update_same, Option.some.injEq] at worker'
      subst worker'
      first
        | (simp [CallUnaryPc.stored] at stored'; done)
        | simp [cancel]
    · have worker : s.callWorkers g = some w' := by simpa [workers, same] using worker'
      rw [cancel, Function.update_noteq]
      · exact owns w' worker stored'
      · intro callID
        exact uncontested ⟨w', g₀, v, _, worker, stored', Ne.symm same, present,
          by rw [workers, Function.update_same], by exact callID.symm,
          by simp [atPc, CallUnaryPc.stored]⟩

/-- Along a run in which no other worker with `g`'s call id runs its `Store` or
`Delete` while `g` holds its cancel function, `g` keeps owning its entry. -/
theorem run_ownsCancelEntry {g : Nat} : ∀ {actions : List Action} {s t : Daemon},
    s.OwnsCancelEntry g → s.run actions = some t →
    (∀ pre a post u u', actions = pre ++ a :: post → s.run pre = some u →
      u.step a = some u' → ¬ u.CancelEntryContested u' g) →
    t.OwnsCancelEntry g
  | [], s, t, owns, ran, _ => by cases ran; exact owns
  | a :: rest, s, t, owns, ran, uncontested => by
      obtain ⟨u, stepped, ran⟩ := run_cons_eq_some ran
      refine run_ownsCancelEntry
        (step_ownsCancelEntry owns stepped (uncontested [] a rest s u rfl rfl stepped)) ran
        fun pre b post x y split ranPre stepped' => ?_
      exact uncontested (a :: pre) b post x y (by rw [split]; rfl) (by simp [stepped, ranPre])
        stepped'

/-- Only a worker's own step runs its `Store` or `Delete`. -/
theorem CancelEntryContested.action {g : Nat} (fresh : s.Fresh) (stepped : s.step a = some t)
    (contested : s.CancelEntryContested t g) : ∃ g', g' ≠ g ∧ a = .callUnaryWorker g' := by
  obtain ⟨-, g', w₀, w', -, -, other, before, after, -, flipped⟩ := contested
  rcases step_outbound_cases stepped with ⟨-, moves⟩ | ⟨g₀, v, rfl, -, -, -, workers⟩ |
      ⟨g₀, v, rfl, -, -, -, workers⟩
  · obtain ⟨w'', kept, -, -, stored⟩ := (moves g').kept fresh before
    cases kept.symm.trans after
    exact absurd stored flipped
  all_goals
    by_cases same : g' = g₀
    · exact ⟨g₀, same ▸ other, rfl⟩
    · simp only [workers, Function.update_noteq same, before, Option.some.injEq] at after
      exact absurd (by rw [after]) flipped

end Daemon

/-! ## Cancelling a call -/

/-- A call on `/p/a`, with one byte of data, to the peer whose id is the
identity multihash of `[7]`. -/
def sampleCall : CallUnaryRequest := ⟨[0, 1, 7], "/p/a", [1]⟩

/-- `CallUnary{call}` with call id `callID`. -/
def callUnaryRequest (callID : Uuid) (call : CallUnaryRequest) : Request :=
  ⟨callID.bytes, some (.callUnary call)⟩

/-- `Cancel{}` with call id `callID`. -/
def cancelRequest (callID : Uuid) : Request :=
  ⟨callID.bytes, some .cancel⟩

/-- Session `0` calls with call id `callID` and its call is waiting on the remote
peer; session `1` then sends `Cancel{callID}`, and its `Cancel` worker runs. -/
def cancelFromOtherSession (callID : Uuid) : List Action :=
  [.startSession, .readLoop 0 (some (.message (callUnaryRequest callID sampleCall))),
    .callUnaryWorker 0, .dial 0 .opened,
    .startSession, .readLoop 1 (some (.message (cancelRequest callID))),
    .cancelWorker 1, .cancelWorker 1]

/-- Sessions `0` and `1` both call with call id `callID`, and both calls wait on
the remote peer; session `0` then sends `Cancel{callID}`, and its `Cancel`
worker runs. -/
def overlappingCalls (callID : Uuid) : List Action :=
  [.startSession, .readLoop 0 (some (.message (callUnaryRequest callID sampleCall))),
    .callUnaryWorker 0, .dial 0 .opened,
    .startSession, .readLoop 1 (some (.message (callUnaryRequest callID sampleCall))),
    .callUnaryWorker 1, .dial 1 .opened,
    .readLoop 0 (some (.message (cancelRequest callID))), .cancelWorker 2, .cancelWorker 2]

/-- While session `0`'s call is in flight, the entry for its call id is session
`1`'s call; session `0`'s `Cancel` cancels session `1`'s call and not its own. -/
theorem overlapping_calls_cancel_other_session :
    ∃ t, (Daemon.init sampleConfig).run (overlappingCalls (sampleCallID 1)) = some t ∧
      (t.callWorkers 0).map (fun w => (w.session, w.pc, w.cancelled)) =
        some (0, .selecting, false) ∧
      (t.callWorkers 1).map (fun w => (w.session, w.pc, w.cancelled)) =
        some (1, .selecting, true) ∧
      (t.cancelWorkers 2).map CancelWorker.session = some 0 ∧
      t.cancelUnary (sampleCallID 1) = some 1 :=
  ⟨_, rfl, by decide, by decide, by decide, by decide⟩

/-- `cancelUnary` serves every session alike.  Every entry is the cancel
function of a worker in flight with that call id.  A worker is the entry for its
call id whenever it holds its cancel function, along any run that starts before
its `Store` and in which no other worker with its call id runs its `Store` or its
`Delete` while it holds it.  And a `Cancel` with that call id from any session
cancels the worker the entry names. -/
theorem cancel_reaches_call :
    (∀ s, Reachable s → ∀ c g, s.cancelUnary c = some g →
      ∃ w, s.callWorkers g = some w ∧ w.callID = c ∧ w.pc.stored = true) ∧
    (∀ (s : Daemon) actions t g, s.run actions = some t →
      (∀ w, s.callWorkers g = some w → w.pc.stored = false) →
      (∀ pre a post u u', actions = pre ++ a :: post → s.run pre = some u →
        u.step a = some u' → ¬ u.CancelEntryContested u' g) →
      ∀ w, t.callWorkers g = some w → w.pc.stored = true → t.cancelUnary w.callID = some g) ∧
    (∀ (s : Daemon) g w, s.callWorkers g = some w → s.crashed = false →
      s.cancelUnary w.callID = some g →
      ∀ g' cw, s.cancelWorkers g' = some cw → cw.pc = .start → cw.callID = w.callID →
        ∃ u v, s.step (.cancelWorker g') = some u ∧ u.step (.cancelWorker g') = some v ∧
          v.callWorkers g = some { w with cancelled := true }) :=
  ⟨fun _ reachable => reachable.cancelInvariant.entry_stored,
    fun _ _ _ _ ran unstored uncontested =>
      Daemon.run_ownsCancelEntry (Daemon.ownsCancelEntry_of_unstored unstored) ran uncontested,
    fun _ _ _ worker live entry _ _ cancelling started callID =>
      Daemon.cancelWorker_cancels live cancelling started (callID ▸ entry) worker⟩

/-- Where `cancelFromOtherSession` stands before the `Cancel` worker runs:
session `0`'s call waits on the remote peer, and session `1`'s `Cancel` worker
is spawned. -/
def crossCancelPending : Daemon :=
  ((Daemon.init sampleConfig).run ((cancelFromOtherSession (sampleCallID 1)).take 6)).getD
    (Daemon.init sampleConfig)

theorem crossCancelPending_reachable : Reachable crossCancelPending :=
  (Reachable.init sampleConfig).run
    (show (Daemon.init sampleConfig).run ((cancelFromOtherSession (sampleCallID 1)).take 6) =
      some crossCancelPending from rfl)

/-- In `crossCancelPending` the entry for the call id is session `0`'s worker,
and session `1`'s `Cancel` cancels it. -/
theorem cancel_reaches_call_from_other_session :
    ∃ w cw, crossCancelPending.callWorkers 0 = some w ∧ w.session = 0 ∧ w.pc.stored = true ∧
      crossCancelPending.cancelWorkers 1 = some cw ∧ cw.session = 1 ∧
      crossCancelPending.cancelUnary w.callID = some 0 ∧
      ∃ u v, crossCancelPending.step (.cancelWorker 1) = some u ∧
        u.step (.cancelWorker 1) = some v ∧ v.callWorkers 0 = some { w with cancelled := true } := by
  have worker : crossCancelPending.callWorkers 0 =
      some ⟨0, sampleCallID 1, sampleCall, false, false, .selecting⟩ := by decide
  have cancelling : crossCancelPending.cancelWorkers 1 = some ⟨1, sampleCallID 1, .start⟩ := by
    decide
  obtain ⟨-, owns, cancels⟩ := cancel_reaches_call
  have entry := owns _ _ _ 0
    (show (Daemon.init sampleConfig).run ((cancelFromOtherSession (sampleCallID 1)).take 6) =
      some crossCancelPending from rfl)
    (fun _ worker => by simp [Daemon.init] at worker)
    (fun pre a post u u' split ran stepped contested => by
      obtain ⟨g', other, rfl⟩ :=
        contested.action ((Reachable.init sampleConfig).run ran).fresh stepped
      have listed : Action.callUnaryWorker g' ∈
          (cancelFromOtherSession (sampleCallID 1)).take 6 := by
        rw [split]; simp
      simp [cancelFromOtherSession] at listed
      exact other listed)
    _ worker rfl
  exact ⟨_, _, worker, rfl, rfl, cancelling, rfl, entry,
    cancels _ _ _ worker (by decide) entry 1 _ cancelling rfl rfl⟩

/-- Session `0` calls and hangs up while its call waits on the remote peer: the
session returns, and the call goes on waiting with a live context. -/
def hangUpDuringCall (callID : Uuid) : List Action :=
  [.startSession, .readLoop 0 (some (.message (callUnaryRequest callID sampleCall))),
    .callUnaryWorker 0, .dial 0 .opened, .readLoop 0 none, .cleanup 0]

theorem session_exit_leaves_call :
    ∃ t, (Daemon.init sampleConfig).run (hangUpDuringCall (sampleCallID 1)) = some t ∧
      (t.sessions 0).map Session.phase = some .returned ∧
      (t.callWorkers 0).map (fun w => (w.session, w.pc, w.cancelled)) =
        some (0, .selecting, false) :=
  ⟨_, rfl, by decide, by decide⟩

/-- A worker's context is cancelled only by a `Cancel` worker, of any session,
calling the cancel function it loaded, or by the worker's own exit: along any
run, the step that cancels it is one of these two, so the exit of its session
cancels nothing. -/
theorem call_cancelled_only_by_cancel :
    ∀ s actions t g w w', Reachable s → s.run actions = some t → s.callWorkers g = some w →
      t.callWorkers g = some w' → w.cancelled = false → w'.cancelled = true →
      ∃ pre a post u, actions = pre ++ a :: post ∧ s.run pre = some u ∧
        ((∃ g' cw, a = .cancelWorker g' ∧ u.cancelWorkers g' = some cw ∧ cw.pc = .calling g) ∨
          (a = .callUnaryWorker g ∧ ∃ v, u.callWorkers g = some v ∧ v.pc = .exiting)) :=
  fun _ _ _ _ _ _ reachable ran worker worker' live cancelled =>
    Daemon.run_cancels reachable ran worker worker' live cancelled

/-- The daemon `cancelFromOtherSession` starts session `1` in: session `0`'s
call waits on the remote peer with a live context. -/
def callWaiting : Daemon :=
  ((Daemon.init sampleConfig).run ((cancelFromOtherSession (sampleCallID 1)).take 4)).getD
    (Daemon.init sampleConfig)

/-- The step that cancels session `0`'s call is session `1`'s `Cancel` worker
calling the cancel function it loaded. -/
theorem call_cancelled_by_other_session :
    ∃ pre a post u, (cancelFromOtherSession (sampleCallID 1)).drop 4 = pre ++ a :: post ∧
      callWaiting.run pre = some u ∧
      ((∃ g' cw, a = .cancelWorker g' ∧ u.cancelWorkers g' = some cw ∧ cw.pc = .calling 0) ∨
        (a = .callUnaryWorker 0 ∧ ∃ v, u.callWorkers 0 = some v ∧ v.pc = .exiting)) := by
  have reachable : Reachable callWaiting := (Reachable.init sampleConfig).run
    (show (Daemon.init sampleConfig).run ((cancelFromOtherSession (sampleCallID 1)).take 4) =
      some callWaiting from rfl)
  have ran : callWaiting.run ((cancelFromOtherSession (sampleCallID 1)).drop 4) = _ := rfl
  exact call_cancelled_only_by_cancel _ _ _ 0
    ⟨0, sampleCallID 1, sampleCall, false, false, .selecting⟩
    ⟨0, sampleCallID 1, sampleCall, true, false, .selecting⟩
    reachable ran (by decide) (by decide) rfl rfl

/-! ## A cancelled call's frame -/

/-- What a remote peer answers on the stream of `sampleCall`. -/
def sampleReply (callID : Uuid) : Request :=
  ⟨callID.bytes, some (.unaryResponse (.response [2]))⟩

/-- Session `0` calls, and cancels the call once its request is on the wire.
The remote peer answers; `exchangeMessages` then sees the cancellation and
returns without sending, closing its channel, and the worker's select, with
both of its cases ready, takes the closed channel. -/
def cancelAfterWrite (callID : Uuid) : List Action :=
  [.startSession, .readLoop 0 (some (.message (callUnaryRequest callID sampleCall))),
    .callUnaryWorker 0, .dial 0 .opened, .exchangeWrite 0 none,
    .readLoop 0 (some (.message (cancelRequest callID))), .cancelWorker 1, .cancelWorker 1,
    .exchangeRead 0 (.ok (.message (sampleReply callID))), .receiveResponse 0,
    .callUnaryWorker 0, .callUnaryWorker 0]

/-- The worker hands a nil response to its session's writer. -/
theorem cancelled_call_writes_nil :
    ∃ t, (Daemon.init sampleConfig).run (cancelAfterWrite (sampleCallID 1)) = some t ∧
      t.written 0 = [none] :=
  ⟨_, rfl, by decide⟩

/-- Session `0` calls and cancels the call while the worker dials; the host's
`NewStream` gives up on the cancelled context. -/
def cancelWhileDialing (callID : Uuid) : List Action :=
  [.startSession, .readLoop 0 (some (.message (callUnaryRequest callID sampleCall))),
    .callUnaryWorker 0, .readLoop 0 (some (.message (cancelRequest callID))),
    .cancelWorker 1, .cancelWorker 1, .dial 0 .canceled,
    .callUnaryWorker 0, .callUnaryWorker 0]

/-- The worker reports the cancellation as `DaemonError("context canceled")`. -/
theorem cancel_while_dialing_reports_error :
    ∃ t, (Daemon.init sampleConfig).run (cancelWhileDialing (sampleCallID 1)) = some t ∧
      t.written 0 =
        [some ⟨(sampleCallID 1).bytes, some (.daemonError "context canceled")⟩] :=
  ⟨_, rfl, by decide⟩

end P2pd

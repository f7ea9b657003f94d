import P2pd.Outbound

/-!
# The exchange's sends on `rc`

`exchangeMessages` hands its outcome to `doUnaryCall` on the unbuffered channel
`rc`.  Its last send sits in a select with `ctx.Done()`: while `doUnaryCall`
waits in its own select the send can be received, and once `doUnaryCall` has
returned the context is done and the send can be given up.  The two sends of a
stream error have no such select.  When the context is cancelled after the
failed write's `ctx.Err()` check, `doUnaryCall`'s select may take `ctx.Done()`
and return, and the exchange then waits on a send that nobody will receive.
-/

namespace P2pd

/-- Whether `doUnaryCall` has returned: the worker has left its select. -/
def CallUnaryPc.returned : CallUnaryPc → Bool
  | .writing _ | .exiting | .finished => true
  | _ => false

/-- Whether the worker is past `NewStream`, the only place an exchange starts. -/
def CallUnaryPc.dialed : CallUnaryPc → Bool
  | .start | .dialing => false
  | _ => true

namespace Daemon

variable {s t : Daemon} {a : Action}

/-! ## A send without a select -/

/-- A step leaves an exchange blocked in the send of a stream error as it is,
once its worker has returned: only the worker's select could take the send. -/
theorem step_sendingError_kept {g : Nat} {e : ExchangeMessages} {w : CallUnaryWorker}
    {resp : Response} (fresh : s.Fresh) (stepped : s.step a = some t)
    (exchange : s.exchanges g = some e) (sending : e.pc = .sendingError resp)
    (worker : s.callWorkers g = some w) (returned : w.pc.returned = true) :
    t.exchanges g = some e ∧ ∃ w', t.callWorkers g = some w' ∧ w'.pc.returned = true := by
  have unchanged : ∀ {u : Daemon}, u.exchanges g = s.exchanges g →
      u.callWorkers g = s.callWorkers g →
      u.exchanges g = some e ∧ ∃ w', u.callWorkers g = some w' ∧ w'.pc.returned = true :=
    fun exchanges workers => ⟨exchanges.trans exchange, w, workers.trans worker, returned⟩
  cases touches : a.touchesOutbound
  · obtain ⟨-, workers, exchanges, -⟩ := step_outbound_frame stepped touches
    exact unchanged (by rw [exchanges]) (by rw [workers])
  unfold step at stepped
  split at stepped
  · cases stepped
  cases a <;> simp only [Action.touchesOutbound, reduceCtorEq] at touches
  case readLoop sid frame =>
    rcases readLoop_cases stepped with rfl | ⟨callID, msg, rfl⟩ | ⟨handlers, -, rfl⟩
    · exact unchanged rfl rfl
    · refine unchanged (by simp) ?_
      rcases spawnWorker_callWorkers s sid callID msg with same | ⟨v, -, -, spawned⟩
      · rw [same]
      · rw [spawned, Function.update_noteq (fresh.routine_lt g (by simp [worker])).ne]
    · exact unchanged rfl rfl
  case callUnaryWorker g' =>
    simp only [callUnaryWorker] at stepped
    split at stepped
    · rename_i v worker'
      by_cases same : g = g'
      · subst same
        cases worker.symm.trans worker'
        split at stepped <;> cases stepped
        · simp [*, CallUnaryPc.returned] at returned
        all_goals exact ⟨exchange, _, Function.update_same _ _ _, rfl⟩
      · split at stepped <;> cases stepped <;>
          exact unchanged (by simp [writeMsg]) (by simp [same, writeMsg])
    · cases stepped
  case dial g' _ | receiveDone g' =>
    simp only [dial, receiveDone] at stepped
    split at stepped
    · rename_i v worker'
      by_cases same : g = g'
      · subst same
        cases worker.symm.trans worker'
        split at stepped
        · simp [*, CallUnaryPc.returned] at returned
        · cases stepped
      · (repeat' split at stepped) <;> cases stepped <;>
          exact unchanged (by simp [same]) (by simp [same])
    · cases stepped
  case receiveResponse g' =>
    simp only [receiveResponse] at stepped
    split at stepped
    · rename_i v e' worker' _
      by_cases same : g = g'
      · subst same
        cases worker.symm.trans worker'
        split at stepped
        · simp [*, CallUnaryPc.returned] at returned
        · cases stepped
      · (repeat' split at stepped) <;> cases stepped <;>
          exact unchanged (by simp [same]) (by simp [same])
    · cases stepped
  case exchangeWrite g' _ | exchangeRead g' _ =>
    simp only [exchangeWrite, exchangeRead] at stepped
    split at stepped
    · rename_i v e' worker' exchange'
      by_cases same : g = g'
      · subst same
        cases exchange.symm.trans exchange'
        split at stepped
        · rename_i guard
          simp [sending] at guard
        · cases stepped
      · split at stepped <;> cases stepped
        exact unchanged (by simp [same]) (by simp)
    · cases stepped
  case exchangeAbandon g' =>
    simp only [exchangeAbandon] at stepped
    split at stepped
    · rename_i v e' worker' exchange'
      by_cases same : g = g'
      · subst same
        cases exchange.symm.trans exchange'
        split at stepped
        · rename_i atPc
          simp [sending] at atPc
        · cases stepped
      · (repeat' split at stepped) <;> cases stepped
        exact unchanged (by simp [same]) (by simp)
    · cases stepped
  case cancelWorker g' =>
    simp only [cancelWorker] at stepped
    split at stepped
    · split at stepped <;> cases stepped
      · exact unchanged (by simp) (by simp)
      · rename_i target _
        by_cases same : g = target
        · subst same
          exact ⟨exchange, { w with cancelled := true }, by simp [worker], returned⟩
        · exact unchanged (by simp) (by simp [same])
    · cases stepped

/-- An exchange blocked in the send of a stream error after its worker has
returned stays blocked along every run. -/
theorem run_sendingError_kept {g : Nat} {e : ExchangeMessages} {resp : Response}
    (sending : e.pc = .sendingError resp) :
    ∀ {actions : List Action} {s t : Daemon} {w : CallUnaryWorker}, Reachable s →
      s.run actions = some t → s.exchanges g = some e → s.callWorkers g = some w →
      w.pc.returned = true → t.exchanges g = some e
  | [], s, t, w, _, ran, exchange, _, _ => by cases ran; exact exchange
  | a :: rest, s, t, w, reachable, ran, exchange, worker, returned => by
      obtain ⟨u, stepped, ran⟩ := run_cons_eq_some ran
      obtain ⟨kept, w', worker', returned'⟩ :=
        step_sendingError_kept reachable.fresh stepped exchange sending worker returned
      exact run_sendingError_kept sending (reachable.step a stepped) ran kept worker' returned'

/-! ## The send in a select -/

/-- The exchange filed under `g`, if any, belongs to a worker past its dial;
once the worker has returned its stream is closed, and an exchange still in its
final select then sees a done context. -/
def ExchangeOwned (s : Daemon) (g : Nat) : Prop :=
  ∀ e, s.exchanges g = some e → ∃ w, s.callWorkers g = some w ∧ w.pc.dialed = true ∧
    (w.pc.returned = true → w.streamClosed = true) ∧
    (∀ r, e.pc = .sendingResponse r → w.pc.returned = true → w.cancelled = true)

theorem exchangeOwned_init (config : Config) (g : Nat) : (Daemon.init config).ExchangeOwned g :=
  fun _ present => by cases present

theorem exchangeOwned_of_none {g : Nat} (absent : s.exchanges g = none) : s.ExchangeOwned g :=
  fun _ present => by simp [absent] at present

theorem exchangeOwned_of_worker {g : Nat} {w : CallUnaryWorker} (worker : s.callWorkers g = some w)
    (dialed : w.pc.dialed = true) (closed : w.pc.returned = true → w.streamClosed = true)
    (done : ∀ e r, s.exchanges g = some e → e.pc = .sendingResponse r →
      w.pc.returned = true → w.cancelled = true) : s.ExchangeOwned g :=
  fun e present => ⟨w, worker, dialed, closed, fun r sending => done e r present sending⟩

/-- A worker before its dial has no exchange. -/
theorem ExchangeOwned.absent {g : Nat} {w : CallUnaryWorker} (owned : s.ExchangeOwned g)
    (worker : s.callWorkers g = some w) (undialed : w.pc.dialed = false) :
    s.exchanges g = none := by
  cases present : s.exchanges g with
  | none => rfl
  | some e =>
      obtain ⟨w', worker', dialed, -⟩ := owned e present
      cases worker.symm.trans worker'
      simp [undialed] at dialed

/-- Moving the worker at `g` to a record that keeps its dial, its stream and
its context, and has returned exactly when it had, keeps the invariant. -/
theorem ExchangeOwned.move {u : Daemon} {g : Nat} {w w' : CallUnaryWorker}
    (owned : s.ExchangeOwned g) (worker : s.callWorkers g = some w)
    (worker' : u.callWorkers g = some w') (exchanges : u.exchanges g = s.exchanges g)
    (dialed : w'.pc.dialed = w.pc.dialed) (returned : w'.pc.returned = w.pc.returned)
    (closed : w'.streamClosed = w.streamClosed)
    (done : w.cancelled = true → w'.cancelled = true) : u.ExchangeOwned g := by
  intro e present
  rw [exchanges] at present
  obtain ⟨v, worker₀, wasDialed, wasClosed, wasDone⟩ := owned e present
  cases worker.symm.trans worker₀
  refine ⟨w', worker', dialed ▸ wasDialed, fun ret => closed ▸ wasClosed (returned ▸ ret),
    fun r sending ret => done (wasDone r sending (returned ▸ ret))⟩

theorem step_exchangeOwned {g : Nat} (fresh : s.Fresh) (stepped : s.step a = some t)
    (owned : s.ExchangeOwned g) : t.ExchangeOwned g := by
  have unchanged : ∀ {u : Daemon}, u.exchanges g = s.exchanges g →
      u.callWorkers g = s.callWorkers g → u.ExchangeOwned g := by
    intro u exchanges workers e present
    rw [exchanges] at present
    rw [workers]
    exact owned e present
  cases touches : a.touchesOutbound
  · obtain ⟨-, workers, exchanges, -⟩ := step_outbound_frame stepped touches
    exact unchanged (by rw [exchanges]) (by rw [workers])
  unfold step at stepped
  split at stepped
  · cases stepped
  cases a <;> simp only [Action.touchesOutbound, reduceCtorEq] at touches
  case readLoop sid frame =>
    rcases readLoop_cases stepped with rfl | ⟨callID, msg, rfl⟩ | ⟨handlers, -, rfl⟩
    · exact owned
    · rcases spawnWorker_callWorkers s sid callID msg with same | ⟨v, -, -, spawned⟩
      · exact unchanged (by simp) (by rw [same])
      · by_cases counter : g = s.nextRoutine
        · exact exchangeOwned_of_none (by simp [counter, (fresh.routines _ le_rfl).2.2.1])
        · exact unchanged (by simp) (by rw [spawned, Function.update_noteq counter])
    · exact owned
  case callUnaryWorker g' =>
    simp only [callUnaryWorker] at stepped
    split at stepped
    · rename_i w worker
      by_cases same : g = g'
      · subst same
        split at stepped <;> cases stepped <;> rename_i atPc
        · exact exchangeOwned_of_none
            (by simpa using owned.absent worker (by simp [atPc, CallUnaryPc.dialed]))
        all_goals
          exact owned.move worker (Function.update_same _ _ _) (by simp [writeMsg])
            (by simp [atPc, CallUnaryPc.dialed]) (by simp [atPc, CallUnaryPc.returned]) rfl
            (by simp)
      · split at stepped <;> cases stepped <;>
          exact unchanged (by simp [writeMsg]) (by simp [same, writeMsg])
    · cases stepped
  case dial g' _ =>
    simp only [dial] at stepped
    split at stepped
    · rename_i w worker
      by_cases same : g = g'
      · subst same
        split at stepped
        · rename_i dialing
          have absent := owned.absent worker (by simp [dialing, CallUnaryPc.dialed])
          (repeat' split at stepped) <;> cases stepped
          all_goals first
            | exact exchangeOwned_of_none (by simpa using absent)
            | exact exchangeOwned_of_worker (Function.update_same _ _ _) rfl
                (by simp [CallUnaryPc.returned]) (by simp [CallUnaryPc.returned])
        · cases stepped
      · (repeat' split at stepped) <;> cases stepped <;>
          exact unchanged (by simp [same]) (by simp [same])
    · cases stepped
  case receiveResponse g' =>
    simp only [receiveResponse] at stepped
    split at stepped
    · rename_i w e worker exchange
      by_cases same : g = g'
      · subst same
        (repeat' split at stepped) <;> cases stepped <;>
          exact exchangeOwned_of_worker (Function.update_same _ _ _) rfl (fun _ => rfl)
            (by intro e' r present sending; simp [exchange] at present; subst present; simp_all)
      · (repeat' split at stepped) <;> cases stepped <;>
          exact unchanged (by simp [same]) (by simp [same])
    · cases stepped
  case receiveDone g' =>
    simp only [receiveDone] at stepped
    split at stepped
    · rename_i w worker
      by_cases same : g = g'
      · subst same
        split at stepped <;> cases stepped
        rename_i guard
        exact exchangeOwned_of_worker (Function.update_same _ _ _) rfl (fun _ => rfl)
          (fun _ _ _ _ _ => guard.2)
      · split at stepped <;> cases stepped
        exact unchanged (by simp) (by simp [same])
    · cases stepped
  case exchangeWrite g' _ =>
    simp only [exchangeWrite] at stepped
    split at stepped
    · rename_i w e worker exchange
      by_cases same : g = g'
      · subst same
        obtain ⟨w', worker', dialed, closed, -⟩ := owned e exchange
        cases worker.symm.trans worker'
        split at stepped <;> cases stepped
        refine exchangeOwned_of_worker (by simpa using worker) dialed closed ?_
        intro e' r present sending
        simp at present
        subst present
        simp only at sending
        split at sending
        · cases sending
        · split at sending <;> cases sending
      · split at stepped <;> cases stepped
        exact unchanged (by simp [same]) (by simp)
    · cases stepped
  case exchangeAbandon g' =>
    simp only [exchangeAbandon] at stepped
    split at stepped
    · rename_i w e worker exchange
      by_cases same : g = g'
      · subst same
        obtain ⟨w', worker', dialed, closed, -⟩ := owned e exchange
        cases worker.symm.trans worker'
        (repeat' split at stepped) <;> cases stepped
        refine exchangeOwned_of_worker (by simpa using worker) dialed closed ?_
        intro e' r present sending
        simp at present
        subst present
        cases sending
      · (repeat' split at stepped) <;> cases stepped
        exact unchanged (by simp [same]) (by simp)
    · cases stepped
  case exchangeRead g' result =>
    simp only [exchangeRead] at stepped
    split at stepped
    · rename_i w e worker exchange
      by_cases same : g = g'
      · subst same
        obtain ⟨w', worker', dialed, closed, -⟩ := owned e exchange
        cases worker.symm.trans worker'
        split at stepped <;> cases stepped
        rename_i guard
        refine exchangeOwned_of_worker (by simpa using worker) dialed closed ?_
        intro e' r present sending returned
        simp at present
        subst present
        simp only at sending
        split at sending
        · cases sending
        · split at sending
          · cases sending
          · rename_i remoteResp read
            cases result <;> simp [Except.bind] at read
            have unclosed : w.streamClosed = false := by
              simpa [Except.isOk, Except.toBool] using guard.2
            simp [closed returned] at unclosed
      · split at stepped <;> cases stepped
        exact unchanged (by simp [same]) (by simp)
    · cases stepped
  case cancelWorker g' =>
    simp only [cancelWorker] at stepped
    split at stepped
    · split at stepped <;> cases stepped
      · exact unchanged (by simp) (by simp)
      · rename_i target _
        by_cases same : g = target
        · subst same
          cases worker : s.callWorkers g with
          | none =>
              refine exchangeOwned_of_none ?_
              cases present : s.exchanges g with
              | none => simp [present]
              | some e =>
                  obtain ⟨w, worker', -⟩ := owned e present
                  simp [worker] at worker'
          | some w =>
              exact @ExchangeOwned.move _ _ _ _ { w with cancelled := true } owned worker
                (by simp [worker]) (by simp) rfl rfl rfl (fun _ => rfl)
        · exact unchanged (by simp) (by simp [same])
    · cases stepped

end Daemon

theorem Reachable.exchangeOwned {s : Daemon} (reachable : Reachable s) (g : Nat) :
    s.ExchangeOwned g :=
  Reachable.induction (P := fun s => s.ExchangeOwned g)
    (fun config => Daemon.exchangeOwned_init config g)
    (fun _ _ _ reachable owned stepped => Daemon.step_exchangeOwned reachable.fresh stepped owned)
    reachable

/-- The final send of an exchange always has a taker: while `doUnaryCall` waits
in its select it can receive it, and once `doUnaryCall` has returned the
context is done and the exchange can leave through `ctx.Done()`. -/
theorem Reachable.sendingResponse_taken {s : Daemon} (reachable : Reachable s)
    (live : s.crashed = false) {g : Nat} {e : ExchangeMessages} {r : Response}
    (exchange : s.exchanges g = some e) (sending : e.pc = .sendingResponse r) :
    s.step (.receiveResponse g) ≠ none ∨ s.step (.exchangeAbandon g) ≠ none := by
  obtain ⟨w, worker, dialed, -, done⟩ := reachable.exchangeOwned g e exchange
  cases atPc : w.pc
  case selecting =>
    exact .inl (by
      simp [Daemon.step, live, Daemon.receiveResponse, worker, exchange, atPc, sending])
  case start | dialing => simp [atPc, CallUnaryPc.dialed] at dialed
  all_goals
    have cancelled := done r sending (by simp [atPc, CallUnaryPc.returned])
    exact .inr (by simp [Daemon.step, live, Daemon.exchangeAbandon, worker, exchange, sending,
      cancelled])

/-- Session `0` calls; the write of its request to the remote stream fails,
and before `doUnaryCall` takes the error from `rc` the client cancels the call.
`doUnaryCall` returns through `ctx.Done()`, and the worker writes `Cancel` and
exits. -/
def writeFailsThenCancel (callID : Uuid) : List Action :=
  [.startSession, .readLoop 0 (some (.message (callUnaryRequest callID sampleCall))),
    .callUnaryWorker 0, .dial 0 .opened, .exchangeWrite 0 (some "stream reset"),
    .readLoop 0 (some (.message (cancelRequest callID))), .cancelWorker 1, .cancelWorker 1,
    .receiveDone 0, .callUnaryWorker 0, .callUnaryWorker 0]

/-- The exchange's last send always has a taker; its error sends do not: a
write that fails as the call is cancelled leaves the exchange blocked for good
after the worker has returned and exited. -/
theorem exchange_error_send_leaks :
    (∀ s, Reachable s → s.crashed = false → ∀ g e r, s.exchanges g = some e →
      e.pc = .sendingResponse r →
      s.step (.receiveResponse g) ≠ none ∨ s.step (.exchangeAbandon g) ≠ none) ∧
    ∃ t, (Daemon.init sampleConfig).run (writeFailsThenCancel (sampleCallID 1)) = some t ∧
      (t.callWorkers 0).map CallUnaryWorker.pc = some .finished ∧
      (t.exchanges 0).map ExchangeMessages.pc =
        some (.sendingError (errorUnaryCall (sampleCallID 1) "stream reset")) ∧
      ∀ actions u, t.run actions = some u → u.exchanges 0 = t.exchanges 0 := by
  refine ⟨fun s reachable live g e r exchange sending =>
    reachable.sendingResponse_taken live exchange sending, _, rfl, by decide, by decide,
    fun actions u ranOn => ?_⟩
  have ran : (Daemon.init sampleConfig).run (writeFailsThenCancel (sampleCallID 1)) = _ := rfl
  exact Daemon.run_sendingError_kept rfl ((Reachable.init sampleConfig).run ran) ranOn rfl rfl rfl

end P2pd

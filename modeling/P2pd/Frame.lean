import P2pd.Step

/-!
# What a step can touch

The state of the daemon falls into three parts that the goroutines share in
different ways: the protocol registry with its sessions and `AddUnaryHandler`
workers, the outbound calls with `cancelUnary`, and the inbound calls with
`responseWaiters`.  Each lemma here says which actions can change one part, so
that an invariant of a part is proved over those actions only.  Freshness of
goroutine and session numbers is the invariant every spawn relies on.
-/

namespace P2pd

/-- Actions that can change the protocol registry, the sessions or the
`AddUnaryHandler` workers. -/
def Action.touchesRegistry : Action → Bool
  | .startSession | .readLoop _ _ | .cleanup _ | .addUnaryHandlerWorker _ => true
  | _ => false

/-- Actions that can change `cancelUnary`, the `CallUnary` workers, their
exchanges or the `Cancel` workers. -/
def Action.touchesOutbound : Action → Bool
  | .readLoop _ _ | .callUnaryWorker _ | .dial _ _ | .receiveResponse _ | .receiveDone _
  | .exchangeWrite _ _ | .exchangeRead _ _ | .exchangeAbandon _ | .cancelWorker _ => true
  | _ => false

/-- Actions that can change `responseWaiters`, the inbound handlers, their
`awaitReadFail` goroutines or the `UnaryResponse` workers. -/
def Action.touchesInbound : Action → Bool
  | .readLoop _ _ | .unaryResponseWorker _ | .accept _ _ | .streamHandlerRead _ _
  | .notify _ _ | .streamHandler _ | .halfClosed _ | .deliver _ _ | .streamHandlerReply _ _
  | .awaitReadFailRead _ _ | .awaitReadFailGiveUp _ => true
  | _ => false

namespace Daemon

variable {s t : Daemon} {a : Action}

/-- What a turn of the request loop can do: skip a request, spawn the worker
a request asks for, or end the loop on a failed read. -/
theorem readLoop_cases {sid : Nat} {frame : Option Frame}
    (stepped : s.readLoop sid frame = some t) :
    t = s ∨ (∃ callID msg, t = s.spawnWorker sid callID msg) ∨
      ∃ handlers, s.sessions sid = some ⟨.reading, handlers⟩ ∧
        t = { s with
          sessions := Function.update s.sessions sid (some ⟨.exiting, handlers⟩)
          terminateWG := s.terminateWG - 1 } := by
  simp only [readLoop] at stepped
  split at stepped
  · rename_i handlers present
    split at stepped
    · split at stepped <;> cases stepped
      · exact .inr (.inl ⟨_, _, rfl⟩)
      · exact .inl rfl
    · cases stepped
      exact .inr (.inr ⟨handlers, present, rfl⟩)
  · cases stepped

theorem step_registry_frame (stepped : s.step a = some t)
    (untouched : a.touchesRegistry = false) :
    t.registeredUnaryProtocols = s.registeredUnaryProtocols ∧ t.hostHandlers = s.hostHandlers ∧
      t.sessions = s.sessions ∧ t.addWorkers = s.addWorkers := by
  unfold step at stepped
  split at stepped
  · cases stepped
  cases a <;> simp only [Action.touchesRegistry, reduceCtorEq] at untouched <;>
    simp only [callUnaryWorker, dial, receiveResponse, receiveDone, exchangeWrite, exchangeRead,
      exchangeAbandon, unaryResponseWorker, cancelWorker, accept, streamHandlerRead, notify,
      streamHandler, halfClosed, deliver, streamHandlerReply, awaitReadFailRead,
      awaitReadFailGiveUp] at stepped <;>
    (repeat' split at stepped) <;> (try simp only [Option.some.injEq, reduceCtorEq] at stepped) <;>
    (try subst stepped) <;> simp [writeMsg]

theorem step_outbound_frame (stepped : s.step a = some t)
    (untouched : a.touchesOutbound = false) :
    t.cancelUnary = s.cancelUnary ∧ t.callWorkers = s.callWorkers ∧
      t.exchanges = s.exchanges ∧ t.cancelWorkers = s.cancelWorkers := by
  unfold step at stepped
  split at stepped
  · cases stepped
  cases a <;> simp only [Action.touchesOutbound, reduceCtorEq] at untouched <;>
    simp only [startSession, cleanup, addUnaryHandlerWorker, doAddUnaryHandler,
      appendStreamHandler, unaryResponseWorker, accept, streamHandlerRead, notify,
      streamHandler, halfClosed, deliver, streamHandlerReply, awaitReadFailRead,
      awaitReadFailGiveUp] at stepped <;>
    (repeat' split at stepped) <;> (try simp only [Option.some.injEq, reduceCtorEq] at stepped) <;>
    (try subst stepped) <;> simp [writeMsg, foldl_removeUnaryHandler]

theorem step_inbound_frame (stepped : s.step a = some t)
    (untouched : a.touchesInbound = false) :
    t.responseWaiters = s.responseWaiters ∧ t.inboundHandlers = s.inboundHandlers ∧
      t.readFailWatchers = s.readFailWatchers ∧ t.responseWorkers = s.responseWorkers := by
  unfold step at stepped
  split at stepped
  · cases stepped
  cases a <;> simp only [Action.touchesInbound, reduceCtorEq] at untouched <;>
    simp only [startSession, cleanup, addUnaryHandlerWorker, doAddUnaryHandler,
      appendStreamHandler, callUnaryWorker, dial, receiveResponse, receiveDone, exchangeWrite,
      exchangeRead, exchangeAbandon, cancelWorker] at stepped <;>
    (repeat' split at stepped) <;> (try simp only [Option.some.injEq, reduceCtorEq] at stepped) <;>
    (try subst stepped) <;> simp [writeMsg, foldl_removeUnaryHandler]

/-! ## Fresh numbers -/

/-- Session and goroutine numbers from the counters on are unused. -/
structure Fresh (s : Daemon) : Prop where
  sessions : ∀ sid, s.nextSession ≤ sid → s.sessions sid = none
  routines : ∀ g, s.nextRoutine ≤ g → s.addWorkers g = none ∧ s.callWorkers g = none ∧
    s.exchanges g = none ∧ s.responseWorkers g = none ∧ s.cancelWorkers g = none ∧
    s.inboundHandlers g = none ∧ s.readFailWatchers g = none

theorem fresh_init (config : Config) : (Daemon.init config).Fresh :=
  ⟨fun _ _ => rfl, fun _ _ => ⟨rfl, rfl, rfl, rfl, rfl, rfl, rfl⟩⟩

/-- A session that exists has a number below the counter. -/
theorem Fresh.session_lt (fresh : s.Fresh) {sid : Nat} {t : Session}
    (present : s.sessions sid = some t) : sid < s.nextSession := by
  by_contra later
  simp [fresh.sessions sid (by omega)] at present

/-- A goroutine that exists, of any kind, has a number below the counter. -/
theorem Fresh.routine_lt (fresh : s.Fresh) (g : Nat)
    (present : ¬ (s.addWorkers g = none ∧ s.callWorkers g = none ∧ s.exchanges g = none ∧
      s.responseWorkers g = none ∧ s.cancelWorkers g = none ∧ s.inboundHandlers g = none ∧
      s.readFailWatchers g = none)) : g < s.nextRoutine :=
  Nat.lt_of_not_le fun later => present (fresh.routines g later)

/-! ### Writes below the counters -/

/-- Rewriting a session that exists leaves the numbers from the counter on unused. -/
theorem Fresh.sessions_update (fresh : s.Fresh) {sid : Nat} (below : sid < s.nextSession)
    (x : Option Session) :
    ∀ k, s.nextSession ≤ k → Function.update s.sessions sid x k = none :=
  fun k later => (Function.update_noteq (show k ≠ sid by omega) x s.sessions).trans
    (fresh.sessions k later)

/-- Mapping over the entry at any number leaves an unused number unused. -/
theorem update_map_eq_none {α : Type} {f : Nat → Option α} (i : Nat) (m : α → α) {k : Nat}
    (unused : f k = none) : Function.update f i ((f i).map m) k = none := by
  by_cases same : k = i
  · subst same; simp [unused]
  · rw [Function.update_noteq same, unused]

/-- A step that keeps the counters, the sessions, and the records of every
number from the routine counter on keeps those numbers unused.  Rewrites of
the goroutines below the counter are such steps. -/
theorem Fresh.routines_kept {u : Daemon} (fresh : s.Fresh)
    (kept : ∀ k, s.nextRoutine ≤ k → u.nextSession = s.nextSession ∧ u.sessions = s.sessions ∧
      u.nextRoutine = s.nextRoutine ∧ u.addWorkers k = s.addWorkers k ∧
      u.callWorkers k = s.callWorkers k ∧ u.exchanges k = s.exchanges k ∧
      u.responseWorkers k = s.responseWorkers k ∧ u.cancelWorkers k = s.cancelWorkers k ∧
      u.inboundHandlers k = s.inboundHandlers k ∧ u.readFailWatchers k = s.readFailWatchers k) :
    u.Fresh := by
  obtain ⟨nextSession, sessions, nextRoutine, -⟩ := kept s.nextRoutine le_rfl
  refine ⟨fun sid later => ?_, fun k later => ?_⟩
  · rw [sessions]
    exact fresh.sessions sid (nextSession ▸ later)
  · obtain ⟨-, -, -, a, c, e, r, x, h, w⟩ := kept k (nextRoutine ▸ later)
    rw [a, c, e, r, x, h, w]
    exact fresh.routines k (nextRoutine ▸ later)

/-- The append to a session's slice, which may have returned. -/
theorem Fresh.appendStreamHandler (fresh : s.Fresh) (sid : Nat) (proto : String) :
    (s.appendStreamHandler sid proto).Fresh :=
  ⟨fun k later => update_map_eq_none sid _ (fresh.sessions k later), fresh.routines⟩

/-- `cancel()` on a worker, which may have finished. -/
theorem Fresh.cancelCall (fresh : s.Fresh) (worker : Nat) :
    Fresh { s with
      callWorkers := Function.update s.callWorkers worker
        ((s.callWorkers worker).map fun (v : CallUnaryWorker) => { v with cancelled := true }) } :=
  ⟨fresh.sessions, fun k later =>
    have old := fresh.routines k later
    ⟨old.1, update_map_eq_none worker _ old.2.1, old.2.2⟩⟩

/-! ### Spawns at the counters -/

/-- A session starts at its counter, which then moves past it. -/
theorem Fresh.startSession (fresh : s.Fresh) : s.startSession.Fresh :=
  ⟨fun k (later : s.nextSession + 1 ≤ k) => by
    simpa [Daemon.startSession, Function.update_noteq (show k ≠ s.nextSession by omega)]
      using fresh.sessions k (by omega), fresh.routines⟩

/-- A request's worker is spawned at the counter, which then moves past it. -/
theorem Fresh.spawnWorker (fresh : s.Fresh) (sid : Nat) (callID : Uuid)
    (msg : Option RequestMessage) : (s.spawnWorker sid callID msg).Fresh := by
  rcases msg with _ | ⟨proto⟩ | ⟨call⟩ | ⟨response⟩ | _
  · exact fresh
  all_goals exact ⟨fresh.sessions, fun k (later : s.nextRoutine + 1 ≤ k) => by
    simpa [Daemon.spawnWorker, Function.update_noteq (show k ≠ s.nextRoutine by omega)]
      using fresh.routines k (by omega)⟩

/-- A handler starts at the counter, which then moves past it. -/
theorem Fresh.accept {v : StreamHandler} (fresh : s.Fresh) :
    Fresh { s.setHandler s.nextRoutine v with nextRoutine := s.nextRoutine + 1 } :=
  ⟨fresh.sessions, fun k (later : s.nextRoutine + 1 ≤ k) => by
    simpa [Function.update_noteq (show k ≠ s.nextRoutine by omega)]
      using fresh.routines k (by omega)⟩

/-- A step writes only below its counters, and a spawn at the counter it
then moves past. -/
theorem step_fresh (fresh : s.Fresh) (stepped : s.step a = some t) : t.Fresh := by
  unfold step at stepped
  split at stepped
  · cases stepped
  cases a
  case startSession => cases stepped; exact fresh.startSession
  case readLoop sid frame =>
    rcases readLoop_cases stepped with rfl | ⟨callID, msg, rfl⟩ | ⟨handlers, present, rfl⟩
    · exact fresh
    · exact fresh.spawnWorker sid callID msg
    · exact ⟨fresh.sessions_update (fresh.session_lt present) _, fresh.routines⟩
  case cleanup sid =>
    simp only [cleanup] at stepped
    split at stepped <;> cases stepped
    rename_i present
    rw [foldl_removeUnaryHandler]
    exact ⟨fresh.sessions_update (fresh.session_lt present) _, fresh.routines⟩
  case addUnaryHandlerWorker g =>
    simp only [addUnaryHandlerWorker, doAddUnaryHandler] at stepped
    split at stepped
    · rename_i w worker
      have below := fresh.routine_lt g (by simp [worker])
      (repeat' split at stepped) <;> cases stepped
      all_goals first
        | (refine fresh.routines_kept fun k later => ?_
           simp (disch := omega) only [setAddWorker, writeMsg, Function.update_noteq, and_self]; done)
        | refine (fresh.appendStreamHandler w.session w.proto).routines_kept
            fun k (later : s.nextRoutine ≤ k) => ?_
          simp (disch := omega) only [setAddWorker, writeMsg, Function.update_noteq, and_self]
    · cases stepped
  case callUnaryWorker g | receiveDone g =>
    simp only [callUnaryWorker, receiveDone] at stepped
    split at stepped
    · rename_i w worker
      have below := fresh.routine_lt g (by simp [worker])
      split at stepped <;> cases stepped <;>
        exact fresh.routines_kept fun k later => by
          simp (disch := omega) only [setCallWorker, writeMsg, Function.update_noteq,
            and_self]
    · cases stepped
  case dial g outcome =>
    simp only [dial] at stepped
    split at stepped
    · rename_i w worker
      have below := fresh.routine_lt g (by simp [worker])
      (repeat' split at stepped) <;> cases stepped <;>
        exact fresh.routines_kept fun k later => by
          simp (disch := omega) only [setExchange, setCallWorker, Function.update_noteq,
            and_self]
    · cases stepped
  case receiveResponse g =>
    simp only [receiveResponse] at stepped
    split at stepped
    · rename_i w e worker _
      have below := fresh.routine_lt g (by simp [worker])
      (repeat' split at stepped) <;> cases stepped <;>
        exact fresh.routines_kept fun k later => by
          simp (disch := omega) only [setExchange, setCallWorker, Function.update_noteq,
            and_self]
    · cases stepped
  case exchangeWrite g _ | exchangeRead g _ | exchangeAbandon g =>
    simp only [exchangeWrite, exchangeRead, exchangeAbandon] at stepped
    split at stepped
    · rename_i w e worker _
      have below := fresh.routine_lt g (by simp [worker])
      (repeat' split at stepped) <;> cases stepped <;>
        exact fresh.routines_kept fun k later => by
          simp (disch := omega) only [setExchange, Function.update_noteq,
            and_self]
    · cases stepped
  case unaryResponseWorker g =>
    simp only [unaryResponseWorker] at stepped
    split at stepped
    · rename_i w worker
      have below := fresh.routine_lt g (by simp [worker])
      split at stepped <;> cases stepped <;>
        exact fresh.routines_kept fun k later => by
          simp (disch := omega) only [setResponseWorker, writeMsg, Function.update_noteq,
            and_self]
    · cases stepped
  case cancelWorker g =>
    simp only [cancelWorker] at stepped
    split at stepped
    · rename_i w worker
      have below := fresh.routine_lt g (by simp [worker])
      split at stepped <;> cases stepped
      · exact fresh.routines_kept fun k later => by
          simp (disch := omega) only [setCancelWorker, Function.update_noteq,
            and_self]
      · rename_i callee _
        exact (fresh.cancelCall callee).routines_kept fun k (later : s.nextRoutine ≤ k) => by
          simp (disch := omega) only [setCancelWorker, Function.update_noteq,
            and_self]
    · cases stepped
  case accept proto remotePeer =>
    simp only [accept] at stepped
    split at stepped <;> cases stepped
    exact fresh.accept
  case streamHandlerRead h result =>
    simp only [streamHandlerRead] at stepped
    split at stepped
    · rename_i v handler
      have below := fresh.routine_lt h (by simp [handler])
      (repeat' split at stepped) <;> cases stepped <;>
        exact fresh.routines_kept fun k later => by
          simp (disch := omega) only [setHandler, Function.update_noteq,
            and_self]
    · cases stepped
  case notify h failed =>
    simp only [notify] at stepped
    split at stepped
    · rename_i v handler
      have below := fresh.routine_lt h (by simp [handler])
      (repeat' split at stepped) <;> cases stepped <;>
        exact fresh.routines_kept fun k later => by
          simp (disch := omega) only [setWatcher, setHandler, writeMsg, Function.update_noteq,
            and_self]
    · cases stepped
  case streamHandler h | streamHandlerReply h _ =>
    simp only [streamHandler, streamHandlerReply] at stepped
    split at stepped
    · rename_i v handler
      have below := fresh.routine_lt h (by simp [handler])
      split at stepped <;> cases stepped <;>
        exact fresh.routines_kept fun k later => by
          simp (disch := omega) only [setHandler, writeMsg, Function.update_noteq,
            and_self]
    · cases stepped
  case halfClosed h =>
    simp only [halfClosed] at stepped
    split at stepped
    · rename_i v pc handler _
      have below := fresh.routine_lt h (by simp [handler])
      split at stepped <;> cases stepped
      exact fresh.routines_kept fun k later => by
          simp (disch := omega) only [setWatcher, setHandler, Function.update_noteq,
            and_self]
    · cases stepped
  case deliver h g =>
    simp only [deliver] at stepped
    split at stepped
    · rename_i v w handler responder
      have below := fresh.routine_lt h (by simp [handler])
      have below' := fresh.routine_lt g (by simp [responder])
      split at stepped <;> cases stepped
      exact fresh.routines_kept fun k later => by
          simp (disch := omega) only [setHandler, setResponseWorker, Function.update_noteq,
            and_self]
    · cases stepped
  case awaitReadFailRead h _ | awaitReadFailGiveUp h =>
    simp only [awaitReadFailRead, awaitReadFailGiveUp] at stepped
    split at stepped
    · rename_i v handler _
      have below := fresh.routine_lt h (by simp [handler])
      split at stepped <;> cases stepped
      exact fresh.routines_kept fun k later => by
          simp (disch := omega) only [setWatcher, Function.update_noteq,
            and_self]
    · cases stepped

end Daemon

theorem Reachable.fresh {s : Daemon} (reachable : Reachable s) : s.Fresh :=
  Reachable.induction Daemon.fresh_init
    (fun _ _ _ _ fresh stepped => Daemon.step_fresh fresh stepped) reachable

end P2pd

import P2pd.Outbound

/-!
# Inbound calls

A handler built by `getPersistentStreamHandler` reads one request from an
inbound stream, stores a channel in `d.responseWaiters` under the call id the
remote peer chose, and waits in a select for the client's reply on that
channel or for the stream to be half-closed.  An `UnaryResponse` worker loads
the channel for its call id and sends the client's reply on it.  As for the
outbound calls, what a step can do to the map, the handlers and the
`UnaryResponse` workers is said once, in `step_inbound_cases`.  The invariant
follows; so does the fate of a worker that loaded a channel whose handler has
left its select.
-/

namespace P2pd

/-- Whether a handler has stored its channel and not yet run its deferred
`Delete`. -/
def StreamHandlerPc.stored : StreamHandlerPc → Bool
  | .reading | .finished => false
  | _ => true

/-- Whether a handler is past its select, or returned before it: it never
receives from its channel again. -/
def StreamHandlerPc.leftSelect : StreamHandlerPc → Bool
  | .cancelling | .replying _ | .exiting | .finished => true
  | _ => false

namespace Daemon

variable {s t : Daemon} {a : Action}

theorem spawnWorker_responseWorkers (s : Daemon) (sid : Nat) (callID : Uuid)
    (msg : Option RequestMessage) :
    (s.spawnWorker sid callID msg).responseWorkers = s.responseWorkers ∨
      ∃ r : UnaryResponseWorker, r.pc = .start ∧
        (s.spawnWorker sid callID msg).responseWorkers =
          Function.update s.responseWorkers s.nextRoutine (some r) := by
  rcases msg with _ | ⟨_⟩ | _ | ⟨response⟩ | _
  · exact .inl rfl
  · exact .inl rfl
  · exact .inl rfl
  · exact .inr ⟨_, rfl, rfl⟩
  · exact .inl rfl

/-- `doSendReponseToRemote` sends only on the channel stored for its call id. -/
theorem doSendReponseToRemote_sending {r : UnaryResponseWorker} {h : Nat}
    (sending : s.doSendReponseToRemote r.request = .sending h) :
    s.responseWaiters r.callID = some h := by
  simp only [doSendReponseToRemote, UnaryResponseWorker.request, Uuid.fromBytes_bytes] at sending
  split at sending
  · cases sending
  · cases sending; assumption

/-- How a step other than a handler's `Store` or `Delete` can change the
record of handler `h`: not at all, by a spawn at the counter, or by a move that
keeps its session and call id, whether its channel is stored, and whether it
has left its select. -/
def HandlerMoves (s t : Daemon) (h : Nat) : Prop :=
  t.inboundHandlers h = s.inboundHandlers h ∨
    (h = s.nextRoutine ∧
      ∃ v, t.inboundHandlers h = some v ∧ v.pc = .reading ∧ v.callID = none) ∨
    ∃ v v', s.inboundHandlers h = some v ∧ t.inboundHandlers h = some v' ∧
      v'.session = v.session ∧ v'.callID = v.callID ∧ v'.pc.stored = v.pc.stored ∧
      (v'.pc = .reading → v.pc = .reading) ∧
      (v.pc.leftSelect = true → v'.pc.leftSelect = true)

/-- How a step can change the record of `UnaryResponse` worker `g`: not at
all, by a spawn at the counter, or by a move that keeps its call id, where a
send it starts is on the channel stored for its call id, and a send it ends
met a handler in its select. -/
def ResponderMoves (s t : Daemon) (g : Nat) : Prop :=
  t.responseWorkers g = s.responseWorkers g ∨
    (g = s.nextRoutine ∧ ∃ r, t.responseWorkers g = some r ∧ r.pc = .start) ∨
    ∃ r r', s.responseWorkers g = some r ∧ t.responseWorkers g = some r' ∧
      r'.callID = r.callID ∧
      (∀ h, r'.pc = .sending h → r.pc = .start ∧ s.responseWaiters r.callID = some h) ∧
      (∀ h, r.pc = .sending h → ∃ v, s.inboundHandlers h = some v ∧ v.pc = .selecting)

theorem handlerMoves_update {h : Nat} {v v' : StreamHandler}
    (handler : s.inboundHandlers h = some v)
    (after : t.inboundHandlers = Function.update s.inboundHandlers h (some v'))
    (session : v'.session = v.session) (callID : v'.callID = v.callID)
    (stored : v'.pc.stored = v.pc.stored) (unread : v'.pc = .reading → v.pc = .reading)
    (settled : v.pc.leftSelect = true → v'.pc.leftSelect = true) (h' : Nat) :
    HandlerMoves s t h' := by
  by_cases same : h' = h
  · subst same
    exact .inr (.inr ⟨v, v', handler, by simp [after], session, callID, stored, unread,
      settled⟩)
  · exact .inl (by simp [after, same])

theorem responderMoves_update {g : Nat} {r r' : UnaryResponseWorker}
    (responder : s.responseWorkers g = some r)
    (after : t.responseWorkers = Function.update s.responseWorkers g (some r'))
    (callID : r'.callID = r.callID)
    (loads : ∀ h, r'.pc = .sending h → r.pc = .start ∧ s.responseWaiters r.callID = some h)
    (meets : ∀ h, r.pc = .sending h → ∃ v, s.inboundHandlers h = some v ∧ v.pc = .selecting)
    (g' : Nat) : ResponderMoves s t g' := by
  by_cases same : g' = g
  · subst same
    exact .inr (.inr ⟨r, r', responder, by simp [after], callID, loads, meets⟩)
  · exact .inl (by simp [after, same])

/-- Everything one step can do to `responseWaiters`, the handlers and the
`UnaryResponse` workers: move them without touching the map, or run one
handler's `Store`, or run one handler's deferred `Delete`. -/
theorem step_inbound_cases (stepped : s.step a = some t) :
    (t.responseWaiters = s.responseWaiters ∧ (∀ h, HandlerMoves s t h) ∧
        ∀ g, ResponderMoves s t g) ∨
      (∃ h v c resp, (∃ r, a = .streamHandlerRead h r) ∧ s.inboundHandlers h = some v ∧
        v.pc = .reading ∧ t.responseWaiters = Function.update s.responseWaiters c (some h) ∧
        t.inboundHandlers = Function.update s.inboundHandlers h
          (some { v with callID := some c, pc := .notifying resp }) ∧
        t.responseWorkers = s.responseWorkers) ∨
      ∃ h v c, a = .streamHandler h ∧ s.inboundHandlers h = some v ∧ v.pc = .exiting ∧
        v.callID = some c ∧
        t.responseWaiters = Function.update s.responseWaiters c none ∧
        t.inboundHandlers = Function.update s.inboundHandlers h
          (some { v with cancelled := true, closed := true, pc := .finished }) ∧
        t.responseWorkers = s.responseWorkers := by
  cases touches : a.touchesInbound
  · obtain ⟨waiters, handlers, -, responders⟩ := step_inbound_frame stepped touches
    exact .inl ⟨waiters, fun h => .inl (by rw [handlers]), fun g => .inl (by rw [responders])⟩
  unfold step at stepped
  split at stepped
  · cases stepped
  cases a <;> simp only [Action.touchesInbound, reduceCtorEq] at touches
  case readLoop sid frame =>
    rcases readLoop_cases stepped with rfl | ⟨callID, msg, rfl⟩ | ⟨handlers, -, rfl⟩
    · exact .inl ⟨rfl, fun h => .inl rfl, fun g => .inl rfl⟩
    · refine .inl ⟨by simp, fun h => .inl (by simp), fun g => ?_⟩
      rcases spawnWorker_responseWorkers s sid callID msg with same | ⟨r, started, spawned⟩
      · exact .inl (by rw [same])
      · by_cases fresh : g = s.nextRoutine
        · exact .inr (.inl ⟨fresh, r, by simp [spawned, fresh], started⟩)
        · exact .inl (by simp [spawned, fresh])
    · exact .inl ⟨rfl, fun h => .inl rfl, fun g => .inl rfl⟩
  case unaryResponseWorker g =>
    simp only [unaryResponseWorker] at stepped
    split at stepped
    · rename_i r responder
      split at stepped <;> cases stepped <;> rename_i atPc
      · exact .inl ⟨rfl, fun h => .inl rfl, responderMoves_update responder rfl rfl
          (fun h sending => ⟨atPc, doSendReponseToRemote_sending sending⟩)
          (fun h sending => by simp [atPc] at sending)⟩
      · exact .inl ⟨rfl, fun h => .inl rfl, responderMoves_update responder rfl rfl
          (fun h sending => by simp at sending) (fun h sending => by simp [atPc] at sending)⟩
    · cases stepped
  case accept proto remotePeer =>
    simp only [accept] at stepped
    split at stepped <;> cases stepped
    refine .inl ⟨rfl, fun h => ?_, fun g => .inl rfl⟩
    by_cases fresh : h = s.nextRoutine
    · subst fresh
      exact .inr (.inl ⟨rfl, _, Function.update_same _ _ _, rfl, rfl⟩)
    · exact .inl (by simp [fresh])
  case streamHandlerRead h result =>
    simp only [streamHandlerRead] at stepped
    split at stepped
    · rename_i v handler
      split at stepped
      · rename_i reading
        (repeat' split at stepped) <;> cases stepped
        · exact .inl ⟨rfl, handlerMoves_update handler rfl rfl rfl
            (by simp [reading, StreamHandlerPc.stored]) (by simp)
            (by simp [reading, StreamHandlerPc.leftSelect]), fun g => .inl rfl⟩
        · exact .inl ⟨rfl, fun h => .inl rfl, fun g => .inl rfl⟩
        · exact .inl ⟨rfl, handlerMoves_update handler rfl rfl rfl
            (by simp [reading, StreamHandlerPc.stored]) (by simp)
            (by simp [reading, StreamHandlerPc.leftSelect]), fun g => .inl rfl⟩
        · exact .inr (.inl ⟨h, v, _, _, ⟨_, rfl⟩, handler, reading, rfl, rfl, rfl⟩)
      · cases stepped
    · cases stepped
  case notify h _ | streamHandlerReply h _ =>
    simp only [notify, streamHandlerReply] at stepped
    split at stepped
    · rename_i v handler
      split at stepped
      · rename_i atPc
        (repeat' split at stepped) <;> cases stepped <;>
          exact .inl ⟨rfl, handlerMoves_update handler rfl rfl rfl
            (by simp [atPc, StreamHandlerPc.stored]) (by simp)
            (by simp [atPc, StreamHandlerPc.leftSelect]), fun g => .inl rfl⟩
      · cases stepped
    · cases stepped
  case streamHandler h =>
    simp only [streamHandler] at stepped
    split at stepped
    · rename_i v handler
      split at stepped <;> cases stepped
      · rename_i callID cancelling _
        exact .inl ⟨rfl, handlerMoves_update handler rfl rfl rfl
          (by simp [cancelling, StreamHandlerPc.stored]) (by simp)
          (by simp [StreamHandlerPc.leftSelect]), fun g => .inl rfl⟩
      · rename_i callID exiting named
        exact .inr (.inr ⟨h, v, callID, rfl, handler, exiting, named, rfl, rfl, rfl⟩)
    · cases stepped
  case halfClosed h =>
    simp only [halfClosed] at stepped
    split at stepped
    · rename_i v pc handler _
      split at stepped <;> cases stepped
      rename_i guard
      exact .inl ⟨rfl, handlerMoves_update handler rfl rfl rfl
        (by simp [guard.1, StreamHandlerPc.stored]) (by simp)
        (by simp [StreamHandlerPc.leftSelect]), fun g => .inl rfl⟩
    · cases stepped
  case deliver h g =>
    simp only [deliver] at stepped
    split at stepped
    · rename_i v r handler responder
      split at stepped <;> cases stepped
      rename_i guard
      refine .inl ⟨rfl, handlerMoves_update handler rfl rfl rfl
        (by simp [guard.1, StreamHandlerPc.stored]) (by simp)
        (by simp [StreamHandlerPc.leftSelect]),
        responderMoves_update responder rfl rfl (fun h' sending => by simp at sending)
          (fun h' sending => ?_)⟩
      rw [guard.2] at sending
      cases sending
      exact ⟨v, handler, guard.1⟩
    · cases stepped
  all_goals
    simp only [awaitReadFailRead, awaitReadFailGiveUp] at stepped
    (repeat' split at stepped) <;> cases stepped <;>
      exact .inl ⟨rfl, fun h => .inl rfl, fun g => .inl rfl⟩

/-- A handler record that moves keeps what it had. -/
theorem HandlerMoves.kept {h : Nat} {v : StreamHandler} (moves : HandlerMoves s t h)
    (fresh : s.Fresh) (handler : s.inboundHandlers h = some v) :
    ∃ v', t.inboundHandlers h = some v' ∧ v'.callID = v.callID ∧
      v'.pc.stored = v.pc.stored ∧ (v.pc.leftSelect = true → v'.pc.leftSelect = true) := by
  rcases moves with
    same | ⟨rfl, -⟩ | ⟨u, u', handler', after, -, callID, stored, -, settled⟩
  · exact ⟨v, same.trans handler, rfl, rfl, id⟩
  · simp [(fresh.routines _ le_rfl).2.2.2.2.2.1] at handler
  · cases handler.symm.trans handler'
    exact ⟨u', after, callID, stored, settled⟩

/-- A handler that holds its channel after a move held it before, under the
same call id. -/
theorem HandlerMoves.stored_before {h : Nat} {v' : StreamHandler}
    (moves : HandlerMoves s t h) (handler : t.inboundHandlers h = some v')
    (stored : v'.pc.stored = true) :
    ∃ v, s.inboundHandlers h = some v ∧ v.callID = v'.callID ∧ v.pc.stored = true := by
  rcases moves with same | ⟨-, u, spawned, started, -⟩ |
      ⟨u, u', handler', after, -, callID, moved, -⟩
  · exact ⟨v', same.symm.trans handler, rfl, stored⟩
  · cases spawned.symm.trans handler
    simp [started, StreamHandlerPc.stored] at stored
  · cases after.symm.trans handler
    exact ⟨u, handler', callID.symm, moved.symm.trans stored⟩

/-- A handler that has not read its request after a move had not before. -/
theorem HandlerMoves.reading_before {h : Nat} {v' : StreamHandler}
    (moves : HandlerMoves s t h) (handler : t.inboundHandlers h = some v')
    (reading : v'.pc = .reading) :
    v'.callID = none ∨ ∃ v, s.inboundHandlers h = some v ∧ v.callID = v'.callID ∧
      v.pc = .reading := by
  rcases moves with same | ⟨-, u, spawned, -, unnamed⟩ |
      ⟨u, u', handler', after, -, callID, -, unread, -⟩
  · exact .inr ⟨v', same.symm.trans handler, rfl, reading⟩
  · cases spawned.symm.trans handler
    exact .inl unnamed
  · cases after.symm.trans handler
    exact .inr ⟨u, handler', callID.symm, unread reading⟩

/-! ## The waiter registry -/

/-- What `responseWaiters` holds, and where the `UnaryResponse` workers send:
only the channels of handlers that stored them under the call id they read and
have not deleted them; and a worker sends only to a handler that read the
worker's call id. -/
structure WaiterInvariant (s : Daemon) : Prop where
  /-- Every entry is the channel of a handler that holds it, stored under the
  call id the handler read. -/
  entry_stored : ∀ c h, s.responseWaiters c = some h →
    ∃ v, s.inboundHandlers h = some v ∧ v.callID = some c ∧ v.pc.stored = true
  /-- A handler that has not read its request has no call id. -/
  reading_unnamed : ∀ h v, s.inboundHandlers h = some v → v.pc = .reading → v.callID = none
  /-- A worker sends its reply only to a handler that read the worker's call id. -/
  sending_named : ∀ g r h, s.responseWorkers g = some r → r.pc = .sending h →
    ∃ v, s.inboundHandlers h = some v ∧ v.callID = some r.callID

theorem waiterInvariant_init (config : Config) : (Daemon.init config).WaiterInvariant where
  entry_stored _ _ present := by simp [Daemon.init] at present
  reading_unnamed _ _ present := by simp [Daemon.init] at present
  sending_named _ _ _ present := by simp [Daemon.init] at present

namespace WaiterInvariant

/-- Moving handlers and workers keeps the invariant. -/
theorem moves (inv : s.WaiterInvariant) (fresh : s.Fresh)
    (waiters : t.responseWaiters = s.responseWaiters) (handlers : ∀ h, HandlerMoves s t h)
    (responders : ∀ g, ResponderMoves s t g) : t.WaiterInvariant where
  entry_stored c h entry := by
    obtain ⟨v, handler, named, stored⟩ := inv.entry_stored c h (waiters ▸ entry)
    obtain ⟨v', handler', callID, stored', -⟩ := (handlers h).kept fresh handler
    exact ⟨v', handler', callID.trans named, stored'.trans stored⟩
  reading_unnamed h v' handler' reading := by
    rcases (handlers h).reading_before handler' reading with
      unnamed | ⟨v, handler, callID, reading⟩
    · exact unnamed
    · exact callID ▸ inv.reading_unnamed h v handler reading
  sending_named g r' h responder' sending' := by
    rcases responders g with same | ⟨-, r, spawned, started⟩ |
        ⟨r, u, responder, after, callID, loads, -⟩
    · obtain ⟨v, handler, named⟩ := inv.sending_named g r' h (same ▸ responder') sending'
      obtain ⟨v', handler', callID, -⟩ := (handlers h).kept fresh handler
      exact ⟨v', handler', callID.trans named⟩
    · cases spawned.symm.trans responder'
      simp [started] at sending'
    · cases after.symm.trans responder'
      obtain ⟨v, handler, named, -⟩ := inv.entry_stored _ h (loads h sending').2
      obtain ⟨v', handler', callID', -⟩ := (handlers h).kept fresh handler
      exact ⟨v', handler', by rw [callID', named, callID]⟩

/-- The invariant reads only `responseWaiters`, the handlers and the
`UnaryResponse` workers. -/
theorem congr (inv : s.WaiterInvariant) (waiters : t.responseWaiters = s.responseWaiters)
    (handlers : t.inboundHandlers = s.inboundHandlers)
    (responders : t.responseWorkers = s.responseWorkers) : t.WaiterInvariant where
  entry_stored := waiters ▸ handlers ▸ inv.entry_stored
  reading_unnamed := handlers ▸ inv.reading_unnamed
  sending_named := handlers ▸ responders ▸ inv.sending_named

/-- A handler's `Store` keeps the invariant. -/
theorem store (inv : s.WaiterInvariant) {h : Nat} {v : StreamHandler} {c : Uuid}
    {resp : Response} (handler : s.inboundHandlers h = some v) (reading : v.pc = .reading) :
    ({ s with responseWaiters := Function.update s.responseWaiters c (some h) }.setHandler h
      { v with callID := some c, pc := .notifying resp }).WaiterInvariant where
  entry_stored c' h' entry := by
    simp only [setHandler, Function.update_apply] at entry ⊢
    split_ifs at entry with same
    · cases entry
      exact ⟨{ v with callID := some c, pc := .notifying resp }, by simp, by rw [same], rfl⟩
    · obtain ⟨v', handler', named, stored⟩ := inv.entry_stored c' h' entry
      have other : h' ≠ h := by
        rintro rfl
        cases handler.symm.trans handler'
        simp [reading, StreamHandlerPc.stored] at stored
      exact ⟨v', by simp [other, handler'], named, stored⟩
  reading_unnamed h' v' handler' reading' := by
    simp only [setHandler, Function.update_apply] at handler'
    split_ifs at handler' with same
    · cases handler'
      simp at reading'
    · exact inv.reading_unnamed h' v' handler' reading'
  sending_named g r h' responder sending := by
    obtain ⟨v', handler', named⟩ := inv.sending_named g r h' responder sending
    have other : h' ≠ h := by
      rintro rfl
      cases handler.symm.trans handler'
      simp [inv.reading_unnamed _ _ handler reading] at named
    exact ⟨v', by simp [other, handler'], named⟩

/-- A handler's deferred `Delete` keeps the invariant. -/
theorem delete (inv : s.WaiterInvariant) {h : Nat} {v : StreamHandler} {c : Uuid}
    (handler : s.inboundHandlers h = some v) (named : v.callID = some c) :
    ({ s with responseWaiters := Function.update s.responseWaiters c none }.setHandler h
      { v with cancelled := true, closed := true, pc := .finished }).WaiterInvariant where
  entry_stored c' h' entry := by
    simp only [setHandler, Function.update_apply] at entry ⊢
    split_ifs at entry with same
    obtain ⟨v', handler', named', stored⟩ := inv.entry_stored c' h' entry
    have other : h' ≠ h := by
      rintro rfl
      cases handler.symm.trans handler'
      exact same (Option.some.inj (named'.symm.trans named))
    exact ⟨v', by simp [other, handler'], named', stored⟩
  reading_unnamed h' v' handler' reading' := by
    simp only [setHandler, Function.update_apply] at handler'
    split_ifs at handler' with same
    · cases handler'
      simp at reading'
    · exact inv.reading_unnamed h' v' handler' reading'
  sending_named g r h' responder sending := by
    obtain ⟨v', handler', named'⟩ := inv.sending_named g r h' responder sending
    by_cases same : h' = h
    · subst same
      cases handler.symm.trans handler'
      exact ⟨{ v with cancelled := true, closed := true, pc := .finished }, by simp, named'⟩
    · exact ⟨v', by simp [same, handler'], named'⟩

end WaiterInvariant

theorem step_waiterInvariant (inv : s.WaiterInvariant) (fresh : s.Fresh)
    (stepped : s.step a = some t) : t.WaiterInvariant := by
  rcases step_inbound_cases stepped with ⟨waiters, handlers, responders⟩ |
      ⟨h, v, c, resp, -, handler, reading, waiters, handlers, responders⟩ |
      ⟨h, v, c, -, handler, -, named, waiters, handlers, responders⟩
  · exact inv.moves fresh waiters handlers responders
  · exact (inv.store handler reading).congr waiters handlers responders
  · exact (inv.delete handler named).congr waiters handlers responders

end Daemon

theorem Reachable.waiterInvariant {s : Daemon} (reachable : Reachable s) :
    s.WaiterInvariant := by
  induction reachable with
  | init config => exact Daemon.waiterInvariant_init config
  | step a reachable stepped ih => exact Daemon.step_waiterInvariant ih reachable.fresh stepped


/-! ## A handler's own entry -/

namespace Daemon

variable {s t : Daemon} {a : Action}

/-- In the step from `s` to `t`, an inbound handler other than `h`, with the
call id under which `h` holds its channel, runs its `Store` or its deferred
`Delete`: it enters or leaves the stretch between the two. -/
def WaiterEntryContested (s t : Daemon) (h : Nat) : Prop :=
  ∃ v h' v₀ v', s.inboundHandlers h = some v ∧ v.pc.stored = true ∧ h' ≠ h ∧
    s.inboundHandlers h' = some v₀ ∧ t.inboundHandlers h' = some v' ∧ v'.callID = v.callID ∧
    v'.pc.stored ≠ v₀.pc.stored

/-- Handler `h`, while it holds its channel, is the entry for its call id. -/
def OwnsWaiterEntry (s : Daemon) (h : Nat) : Prop :=
  ∀ v c, s.inboundHandlers h = some v → v.pc.stored = true → v.callID = some c →
    s.responseWaiters c = some h

/-- A handler that does not hold its channel owns its entry vacuously. -/
theorem ownsWaiterEntry_of_unstored {h : Nat} (unstored : ∀ v, s.inboundHandlers h = some v →
    v.pc.stored = false) : s.OwnsWaiterEntry h :=
  fun v _ handler stored => by simp [unstored v handler] at stored

/-- A step keeps handler `h`'s entry unless another handler with its call id
runs its `Store` or `Delete` in it. -/
theorem step_ownsWaiterEntry {h : Nat} (owns : s.OwnsWaiterEntry h)
    (stepped : s.step a = some t) (uncontested : ¬ s.WaiterEntryContested t h) :
    t.OwnsWaiterEntry h := by
  intro v' c handler' stored' named'
  rcases step_inbound_cases stepped with ⟨waiters, handlers, -⟩ |
      ⟨h₀, v, c₀, resp, -, present, atPc, waiters, handlers, -⟩ |
      ⟨h₀, v, c₀, -, present, atPc, named, waiters, handlers, -⟩
  · obtain ⟨v, handler, callID, stored⟩ := (handlers h).stored_before handler' stored'
    rw [waiters]
    exact owns v c handler stored (callID.trans named')
  · by_cases same : h = h₀
    · subst same
      simp only [handlers, Function.update_same, Option.some.injEq] at handler'
      subst handler'
      cases named'
      simp [waiters]
    · have handler : s.inboundHandlers h = some v' := by simpa [handlers, same] using handler'
      rw [waiters, Function.update_noteq]
      · exact owns v' c handler stored' named'
      · rintro rfl
        exact uncontested ⟨v', h₀, v, _, handler, stored', Ne.symm same, present,
          by rw [handlers, Function.update_same], by exact named'.symm,
          by simp [atPc, StreamHandlerPc.stored]⟩
  · by_cases same : h = h₀
    · subst same
      simp only [handlers, Function.update_same, Option.some.injEq] at handler'
      subst handler'
      simp [StreamHandlerPc.stored] at stored'
    · have handler : s.inboundHandlers h = some v' := by simpa [handlers, same] using handler'
      rw [waiters, Function.update_noteq]
      · exact owns v' c handler stored' named'
      · rintro rfl
        exact uncontested ⟨v', h₀, v, _, handler, stored', Ne.symm same, present,
          by rw [handlers, Function.update_same], by exact named.trans named'.symm,
          by simp [atPc, StreamHandlerPc.stored]⟩

/-- Along a run in which no other handler with `h`'s call id runs its `Store`
or `Delete` while `h` holds its channel, `h` keeps owning its entry. -/
theorem run_ownsWaiterEntry {h : Nat} : ∀ {actions : List Action} {s t : Daemon},
    s.OwnsWaiterEntry h → s.run actions = some t →
    (∀ pre a post u u', actions = pre ++ a :: post → s.run pre = some u →
      u.step a = some u' → ¬ u.WaiterEntryContested u' h) →
    t.OwnsWaiterEntry h
  | [], s, t, owns, ran, _ => by cases ran; exact owns
  | a :: rest, s, t, owns, ran, uncontested => by
      obtain ⟨u, stepped, ran⟩ := run_cons_eq_some ran
      refine run_ownsWaiterEntry
        (step_ownsWaiterEntry owns stepped (uncontested [] a rest s u rfl rfl stepped)) ran
        fun pre b post x y split ranPre stepped' => ?_
      exact uncontested (a :: pre) b post x y (by rw [split]; rfl) (by simp [stepped, ranPre])
        stepped'

/-- Only a handler's own steps run its `Store` or `Delete`. -/
theorem WaiterEntryContested.action {h : Nat} (fresh : s.Fresh) (stepped : s.step a = some t)
    (contested : s.WaiterEntryContested t h) :
    ∃ h', h' ≠ h ∧ ((∃ r, a = .streamHandlerRead h' r) ∨ a = .streamHandler h') := by
  obtain ⟨-, h', v₀, v', -, -, other, before, after, -, flipped⟩ := contested
  rcases step_inbound_cases stepped with ⟨-, handlers, -⟩ |
      ⟨h₀, v, _, _, ⟨r, rfl⟩, -, -, -, handlers, -⟩ | ⟨h₀, v, _, rfl, -, -, -, -, handlers, -⟩
  · obtain ⟨v'', kept, -, stored, -⟩ := (handlers h').kept fresh before
    cases kept.symm.trans after
    exact absurd stored flipped
  all_goals
    by_cases same : h' = h₀
    · subst same
      first
        | exact ⟨h', other, .inl ⟨r, rfl⟩⟩
        | exact ⟨h', other, .inr rfl⟩
    · simp only [handlers, Function.update_noteq same, before, Option.some.injEq] at after
      exact absurd (by rw [after]) flipped

end Daemon

/-! ## A reply whose handler has left its select -/

namespace Daemon

variable {s t : Daemon} {a : Action}

/-- A worker blocked in its send to a handler that has left its select stays
blocked across any step, and the handler stays out of its select. -/
theorem step_blocked {g h : Nat} {r : UnaryResponseWorker} {v : StreamHandler}
    (fresh : s.Fresh) (stepped : s.step a = some t) (responder : s.responseWorkers g = some r)
    (sending : r.pc = .sending h) (handler : s.inboundHandlers h = some v)
    (left : v.pc.leftSelect = true) :
    t.responseWorkers g = some r ∧
      ∃ v', t.inboundHandlers h = some v' ∧ v'.pc.leftSelect = true := by
  rcases step_inbound_cases stepped with ⟨-, handlers, responders⟩ |
      ⟨h₀, v₀, c, resp, -, handler₀, reading, -, handlers, responders⟩ |
      ⟨h₀, v₀, c, -, handler₀, -, -, -, handlers, responders⟩
  · refine ⟨?_, ?_⟩
    · rcases responders g with same | ⟨rfl, -⟩ | ⟨r₀, r', responder₀, -, -, -, meets⟩
      · exact same.trans responder
      · simp [(fresh.routines _ le_rfl).2.2.2.1] at responder
      · cases responder.symm.trans responder₀
        obtain ⟨v₁, handler₁, selecting⟩ := meets h sending
        cases handler.symm.trans handler₁
        simp [selecting, StreamHandlerPc.leftSelect] at left
    · obtain ⟨v', handler', -, -, settled⟩ := (handlers h).kept fresh handler
      exact ⟨v', handler', settled left⟩
  all_goals
    refine ⟨responders ▸ responder, ?_⟩
    by_cases same : h = h₀
    · subst same
      cases handler.symm.trans handler₀
      first
        | simp [reading, StreamHandlerPc.leftSelect] at left
        | exact ⟨{ v with cancelled := true, closed := true, pc := .finished },
            by simp [handlers], rfl⟩
    · exact ⟨v, by simp [handlers, same, handler], left⟩

/-- A worker blocked in its send to a handler that has left its select stays
blocked along every run. -/
theorem run_blocked {g h : Nat} : ∀ {actions : List Action} {s t : Daemon},
    Reachable s → s.run actions = some t →
    (s.responseWorkers g).map UnaryResponseWorker.pc = some (.sending h) →
    (s.inboundHandlers h).map (fun v => v.pc.leftSelect) = some true →
    t.responseWorkers g = s.responseWorkers g
  | [], s, t, _, ran, _, _ => by cases ran; rfl
  | a :: rest, s, t, reachable, ran, responder, handler => by
      obtain ⟨u, stepped, ran⟩ := run_cons_eq_some ran
      obtain ⟨r, responder, sending⟩ := Option.map_eq_some'.mp responder
      obtain ⟨v, handler, left⟩ := Option.map_eq_some'.mp handler
      obtain ⟨kept, v', handler', left'⟩ :=
        step_blocked reachable.fresh stepped responder sending handler left
      rw [@run_blocked g h rest u t (reachable.step a stepped) ran (by simp [kept, sending])
        (by simp [handler', left']), kept, responder]

end Daemon

/-- `UnaryResponse{response}` with call id `callID`. -/
def unaryResponseRequest (callID : Uuid) (response : CallUnaryResponse) : Request :=
  ⟨callID.bytes, some (.unaryResponse response)⟩

/-- Session `0` registers `/p/a`; a peer calls it with call id `callID`, and the
handler notifies the client and waits.  The client answers, and its
`UnaryResponse` worker loads the handler's channel; the peer then half-closes
its stream, and the handler takes that branch of its select, writes `Cancel`
and returns. -/
def replyAfterHalfClose (callID : Uuid) : List Action :=
  [.startSession, .readLoop 0 (some (.message (addUnaryHandlerRequest callID "/p/a"))),
    .addUnaryHandlerWorker 0, .addUnaryHandlerWorker 0, .addUnaryHandlerWorker 0,
    .accept "/p/a" [9], .streamHandlerRead 1 (.ok (.message (callUnaryRequest callID sampleCall))),
    .notify 1 false,
    .readLoop 0 (some (.message (unaryResponseRequest callID (.response [2])))),
    .unaryResponseWorker 2, .awaitReadFailRead 1 true, .halfClosed 1,
    .streamHandler 1, .streamHandler 1]

/-- The client's `UnaryResponse` worker is blocked in its send to a handler
that has returned, and stays blocked whatever the daemon does next: it never
answers the client. -/
theorem reply_blocked_forever :
    ∃ t, (Daemon.init sampleConfig).run (replyAfterHalfClose (sampleCallID 1)) = some t ∧
      (t.responseWorkers 2).map UnaryResponseWorker.pc = some (.sending 1) ∧
      (t.inboundHandlers 1).map StreamHandler.pc = some .finished ∧
      ∀ actions u, t.run actions = some u → u.responseWorkers 2 = t.responseWorkers 2 := by
  refine ⟨_, rfl, by decide, by decide, fun _ _ ranOn => ?_⟩
  have ran : (Daemon.init sampleConfig).run (replyAfterHalfClose (sampleCallID 1)) = _ := rfl
  exact @Daemon.run_blocked 2 1 _ _ _ ((Reachable.init sampleConfig).run ran) ranOn
    (by decide) (by decide)

/-! ## Replies reach the handler of their call id -/

/-- Two peers call `/p/a` with one call id; both handlers notify the client
and wait. -/
def duplicateCallID (callID : Uuid) : List Action :=
  [.startSession, .readLoop 0 (some (.message (addUnaryHandlerRequest callID "/p/a"))),
    .addUnaryHandlerWorker 0, .addUnaryHandlerWorker 0, .addUnaryHandlerWorker 0,
    .accept "/p/a" [8], .accept "/p/a" [9],
    .streamHandlerRead 1 (.ok (.message (callUnaryRequest callID sampleCall))),
    .streamHandlerRead 2 (.ok (.message (callUnaryRequest callID sampleCall))),
    .notify 1 false, .notify 2 false]

/-- Handler `1` waits in its select for its call id, but the entry for it is
the second handler's channel. -/
theorem duplicate_call_id_overwrites_waiter :
    ∃ t, (Daemon.init sampleConfig).run (duplicateCallID (sampleCallID 1)) = some t ∧
      (t.inboundHandlers 1).map (fun v => (v.pc, v.callID)) =
        some (.selecting, some (sampleCallID 1)) ∧
      t.responseWaiters (sampleCallID 1) = some 2 :=
  ⟨_, rfl, by decide, by decide⟩

/-- `responseWaiters` is keyed by the call id the remote peer chose.  Every
entry is the channel of a handler holding it under that call id.  A handler is
the entry for its call id whenever it holds its channel, along any run that
starts before its `Store` and in which no other handler with its call id runs
its `Store` or its `Delete` while it holds it.  And a client's reply is sent
only to a handler that read the reply's call id. -/
theorem reply_reaches_handler :
    (∀ s, Reachable s → ∀ c h, s.responseWaiters c = some h →
      ∃ v, s.inboundHandlers h = some v ∧ v.callID = some c ∧ v.pc.stored = true) ∧
    (∀ (s : Daemon) actions t h, s.run actions = some t →
      (∀ v, s.inboundHandlers h = some v → v.pc.stored = false) →
      (∀ pre a post u u', actions = pre ++ a :: post → s.run pre = some u →
        u.step a = some u' → ¬ u.WaiterEntryContested u' h) →
      ∀ v c, t.inboundHandlers h = some v → v.pc.stored = true → v.callID = some c →
        t.responseWaiters c = some h) ∧
    (∀ s, Reachable s → ∀ g r h, s.responseWorkers g = some r → r.pc = .sending h →
      ∃ v, s.inboundHandlers h = some v ∧ v.callID = some r.callID) :=
  ⟨fun _ reachable => reachable.waiterInvariant.entry_stored,
    fun _ _ _ _ ran unstored uncontested =>
      Daemon.run_ownsWaiterEntry (Daemon.ownsWaiterEntry_of_unstored unstored) ran uncontested,
    fun _ reachable => reachable.waiterInvariant.sending_named⟩

/-- Where `replyAfterHalfClose` stands once the handler waits in its select,
before the client answers. -/
def handlerWaiting : Daemon :=
  ((Daemon.init sampleConfig).run ((replyAfterHalfClose (sampleCallID 1)).take 8)).getD
    (Daemon.init sampleConfig)

theorem handlerWaiting_reachable : Reachable handlerWaiting :=
  (Reachable.init sampleConfig).run
    (show (Daemon.init sampleConfig).run ((replyAfterHalfClose (sampleCallID 1)).take 8) =
      some handlerWaiting from rfl)

/-- Goroutine `0` of `handlerWaiting` is the `AddUnaryHandler` worker and `1`
the handler; there are no others. -/
theorem handlerWaiting_routine {g : Nat} (counted : g < handlerWaiting.nextRoutine) :
    g = 0 ∨ g = 1 := by
  have : handlerWaiting.nextRoutine = 2 := by decide
  omega

/-- In `handlerWaiting` the handler's channel is the entry for its call id. -/
theorem reply_reaches_waiting_handler :
    ∃ v, handlerWaiting.inboundHandlers 1 = some v ∧ v.pc = .selecting ∧
      handlerWaiting.responseWaiters (sampleCallID 1) = some 1 := by
  have handler : handlerWaiting.inboundHandlers 1 =
      some ⟨0, [9], some (sampleCallID 1), false, [], false, .selecting⟩ := by decide
  obtain ⟨-, owns, -⟩ := reply_reaches_handler
  refine ⟨_, handler, rfl, owns _ _ _ 1
    (show (Daemon.init sampleConfig).run ((replyAfterHalfClose (sampleCallID 1)).take 8) =
      some handlerWaiting from rfl)
    (fun _ handler => by simp [Daemon.init] at handler) ?_ _ _ handler rfl rfl⟩
  intro pre a post u u' split ran stepped contested
  have listed : a ∈ (replyAfterHalfClose (sampleCallID 1)).take 8 := by rw [split]; simp
  obtain ⟨h', other, ⟨r, rfl⟩ | rfl⟩ :=
    contested.action ((Reachable.init sampleConfig).run ran).fresh stepped
  all_goals simp [replyAfterHalfClose] at listed
  exact other listed.1

/-! ## No stale entries -/

/-- Every entry of `cancelUnary` and of `responseWaiters` belongs to a worker
or handler that stored it under its own call id and has not run its deferred
`Delete`; so with no such worker or handler, both maps are empty. -/
theorem call_registries_hold_no_stale_entries :
    ∀ s, Reachable s →
      (∀ c g, s.cancelUnary c = some g →
        ∃ w, s.callWorkers g = some w ∧ w.callID = c ∧ w.pc.stored = true) ∧
      (∀ c h, s.responseWaiters c = some h →
        ∃ v, s.inboundHandlers h = some v ∧ v.callID = some c ∧ v.pc.stored = true) ∧
      ((∀ g w, s.callWorkers g = some w → w.pc.stored = false) → ∀ c, s.cancelUnary c = none) ∧
      ((∀ h v, s.inboundHandlers h = some v → v.pc.stored = false) →
        ∀ c, s.responseWaiters c = none) := by
  intro s reachable
  have cancels := reachable.cancelInvariant.entry_stored
  have waiters := reachable.waiterInvariant.entry_stored
  refine ⟨cancels, waiters, fun idle c => ?_, fun idle c => ?_⟩
  · cases entry : s.cancelUnary c with
    | none => rfl
    | some g =>
        obtain ⟨w, worker, -, stored⟩ := cancels c g entry
        simp [idle g w worker] at stored
  · cases entry : s.responseWaiters c with
    | none => rfl
    | some h =>
        obtain ⟨v, handler, -, stored⟩ := waiters c h entry
        simp [idle h v handler] at stored

/-- In `handlerWaiting`, with no call in flight, `cancelUnary` is empty, and the
entry of `responseWaiters` is the waiting handler's. -/
theorem registries_of_handlerWaiting :
    (∀ c, handlerWaiting.cancelUnary c = none) ∧
      ∃ v, handlerWaiting.inboundHandlers 1 = some v ∧ v.callID = some (sampleCallID 1) ∧
        v.pc.stored = true := by
  obtain ⟨-, waiters, idleCalls, -⟩ :=
    call_registries_hold_no_stale_entries _ handlerWaiting_reachable
  refine ⟨idleCalls fun g w worker => ?_, waiters _ _ (by decide)⟩
  have none : handlerWaiting.callWorkers 0 = none ∧ handlerWaiting.callWorkers 1 = none := by
    decide
  rcases handlerWaiting_routine
      (handlerWaiting_reachable.fresh.routine_lt g (by simp [worker])) with
    rfl | rfl <;> simp [none] at worker

/-! ## Requests of another variant -/

/-- A handler that reads a request whose oneof is not `CallUnary`, whatever its
call id, assigns to the `Peer` field of the nil `req.GetCallUnary()`: the
daemon panics and nothing runs after. -/
theorem other_variant_panics :
    ∀ (s : Daemon) h (v : StreamHandler) (req : Request), s.crashed = false →
      s.inboundHandlers h = some v → v.pc = .reading →
      req.encodedSize ≤ messageSizeMax → req.getCallUnary = none →
      ∃ t, s.step (.streamHandlerRead h (.ok (.message req))) = some t ∧ t.crashed = true ∧
        ∀ a, t.step a = none := by
  intro s h v req live handler reading fits other
  refine ⟨{ s with crashed := true }, ?_, rfl, fun a => rfl⟩
  simp [Daemon.step, live, Daemon.streamHandlerRead, handler, reading, Except.bind,
    readMsg_message fits, other]

/-- Where `replyAfterHalfClose` stands once the handler has started on the
peer's stream of `/p/a`, before it reads. -/
def handlerReading : Daemon :=
  ((Daemon.init sampleConfig).run ((replyAfterHalfClose (sampleCallID 1)).take 6)).getD
    (Daemon.init sampleConfig)

/-- On a daemon whose client registered `/p/a`, a peer that sends `Cancel{}` on
a stream of `/p/a` stops the daemon. -/
theorem cancel_on_inbound_stream_panics :
    Reachable handlerReading ∧ handlerReading.registeredUnaryProtocols "/p/a" = true ∧
      ∃ t, handlerReading.step
          (.streamHandlerRead 1 (.ok (.message (cancelRequest (sampleCallID 1))))) = some t ∧
        t.crashed = true ∧ ∀ a, t.step a = none :=
  ⟨(Reachable.init sampleConfig).run
      (show (Daemon.init sampleConfig).run ((replyAfterHalfClose (sampleCallID 1)).take 6) =
        some handlerReading from rfl), by decide,
    other_variant_panics _ 1 ⟨0, [9], none, false, [], false, .reading⟩ _ (by decide)
      (by decide) rfl (by decide) rfl⟩

end P2pd

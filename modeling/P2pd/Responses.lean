import P2pd.Exchange
import P2pd.Inbound

/-!
# What the clients receive

Every frame a session's safe writer is handed comes from one of the five write
statements of `persistent_stream.go`, run by a goroutine of that session or by
an inbound handler built over its writer, and is built for that goroutine's
call: the `Ok` or `DaemonError` of an `AddUnaryHandler` or `UnaryResponse`
worker, the answer of a `CallUnary` worker, or the `RequestHandling` and
`Cancel` notifications of an inbound handler, which carry the call id the
remote peer sent and, in the `peer` field, the stream's remote peer.  What a
step can hand to a writer is said once, in `step_written_cases`; goroutine
records are never lost and keep the request they were spawned for (`Keeps`);
the invariant over every reachable daemon follows.
-/

namespace P2pd

/-! ## What each goroutine writes -/

/-- The answers of an `AddUnaryHandler` worker: `Ok`, or the `DaemonError` of a
protocol already set, under its call id. -/
def AddUnaryHandlerWorker.Answers (w : AddUnaryHandlerWorker) (resp : Response) : Prop :=
  resp = okUnaryCallResponse w.callID ∨
    resp = errorUnaryCallString w.callID ("handler for protocol " ++ w.proto ++ " already set")

/-- The answers of a `CallUnary` worker: a `DaemonError`, the remote peer's
`CallUnaryResponse`, or `Cancel`, under its call id. -/
def CallUnaryWorker.Answers (w : CallUnaryWorker) (resp : Response) : Prop :=
  (∃ err, resp = errorUnaryCall w.callID err) ∨
    (∃ response, resp = ⟨w.callID.bytes, some (.callUnaryResponse response)⟩) ∨
    resp = okCancelled w.callID

/-- The answers of an `UnaryResponse` worker: `Ok`, or the `DaemonError` of a
call no handler waits for, under its call id. -/
def UnaryResponseWorker.Answers (w : UnaryResponseWorker) (resp : Response) : Prop :=
  resp = okUnaryCallResponse w.callID ∨
    resp = errorUnaryCallString w.callID
      ("Response for call id " ++ w.callID.formatDecimal ++ " not requested or cancelled")

/-- What an inbound handler tells its client, under the call id it read: the
remote peer's call with the stream's remote peer in place of the `peer` the
remote peer wrote, or the `Cancel` of a half-closed stream. -/
def StreamHandler.Notifies (v : StreamHandler) (resp : Response) : Prop :=
  ∃ callID, v.callID = some callID ∧
    ((∃ call : CallUnaryRequest, call.peer = v.remotePeer ∧
        resp = ⟨callID.bytes, some (.requestHandling call)⟩) ∨
      resp = ⟨callID.bytes, some .cancel⟩)

/-- `exchangeMessages` parses the call id of its worker's own request. -/
@[simp] theorem exchangeCallID_eq (w : CallUnaryWorker) : Daemon.exchangeCallID w = w.callID := by
  simp [Daemon.exchangeCallID, CallUnaryWorker.request]

/-! ## Goroutine records persist -/

/-- `w'` is `w` moved on: the same session, call id and protocol. -/
def AddUnaryHandlerWorker.Moved (w w' : AddUnaryHandlerWorker) : Prop :=
  w'.session = w.session ∧ w'.callID = w.callID ∧ w'.proto = w.proto

/-- `w'` is `w` moved on: the same session, call id and call. -/
def CallUnaryWorker.Moved (w w' : CallUnaryWorker) : Prop :=
  w'.session = w.session ∧ w'.callID = w.callID ∧ w'.call = w.call

/-- `w'` is `w` moved on: the same session, call id and response. -/
def UnaryResponseWorker.Moved (w w' : UnaryResponseWorker) : Prop :=
  w'.session = w.session ∧ w'.callID = w.callID ∧ w'.response = w.response

/-- `v'` is `v` moved on: the same session and remote peer, and the call id
`v` read, if it read one. -/
def StreamHandler.Moved (v v' : StreamHandler) : Prop :=
  v'.session = v.session ∧ v'.remotePeer = v.remotePeer ∧ ∀ c, v.callID = some c → v'.callID = some c

/-- Every record of `m` is still in `m'`, moved on by `R`. -/
def Persists {α : Type} (R : α → α → Prop) (m m' : Nat → Option α) : Prop :=
  ∀ g x, m g = some x → ∃ x', m' g = some x' ∧ R x x'

/-- Replacing the record at `g` by a record that moved on from it, or filling
an unused number. -/
theorem Persists.update {α : Type} {R : α → α → Prop} {m : Nat → Option α} (refl : ∀ x, R x x)
    {g : Nat} {x' : α} (moved : ∀ x, m g = some x → R x x') :
    Persists R m (Function.update m g (some x')) := by
  intro g' x present
  by_cases same : g' = g
  · subst same
    exact ⟨x', by simp, moved x present⟩
  · exact ⟨x, by simp [same, present], refl x⟩

theorem Persists.refl {α : Type} {R : α → α → Prop} (refl : ∀ x, R x x) (m : Nat → Option α) :
    Persists R m m :=
  fun _ x present => ⟨x, present, refl x⟩

namespace Daemon

/-- Every goroutine record of `s` is still in `t`, for the same request. -/
structure Keeps (s t : Daemon) : Prop where
  addWorkers : Persists AddUnaryHandlerWorker.Moved s.addWorkers t.addWorkers
  callWorkers : Persists CallUnaryWorker.Moved s.callWorkers t.callWorkers
  responseWorkers : Persists UnaryResponseWorker.Moved s.responseWorkers t.responseWorkers
  handlers : Persists StreamHandler.Moved s.inboundHandlers t.inboundHandlers

variable {s t u : Daemon} {a : Action}

theorem Keeps.refl (s : Daemon) : Keeps s s :=
  ⟨.refl (fun _ => ⟨rfl, rfl, rfl⟩) _, .refl (fun _ => ⟨rfl, rfl, rfl⟩) _,
    .refl (fun _ => ⟨rfl, rfl, rfl⟩) _, .refl (fun _ => ⟨rfl, rfl, fun _ => id⟩) _⟩

theorem Keeps.trans (first : Keeps s t) (second : Keeps t u) : Keeps s u where
  addWorkers g w worker := by
    obtain ⟨w₁, worker₁, session₁, callID₁, proto₁⟩ := first.addWorkers g w worker
    obtain ⟨w₂, worker₂, session₂, callID₂, proto₂⟩ := second.addWorkers g w₁ worker₁
    exact ⟨w₂, worker₂, session₂.trans session₁, callID₂.trans callID₁, proto₂.trans proto₁⟩
  callWorkers g w worker := by
    obtain ⟨w₁, worker₁, session₁, callID₁, call₁⟩ := first.callWorkers g w worker
    obtain ⟨w₂, worker₂, session₂, callID₂, call₂⟩ := second.callWorkers g w₁ worker₁
    exact ⟨w₂, worker₂, session₂.trans session₁, callID₂.trans callID₁, call₂.trans call₁⟩
  responseWorkers g w worker := by
    obtain ⟨w₁, worker₁, session₁, callID₁, response₁⟩ := first.responseWorkers g w worker
    obtain ⟨w₂, worker₂, session₂, callID₂, response₂⟩ := second.responseWorkers g w₁ worker₁
    exact ⟨w₂, worker₂, session₂.trans session₁, callID₂.trans callID₁,
      response₂.trans response₁⟩
  handlers h v handler := by
    obtain ⟨v₁, handler₁, session₁, peer₁, named₁⟩ := first.handlers h v handler
    obtain ⟨v₂, handler₂, session₂, peer₂, named₂⟩ := second.handlers h v₁ handler₁
    exact ⟨v₂, handler₂, session₂.trans session₁, peer₂.trans peer₁,
      fun c named => named₂ c (named₁ c named)⟩

/-! ### Moves of one record -/

/-- The record that a step moves on is moved on. -/
theorem moved_of {α : Type} {R : α → α → Prop} {m : Nat → Option α} {g : Nat} {x x' : α}
    (present : m g = some x) (moved : R x x') : ∀ y, m g = some y → R y x' :=
  fun _ present' => Option.some.inj (present.symm.trans present') ▸ moved

/-- A number from the counter on holds no record to move. -/
theorem unused_of {α : Type} {R : α → α → Prop} {m : Nat → Option α} {g : Nat} {x' : α}
    (unused : m g = none) : ∀ y, m g = some y → R y x' :=
  fun _ present => by simp [unused] at present

theorem addMoved_refl (w : AddUnaryHandlerWorker) : w.Moved w := ⟨rfl, rfl, rfl⟩
theorem callMoved_refl (w : CallUnaryWorker) : w.Moved w := ⟨rfl, rfl, rfl⟩
theorem responseMoved_refl (w : UnaryResponseWorker) : w.Moved w := ⟨rfl, rfl, rfl⟩
theorem handlerMoved_refl (v : StreamHandler) : v.Moved v := ⟨rfl, rfl, fun _ => id⟩

/-- A request's worker is spawned at an unused number. -/
theorem Keeps.spawnWorker (fresh : s.Fresh) (sid : Nat) (callID : Uuid)
    (msg : Option RequestMessage) : Keeps s (s.spawnWorker sid callID msg) := by
  have unused := fresh.routines s.nextRoutine le_rfl
  have k := Keeps.refl s
  rcases msg with _ | ⟨proto⟩ | ⟨call⟩ | ⟨response⟩ | _
  · exact k
  · exact ⟨.update addMoved_refl (unused_of unused.1), k.2, k.3, k.4⟩
  · exact ⟨k.1, .update callMoved_refl (unused_of unused.2.1), k.3, k.4⟩
  · exact ⟨k.1, k.2, .update responseMoved_refl (unused_of unused.2.2.2.1), k.4⟩
  · exact ⟨k.1, k.2, k.3, k.4⟩

/-- `cancel()` on a worker, which may have finished, moves it on. -/
theorem Keeps.cancelCall (worker : Nat) :
    Keeps s { s with
      callWorkers := Function.update s.callWorkers worker
        ((s.callWorkers worker).map fun (v : CallUnaryWorker) => { v with cancelled := true }) } := by
  refine ⟨(Keeps.refl s).1, fun g w present => ?_, (Keeps.refl s).3, (Keeps.refl s).4⟩
  by_cases same : g = worker
  · subst same
    exact ⟨{ w with cancelled := true }, by simp [present], rfl, rfl, rfl⟩
  · exact ⟨w, by simp [same, present], rfl, rfl, rfl⟩

/-- No step loses a goroutine record or changes the request it was spawned
for; a handler's call id is set once, by its `Store`. -/
theorem step_keeps (fresh : s.Fresh) (waiters : s.WaiterInvariant) (stepped : s.step a = some t) :
    Keeps s t := by
  have k := Keeps.refl s
  unfold step at stepped
  split at stepped
  · cases stepped
  cases a
  case readLoop sid frame =>
    rcases readLoop_cases stepped with rfl | ⟨callID, msg, rfl⟩ | ⟨handlers, -, rfl⟩
    · exact k
    · exact .spawnWorker fresh sid callID msg
    · exact ⟨k.1, k.2, k.3, k.4⟩
  case addUnaryHandlerWorker g =>
    simp only [addUnaryHandlerWorker, doAddUnaryHandler] at stepped
    split at stepped
    · rename_i w worker
      (repeat' split at stepped) <;> cases stepped <;>
        exact ⟨.update addMoved_refl (moved_of worker ⟨rfl, rfl, rfl⟩), k.2, k.3, k.4⟩
    · cases stepped
  case callUnaryWorker g | dial g _ | receiveDone g =>
    simp only [callUnaryWorker, dial, receiveDone] at stepped
    split at stepped
    · rename_i w worker
      (repeat' split at stepped) <;> cases stepped <;>
        exact ⟨k.1, .update callMoved_refl (moved_of worker ⟨rfl, rfl, rfl⟩), k.3, k.4⟩
    · cases stepped
  case receiveResponse g =>
    simp only [receiveResponse] at stepped
    split at stepped
    · rename_i w e worker _
      (repeat' split at stepped) <;> cases stepped <;>
        exact ⟨k.1, .update callMoved_refl (moved_of worker ⟨rfl, rfl, rfl⟩), k.3, k.4⟩
    · cases stepped
  case unaryResponseWorker g =>
    simp only [unaryResponseWorker] at stepped
    split at stepped
    · rename_i w worker
      split at stepped <;> cases stepped <;>
        exact ⟨k.1, k.2, .update responseMoved_refl (moved_of worker ⟨rfl, rfl, rfl⟩), k.4⟩
    · cases stepped
  case cancelWorker g =>
    simp only [cancelWorker] at stepped
    split at stepped
    · split at stepped <;> cases stepped
      · exact ⟨k.1, k.2, k.3, k.4⟩
      · have keeps := Keeps.cancelCall (s := s) ‹_›
        exact ⟨keeps.1, keeps.2, keeps.3, keeps.4⟩
    · cases stepped
  case accept proto remotePeer =>
    simp only [accept] at stepped
    split at stepped <;> cases stepped
    exact ⟨k.1, k.2, k.3,
      .update handlerMoved_refl (unused_of (fresh.routines s.nextRoutine le_rfl).2.2.2.2.2.1)⟩
  case streamHandlerRead h result =>
    simp only [streamHandlerRead] at stepped
    split at stepped
    · rename_i v handler
      split at stepped
      · rename_i reading
        have unnamed := waiters.reading_unnamed h v handler reading
        (repeat' split at stepped) <;> cases stepped
        all_goals first
          | exact ⟨k.1, k.2, k.3, k.4⟩
          | exact ⟨k.1, k.2, k.3,
              .update handlerMoved_refl (moved_of handler ⟨rfl, rfl, by simp [unnamed]⟩)⟩
      · cases stepped
    · cases stepped
  case notify h _ | streamHandler h | streamHandlerReply h _ =>
    simp only [notify, streamHandler, streamHandlerReply] at stepped
    split at stepped
    · rename_i v handler
      (repeat' split at stepped) <;> cases stepped <;>
        exact ⟨k.1, k.2, k.3, .update handlerMoved_refl (moved_of handler ⟨rfl, rfl, fun _ => id⟩)⟩
    · cases stepped
  case halfClosed h =>
    simp only [halfClosed] at stepped
    split at stepped
    · rename_i v pc handler _
      split at stepped <;> cases stepped
      exact ⟨k.1, k.2, k.3, .update handlerMoved_refl (moved_of handler ⟨rfl, rfl, fun _ => id⟩)⟩
    · cases stepped
  case cleanup sid =>
    simp only [cleanup] at stepped
    split at stepped <;> cases stepped
    rw [foldl_removeUnaryHandler]
    exact ⟨k.1, k.2, k.3, k.4⟩
  case deliver h g =>
    simp only [deliver] at stepped
    split at stepped
    · rename_i v w handler worker
      split at stepped <;> cases stepped
      exact ⟨k.1, k.2, .update responseMoved_refl (moved_of worker ⟨rfl, rfl, rfl⟩),
        .update handlerMoved_refl (moved_of handler ⟨rfl, rfl, fun _ => id⟩)⟩
    · cases stepped
  all_goals
    simp only [startSession, exchangeWrite, exchangeRead, exchangeAbandon,
      awaitReadFailRead, awaitReadFailGiveUp] at stepped
    (repeat' split at stepped) <;> cases stepped <;> exact ⟨k.1, k.2, k.3, k.4⟩

end Daemon

/-! ## The write statements -/

/-- Actions that can hand a frame to a session's writer. -/
def Action.writes : Action → Bool
  | .addUnaryHandlerWorker _ | .callUnaryWorker _ | .unaryResponseWorker _ | .notify _ _
  | .streamHandler _ => true
  | _ => false

namespace Daemon

variable {s t : Daemon} {a : Action}

theorem step_written_frame (stepped : s.step a = some t) (untouched : a.writes = false) :
    t.written = s.written := by
  unfold step at stepped
  split at stepped
  · cases stepped
  cases a <;> simp only [Action.writes, reduceCtorEq] at untouched
  case readLoop sid frame =>
    rcases readLoop_cases stepped with rfl | ⟨callID, msg, rfl⟩ | ⟨handlers, -, rfl⟩ <;> simp
  all_goals
    simp only [startSession, cleanup, dial, receiveResponse, receiveDone, exchangeWrite,
      exchangeRead, exchangeAbandon, cancelWorker, accept, streamHandlerRead, halfClosed, deliver,
      streamHandlerReply, awaitReadFailRead, awaitReadFailGiveUp] at stepped
    (repeat' split at stepped) <;> (try simp only [Option.some.injEq, reduceCtorEq] at stepped) <;>
      (try subst stepped) <;> simp [foldl_removeUnaryHandler]

/-- Everything one step can hand to the writers: nothing, or one frame to the
writer of one session, from one of the five write statements, run by a
goroutine of that session or by a handler over its writer. -/
theorem step_written_cases (stepped : s.step a = some t) :
    t.written = s.written ∨
      ∃ sid f, t.written = Function.update s.written sid (s.written sid ++ [f]) ∧
        ((∃ g w resp, a = .addUnaryHandlerWorker g ∧ s.addWorkers g = some w ∧
            w.pc = .writing resp ∧ w.session = sid ∧ f = some resp) ∨
          (∃ g w, a = .callUnaryWorker g ∧ s.callWorkers g = some w ∧ w.pc = .writing f ∧
            w.session = sid) ∨
          (∃ g w resp, a = .unaryResponseWorker g ∧ s.responseWorkers g = some w ∧
            w.pc = .writing resp ∧ w.session = sid ∧ f = some resp) ∨
          (∃ h v resp failed, a = .notify h failed ∧ s.inboundHandlers h = some v ∧
            v.pc = .notifying resp ∧ v.session = sid ∧ f = some resp) ∨
          (∃ h v c, a = .streamHandler h ∧ s.inboundHandlers h = some v ∧ v.pc = .cancelling ∧
            v.callID = some c ∧ v.session = sid ∧ f = some ⟨c.bytes, some .cancel⟩)) := by
  cases touches : a.writes
  · exact .inl (step_written_frame stepped touches)
  unfold step at stepped
  split at stepped
  · cases stepped
  cases a <;> simp only [Action.writes, reduceCtorEq] at touches
  case addUnaryHandlerWorker g =>
    simp only [addUnaryHandlerWorker, doAddUnaryHandler] at stepped
    split at stepped
    · rename_i w worker
      split at stepped <;> cases stepped
      · split_ifs <;> exact .inl rfl
      · split_ifs <;> exact .inl rfl
      · exact .inr ⟨_, _, rfl, .inl ⟨g, w, _, rfl, worker, ‹_›, rfl, rfl⟩⟩
    · cases stepped
  case callUnaryWorker g =>
    simp only [callUnaryWorker] at stepped
    split at stepped
    · rename_i w worker
      split at stepped <;> cases stepped
      · exact .inl rfl
      · exact .inr ⟨_, _, rfl, .inr (.inl ⟨g, w, rfl, worker, ‹_›, rfl⟩)⟩
      · exact .inl rfl
    · cases stepped
  case unaryResponseWorker g =>
    simp only [unaryResponseWorker] at stepped
    split at stepped
    · rename_i w worker
      split at stepped <;> cases stepped
      · exact .inl rfl
      · exact .inr ⟨_, _, rfl, .inr (.inr (.inl ⟨g, w, _, rfl, worker, ‹_›, rfl, rfl⟩))⟩
    · cases stepped
  case notify h failed =>
    simp only [notify] at stepped
    split at stepped
    · rename_i v handler
      split at stepped
      · rename_i resp notifying
        split at stepped <;> cases stepped <;>
          exact .inr ⟨_, _, rfl,
            .inr (.inr (.inr (.inl ⟨h, v, resp, failed, rfl, handler, notifying, rfl, rfl⟩)))⟩
      · cases stepped
    · cases stepped
  case streamHandler h =>
    simp only [streamHandler] at stepped
    split at stepped
    · rename_i v handler
      split at stepped <;> cases stepped
      · rename_i c cancelling named
        exact .inr ⟨_, _, rfl,
          .inr (.inr (.inr (.inr ⟨h, v, c, rfl, handler, cancelling, named, rfl, rfl⟩)))⟩
      · exact .inl rfl
    · cases stepped

/-! ## Answers not yet written -/

end Daemon

/-- An `AddUnaryHandler` worker's answer, once `doAddUnaryHandler` gave it. -/
def AddUnaryHandlerWorker.Pending (w : AddUnaryHandlerWorker) : Prop :=
  ∀ resp, (w.pc = .appending resp ∨ w.pc = .writing resp) → w.Answers resp

/-- The answer a `CallUnary` worker is about to write. -/
def CallUnaryWorker.Pending (w : CallUnaryWorker) : Prop :=
  ∀ resp, w.pc = .writing (some resp) → w.Answers resp

/-- The answer an `UnaryResponse` worker is about to write. -/
def UnaryResponseWorker.Pending (w : UnaryResponseWorker) : Prop :=
  ∀ resp, w.pc = .writing resp → w.Answers resp

/-- The notification a handler is about to write. -/
def StreamHandler.Pending (v : StreamHandler) : Prop :=
  ∀ resp, v.pc = .notifying resp → v.Notifies resp

theorem CallUnaryWorker.Answers.moved {w w' : CallUnaryWorker} {resp : Response}
    (answers : w.Answers resp) (moved : w.Moved w') : w'.Answers resp := by
  rwa [CallUnaryWorker.Answers, moved.2.1]

/-- Every record of `m` satisfies `P` at its number after one is replaced by
one that does. -/
theorem forall_update_at {α : Type} {P : Nat → α → Prop} {m : Nat → Option α}
    (all : ∀ g x, m g = some x → P g x) {g : Nat} {x' : α} (new : P g x') :
    ∀ g' x, Function.update m g (some x') g' = some x → P g' x := by
  intro g' x present
  by_cases same : g' = g
  · subst same
    cases (Function.update_same g' _ m).symm.trans present
    exact new
  · exact all g' x ((Function.update_noteq same _ m).symm.trans present)

namespace Daemon

variable {s t : Daemon} {a : Action}

theorem spawnWorker_addWorkers (s : Daemon) (sid : Nat) (callID : Uuid)
    (msg : Option RequestMessage) :
    (s.spawnWorker sid callID msg).addWorkers = s.addWorkers ∨
      ∃ w : AddUnaryHandlerWorker, w.pc = .start ∧
        (s.spawnWorker sid callID msg).addWorkers =
          Function.update s.addWorkers s.nextRoutine (some w) := by
  rcases msg with _ | ⟨proto⟩ | _ | _ | _
  · exact .inl rfl
  · exact .inr ⟨_, rfl, rfl⟩
  all_goals exact .inl rfl

@[simp] theorem doAddUnaryHandler_addWorkers (s : Daemon) (sid : Nat) (callID : Uuid)
    (proto : String) : (s.doAddUnaryHandler sid callID proto).1.addWorkers = s.addWorkers := by
  unfold doAddUnaryHandler
  split_ifs <;> rfl

/-- The answers of the `AddUnaryHandler` workers are those of
`doAddUnaryHandler`. -/
theorem step_adding (adding : ∀ g w, s.addWorkers g = some w → w.Pending)
    (stepped : s.step a = some t) : ∀ g w, t.addWorkers g = some w → w.Pending := by
  cases touches : a.touchesRegistry
  · rw [(step_registry_frame stepped touches).2.2.2]
    exact adding
  unfold step at stepped
  split at stepped
  · cases stepped
  cases a <;> simp only [Action.touchesRegistry, reduceCtorEq] at touches
  case startSession => cases stepped; exact adding
  case readLoop sid frame =>
    rcases readLoop_cases stepped with rfl | ⟨callID, msg, rfl⟩ | ⟨handlers, -, rfl⟩
    · exact adding
    · rcases spawnWorker_addWorkers s sid callID msg with same | ⟨w, started, spawned⟩
      · rw [same]; exact adding
      · rw [spawned]
        exact forall_update_at adding fun resp pc => by simp [started] at pc
    · exact adding
  case cleanup sid =>
    simp only [cleanup] at stepped
    split at stepped <;> cases stepped
    rw [foldl_removeUnaryHandler]
    exact adding
  case addUnaryHandlerWorker g =>
    simp only [addUnaryHandlerWorker] at stepped
    split at stepped
    · rename_i w worker
      split at stepped <;> cases stepped
      · rename_i started
        simp only [setAddWorker, doAddUnaryHandler_addWorkers]
        refine forall_update_at adding fun resp pc => ?_
        simp only [AddUnaryHandlerPc.appending.injEq, reduceCtorEq, or_false] at pc
        subst pc
        unfold doAddUnaryHandler
        split_ifs
        exacts [.inr rfl, .inl rfl]
      · rename_i resp appending
        refine forall_update_at (by split_ifs <;> exact adding) fun resp' pc => ?_
        simp only [reduceCtorEq, AddUnaryHandlerPc.writing.injEq, false_or] at pc
        exact pc ▸ adding g w worker resp (.inl appending)
      · exact forall_update_at adding fun resp pc => by simp at pc
    · cases stepped

/-- What the `CallUnary` workers are about to write, and what their exchanges
are sending them, are answers of their calls. -/
structure CallPending (s : Daemon) : Prop where
  writing : ∀ g w, s.callWorkers g = some w → w.Pending
  sending : ∀ g e resp, s.exchanges g = some e →
    (e.pc = .sendingError resp ∨ e.pc = .sendingResponse resp) →
    ∃ w, s.callWorkers g = some w ∧ w.Answers resp

/-- A send the step leaves alone still goes to a worker whose call it answers. -/
theorem CallPending.sending_of_kept (pending : s.CallPending) (keeps : Keeps s t) {g : Nat}
    (kept : t.exchanges g = s.exchanges g) {e : ExchangeMessages} {resp : Response}
    (exchange : t.exchanges g = some e)
    (sending : e.pc = .sendingError resp ∨ e.pc = .sendingResponse resp) :
    ∃ w, t.callWorkers g = some w ∧ w.Answers resp := by
  obtain ⟨w, worker, answers⟩ := pending.sending g e resp (kept ▸ exchange) sending
  obtain ⟨w', worker', moved⟩ := keeps.callWorkers g w worker
  exact ⟨w', worker', answers.moved moved⟩

/-- A step that replaces at most the exchange of worker `g`, by one whose
send answers the worker's call. -/
theorem CallPending.sending_update (pending : s.CallPending) (keeps : Keeps s t) {g : Nat}
    {e' : Option ExchangeMessages} (after : t.exchanges = Function.update s.exchanges g e')
    (new : ∀ e resp, e' = some e → (e.pc = .sendingError resp ∨ e.pc = .sendingResponse resp) →
      ∃ w, t.callWorkers g = some w ∧ w.Answers resp) :
    ∀ g' e resp, t.exchanges g' = some e →
      (e.pc = .sendingError resp ∨ e.pc = .sendingResponse resp) →
      ∃ w, t.callWorkers g' = some w ∧ w.Answers resp := by
  intro g' e resp exchange sending
  by_cases same : g' = g
  · subst same
    exact new e resp (by simpa [after] using exchange) sending
  · exact pending.sending_of_kept keeps (by simp [after, same]) exchange sending

/-- The answers of the `CallUnary` workers are those of `doUnaryCall`, and the
responses their exchanges send are built for their calls. -/
theorem step_callPending (pending : s.CallPending) (keeps : Keeps s t)
    (stepped : s.step a = some t) : t.CallPending := by
  cases touches : a.touchesOutbound
  · obtain ⟨-, workers, exchanges, -⟩ := step_outbound_frame stepped touches
    exact ⟨workers ▸ pending.writing, fun g _ _ exchange sending =>
      pending.sending_of_kept keeps (by rw [exchanges]) exchange sending⟩
  have unchanged : t.exchanges = s.exchanges → ∀ g e resp, t.exchanges g = some e →
      (e.pc = .sendingError resp ∨ e.pc = .sendingResponse resp) →
      ∃ w, t.callWorkers g = some w ∧ w.Answers resp :=
    fun same _ _ _ exchange sending => pending.sending_of_kept keeps (by rw [same]) exchange sending
  unfold step at stepped
  split at stepped
  · cases stepped
  cases a <;> simp only [Action.touchesOutbound, reduceCtorEq] at touches
  case readLoop sid frame =>
    rcases readLoop_cases stepped with rfl | ⟨callID, msg, rfl⟩ | ⟨handlers, -, rfl⟩
    · exact pending
    · refine ⟨?_, unchanged (by simp)⟩
      rcases spawnWorker_callWorkers s sid callID msg with same | ⟨w, started, -, spawned⟩
      · rw [same]; exact pending.writing
      · rw [spawned]
        exact forall_update_at pending.writing fun resp pc => by simp [started] at pc
    · exact ⟨pending.1, pending.2⟩
  case callUnaryWorker g =>
    simp only [callUnaryWorker] at stepped
    split at stepped
    · split at stepped <;> cases stepped <;>
        exact ⟨forall_update_at pending.writing fun resp pc => by simp at pc, unchanged rfl⟩
    · cases stepped
  case dial g outcome =>
    simp only [dial] at stepped
    split at stepped
    · rename_i w worker
      (repeat' split at stepped) <;> cases stepped
      all_goals first
        | exact ⟨forall_update_at pending.writing fun resp pc => by simp at pc,
            pending.sending_update keeps rfl fun e resp e' sending => by
              cases e'; simp at sending⟩
        | exact ⟨forall_update_at pending.writing fun resp pc => by
              cases pc; exact .inl ⟨_, rfl⟩, unchanged rfl⟩
    · cases stepped
  case receiveResponse g =>
    simp only [receiveResponse] at stepped
    split at stepped
    · rename_i w e worker exchange
      (repeat' split at stepped) <;> cases stepped
      · rename_i resp sendingError
        obtain ⟨w₀, worker₀, answers⟩ := pending.sending g e resp exchange (.inl sendingError)
        cases worker.symm.trans worker₀
        exact ⟨forall_update_at pending.writing fun resp' pc => by cases pc; exact answers,
          pending.sending_update keeps rfl fun e' resp' e'' sending => by
            cases e''; simp at sending⟩
      · rename_i resp sendingResponse
        obtain ⟨w₀, worker₀, answers⟩ := pending.sending g e resp exchange (.inr sendingResponse)
        cases worker.symm.trans worker₀
        exact ⟨forall_update_at pending.writing fun resp' pc => by cases pc; exact answers,
          pending.sending_update keeps rfl fun e' resp' e'' sending => by
            cases e''; simp at sending⟩
      · exact ⟨forall_update_at pending.writing fun resp pc => by simp at pc, unchanged rfl⟩
    · cases stepped
  case receiveDone g =>
    simp only [receiveDone] at stepped
    split at stepped
    · split at stepped <;> cases stepped
      exact ⟨forall_update_at pending.writing fun resp pc => by cases pc; exact .inr (.inr rfl),
        unchanged rfl⟩
    · cases stepped
  case exchangeWrite g error =>
    simp only [exchangeWrite] at stepped
    split at stepped
    · rename_i w e worker _
      split at stepped <;> cases stepped
      refine ⟨pending.writing, pending.sending_update keeps rfl fun e' resp e'' sending => ?_⟩
      cases e''
      refine ⟨w, worker, ?_⟩
      cases cancelled : w.cancelled <;> cases error <;> simp [cancelled] at sending
      subst sending
      exact .inl ⟨_, rfl⟩
    · cases stepped
  case exchangeRead g result =>
    simp only [exchangeRead] at stepped
    split at stepped
    · rename_i w e worker _
      split at stepped <;> cases stepped
      refine ⟨pending.writing, pending.sending_update keeps rfl fun e' resp e'' sending => ?_⟩
      cases e''
      refine ⟨w, worker, ?_⟩
      cases cancelled : w.cancelled <;> simp [cancelled] at sending
      split at sending <;> simp at sending <;> subst sending
      · exact .inl ⟨_, rfl⟩
      · exact .inr (.inl ⟨_, rfl⟩)
    · cases stepped
  case exchangeAbandon g =>
    simp only [exchangeAbandon] at stepped
    (repeat' split at stepped) <;> cases stepped
    exact ⟨pending.writing, pending.sending_update keeps rfl fun e resp e' sending => by
      cases e'; simp at sending⟩
  case cancelWorker g =>
    simp only [cancelWorker] at stepped
    split at stepped
    · split at stepped <;> cases stepped
      · exact ⟨pending.1, pending.2⟩
      · rename_i worker _
        refine ⟨fun g' w' present => ?_, unchanged rfl⟩
        by_cases same : g' = worker
        · subst same
          cases found : s.callWorkers g' <;> simp [found] at present
          subst present
          have pendingBefore := pending.writing g' _ found
          exact pendingBefore
        · exact pending.writing g' w' (by simpa [same] using present)
    · cases stepped

/-- The answer `doSendReponseToRemote` returns without sending, on a worker's
own request, is one of the worker's answers: its call id always parses. -/
theorem doSendReponseToRemote_writing {w : UnaryResponseWorker} {resp : Response}
    (writing : s.doSendReponseToRemote w.request = .writing resp) : w.Answers resp := by
  simp only [doSendReponseToRemote, UnaryResponseWorker.request, Uuid.fromBytes_bytes] at writing
  split at writing <;> cases writing
  exact .inr rfl

/-- The answers of the `UnaryResponse` workers are those of
`doSendReponseToRemote`, or the `Ok` after their send. -/
theorem step_responding (fresh : s.Fresh)
    (responding : ∀ g w, s.responseWorkers g = some w → w.Pending)
    (stepped : s.step a = some t) : ∀ g w, t.responseWorkers g = some w → w.Pending := by
  cases touches : a.touchesInbound
  · rw [(step_inbound_frame stepped touches).2.2.2]
    exact responding
  rcases step_inbound_cases stepped with ⟨-, -, responders⟩ | ⟨-, -, -, -, -, -, -, -, -, same⟩ |
      ⟨-, -, -, -, -, -, -, -, -, same⟩
  rotate_left
  · rw [same]; exact responding
  · rw [same]; exact responding
  unfold step at stepped
  split at stepped
  · cases stepped
  cases a <;> simp only [Action.touchesInbound, reduceCtorEq] at touches
  case readLoop sid frame =>
    rcases readLoop_cases stepped with rfl | ⟨callID, msg, rfl⟩ | ⟨handlers, -, rfl⟩
    · exact responding
    · rcases spawnWorker_responseWorkers s sid callID msg with same | ⟨w, started, spawned⟩
      · rw [same]; exact responding
      · rw [spawned]
        exact forall_update_at responding fun resp pc => by simp [started] at pc
    · exact responding
  case unaryResponseWorker g =>
    simp only [unaryResponseWorker] at stepped
    split at stepped
    · split at stepped <;> cases stepped
      · exact forall_update_at responding fun resp pc => doSendReponseToRemote_writing pc
      · exact forall_update_at responding fun resp pc => by simp at pc
    · cases stepped
  case deliver h g =>
    simp only [deliver] at stepped
    split at stepped
    · split at stepped <;> cases stepped
      exact forall_update_at responding fun resp pc => by cases pc; exact .inl rfl
    · cases stepped
  all_goals
    simp only [accept, streamHandlerRead, notify, streamHandler, halfClosed, streamHandlerReply,
      awaitReadFailRead, awaitReadFailGiveUp] at stepped
    (repeat' split at stepped) <;> cases stepped <;> exact responding

/-- The notification a handler is about to write names the call id it read
and the stream's remote peer. -/
theorem step_notifying (notifying : ∀ h v, s.inboundHandlers h = some v → v.Pending)
    (stepped : s.step a = some t) : ∀ h v, t.inboundHandlers h = some v → v.Pending := by
  cases touches : a.touchesInbound
  · rw [(step_inbound_frame stepped touches).2.1]
    exact notifying
  unfold step at stepped
  split at stepped
  · cases stepped
  cases a <;> simp only [Action.touchesInbound, reduceCtorEq] at touches
  case readLoop sid frame =>
    rcases readLoop_cases stepped with rfl | ⟨callID, msg, rfl⟩ | ⟨handlers, -, rfl⟩ <;>
      simpa using notifying
  case accept proto remotePeer =>
    simp only [accept] at stepped
    split at stepped <;> cases stepped
    exact forall_update_at notifying fun resp pc => by simp at pc
  case streamHandlerRead h result =>
    simp only [streamHandlerRead] at stepped
    split at stepped
    · split at stepped
      · (repeat' split at stepped) <;> cases stepped
        · exact forall_update_at notifying fun resp pc => by simp at pc
        · exact notifying
        · exact forall_update_at notifying fun resp pc => by simp at pc
        · rename_i parsed
          exact forall_update_at notifying fun resp pc => by
            cases pc
            exact ⟨_, rfl, .inl ⟨_, rfl, by rw [Uuid.bytes_of_fromBytes parsed]⟩⟩
      · cases stepped
    · cases stepped
  all_goals
    simp only [unaryResponseWorker, notify, streamHandler, halfClosed, deliver,
      streamHandlerReply, awaitReadFailRead, awaitReadFailGiveUp] at stepped
    (repeat' split at stepped) <;> cases stepped
    all_goals first
      | exact notifying
      | exact forall_update_at notifying fun resp pc => by simp at pc

/-! ## The invariant -/

/-- A frame a goroutine of session `sid`, or a handler over its writer, may
hand to the session's writer; a nil frame comes only from a `CallUnary`
worker. -/
def WrittenBy (s : Daemon) (sid : Nat) : Option Response → Prop
  | none => ∃ g w, s.callWorkers g = some w ∧ w.session = sid
  | some resp =>
      (∃ g w, s.addWorkers g = some w ∧ w.session = sid ∧ w.Answers resp) ∨
      (∃ g w, s.callWorkers g = some w ∧ w.session = sid ∧ w.Answers resp) ∨
      (∃ g w, s.responseWorkers g = some w ∧ w.session = sid ∧ w.Answers resp) ∨
      ∃ h v, s.inboundHandlers h = some v ∧ v.session = sid ∧ v.Notifies resp

/-- Frames stay accounted for as the goroutines that wrote them move on. -/
theorem WrittenBy.keeps {sid : Nat} {f : Option Response} (keeps : Keeps s t)
    (written : s.WrittenBy sid f) : t.WrittenBy sid f := by
  cases f with
  | none =>
      obtain ⟨g, w, worker, rfl⟩ := written
      obtain ⟨w', worker', session, -⟩ := keeps.callWorkers g w worker
      exact ⟨g, w', worker', session⟩
  | some resp =>
      rcases written with ⟨g, w, worker, rfl, answers⟩ | ⟨g, w, worker, rfl, answers⟩ |
          ⟨g, w, worker, rfl, answers⟩ | ⟨h, v, handler, rfl, callID, named, notified⟩
      · obtain ⟨w', worker', session, callID, proto⟩ := keeps.addWorkers g w worker
        exact .inl ⟨g, w', worker', session, by rwa [AddUnaryHandlerWorker.Answers, callID, proto]⟩
      · obtain ⟨w', worker', moved⟩ := keeps.callWorkers g w worker
        exact .inr (.inl ⟨g, w', worker', moved.1, answers.moved moved⟩)
      · obtain ⟨w', worker', session, callID, -⟩ := keeps.responseWorkers g w worker
        exact .inr (.inr (.inl ⟨g, w', worker', session,
          by rwa [UnaryResponseWorker.Answers, callID]⟩))
      · obtain ⟨v', handler', session, peer, named'⟩ := keeps.handlers h v handler
        exact .inr (.inr (.inr ⟨h, v', handler', session, callID, named' _ named,
          by rwa [peer]⟩))

/-- What every client has received, and what its goroutines hold to write. -/
structure ResponseInvariant (s : Daemon) : Prop where
  written : ∀ sid f, f ∈ s.written sid → s.WrittenBy sid f
  adding : ∀ g w, s.addWorkers g = some w → w.Pending
  calls : s.CallPending
  responding : ∀ g w, s.responseWorkers g = some w → w.Pending
  notifying : ∀ h v, s.inboundHandlers h = some v → v.Pending

theorem responseInvariant_init (config : Config) : (Daemon.init config).ResponseInvariant where
  written _ _ listed := by simp [Daemon.init] at listed
  adding _ _ present := by simp [Daemon.init] at present
  calls := ⟨fun _ _ present => by simp [Daemon.init] at present,
    fun _ _ _ present => by simp [Daemon.init] at present⟩
  responding _ _ present := by simp [Daemon.init] at present
  notifying _ _ present := by simp [Daemon.init] at present

/-- The frame a write statement hands to a writer is accounted for by the
goroutine that runs it. -/
theorem step_written (inv : s.ResponseInvariant) (keeps : Keeps s t)
    (stepped : s.step a = some t) : ∀ sid f, f ∈ t.written sid → t.WrittenBy sid f := by
  intro sid f listed
  rcases step_written_cases stepped with same | ⟨sid', f', after, origin⟩
  · rw [same] at listed
    exact (inv.written sid f listed).keeps keeps
  rw [after] at listed
  by_cases here : sid = sid'
  · subst here
    rw [Function.update_same, List.mem_append, List.mem_singleton] at listed
    rcases listed with old | rfl
    · exact (inv.written sid f old).keeps keeps
    refine WrittenBy.keeps keeps ?_
    rcases origin with ⟨g, w, resp, -, worker, writing, rfl, rfl⟩ | ⟨g, w, -, worker, writing, rfl⟩ |
        ⟨g, w, resp, -, worker, writing, rfl, rfl⟩ | ⟨h, v, resp, -, -, handler, notifying, rfl, rfl⟩ |
        ⟨h, v, c, -, handler, -, named, rfl, rfl⟩
    · exact .inl ⟨g, w, worker, rfl, inv.adding g w worker resp (.inr writing)⟩
    · cases f with
      | none => exact ⟨g, w, worker, rfl⟩
      | some resp => exact .inr (.inl ⟨g, w, worker, rfl, inv.calls.writing g w worker resp writing⟩)
    · exact .inr (.inr (.inl ⟨g, w, worker, rfl, inv.responding g w worker resp writing⟩))
    · exact .inr (.inr (.inr ⟨h, v, handler, rfl, inv.notifying h v handler resp notifying⟩))
    · exact .inr (.inr (.inr ⟨h, v, handler, rfl, c, named, .inr rfl⟩))
  · rw [Function.update_noteq here] at listed
    exact (inv.written sid f listed).keeps keeps

theorem step_responseInvariant (inv : s.ResponseInvariant) (fresh : s.Fresh)
    (waiters : s.WaiterInvariant) (stepped : s.step a = some t) : t.ResponseInvariant :=
  have keeps := step_keeps fresh waiters stepped
  ⟨step_written inv keeps stepped, step_adding inv.adding stepped,
    step_callPending inv.calls keeps stepped, step_responding fresh inv.responding stepped,
    step_notifying inv.notifying stepped⟩

end Daemon

theorem Reachable.responseInvariant {s : Daemon} (reachable : Reachable s) :
    s.ResponseInvariant := by
  induction reachable with
  | init config => exact Daemon.responseInvariant_init config
  | step a reachable stepped ih =>
      exact Daemon.step_responseInvariant ih reachable.fresh reachable.waiterInvariant stepped

/-- Every frame a client receives was built for a call of its own session by
the goroutine that wrote it: an `AddUnaryHandler` worker's `Ok` or "already
set" error, a `CallUnary` worker's answer or its nil, an `UnaryResponse`
worker's `Ok` or "not requested or cancelled" error, each under the worker's
call id; or an inbound handler's `RequestHandling`, which carries the stream's
remote peer, or its `Cancel`, under the call id the handler read. -/
theorem client_frames_answer_own_calls {s : Daemon} (reachable : Reachable s) :
    ∀ sid f, f ∈ s.written sid → s.WrittenBy sid f :=
  reachable.responseInvariant.written

/-- The two frames session `0` has received once the handler waits: the
`Ok` of its registration and the handler's notification. -/
theorem handlerWaiting_frames_accounted :
    Reachable handlerWaiting ∧ (handlerWaiting.written 0).length = 2 ∧
      ∀ sid f, f ∈ handlerWaiting.written sid → handlerWaiting.WrittenBy sid f :=
  ⟨handlerWaiting_reachable, by decide, client_frames_answer_own_calls handlerWaiting_reachable⟩

end P2pd

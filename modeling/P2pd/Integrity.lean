import P2pd.Streams
import P2pd.RoundTrip

/-!
# No crossed calls between two daemons

Whatever the interleaving of the two daemons' goroutines and of the frames on
the streams between them, what each client hears about a call from the other
side is what the other side's client sent for that call.  The
`RequestHandling` that `A`'s client receives carries the call id, protocol and
data of a `CallUnary` request that `B`'s client made, with `B`'s peer id in its
`peer` field.  The payload of a `CallUnaryResponse` that `B`'s client receives
is the one that `A`'s client sent in an `UnaryResponse` for the same call id.

The invariant follows a call along its stream.  The only frame on the way to
`A` is the request of the stream's caller, and the handler reads its call id
from it.  The frames on the way back are the callee client's replies for that
call id, and `exchangeMessages` builds its response from them.  Each daemon
contributes inversion lemmas, saying where a pending write, a pending send or
a handler's call id can come from in one step.
-/

namespace P2pd

/-- A response a daemon builds from nothing the other side sent: the bare
`Ok`, a `DaemonError`, or a `Cancel`. -/
def Response.Plain (resp : Response) : Prop :=
  resp.message = none ∨ (∃ err, resp.message = some (.daemonError err)) ∨
    resp.message = some .cancel

@[simp] theorem errorUnaryCallString_plain (callID : Uuid) (errMsg : String) :
    (errorUnaryCallString callID errMsg).Plain :=
  .inr (.inl ⟨errMsg, rfl⟩)

@[simp] theorem errorUnaryCall_plain (callID : Uuid) (err : String) :
    (errorUnaryCall callID err).Plain :=
  .inr (.inl ⟨err, rfl⟩)

@[simp] theorem okUnaryCallResponse_plain (callID : Uuid) : (okUnaryCallResponse callID).Plain :=
  .inl rfl

@[simp] theorem okCancelled_plain (callID : Uuid) : (okCancelled callID).Plain :=
  .inr (.inr rfl)

/-- A frame that is read is the request it encodes. -/
theorem eq_of_readMsg_message {maxSize : Nat} {request req : Request}
    (read : readMsg maxSize (.message request) = .ok req) : req = request := by
  simp only [readMsg] at read
  split_ifs at read
  cases read
  rfl

/-- A read on a stream that succeeds read a frame. -/
theorem bind_readMsg_eq_ok {maxSize : Nat} {result : Except String Frame} {req : Request}
    (read : result.bind (readMsg maxSize) = .ok req) :
    ∃ f, result = .ok f ∧ readMsg maxSize f = .ok req := by
  cases result with
  | error err => cases read
  | ok f => exact ⟨f, rfl, read⟩

/-- The record at `g` of a map after one record was replaced. -/
theorem update_eq_some {α : Type} {m : Nat → Option α} {g₀ g : Nat} {x x' : α}
    (present : Function.update m g₀ (some x) g = some x') :
    (g = g₀ ∧ x' = x) ∨ (g ≠ g₀ ∧ m g = some x') := by
  by_cases same : g = g₀
  · subst same
    exact .inl ⟨rfl, (Option.some.inj ((Function.update_same g _ m).symm.trans present)).symm⟩
  · exact .inr ⟨same, (Function.update_noteq same _ m).symm.trans present⟩

/-- `v'` is `v` moved on without reading a request: the same remote peer and
call id, and a notification pending only if one was. -/
def StreamHandler.Kept (v v' : StreamHandler) : Prop :=
  v'.remotePeer = v.remotePeer ∧ v'.callID = v.callID ∧
    ∀ resp, v'.pc = .notifying resp → v.pc = .notifying resp

namespace Daemon

variable {s t : Daemon} {a : Action}

/-! ## What one step can do -/

/-- A `CallUnary` worker comes to write a response that it already had, the
one its exchange was sending, or one that it built itself. -/
theorem step_callWorker_writing (stepped : s.step a = some t) {g : Nat} {u' : CallUnaryWorker}
    {resp : Response} (worker : t.callWorkers g = some u') (writing : u'.pc = .writing (some resp)) :
    (∃ u, s.callWorkers g = some u ∧ u.pc = .writing (some resp)) ∨
      (∃ e, s.exchanges g = some e ∧ (e.pc = .sendingError resp ∨ e.pc = .sendingResponse resp)) ∨
      resp.Plain := by
  have kept (same : t.callWorkers g = s.callWorkers g) :
      ∃ u, s.callWorkers g = some u ∧ u.pc = .writing (some resp) :=
    ⟨u', same ▸ worker, writing⟩
  cases touches : a.touchesOutbound
  · exact .inl (kept (by rw [(step_outbound_frame stepped touches).2.1]))
  unfold step at stepped
  split at stepped
  · cases stepped
  cases a <;> simp only [Action.touchesOutbound, reduceCtorEq] at touches
  case readLoop sid frame =>
    rcases readLoop_cases stepped with rfl | ⟨callID, msg, rfl⟩ | ⟨handlers, -, rfl⟩
    · exact .inl (kept rfl)
    · rcases spawnWorker_callWorkers s sid callID msg with same | ⟨w, started, -, spawned⟩
      · exact .inl (kept (by rw [same]))
      · rw [spawned] at worker
        rcases update_eq_some worker with ⟨-, rfl⟩ | ⟨-, present⟩
        · simp [started] at writing
        · exact .inl ⟨u', present, writing⟩
    · exact .inl (kept rfl)
  case callUnaryWorker g₀ =>
    simp only [callUnaryWorker] at stepped
    (repeat' split at stepped) <;> cases stepped <;>
      rcases update_eq_some worker with ⟨rfl, rfl⟩ | ⟨-, present⟩
    all_goals first | simp at writing | exact .inl ⟨u', present, writing⟩
  case dial g₀ outcome =>
    simp only [dial] at stepped
    (repeat' split at stepped) <;> cases stepped <;>
      rcases update_eq_some worker with ⟨rfl, rfl⟩ | ⟨-, present⟩
    all_goals first
      | exact .inl ⟨u', present, writing⟩
      | (simp at writing; done)
      | cases writing; exact .inr (.inr (errorUnaryCall_plain _ _))
  case receiveResponse g₀ =>
    simp only [receiveResponse] at stepped
    (repeat' split at stepped) <;> cases stepped <;>
      rcases update_eq_some worker with ⟨rfl, rfl⟩ | ⟨-, present⟩
    all_goals first
      | exact .inl ⟨u', present, writing⟩
      | (simp at writing; done)
      | cases writing; exact .inr (.inl ⟨_, ‹_›, .inl ‹_›⟩)
      | cases writing; exact .inr (.inl ⟨_, ‹_›, .inr ‹_›⟩)
  case receiveDone g₀ =>
    simp only [receiveDone] at stepped
    (repeat' split at stepped) <;> cases stepped
    rcases update_eq_some worker with ⟨rfl, rfl⟩ | ⟨-, present⟩
    · cases writing
      exact .inr (.inr (okCancelled_plain _))
    · exact .inl ⟨u', present, writing⟩
  case cancelWorker g₀ =>
    simp only [cancelWorker] at stepped
    (repeat' split at stepped) <;> cases stepped
    all_goals first | exact .inl (kept rfl) | skip
    rename_i worker₀ _
    by_cases same : g = worker₀
    · subst same
      simp only [setCancelWorker, Function.update_same, Option.map_eq_some'] at worker
      obtain ⟨u, present, rfl⟩ := worker
      exact .inl ⟨u, present, writing⟩
    · exact .inl (kept (by simp [same]))
  all_goals
    simp only [exchangeWrite, exchangeRead, exchangeAbandon] at stepped
    (repeat' split at stepped) <;> cases stepped <;> exact .inl (kept rfl)

/-- A send on an exchange's channel that a step leaves pending was pending
before, or carries an error the exchange built, or was built by this step's
read from the frame it read. -/
theorem step_exchange_sending (stepped : s.step a = some t) {g : Nat} {e' : ExchangeMessages}
    {resp : Response} (exchange : t.exchanges g = some e')
    (sending : e'.pc = .sendingError resp ∨ e'.pc = .sendingResponse resp) :
    s.exchanges g = some e' ∨ resp.Plain ∨
      ∃ u f req, a = .exchangeRead g (.ok f) ∧ s.callWorkers g = some u ∧
        readMsg messageSizeMax f = .ok req ∧ resp = remoteResponse u.callID req := by
  cases touches : a.touchesOutbound
  · exact .inl ((step_outbound_frame stepped touches).2.2.1 ▸ exchange)
  unfold step at stepped
  split at stepped
  · cases stepped
  cases a <;> simp only [Action.touchesOutbound, reduceCtorEq] at touches
  case readLoop sid frame =>
    rcases readLoop_cases stepped with rfl | ⟨callID, msg, rfl⟩ | ⟨handlers, -, rfl⟩ <;>
      exact .inl (by simpa using exchange)
  case exchangeWrite g₀ error =>
    simp only [exchangeWrite] at stepped
    (repeat' split at stepped) <;> cases stepped <;>
      rcases update_eq_some exchange with ⟨rfl, rfl⟩ | ⟨-, present⟩
    all_goals first
      | exact .inl present
      | rcases sending with sending | sending <;> cases sending <;>
          exact .inr (.inl (errorUnaryCall_plain _ _))
  case exchangeRead g₀ result =>
    simp only [exchangeRead] at stepped
    (repeat' split at stepped) <;> cases stepped <;>
      rcases update_eq_some exchange with ⟨rfl, rfl⟩ | ⟨-, present⟩
    all_goals first
      | exact .inl present
      | rcases sending with sending | sending <;> cases sending
    all_goals first
      | exact .inr (.inl (errorUnaryCall_plain _ _))
      | obtain ⟨f, rfl, read⟩ := bind_readMsg_eq_ok ‹_›
        exact .inr (.inr ⟨_, f, _, rfl, ‹_›, read, by rw [exchangeCallID_eq]⟩)
  all_goals
    simp only [callUnaryWorker, dial, receiveResponse, receiveDone, exchangeAbandon,
      cancelWorker] at stepped
    (repeat' split at stepped) <;> cases stepped
  all_goals first
    | exact .inl exchange
    | rcases update_eq_some exchange with ⟨rfl, rfl⟩ | ⟨-, present⟩
      · simp at sending
      · exact .inl present

/-- A handler's record replaced by one kept from it. -/
theorem kept_of_update {h₀ h : Nat} {v₀ v₁ v' : StreamHandler}
    (handler : Function.update s.inboundHandlers h₀ (some v₁) h = some v')
    (present : s.inboundHandlers h₀ = some v₀) (kept : v₀.Kept v₁) :
    ∃ v, s.inboundHandlers h = some v ∧ v.Kept v' := by
  rcases update_eq_some handler with ⟨rfl, rfl⟩ | ⟨-, other⟩
  · exact ⟨v₀, present, kept⟩
  · exact ⟨v', other, rfl, rfl, fun _ => id⟩

/-- What one step can do to the record of handler `h`: keep its remote peer,
call id and pending notification; start it on a stream just accepted; or read
its request and turn to notify the client. -/
theorem step_handler_cases (stepped : s.step a = some t) {h : Nat} {v' : StreamHandler}
    (handler : t.inboundHandlers h = some v') :
    (∃ v, s.inboundHandlers h = some v ∧ v.Kept v') ∨
      (∃ proto, a = .accept proto v'.remotePeer ∧ h = s.nextRoutine ∧ v'.callID = none ∧
        v'.pc = .reading) ∨
      ∃ v f req call c, a = .streamHandlerRead h (.ok f) ∧ s.inboundHandlers h = some v ∧
        v'.remotePeer = v.remotePeer ∧ readMsg messageSizeMax f = .ok req ∧
        req.getCallUnary = some call ∧ Uuid.fromBytes req.callId = some c ∧ v'.callID = some c ∧
        v'.pc = .notifying ⟨req.callId, some (.requestHandling { call with peer := v.remotePeer })⟩ := by
  have kept (same : t.inboundHandlers h = s.inboundHandlers h) :
      ∃ v, s.inboundHandlers h = some v ∧ v.Kept v' :=
    ⟨v', same ▸ handler, rfl, rfl, fun _ => id⟩
  cases touches : a.touchesInbound
  · exact .inl (kept (by rw [(step_inbound_frame stepped touches).2.1]))
  unfold step at stepped
  split at stepped
  · cases stepped
  cases a <;> simp only [Action.touchesInbound, reduceCtorEq] at touches
  case readLoop sid frame =>
    rcases readLoop_cases stepped with rfl | ⟨callID, msg, rfl⟩ | ⟨handlers, -, rfl⟩ <;>
      exact .inl (kept (by simp))
  case accept proto remotePeer =>
    simp only [accept] at stepped
    split at stepped <;> cases stepped
    rcases update_eq_some handler with ⟨rfl, rfl⟩ | ⟨-, present⟩
    · exact .inr (.inl ⟨proto, rfl, rfl, rfl, rfl⟩)
    · exact .inl ⟨v', present, rfl, rfl, fun _ => id⟩
  case streamHandlerRead h₀ result =>
    simp only [streamHandlerRead] at stepped
    split at stepped
    · rename_i v present
      split at stepped
      · split at stepped
        · cases stepped
          exact .inl (kept_of_update handler present ⟨rfl, rfl, fun _ n => by cases n⟩)
        · rename_i req read
          split at stepped
          · cases stepped
            exact .inl (kept rfl)
          · rename_i call unary
            split at stepped <;> cases stepped
            · exact .inl (kept_of_update handler present ⟨rfl, rfl, fun _ n => by cases n⟩)
            · rename_i c parsed
              rcases update_eq_some handler with ⟨rfl, rfl⟩ | ⟨-, other⟩
              · obtain ⟨f, rfl, read⟩ := bind_readMsg_eq_ok read
                exact .inr (.inr ⟨v, f, req, call, c, rfl, present, rfl, read, unary, parsed, rfl, rfl⟩)
              · exact .inl ⟨v', other, rfl, rfl, fun _ => id⟩
      · cases stepped
    · cases stepped
  case unaryResponseWorker | awaitReadFailRead | awaitReadFailGiveUp =>
    simp only [unaryResponseWorker, awaitReadFailRead, awaitReadFailGiveUp] at stepped
    (repeat' split at stepped) <;> cases stepped <;> exact .inl (kept rfl)
  all_goals
    simp only [notify, streamHandler, halfClosed, deliver, streamHandlerReply] at stepped
    (repeat' split at stepped) <;> cases stepped <;>
      exact .inl (kept_of_update handler ‹_› (by exact ⟨rfl, rfl, fun _ n => by cases n⟩))

/-- Where a response that one step puts in a client's log comes from: it was
there, or the daemon built it on its own, or it is the remote peer's response
that a `CallUnary` worker was writing, or the notification that a handler was
writing. -/
theorem step_written_origin (inv : s.ResponseInvariant) (stepped : s.step a = some t)
    {sid : Nat} {resp : Response} (listed : some resp ∈ t.written sid) :
    some resp ∈ s.written sid ∨ resp.Plain ∨
      (∃ g u rr, s.callWorkers g = some u ∧ u.pc = .writing (some resp) ∧
        resp = ⟨u.callID.bytes, some (.callUnaryResponse rr)⟩) ∨
      ∃ h v, s.inboundHandlers h = some v ∧ v.pc = .notifying resp ∧ v.Notifies resp := by
  rcases step_written_cases stepped with same | ⟨sid', f, after, origin⟩
  · exact .inl (same ▸ listed)
  rw [after] at listed
  by_cases other : sid = sid'
  swap
  · exact .inl (by simpa [other] using listed)
  subst other
  rw [Function.update_same, List.mem_append, List.mem_singleton] at listed
  rcases listed with old | rfl
  · exact .inl old
  rcases origin with ⟨g, w, r, -, worker, writing, -, new⟩ | ⟨g, w, -, worker, writing, -⟩ |
      ⟨g, w, r, -, worker, writing, -, new⟩ | ⟨h, v, r, -, -, handler, notifying, -, new⟩ |
      ⟨h, v, c, -, -, -, -, -, new⟩
  · cases new
    rcases inv.adding g w worker resp (.inr writing) with rfl | rfl <;> simp
  · rcases inv.calls.writing g w worker resp writing with ⟨err, rfl⟩ | ⟨rr, rfl⟩ | rfl
    · exact .inr (.inl (errorUnaryCall_plain _ _))
    · exact .inr (.inr (.inl ⟨g, w, rr, worker, writing, rfl⟩))
    · exact .inr (.inl (okCancelled_plain _))
  · cases new
    rcases inv.responding g w worker resp writing with rfl | rfl <;> simp
  · cases new
    exact .inr (.inr (.inr ⟨h, v, handler, notifying, inv.notifying h v handler resp notifying⟩))
  · cases new
    exact .inr (.inl (.inr (.inr rfl)))

/-- A handler that the host starts knows the stream's remote peer and has read
no call id. -/
theorem step_accept {proto : String} {remotePeer : PeerId}
    (stepped : s.step (.accept proto remotePeer) = some t) :
    ∃ v, t.inboundHandlers s.nextRoutine = some v ∧ v.remotePeer = remotePeer ∧ v.callID = none := by
  unfold step at stepped
  split at stepped
  · cases stepped
  simp only [accept] at stepped
  split at stepped <;> cases stepped
  rename_i session _
  exact ⟨⟨session, remotePeer, none, false, [], false, .reading⟩, by simp, rfl, rfl⟩

end Daemon

namespace World

variable {w : World}

/-! ## What each side's client hears -/

/-- `A`'s client sent `y` in an `UnaryResponse` for the call id `cid`. -/
def Answered (w : World) (cid : List UInt8) (y : CallUnaryResponse) : Prop :=
  ∃ g r, w.callee.responseWorkers g = some r ∧ r.callID.bytes = cid ∧ r.response = y

/-- `B`'s client made the call `call` under the call id `cid`, with `B`'s peer
id in place of the peer it named, which is how `A` sees the call. -/
def Asked (w : World) (cid : List UInt8) (call : CallUnaryRequest) : Prop :=
  ∃ g u, w.caller.callWorkers g = some u ∧ u.callID.bytes = cid ∧
    call = { u.call with peer := w.callerID }

/-- A response whose payload, if it carries one from `A`, is what `A`'s client
sent for its call id. -/
def Delivers (w : World) (resp : Response) : Prop :=
  ∀ y, resp.message = some (.callUnaryResponse (some y)) → w.Answered resp.callId y

/-- A response whose call, if it announces one from `B`, is one that `B`'s
client made under its call id. -/
def Announces (w : World) (resp : Response) : Prop :=
  ∀ call, resp.message = some (.requestHandling call) → w.Asked resp.callId call

theorem delivers_of_plain {resp : Response} (plain : resp.Plain) : w.Delivers resp := by
  intro y payload
  rcases plain with none | ⟨err, error⟩ | cancel <;> simp_all

theorem announces_of_plain {resp : Response} (plain : resp.Plain) : w.Announces resp := by
  intro call handling
  rcases plain with none | ⟨err, error⟩ | cancel <;> simp_all

theorem Answered.callee_keeps {t : Daemon} (keeps : w.callee.Keeps t) {cid : List UInt8}
    {y : CallUnaryResponse} (answered : w.Answered cid y) : { w with callee := t }.Answered cid y := by
  obtain ⟨g, r, responder, rfl, rfl⟩ := answered
  obtain ⟨r', responder', -, callID, response⟩ := keeps.responseWorkers g r responder
  exact ⟨g, r', responder', by rw [callID], response⟩

theorem Delivers.callee_keeps {t : Daemon} (keeps : w.callee.Keeps t) {resp : Response}
    (delivers : w.Delivers resp) : { w with callee := t }.Delivers resp :=
  fun y payload => (delivers y payload).callee_keeps keeps

theorem Asked.caller_keeps {t : Daemon} (keeps : w.caller.Keeps t) {cid : List UInt8}
    {call : CallUnaryRequest} (asked : w.Asked cid call) : { w with caller := t }.Asked cid call := by
  obtain ⟨g, u, worker, rfl, rfl⟩ := asked
  obtain ⟨u', worker', -, callID, call⟩ := keeps.callWorkers g u worker
  exact ⟨g, u', worker', by rw [callID], by rw [call]⟩

theorem Announces.caller_keeps {t : Daemon} (keeps : w.caller.Keeps t) {resp : Response}
    (announces : w.Announces resp) : { w with caller := t }.Announces resp :=
  fun call handling => (announces call handling).caller_keeps keeps

/-! ## The streams -/

/-- What stream `g` may hold: toward `A`, only the request of `B`'s worker `g`;
back toward `B`, only `UnaryResponse` requests of `A`'s client for that call;
and its handler knows `B` as its remote peer and reads no other call id. -/
def Sound (w : World) (g : Nat) (st : Stream) : Prop :=
  ∃ u, w.caller.callWorkers g = some u ∧ (∀ f ∈ st.toCallee, f = .message u.request) ∧
    (∀ f ∈ st.toCaller, ∃ gr r, w.callee.responseWorkers gr = some r ∧ r.callID = u.callID ∧
      f = .message r.request) ∧
    ∃ v, w.callee.inboundHandlers st.handler = some v ∧ v.remotePeer = w.callerID ∧
      ∀ c, v.callID = some c → c = u.callID

theorem Sound.caller_keeps {t : Daemon} (keeps : w.caller.Keeps t) {g : Nat} {st : Stream}
    (sound : w.Sound g st) : { w with caller := t }.Sound g st := by
  obtain ⟨u, worker, toCallee, toCaller, v, handler, peer, named⟩ := sound
  obtain ⟨u', worker', -, callID, call⟩ := keeps.callWorkers g u worker
  have request : u'.request = u.request := by simp [CallUnaryWorker.request, callID, call]
  refine ⟨u', worker', fun f listed => request ▸ toCallee f listed, fun f listed => ?_,
    v, handler, peer, fun c read => (named c read).trans callID.symm⟩
  obtain ⟨gr, r, responder, named, rfl⟩ := toCaller f listed
  exact ⟨gr, r, responder, named.trans callID.symm, rfl⟩

/-- A stream stays sound with fewer frames in flight. -/
theorem Sound.mono {g : Nat} {st st' : Stream} (sound : w.Sound g st)
    (handler : st'.handler = st.handler) (toCallee : st'.toCallee ⊆ st.toCallee)
    (toCaller : st'.toCaller ⊆ st.toCaller) : w.Sound g st' := by
  obtain ⟨u, worker, callee, caller, v, present, peer, named⟩ := sound
  exact ⟨u, worker, fun f listed => callee f (toCallee listed),
    fun f listed => caller f (toCaller listed), v, handler ▸ present, peer, named⟩

/-- The request of the stream's own caller may go on the stream. -/
theorem Sound.send {g : Nat} {st : Stream} (sound : w.Sound g st) {u : CallUnaryWorker}
    (worker : w.caller.callWorkers g = some u) :
    w.Sound g { st with toCallee := st.toCallee ++ [.message u.request] } := by
  obtain ⟨u₀, worker₀, callee, caller, handler⟩ := sound
  rw [worker] at worker₀
  cases worker₀
  refine ⟨u, worker, fun f listed => ?_, caller, handler⟩
  rcases List.mem_append.mp listed with old | new
  · exact callee f old
  · exact List.mem_singleton.mp new

/-- The client's reply for the call id the stream's handler read may go back
on the stream. -/
theorem Sound.reply {g : Nat} {st : Stream} (sound : w.Sound g st) {gr : Nat}
    {r : UnaryResponseWorker} (responder : w.callee.responseWorkers gr = some r)
    {v : StreamHandler} (handler : w.callee.inboundHandlers st.handler = some v)
    (named : v.callID = some r.callID) :
    w.Sound g { st with toCaller := st.toCaller ++ [.message r.request] } := by
  obtain ⟨u, worker, callee, caller, v₀, handler₀, peer, named₀⟩ := sound
  rw [handler] at handler₀
  cases handler₀
  refine ⟨u, worker, callee, fun f listed => ?_, v, handler, peer, named₀⟩
  rcases List.mem_append.mp listed with old | new
  · exact caller f old
  · exact ⟨gr, r, responder, named₀ _ named, List.mem_singleton.mp new⟩

/-! ## The invariant -/

/-- Two daemons and the streams between them, where every stream is sound,
and everything that either client has heard or is about to hear from the other
side came from that side's client. -/
structure Integrity (w : World) : Prop where
  callee : P2pd.Reachable w.callee
  caller : P2pd.Reachable w.caller
  streams : ∀ g st, w.streams g = some st → w.Sound g st
  /-- No two streams share a handler. -/
  handlers : ∀ g g' st st', w.streams g = some st → w.streams g' = some st' →
    st.handler = st'.handler → g = g'
  /-- The notifications `A`'s handlers are about to write. -/
  notifying : ∀ h v resp, w.callee.inboundHandlers h = some v → v.pc = .notifying resp →
    w.Announces resp
  /-- What `A`'s clients have heard. -/
  announced : ∀ sid resp, some resp ∈ w.callee.written sid → w.Announces resp
  /-- The responses `B`'s exchanges are sending to their workers. -/
  sending : ∀ g e resp, w.caller.exchanges g = some e →
    (e.pc = .sendingError resp ∨ e.pc = .sendingResponse resp) → w.Delivers resp
  /-- The responses `B`'s workers are about to write. -/
  writing : ∀ g u resp, w.caller.callWorkers g = some u → u.pc = .writing (some resp) →
    w.Delivers resp
  /-- What `B`'s clients have heard. -/
  delivered : ∀ sid resp, some resp ∈ w.caller.written sid → w.Delivers resp

theorem integrity_init (calleeConfig callerConfig : Config) (calleeID callerID : PeerId) :
    (World.init calleeConfig callerConfig calleeID callerID).Integrity where
  callee := .init _
  caller := .init _
  streams _ _ present := by cases present
  handlers _ _ _ _ present := by cases present
  notifying _ _ _ present := by cases present
  announced _ _ listed := by cases listed
  sending _ _ _ present := by cases present
  writing _ _ _ present := by cases present
  delivered _ _ listed := by cases listed

/-- A step of `A` keeps the invariant, provided a request that a handler reads
is one on its own stream. -/
theorem Integrity.callee_step (inv : w.Integrity) {a : Action} {t : Daemon}
    (stepped : w.callee.step a = some t)
    (reads : ∀ h f, a = .streamHandlerRead h (.ok f) →
      ∃ g st, w.streams g = some st ∧ st.handler = h ∧ f ∈ st.toCallee) :
    { w with callee := t }.Integrity := by
  have fresh := inv.callee.fresh
  have keeps := Daemon.step_keeps fresh inv.callee.waiterInvariant stepped
  have request {h : Nat} {f : Frame} {req : Request} (read : readMsg messageSizeMax f = .ok req)
      (reading : a = .streamHandlerRead h (.ok f)) :
      ∃ g st u, w.streams g = some st ∧ st.handler = h ∧ w.caller.callWorkers g = some u ∧
        req = u.request := by
    obtain ⟨g, st, present, rfl, listed⟩ := reads h f reading
    obtain ⟨u, worker, toCallee, -⟩ := inv.streams g st present
    rw [toCallee f listed] at read
    exact ⟨g, st, u, present, rfl, worker, eq_of_readMsg_message read⟩
  refine ⟨.step a inv.callee stepped, inv.caller, ?_, inv.handlers, ?_, ?_,
    fun g e resp exchange sending => (inv.sending g e resp exchange sending).callee_keeps keeps,
    fun g u resp worker writing => (inv.writing g u resp worker writing).callee_keeps keeps,
    fun sid resp listed => (inv.delivered sid resp listed).callee_keeps keeps⟩
  · intro g st present
    obtain ⟨u, worker, toCallee, toCaller, v, handler, peer, named⟩ := inv.streams g st present
    obtain ⟨v', handler', -, peer', -⟩ := keeps.handlers _ v handler
    refine ⟨u, worker, toCallee, fun f listed => ?_, v', handler', peer'.trans peer,
      fun c stored' => ?_⟩
    · obtain ⟨gr, r, responder, callID, rfl⟩ := toCaller f listed
      obtain ⟨r', responder', -, callID', response'⟩ := keeps.responseWorkers gr r responder
      exact ⟨gr, r', responder', callID'.trans callID,
        by simp [UnaryResponseWorker.request, callID', response']⟩
    · rcases Daemon.step_handler_cases stepped handler' with ⟨v₀, handler₀, -, kept, -⟩ |
          ⟨-, -, later, -⟩ | ⟨-, f, req, -, c', reading, -, -, read, -, parsed, stored, -⟩
      · rw [handler] at handler₀
        cases handler₀
        exact named c (kept ▸ stored')
      · exact absurd (fresh.routine_lt st.handler (by simp [handler])) (by omega)
      · obtain ⟨g', st', u', present', same, worker', rfl⟩ := request read reading
        obtain rfl := inv.handlers g' g st' st present' present same
        rw [worker] at worker'
        cases worker'
        have own : some u.callID = some c' := by
          rw [← parsed]
          simp [CallUnaryWorker.request]
        exact Option.some.inj ((stored'.symm.trans stored).trans own.symm)
  · intro h v' resp handler' notifying'
    rcases Daemon.step_handler_cases stepped handler' with ⟨v, handler, -, -, kept⟩ |
        ⟨-, -, -, -, reading⟩ | ⟨v, f, req, call, c, reading, handler, -, read, unary, -, -, pc⟩
    · exact inv.notifying h v resp handler (kept resp notifying')
    · rw [reading] at notifying'
      cases notifying'
    · rw [pc] at notifying'
      cases notifying'
      obtain ⟨g, st, u, present, rfl, worker, rfl⟩ := request read reading
      obtain ⟨u₀, worker₀, -, -, v₀, handler₀, peer, -⟩ := inv.streams g st present
      rw [worker] at worker₀
      cases worker₀
      rw [handler] at handler₀
      cases handler₀
      simp only [CallUnaryWorker.request, Request.getCallUnary, Option.some.injEq] at unary
      subst unary
      intro call' handling
      cases handling
      exact ⟨g, u, worker, rfl, by rw [peer]⟩
  · intro sid resp listed
    rcases Daemon.step_written_origin inv.callee.responseInvariant stepped listed with old | plain |
        ⟨g, u, rr, -, -, rfl⟩ | ⟨h, v, handler, notifying, -⟩
    · exact inv.announced sid resp old
    · exact announces_of_plain plain
    · intro call handling
      cases handling
    · exact inv.notifying h v resp handler notifying

/-- A step of `B` keeps the invariant, provided a frame that an exchange reads
is one on its own stream. -/
theorem Integrity.caller_step (inv : w.Integrity) {a : Action} {t : Daemon}
    (stepped : w.caller.step a = some t)
    (reads : ∀ g f, a = .exchangeRead g (.ok f) → ∃ st, w.streams g = some st ∧ f ∈ st.toCaller) :
    { w with caller := t }.Integrity := by
  have keeps := Daemon.step_keeps inv.caller.fresh inv.caller.waiterInvariant stepped
  refine ⟨inv.callee, .step a inv.caller stepped,
    fun g st present => (inv.streams g st present).caller_keeps keeps, inv.handlers,
    fun h v resp handler notifying => (inv.notifying h v resp handler notifying).caller_keeps keeps,
    fun sid resp listed => (inv.announced sid resp listed).caller_keeps keeps, ?_, ?_, ?_⟩
  · intro g e' resp exchange sending
    rcases Daemon.step_exchange_sending stepped exchange sending with old | plain |
        ⟨u, f, req, reading, worker, read, rfl⟩
    · exact inv.sending g e' resp old sending
    · exact delivers_of_plain plain
    · obtain ⟨st, present, listed⟩ := reads g f reading
      obtain ⟨u₀, worker₀, -, toCaller, -⟩ := inv.streams g st present
      rw [worker] at worker₀
      cases worker₀
      obtain ⟨gr, r, responder, callID, rfl⟩ := toCaller f listed
      obtain rfl := eq_of_readMsg_message read
      intro y payload
      simp only [Daemon.remoteResponse, UnaryResponseWorker.request, Request.getUnaryResponse,
        Option.some.injEq, ResponseMessage.callUnaryResponse.injEq] at payload
      exact ⟨gr, r, responder, by rw [callID]; rfl, payload⟩
  · intro g u' resp worker writing
    rcases Daemon.step_callWorker_writing stepped worker writing with ⟨u, worker₀, writing₀⟩ |
        ⟨e, exchange, sending⟩ | plain
    · exact inv.writing g u resp worker₀ writing₀
    · exact inv.sending g e resp exchange sending
    · exact delivers_of_plain plain
  · intro sid resp listed
    rcases Daemon.step_written_origin inv.caller.responseInvariant stepped listed with old | plain |
        ⟨g, u, rr, worker, writing, -⟩ | ⟨h, v, -, -, c, -, notified⟩
    · exact inv.delivered sid resp old
    · exact delivers_of_plain plain
    · exact inv.writing g u resp worker writing
    · rcases notified with ⟨call, -, rfl⟩ | rfl <;> intro y payload <;> cases payload

/-- Replacing stream `g` by a sound one whose handler no other stream has. -/
theorem Integrity.setStream (inv : w.Integrity) {g : Nat} {st : Stream} (sound : w.Sound g st)
    (unused : ∀ g' st', w.streams g' = some st' → st'.handler = st.handler → g' = g) :
    (w.setStream g st).Integrity := by
  refine ⟨inv.callee, inv.caller, forall_update_at inv.streams sound, ?_, inv.notifying,
    inv.announced, inv.sending, inv.writing, inv.delivered⟩
  intro g₁ g₂ st₁ st₂ present₁ present₂ same
  rcases update_eq_some present₁ with ⟨rfl, rfl⟩ | ⟨-, old₁⟩ <;>
    rcases update_eq_some present₂ with ⟨rfl, rfl⟩ | ⟨-, old₂⟩
  · rfl
  · exact (unused g₂ st₂ old₂ same.symm).symm
  · exact unused g₁ st₁ old₁ same
  · exact inv.handlers g₁ g₂ st₁ st₂ old₁ old₂ same

/-- Replacing the frames in flight on stream `g` by sound ones. -/
theorem Integrity.setFrames (inv : w.Integrity) {g : Nat} {st st' : Stream}
    (present : w.streams g = some st) (handler : st'.handler = st.handler) (sound : w.Sound g st') :
    (w.setStream g st').Integrity :=
  inv.setStream sound fun g' _ present' same =>
    inv.handlers g' g _ st present' present (same.trans handler)

/-- Every event keeps the invariant. -/
theorem Integrity.step (inv : w.Integrity) {e : Event} {w' : World} (stepped : w.step e = some w') :
    w'.Integrity := by
  cases e with
  | callee a =>
    simp only [World.step] at stepped
    split at stepped
    · rename_i offStream
      obtain ⟨t, moved, rfl⟩ := Option.map_eq_some'.mp stepped
      exact inv.callee_step moved (by rintro h f rfl; simp [Action.offStream] at offStream)
    · cases stepped
  | caller a =>
    simp only [World.step] at stepped
    split at stepped
    · rename_i offStream
      obtain ⟨t, moved, rfl⟩ := Option.map_eq_some'.mp stepped
      exact inv.caller_step moved (by rintro g f rfl; simp [Action.offStream] at offStream)
    · cases stepped
  | connect g =>
    simp only [World.step] at stepped
    split at stepped
    · rename_i v absent worker
      split at stepped
      · split at stepped
        · split at stepped
          · cases stepped
            rename_i b' a' dialed accepted
            have inv' := (inv.callee_step accepted (by rintro h f ⟨⟩)).caller_step (t := b') dialed
              (by rintro g f ⟨⟩)
            obtain ⟨u, worker', -⟩ :=
              (Daemon.step_keeps inv.caller.fresh inv.caller.waiterInvariant dialed).callWorkers g v worker
            obtain ⟨h, handler, peer, none⟩ := Daemon.step_accept accepted
            refine inv'.setStream ⟨u, worker', by simp, by simp, h, handler, peer, by simp [none]⟩ ?_
            intro g' st' present' same
            obtain ⟨-, -, -, -, v', handler', -⟩ := inv.streams g' st' present'
            exact absurd (same ▸ inv.callee.fresh.routine_lt st'.handler (by simp [handler']))
              (lt_irrefl _)
          · cases stepped
        · cases stepped
      · cases stepped
    · cases stepped
  | send g =>
    simp only [World.step] at stepped
    split at stepped
    · rename_i st v present worker
      obtain ⟨b', wrote, rfl⟩ := Option.map_eq_some'.mp stepped
      have inv' := inv.caller_step wrote (by rintro g' f ⟨⟩)
      obtain ⟨v', worker', -, callID, call⟩ :=
        (Daemon.step_keeps inv.caller.fresh inv.caller.waiterInvariant wrote).callWorkers g v worker
      have request : v'.request = v.request := by simp [CallUnaryWorker.request, callID, call]
      rw [← request]
      exact inv'.setFrames present rfl ((inv'.streams g st present).send worker')
    · cases stepped
  | receive g =>
    simp only [World.step] at stepped
    split at stepped
    · rename_i st present
      split at stepped
      · rename_i f rest frames
        obtain ⟨a', read, rfl⟩ := Option.map_eq_some'.mp stepped
        have inv' := inv.callee_step read (by
          rintro h f' ⟨⟩
          exact ⟨g, st, present, rfl, by simp [frames]⟩)
        exact inv'.setFrames present rfl
          ((inv'.streams g st present).mono rfl (by simp [frames]) (fun _ => id))
      · split at stepped
        · obtain ⟨a', read, rfl⟩ := Option.map_eq_some'.mp stepped
          exact inv.callee_step read (by rintro h f ⟨⟩)
        · cases stepped
    · cases stepped
  | reply g =>
    simp only [World.step] at stepped
    split at stepped
    · rename_i st present
      split at stepped
      · rename_i response replying
        obtain ⟨a', wrote, rfl⟩ := Option.map_eq_some'.mp stepped
        obtain ⟨v, handler, pc⟩ := Option.map_eq_some'.mp replying
        obtain ⟨-, gr, r, responder, rfl, named⟩ :=
          (inv.callee.streamInvariant.handler _ v handler).1 response pc
        have inv' := inv.callee_step wrote (by rintro h f ⟨⟩)
        have keeps := Daemon.step_keeps inv.callee.fresh inv.callee.waiterInvariant wrote
        obtain ⟨r', responder', -, callID, response'⟩ := keeps.responseWorkers gr r responder
        obtain ⟨v', handler', -, -, named'⟩ := keeps.handlers _ v handler
        have request : r'.request = r.request := by
          simp [UnaryResponseWorker.request, callID, response']
        rw [← request]
        exact inv'.setFrames present rfl
          ((inv'.streams g st present).reply responder' handler' (by rw [named' _ named, callID]))
      · cases stepped
    · cases stepped
  | respond g =>
    simp only [World.step] at stepped
    split at stepped
    · rename_i st present
      split at stepped
      · rename_i f rest frames
        obtain ⟨b', read, rfl⟩ := Option.map_eq_some'.mp stepped
        have inv' := inv.caller_step read (by
          rintro g' f' ⟨⟩
          exact ⟨st, present, by simp [frames]⟩)
        exact inv'.setFrames present rfl
          ((inv'.streams g st present).mono rfl (fun _ => id) (by simp [frames]))
      · split at stepped
        · obtain ⟨b', read, rfl⟩ := Option.map_eq_some'.mp stepped
          exact inv.caller_step read (by rintro g' f ⟨⟩)
        · cases stepped
    · cases stepped
  | halfClose g =>
    simp only [World.step] at stepped
    split at stepped
    · split at stepped
      · obtain ⟨a', read, rfl⟩ := Option.map_eq_some'.mp stepped
        exact inv.callee_step read (by rintro h f ⟨⟩)
      · cases stepped
    · cases stepped

/-- The worlds that some schedule of events reaches from two daemons before
their first persistent connection. -/
inductive Reachable : World → Prop
  | init (calleeConfig callerConfig : Config) (calleeID callerID : PeerId) :
      Reachable (World.init calleeConfig callerConfig calleeID callerID)
  | step {w w' : World} (e : Event) : Reachable w → w.step e = some w' → Reachable w'

theorem Reachable.run {w w' : World} {events : List Event} (reachable : w.Reachable)
    (ran : w.run events = some w') : w'.Reachable := by
  induction events generalizing w with
  | nil => cases ran; exact reachable
  | cons e rest ih =>
      simp only [run_cons, Option.bind_eq_some] at ran
      obtain ⟨u, stepped, ran⟩ := ran
      exact ih (.step e reachable stepped) ran

theorem Reachable.integrity {w : World} (reachable : w.Reachable) : w.Integrity := by
  induction reachable with
  | init => exact integrity_init _ _ _ _
  | step _ _ stepped inv => exact inv.step stepped

end World

/-- Over every interleaving of two daemons and of the frames on the streams
between them, no call is crossed: the `RequestHandling` that `A`'s client
receives carries the call id, protocol and data of a `CallUnary` request that
`B`'s client made, with `B`'s peer id as its peer; and the payload of a
`CallUnaryResponse` that `B`'s client receives is what `A`'s client sent in an
`UnaryResponse` for that call id. -/
theorem calls_not_crossed {w : World} (reachable : w.Reachable) :
    (∀ sid cid call, some ⟨cid, some (.requestHandling call)⟩ ∈ w.callee.written sid →
      w.Asked cid call) ∧
    (∀ sid cid y, some ⟨cid, some (.callUnaryResponse (some y))⟩ ∈ w.caller.written sid →
      w.Answered cid y) :=
  have inv := reachable.integrity
  ⟨fun sid _ call listed => inv.announced sid _ listed call rfl,
    fun sid _ y listed => inv.delivered sid _ listed y rfl⟩

/-- `B`'s client calls `/p/a` on `A` with `data`; `A`'s client answers with
`answer`, which goes back over the stream and reaches `B`'s client. -/
def answerAcross (data : List UInt8) (answer : CallUnaryResponse) : List World.Event :=
  registerAndConnect ++
    [.caller (.readLoop 0 (some (.message (callUnaryRequest (sampleCallID 1) (callToCallee data))))),
      .caller (.callUnaryWorker 0), .connect 0, .send 0, .receive 0, .callee (.notify 1 false),
      .callee (.readLoop 0 (some (.message (unaryResponseRequest (sampleCallID 1) answer)))),
      .callee (.unaryResponseWorker 2), .callee (.deliver 1 2), .callee (.unaryResponseWorker 2),
      .reply 0, .respond 0, .caller (.receiveResponse 0), .caller (.callUnaryWorker 0)]

/-- The two daemons once `A`'s answer `[9]` to the call with data `[7]` has
reached `B`'s client. -/
def answered : World :=
  ((World.init largeConfig largeConfig calleeSample callerSample).run
    (answerAcross [7] (.response [9]))).getD
    (World.init largeConfig largeConfig calleeSample callerSample)

theorem answered_not_crossed :
    answered.Reachable ∧
      answered.callee.written 0 = [some (okUnaryCallResponse (sampleCallID 2)),
        some ⟨(sampleCallID 1).bytes, some (.requestHandling ⟨callerSample, "/p/a", [7]⟩)⟩,
        some (okUnaryCallResponse (sampleCallID 1))] ∧
      answered.caller.written 0 =
        [some ⟨(sampleCallID 1).bytes, some (.callUnaryResponse (some (.response [9])))⟩] ∧
      ((∀ sid cid call, some ⟨cid, some (.requestHandling call)⟩ ∈ answered.callee.written sid →
          answered.Asked cid call) ∧
        (∀ sid cid y, some ⟨cid, some (.callUnaryResponse (some y))⟩ ∈ answered.caller.written sid →
          answered.Answered cid y)) :=
  have ran : (World.init largeConfig largeConfig calleeSample callerSample).run
      (answerAcross [7] (.response [9])) = some answered := rfl
  have reachable : answered.Reachable := (World.Reachable.init _ _ _ _).run ran
  ⟨reachable, by decide, by decide, calls_not_crossed reachable⟩

end P2pd

import P2pd.State

/-!
# Steps of the persistent connection code

Every atomic step a goroutine of `persistent_stream.go` takes, as a partial
function on the daemon: `none` when the step is not enabled.  A step is one
operation on shared state (a `sync.Map` call, a critical section under
`d.mx`, a frame handed to a writer, a select taking one of its ready cases)
together with the local computation up to the next one.  Where the outcome
depends on the world outside the daemon (the client's frames, the host's
`NewStream`, a remote peer's stream), the outcome is an argument of the
action.  A select with several ready cases may take any of them, as Go's does.
-/

namespace P2pd

namespace Daemon

/-! ## Goroutine records -/

/-- Replace the record of an `AddUnaryHandler` worker. -/
@[simp] def setAddWorker (s : Daemon) (g : Nat) (w : AddUnaryHandlerWorker) : Daemon :=
  { s with addWorkers := Function.update s.addWorkers g (some w) }

/-- Replace the record of a `CallUnary` worker. -/
@[simp] def setCallWorker (s : Daemon) (g : Nat) (w : CallUnaryWorker) : Daemon :=
  { s with callWorkers := Function.update s.callWorkers g (some w) }

/-- Replace the record of the `exchangeMessages` goroutine of a call worker. -/
@[simp] def setExchange (s : Daemon) (g : Nat) (e : ExchangeMessages) : Daemon :=
  { s with exchanges := Function.update s.exchanges g (some e) }

/-- Replace the record of an `UnaryResponse` worker. -/
@[simp] def setResponseWorker (s : Daemon) (g : Nat) (w : UnaryResponseWorker) : Daemon :=
  { s with responseWorkers := Function.update s.responseWorkers g (some w) }

/-- Replace the record of a `Cancel` worker. -/
@[simp] def setCancelWorker (s : Daemon) (g : Nat) (w : CancelWorker) : Daemon :=
  { s with cancelWorkers := Function.update s.cancelWorkers g (some w) }

/-- Replace the record of an inbound handler. -/
@[simp] def setHandler (s : Daemon) (h : Nat) (v : StreamHandler) : Daemon :=
  { s with inboundHandlers := Function.update s.inboundHandlers h (some v) }

/-- Replace the program counter of the `awaitReadFail` goroutine of a handler. -/
@[simp] def setWatcher (s : Daemon) (h : Nat) (pc : AwaitReadFailPc) : Daemon :=
  { s with readFailWatchers := Function.update s.readFailWatchers h (some pc) }

/-! ## `handleUpgradedConn` -/

/-- The prologue of `handleUpgradedConn`: the session joins `terminateWG` and
`terminateOnce` starts the termination watcher. -/
def startSession (s : Daemon) : Daemon :=
  { s with
    sessions := Function.update s.sessions s.nextSession (some ⟨.reading, []⟩)
    nextSession := s.nextSession + 1
    terminateWG := s.terminateWG + 1
    terminateStarted := true }

/-- The `go func() {...}()` of the request loop for a request whose `call_id`
parsed as `callID`: the worker its variant asks for, none for an unset oneof. -/
def spawnWorker (s : Daemon) (session : Nat) (callID : Uuid) :
    Option RequestMessage → Daemon
  | some (.addUnaryHandler proto) =>
      { s.setAddWorker s.nextRoutine ⟨session, callID, proto, .start⟩ with
        nextRoutine := s.nextRoutine + 1 }
  | some (.callUnary call) =>
      { s.setCallWorker s.nextRoutine ⟨session, callID, call, false, false, .start⟩ with
        nextRoutine := s.nextRoutine + 1 }
  | some (.unaryResponse response) =>
      { s.setResponseWorker s.nextRoutine ⟨session, callID, response, .start⟩ with
        nextRoutine := s.nextRoutine + 1 }
  | some .cancel =>
      { s.setCancelWorker s.nextRoutine ⟨session, callID, .start⟩ with
        nextRoutine := s.nextRoutine + 1 }
  | none => s

section spawnWorker

variable (s : Daemon) (session : Nat) (callID : Uuid) (msg : Option RequestMessage)

@[simp] theorem spawnWorker_registeredUnaryProtocols :
    (s.spawnWorker session callID msg).registeredUnaryProtocols = s.registeredUnaryProtocols := by
  rcases msg with _ | ⟨_⟩ | _ | _ | _ <;> rfl

@[simp] theorem spawnWorker_hostHandlers :
    (s.spawnWorker session callID msg).hostHandlers = s.hostHandlers := by
  rcases msg with _ | ⟨_⟩ | _ | _ | _ <;> rfl

@[simp] theorem spawnWorker_sessions :
    (s.spawnWorker session callID msg).sessions = s.sessions := by
  rcases msg with _ | ⟨_⟩ | _ | _ | _ <;> rfl

@[simp] theorem spawnWorker_written :
    (s.spawnWorker session callID msg).written = s.written := by
  rcases msg with _ | ⟨_⟩ | _ | _ | _ <;> rfl

@[simp] theorem spawnWorker_cancelUnary :
    (s.spawnWorker session callID msg).cancelUnary = s.cancelUnary := by
  rcases msg with _ | ⟨_⟩ | _ | _ | _ <;> rfl

@[simp] theorem spawnWorker_responseWaiters :
    (s.spawnWorker session callID msg).responseWaiters = s.responseWaiters := by
  rcases msg with _ | ⟨_⟩ | _ | _ | _ <;> rfl

@[simp] theorem spawnWorker_exchanges :
    (s.spawnWorker session callID msg).exchanges = s.exchanges := by
  rcases msg with _ | ⟨_⟩ | _ | _ | _ <;> rfl

@[simp] theorem spawnWorker_inboundHandlers :
    (s.spawnWorker session callID msg).inboundHandlers = s.inboundHandlers := by
  rcases msg with _ | ⟨_⟩ | _ | _ | _ <;> rfl

@[simp] theorem spawnWorker_readFailWatchers :
    (s.spawnWorker session callID msg).readFailWatchers = s.readFailWatchers := by
  rcases msg with _ | ⟨_⟩ | _ | _ | _ <;> rfl

@[simp] theorem spawnWorker_crashed :
    (s.spawnWorker session callID msg).crashed = s.crashed := by
  rcases msg with _ | ⟨_⟩ | _ | _ | _ <;> rfl

@[simp] theorem spawnWorker_terminateWG :
    (s.spawnWorker session callID msg).terminateWG = s.terminateWG := by
  rcases msg with _ | ⟨_⟩ | _ | _ | _ <;> rfl

@[simp] theorem spawnWorker_nextSession :
    (s.spawnWorker session callID msg).nextSession = s.nextSession := by
  rcases msg with _ | ⟨_⟩ | _ | _ | _ <;> rfl

end spawnWorker

/-- One turn of the request loop of `handleUpgradedConn` on what `r.ReadMsg`
met, `none` for a read that failed without a frame.  A failed read returns,
and the deferred `terminateWG.Done` runs before the deferred cleanup; a
request whose call id does not parse is skipped. -/
def readLoop (s : Daemon) (session : Nat) (frame : Option Frame) : Option Daemon :=
  match s.sessions session with
  | some ⟨.reading, handlers⟩ =>
      match frame.map (readMsg s.config.persistentConnMaxMsgSize) with
      | some (.ok req) =>
          match Uuid.fromBytes req.callId with
          | some callID => some (s.spawnWorker session callID req.message)
          | none => some s
      | _ =>
          some { s with
            sessions := Function.update s.sessions session (some ⟨.exiting, handlers⟩)
            terminateWG := s.terminateWG - 1 }
  | _ => none

/-- One turn of the cleanup loop: `d.host.RemoveStreamHandler(p)` and
`d.registeredUnaryProtocols[p] = false`. -/
def removeUnaryHandler (s : Daemon) (proto : String) : Daemon :=
  { s with
    hostHandlers := Function.update s.hostHandlers proto none
    registeredUnaryProtocols := Function.update s.registeredUnaryProtocols proto false }

/-- The cleanup loop removes exactly the handlers and registrations of the
protocols it goes over. -/
theorem foldl_removeUnaryHandler (s : Daemon) (protos : List String) :
    protos.foldl removeUnaryHandler s =
      { s with
        hostHandlers := fun p => if p ∈ protos then none else s.hostHandlers p
        registeredUnaryProtocols := fun p =>
          if p ∈ protos then false else s.registeredUnaryProtocols p } := by
  induction protos generalizing s with
  | nil => rfl
  | cons proto rest ih =>
      rw [List.foldl_cons, ih]
      simp only [removeUnaryHandler, List.mem_cons, Function.update_apply]
      congr 1 <;> funext p <;> by_cases inRest : p ∈ rest <;> by_cases isHead : p = proto <;>
        simp [inRest, isHead]

/-- The deferred cleanup of `handleUpgradedConn` under `d.mx`, over the
`streamHandlers` slice as it stands when the cleanup runs. -/
def cleanup (s : Daemon) (session : Nat) : Option Daemon :=
  match s.sessions session with
  | some ⟨.exiting, handlers⟩ =>
      some { handlers.foldl removeUnaryHandler s with
        sessions := Function.update s.sessions session (some ⟨.returned, handlers⟩) }
  | _ => none

/-! ## `AddUnaryHandler` -/

/-- `doAddUnaryHandler` under `d.mx`: the daemon after it and the response.
The handler it installs is the one built over the session's writer. -/
def doAddUnaryHandler (s : Daemon) (session : Nat) (callID : Uuid) (proto : String) :
    Daemon × Response :=
  if s.registeredUnaryProtocols proto then
    (s, errorUnaryCallString callID ("handler for protocol " ++ proto ++ " already set"))
  else
    ({ s with
        hostHandlers := Function.update s.hostHandlers proto (some session)
        registeredUnaryProtocols := Function.update s.registeredUnaryProtocols proto true },
      okUnaryCallResponse callID)

/-- The append to `streamHandlers` under `d.mx`, on the session's slice
whether or not the session has returned. -/
def appendStreamHandler (s : Daemon) (session : Nat) (proto : String) : Daemon :=
  { s with
    sessions := Function.update s.sessions session
      ((s.sessions session).map fun (t : Session) =>
        { t with streamHandlers := t.streamHandlers ++ [proto] }) }

/-- The next step of an `AddUnaryHandler` worker. -/
def addUnaryHandlerWorker (s : Daemon) (g : Nat) : Option Daemon :=
  match s.addWorkers g with
  | some w =>
      match w.pc with
      | .start =>
          let added := s.doAddUnaryHandler w.session w.callID w.proto
          some (added.1.setAddWorker g { w with pc := .appending added.2 })
      | .appending resp =>
          some ((if resp.isDaemonError then s else s.appendStreamHandler w.session w.proto
            ).setAddWorker g { w with pc := .writing resp })
      | .writing resp =>
          some ((s.writeMsg w.session (some resp)).setAddWorker g { w with pc := .finished })
      | .finished => none
  | none => none

/-! ## `CallUnary` -/

/-- The host's answer to `d.host.NewStream(ctx, pid, proto)`. -/
inductive DialOutcome
  | opened
  | failed (err : String)
  /-- `NewStream` gave up on a cancelled context and returned `ctx.Err()`. -/
  | canceled

/-- The steps of a `CallUnary` worker that need no input: the `Store` of its
cancel function, the write of its response, and its deferred `Delete` and
`cancel`. -/
def callUnaryWorker (s : Daemon) (g : Nat) : Option Daemon :=
  match s.callWorkers g with
  | some w =>
      match w.pc with
      | .start =>
          some ({ s with cancelUnary := Function.update s.cancelUnary w.callID (some g) }
            |>.setCallWorker g { w with pc := .dialing })
      | .writing resp =>
          some ((s.writeMsg w.session resp).setCallWorker g { w with pc := .exiting })
      | .exiting =>
          some ({ s with cancelUnary := Function.update s.cancelUnary w.callID none }
            |>.setCallWorker g { w with cancelled := true, pc := .finished })
      | _ => none
  | none => none

/-- `doUnaryCall` up to its select: `peer.IDFromBytes`, then `NewStream`, whose
stream starts the `exchangeMessages` goroutine. -/
def dial (s : Daemon) (g : Nat) (outcome : DialOutcome) : Option Daemon :=
  match s.callWorkers g with
  | some w =>
      match w.pc with
      | .dialing =>
          match s.config.idFromBytes w.call.peer with
          | .error err =>
              some (s.setCallWorker g { w with pc := .writing (some (errorUnaryCall w.callID err)) })
          | .ok _ =>
              match outcome with
              | .opened =>
                  some ((s.setExchange g ⟨[], .writing⟩).setCallWorker g { w with pc := .selecting })
              | .failed err =>
                  some (s.setCallWorker g
                    { w with pc := .writing (some (errorUnaryCall w.callID err)) })
              | .canceled =>
                  if w.cancelled then
                    some (s.setCallWorker g
                      { w with pc := .writing (some (errorUnaryCall w.callID contextCanceled)) })
                  else none
      | _ => none
  | none => none

/-- The case `response := <-rc` of `doUnaryCall`'s select: a response the
exchange is sending, or the zero value of the closed channel; the deferred
`remoteStream.Close()` follows. -/
def receiveResponse (s : Daemon) (g : Nat) : Option Daemon :=
  match s.callWorkers g, s.exchanges g with
  | some w, some e =>
      if w.pc = .selecting then
        match e.pc with
        | .sendingError resp | .sendingResponse resp =>
            some ((s.setExchange g { e with pc := .finished }).setCallWorker g
              { w with streamClosed := true, pc := .writing (some resp) })
        | .finished =>
            some (s.setCallWorker g { w with streamClosed := true, pc := .writing none })
        | _ => none
      else none
  | _, _ => none

/-- The case `<-ctx.Done()` of `doUnaryCall`'s select, then the deferred
`remoteStream.Close()`. -/
def receiveDone (s : Daemon) (g : Nat) : Option Daemon :=
  match s.callWorkers g with
  | some w =>
      if w.pc = .selecting ∧ w.cancelled then
        some (s.setCallWorker g
          { w with streamClosed := true, pc := .writing (some (okCancelled w.callID)) })
      else none
  | none => none

/-- The `callID` of `exchangeMessages`, parsed again from the request with its
error ignored. -/
def exchangeCallID (w : CallUnaryWorker) : Uuid :=
  (Uuid.fromBytes w.request.callId).getD Uuid.nil

/-- `WriteMsg(req)` of `exchangeMessages` with its outcome, then the check of
`ctx.Err()`.  A write on a stream the worker has closed fails. -/
def exchangeWrite (s : Daemon) (g : Nat) (error : Option String) : Option Daemon :=
  match s.callWorkers g, s.exchanges g with
  | some w, some e =>
      if e.pc = .writing ∧ (w.streamClosed → error.isSome) then
        some (s.setExchange g
          { written := if error.isNone then e.written ++ [w.request] else e.written
            pc :=
              if w.cancelled then .finished
              else match error with
                | some err => .sendingError (errorUnaryCall (exchangeCallID w) err)
                | none => .reading })
      else none
  | _, _ => none

/-- The response `exchangeMessages` builds from the remote peer's request. -/
def remoteResponse (callID : Uuid) (remoteResp : Request) : Response :=
  ⟨callID.bytes, some (.callUnaryResponse remoteResp.getUnaryResponse)⟩

/-- `ReadMsg(remoteResp)` of `exchangeMessages` on what the stream delivered,
then the check of `ctx.Err()`.  A read on a stream the worker has closed fails. -/
def exchangeRead (s : Daemon) (g : Nat) (result : Except String Frame) : Option Daemon :=
  match s.callWorkers g, s.exchanges g with
  | some w, some e =>
      if e.pc = .reading ∧ (w.streamClosed → result.isOk = false) then
        some (s.setExchange g
          { e with
            pc :=
              if w.cancelled then .finished
              else match result.bind (readMsg messageSizeMax) with
                | .error err => .sendingError (errorUnaryCall (exchangeCallID w) err)
                | .ok remoteResp => .sendingResponse (remoteResponse (exchangeCallID w) remoteResp) })
      else none
  | _, _ => none

/-- The case `<-ctx.Done()` of the final select of `exchangeMessages`. -/
def exchangeAbandon (s : Daemon) (g : Nat) : Option Daemon :=
  match s.callWorkers g, s.exchanges g with
  | some w, some e =>
      match e.pc with
      | .sendingResponse _ =>
          if w.cancelled then some (s.setExchange g { e with pc := .finished }) else none
      | _ => none
  | _, _ => none

/-! ## `UnaryResponse` and `Cancel` -/

/-- `doSendReponseToRemote` up to its send: the response it returns without
sending, or the handler whose channel it sends on. -/
def doSendReponseToRemote (s : Daemon) (req : Request) : UnaryResponsePc :=
  match Uuid.fromBytes req.callId with
  | none =>
      .writing (errorUnaryCallString Uuid.nil "malformed request: call id not in UUID format")
  | some callID =>
      match s.responseWaiters callID with
      | none =>
          .writing (errorUnaryCallString callID
            ("Response for call id " ++ callID.formatDecimal ++ " not requested or cancelled"))
      | some handler => .sending handler

/-- The steps of an `UnaryResponse` worker of its own: the `Load` and the
write of its response.  Its send is taken by the handler's select. -/
def unaryResponseWorker (s : Daemon) (g : Nat) : Option Daemon :=
  match s.responseWorkers g with
  | some w =>
      match w.pc with
      | .start => some (s.setResponseWorker g { w with pc := s.doSendReponseToRemote w.request })
      | .writing resp =>
          some ((s.writeMsg w.session (some resp)).setResponseWorker g { w with pc := .finished })
      | _ => none
  | none => none

/-- The steps of a `Cancel` worker: `cancelUnary.Load`, then the call of the
cancel function it found. -/
def cancelWorker (s : Daemon) (g : Nat) : Option Daemon :=
  match s.cancelWorkers g with
  | some w =>
      match w.pc with
      | .start =>
          some (s.setCancelWorker g
            { w with pc := match s.cancelUnary w.callID with
                | some worker => .calling worker
                | none => .finished })
      | .calling worker =>
          some ({ s with
              callWorkers := Function.update s.callWorkers worker
                ((s.callWorkers worker).map fun (v : CallUnaryWorker) => { v with cancelled := true }) }
            |>.setCancelWorker g { w with pc := .finished })
      | .finished => none
  | none => none

/-! ## Inbound streams -/

/-- The host hands an inbound stream on `proto` from `remotePeer` to the
handler installed for `proto`, which starts on it. -/
def accept (s : Daemon) (proto : String) (remotePeer : PeerId) : Option Daemon :=
  match s.hostHandlers proto with
  | some session =>
      some { s.setHandler s.nextRoutine ⟨session, remotePeer, none, false, [], false, .reading⟩ with
        nextRoutine := s.nextRoutine + 1 }
  | none => none

/-- The handler's `ReadMsg(req)` on what the stream delivered, the overwrite
of `req.GetCallUnary().Peer`, which panics on a request of another variant,
the parse of the call id and the `Store` of its channel.  A failed read or a
bad call id returns through the deferred `s.Close()`. -/
def streamHandlerRead (s : Daemon) (h : Nat) (result : Except String Frame) :
    Option Daemon :=
  match s.inboundHandlers h with
  | some v =>
      if v.pc = .reading then
        match result.bind (readMsg messageSizeMax) with
        | .error _ => some (s.setHandler h { v with closed := true, pc := .finished })
        | .ok req =>
            match req.getCallUnary with
            | none => some { s with crashed := true }
            | some call =>
                match Uuid.fromBytes req.callId with
                | none => some (s.setHandler h { v with closed := true, pc := .finished })
                | some callID =>
                    some ({ s with responseWaiters := Function.update s.responseWaiters callID (some h) }
                      |>.setHandler h
                        { v with
                          callID := some callID
                          pc := .notifying ⟨req.callId,
                            some (.requestHandling { call with peer := v.remotePeer })⟩ })
      else none
  | none => none

/-- The handler's `RequestHandling` write to the client, with its outcome: a
failed write returns through the defers, and otherwise the select starts
`awaitReadFail`. -/
def notify (s : Daemon) (h : Nat) (failed : Bool) : Option Daemon :=
  match s.inboundHandlers h with
  | some v =>
      match v.pc with
      | .notifying resp =>
          if failed then
            some ((s.writeMsg v.session (some resp)).setHandler h { v with pc := .exiting })
          else
            some (((s.writeMsg v.session (some resp)).setWatcher h .reading).setHandler h
              { v with pc := .selecting })
      | _ => none
  | none => none

/-- The handler's other steps that need no input: the `Cancel` write of the
half-close branch, and the deferred `cancel`, `responseWaiters.Delete` and
`s.Close()`. -/
def streamHandler (s : Daemon) (h : Nat) : Option Daemon :=
  match s.inboundHandlers h with
  | some v =>
      match v.pc, v.callID with
      | .cancelling, some callID =>
          some ((s.writeMsg v.session (some ⟨callID.bytes, some .cancel⟩)).setHandler h
            { v with pc := .exiting })
      | .exiting, some callID =>
          some ({ s with responseWaiters := Function.update s.responseWaiters callID none }
            |>.setHandler h { v with cancelled := true, closed := true, pc := .finished })
      | _, _ => none
  | none => none

/-- The case `<-awaitReadFail(ctx, s)` of the handler's select: the watcher is
sending after a failed read, or has returned and closed its channel. -/
def halfClosed (s : Daemon) (h : Nat) : Option Daemon :=
  match s.inboundHandlers h, s.readFailWatchers h with
  | some v, some pc =>
      if v.pc = .selecting ∧ (pc = .signalling ∨ pc = .finished) then
        some ((s.setWatcher h .finished).setHandler h { v with pc := .cancelling })
      else none
  | _, _ => none

/-- The case `response := <-rc` of the handler's select, met by the send of an
`UnaryResponse` worker, which then returns `Ok`. -/
def deliver (s : Daemon) (h g : Nat) : Option Daemon :=
  match s.inboundHandlers h, s.responseWorkers g with
  | some v, some w =>
      if v.pc = .selecting ∧ w.pc = .sending h then
        some ((s.setHandler h { v with pc := .replying w.request }).setResponseWorker g
          { w with pc := .writing (okUnaryCallResponse w.callID) })
      else none
  | _, _ => none

/-- The handler writes the client's request to the stream, with the outcome
of the write. -/
def streamHandlerReply (s : Daemon) (h : Nat) (error : Option String) : Option Daemon :=
  match s.inboundHandlers h with
  | some v =>
      match v.pc with
      | .replying response =>
          some (s.setHandler h
            { v with
              written := if error.isNone then v.written ++ [response] else v.written
              pc := .exiting })
      | _ => none
  | none => none

/-- The one-byte read of `awaitReadFail`: a failure leads to its send, a byte
read returns and closes the channel.  Nothing is read from a closed stream. -/
def awaitReadFailRead (s : Daemon) (h : Nat) (failed : Bool) : Option Daemon :=
  match s.inboundHandlers h, s.readFailWatchers h with
  | some v, some .reading =>
      if v.closed ∧ !failed then none
      else some (s.setWatcher h (if failed then .signalling else .finished))
  | _, _ => none

/-- The case `<-ctx.Done()` of the select of `awaitReadFail`. -/
def awaitReadFailGiveUp (s : Daemon) (h : Nat) : Option Daemon :=
  match s.inboundHandlers h, s.readFailWatchers h with
  | some v, some .signalling => if v.cancelled then some (s.setWatcher h .finished) else none
  | _, _ => none

end Daemon

/-! ## Runs -/

/-- One atomic step: which goroutine moves, which case its select takes, and
what the world outside the daemon answers. -/
inductive Action
  | startSession
  | readLoop (session : Nat) (frame : Option Frame)
  | cleanup (session : Nat)
  | addUnaryHandlerWorker (worker : Nat)
  | callUnaryWorker (worker : Nat)
  | dial (worker : Nat) (outcome : Daemon.DialOutcome)
  | receiveResponse (worker : Nat)
  | receiveDone (worker : Nat)
  | exchangeWrite (worker : Nat) (error : Option String)
  | exchangeRead (worker : Nat) (result : Except String Frame)
  | exchangeAbandon (worker : Nat)
  | unaryResponseWorker (worker : Nat)
  | cancelWorker (worker : Nat)
  | accept (proto : String) (remotePeer : PeerId)
  | streamHandlerRead (handler : Nat) (result : Except String Frame)
  | notify (handler : Nat) (failed : Bool)
  | streamHandler (handler : Nat)
  | halfClosed (handler : Nat)
  | deliver (handler worker : Nat)
  | streamHandlerReply (handler : Nat) (error : Option String)
  | awaitReadFailRead (handler : Nat) (failed : Bool)
  | awaitReadFailGiveUp (handler : Nat)

namespace Daemon

/-- The daemon after one action, `none` when it is not enabled.  Nothing runs
once a goroutine has panicked. -/
def step (s : Daemon) (a : Action) : Option Daemon :=
  if s.crashed then none else
  match a with
  | .startSession => some s.startSession
  | .readLoop session frame => s.readLoop session frame
  | .cleanup session => s.cleanup session
  | .addUnaryHandlerWorker g => s.addUnaryHandlerWorker g
  | .callUnaryWorker g => s.callUnaryWorker g
  | .dial g outcome => s.dial g outcome
  | .receiveResponse g => s.receiveResponse g
  | .receiveDone g => s.receiveDone g
  | .exchangeWrite g error => s.exchangeWrite g error
  | .exchangeRead g result => s.exchangeRead g result
  | .exchangeAbandon g => s.exchangeAbandon g
  | .unaryResponseWorker g => s.unaryResponseWorker g
  | .cancelWorker g => s.cancelWorker g
  | .accept proto remotePeer => s.accept proto remotePeer
  | .streamHandlerRead h result => s.streamHandlerRead h result
  | .notify h failed => s.notify h failed
  | .streamHandler h => s.streamHandler h
  | .halfClosed h => s.halfClosed h
  | .deliver h g => s.deliver h g
  | .streamHandlerReply h error => s.streamHandlerReply h error
  | .awaitReadFailRead h failed => s.awaitReadFailRead h failed
  | .awaitReadFailGiveUp h => s.awaitReadFailGiveUp h

/-- The daemon after a schedule of actions, if each was enabled in turn. -/
def run (s : Daemon) : List Action → Option Daemon
  | [] => some s
  | a :: rest => (s.step a).bind fun t => t.run rest

@[simp] theorem run_nil (s : Daemon) : s.run [] = some s := rfl

@[simp] theorem run_cons (s : Daemon) (a : Action) (rest : List Action) :
    s.run (a :: rest) = (s.step a).bind fun t => t.run rest := rfl

theorem run_append {s t : Daemon} {first : List Action} (second : List Action)
    (ran : s.run first = some t) : s.run (first ++ second) = t.run second := by
  induction first generalizing s with
  | nil => cases ran; rfl
  | cons a rest ih =>
      simp only [run_cons, Option.bind_eq_some] at ran
      obtain ⟨u, stepped, ran⟩ := ran
      simp [stepped, ih ran]

end Daemon

/-- The daemons some schedule reaches from a fresh one. -/
inductive Reachable : Daemon → Prop
  | init (config : Config) : Reachable (Daemon.init config)
  | step {s t : Daemon} (a : Action) : Reachable s → s.step a = some t → Reachable t

theorem Reachable.run {s t : Daemon} {actions : List Action}
    (reachable : Reachable s) (ran : s.run actions = some t) : Reachable t := by
  induction actions generalizing s with
  | nil => cases ran; exact reachable
  | cons a rest ih =>
      simp only [Daemon.run_cons, Option.bind_eq_some] at ran
      obtain ⟨u, stepped, ran⟩ := ran
      exact ih (.step a reachable stepped) ran

/-- Induction over reachable daemons: an invariant that holds of every fresh
daemon and survives every enabled step holds of every reachable one. -/
theorem Reachable.induction {P : Daemon → Prop} (initial : ∀ config, P (Daemon.init config))
    (preserved : ∀ s t a, Reachable s → P s → s.step a = some t → P t)
    {s : Daemon} (reachable : Reachable s) : P s := by
  induction reachable with
  | init config => exact initial config
  | step a reachable stepped ih => exact preserved _ _ a reachable ih stepped

end P2pd

import P2pd.Wire
import Mathlib.Logic.Function.Basic

/-!
# Daemon state

The state of one daemon as the persistent connection code sees it: the
protocol registry and the host's handler table guarded by `d.mx`, the two
call registries `cancelUnary` and `responseWaiters`, the sessions served by
`handleUpgradedConn`, and every goroutine the code spawns, each with its
program counter.  A goroutine keeps its record once it has finished, so a
state also records which goroutines ever ran.

Goroutines are named by a fresh number.  The `exchangeMessages` goroutine of a
unary call is filed under its call worker's number, and the `awaitReadFail`
goroutine of an inbound handler under the handler's number.  A cancel function
is named by the call worker that owns its context, and a waiter channel by the
inbound handler that made it.  A session's safe writer is named by the
session, so the handler `getPersistentStreamHandler(w)` builds is the number of
the session whose writer it closes over.
-/

namespace P2pd

/-- The configuration the persistent connection code reads. -/
structure Config where
  /-- `persistentConnMaxMsgSize`, the limit of the client leg's reader. -/
  persistentConnMaxMsgSize : Nat
  /-- `peer.IDFromBytes`, with its error text. -/
  idFromBytes : List UInt8 → Except String PeerId

/-- Where `handleUpgradedConn` stands. -/
inductive SessionPhase
  /-- In the request loop. -/
  | reading
  /-- `ReadMsg` failed and `terminateWG.Done` ran; the deferred cleanup has not. -/
  | exiting
  /-- The deferred cleanup ran: `handleUpgradedConn` has returned. -/
  | returned
  deriving DecidableEq

/-- The locals of `handleUpgradedConn` the persistent connection code shares. -/
structure Session where
  /-- Where the session stands. -/
  phase : SessionPhase
  /-- The `streamHandlers` slice, appended to by the `AddUnaryHandler` workers. -/
  streamHandlers : List String
  deriving DecidableEq

/-- Where an `AddUnaryHandler` worker stands. -/
inductive AddUnaryHandlerPc
  | start
  /-- `doAddUnaryHandler` returned `resp`; the append under `d.mx` is next. -/
  | appending (resp : Response)
  | writing (resp : Response)
  | finished
  deriving DecidableEq

/-- The goroutine `handleUpgradedConn` spawns for `AddUnaryHandler`. -/
structure AddUnaryHandlerWorker where
  session : Nat
  callID : Uuid
  /-- `*req.GetAddUnaryHandler().Proto`. -/
  proto : String
  pc : AddUnaryHandlerPc
  deriving DecidableEq

/-- Where a `CallUnary` worker stands. -/
inductive CallUnaryPc
  /-- Spawned; `context.WithCancel` and `cancelUnary.Store` are next. -/
  | start
  /-- In `doUnaryCall`, before `peer.IDFromBytes` and `host.NewStream`. -/
  | dialing
  /-- In `doUnaryCall`'s select over the exchange's channel and `ctx.Done()`. -/
  | selecting
  /-- `doUnaryCall` returned `resp`, nil included, and `w.WriteMsg(resp)` is next. -/
  | writing (resp : Option Response)
  /-- The deferred `cancelUnary.Delete` and `cancel` are next. -/
  | exiting
  | finished
  deriving DecidableEq

/-- The goroutine `handleUpgradedConn` spawns for `CallUnary`.  Its request is
the one read from the client, whose `call_id` parsed as `callID`. -/
structure CallUnaryWorker where
  session : Nat
  callID : Uuid
  /-- `req.GetCallUnary()`. -/
  call : CallUnaryRequest
  /-- Whether its context has been cancelled, `ctx.Err() != nil`. -/
  cancelled : Bool
  /-- Whether `doUnaryCall`'s deferred `remoteStream.Close()` ran. -/
  streamClosed : Bool
  pc : CallUnaryPc
  deriving DecidableEq

/-- The request a `CallUnary` worker was spawned for, `&req`. -/
def CallUnaryWorker.request (w : CallUnaryWorker) : Request :=
  ⟨w.callID.bytes, some (.callUnary w.call)⟩

/-- Where an `exchangeMessages` goroutine stands. -/
inductive ExchangeMessagesPc
  /-- `WriteMsg(req)` on the remote stream is next. -/
  | writing
  /-- `ReadMsg(remoteResp)` on the remote stream is next. -/
  | reading
  /-- Blocked in `rc <- errorUnaryCall(callID, err)`. -/
  | sendingError (resp : Response)
  /-- In the final select over `rc <- resp` and `ctx.Done()`. -/
  | sendingResponse (resp : Response)
  /-- Returned: `rc` is closed. -/
  | finished
  deriving DecidableEq

/-- The goroutine `exchangeMessages` starts, filed under its call worker. -/
structure ExchangeMessages where
  /-- The frames written to the remote stream. -/
  written : List Request
  pc : ExchangeMessagesPc
  deriving DecidableEq

/-- Where an `UnaryResponse` worker stands. -/
inductive UnaryResponsePc
  | start
  /-- Blocked in `rc <- req` on the channel of an inbound handler. -/
  | sending (handler : Nat)
  | writing (resp : Response)
  | finished
  deriving DecidableEq

/-- The goroutine `handleUpgradedConn` spawns for `UnaryResponse`.  Its request
is the one read from the client, whose `call_id` parsed as `callID`. -/
structure UnaryResponseWorker where
  session : Nat
  callID : Uuid
  /-- `req.GetUnaryResponse()`. -/
  response : CallUnaryResponse
  pc : UnaryResponsePc
  deriving DecidableEq

/-- The request an `UnaryResponse` worker was spawned for, `&req`. -/
def UnaryResponseWorker.request (w : UnaryResponseWorker) : Request :=
  ⟨w.callID.bytes, some (.unaryResponse w.response)⟩

/-- Where a `Cancel` worker stands. -/
inductive CancelPc
  | start
  /-- `cancelUnary.Load` found the cancel function of a call worker. -/
  | calling (worker : Nat)
  | finished
  deriving DecidableEq

/-- The goroutine `handleUpgradedConn` spawns for `Cancel`. -/
structure CancelWorker where
  session : Nat
  callID : Uuid
  pc : CancelPc
  deriving DecidableEq

/-- Where a handler built by `getPersistentStreamHandler` stands on one inbound
stream. -/
inductive StreamHandlerPc
  /-- `ReadMsg(req)` on the stream is next. -/
  | reading
  /-- The `RequestHandling` notification `resp` is to be written to the client. -/
  | notifying (resp : Response)
  /-- In the select over `awaitReadFail(ctx, s)` and `rc`. -/
  | selecting
  /-- The half-close branch: the `Cancel` notification is next. -/
  | cancelling
  /-- The reply branch: the client's request is to be written to the stream. -/
  | replying (response : Request)
  /-- The deferred `cancel`, `responseWaiters.Delete` and `s.Close()` are next. -/
  | exiting
  | finished
  deriving DecidableEq

/-- One run of the handler `getPersistentStreamHandler` returns, on one
inbound stream. -/
structure StreamHandler where
  /-- The session whose writer `cw` the handler closes over. -/
  session : Nat
  /-- `s.Conn().RemotePeer()`. -/
  remotePeer : PeerId
  /-- The call id once parsed from the request. -/
  callID : Option Uuid
  /-- Whether its context has been cancelled. -/
  cancelled : Bool
  /-- The frames written to the stream. -/
  written : List Request
  /-- Whether the deferred `s.Close()` ran. -/
  closed : Bool
  pc : StreamHandlerPc
  deriving DecidableEq

/-- Where an `awaitReadFail` goroutine stands. -/
inductive AwaitReadFailPc
  /-- The one-byte `r.Read` is next. -/
  | reading
  /-- The read failed: in the select over `semaphor <- struct{}{}` and `ctx.Done()`. -/
  | signalling
  /-- Returned: `semaphor` is closed. -/
  | finished
  deriving DecidableEq

/-- One daemon. -/
structure Daemon where
  config : Config
  /-- `d.registeredUnaryProtocols`; an absent key reads as `false`. -/
  registeredUnaryProtocols : String → Bool
  /-- The host's handler table for the protocols of `persistent_stream.go`: the
  session whose writer the installed handler closes over. -/
  hostHandlers : String → Option Nat
  /-- `d.cancelUnary`: the call worker whose cancel function is stored. -/
  cancelUnary : Uuid → Option Nat
  /-- `d.responseWaiters`: the inbound handler whose channel is stored. -/
  responseWaiters : Uuid → Option Nat
  /-- `d.terminateWG`'s counter. -/
  terminateWG : Nat
  /-- Whether `d.terminateOnce` has run. -/
  terminateStarted : Bool
  sessions : Nat → Option Session
  /-- The frames handed to each session's safe writer, in order; `none` is a
  nil message. -/
  written : Nat → List (Option Response)
  nextSession : Nat
  addWorkers : Nat → Option AddUnaryHandlerWorker
  callWorkers : Nat → Option CallUnaryWorker
  exchanges : Nat → Option ExchangeMessages
  responseWorkers : Nat → Option UnaryResponseWorker
  cancelWorkers : Nat → Option CancelWorker
  inboundHandlers : Nat → Option StreamHandler
  readFailWatchers : Nat → Option AwaitReadFailPc
  nextRoutine : Nat
  /-- A goroutine panicked, which ends the daemon. -/
  crashed : Bool

/-- A daemon before its first persistent connection. -/
def Daemon.init (config : Config) : Daemon where
  config := config
  registeredUnaryProtocols := fun _ => false
  hostHandlers := fun _ => none
  cancelUnary := fun _ => none
  responseWaiters := fun _ => none
  terminateWG := 0
  terminateStarted := false
  sessions := fun _ => none
  written := fun _ => []
  nextSession := 0
  addWorkers := fun _ => none
  callWorkers := fun _ => none
  exchanges := fun _ => none
  responseWorkers := fun _ => none
  cancelWorkers := fun _ => none
  inboundHandlers := fun _ => none
  readFailWatchers := fun _ => none
  nextRoutine := 0
  crashed := false

namespace Daemon

/-- `safeWriter.WriteMsg` of a session: one frame, never interleaved. -/
def writeMsg (s : Daemon) (session : Nat) (msg : Option Response) : Daemon :=
  { s with written := Function.update s.written session (s.written session ++ [msg]) }

@[simp] theorem writeMsg_written (s : Daemon) (session : Nat) (msg : Option Response) :
    (s.writeMsg session msg).written =
      Function.update s.written session (s.written session ++ [msg]) := rfl

end Daemon

end P2pd

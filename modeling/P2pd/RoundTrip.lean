import P2pd.World

/-!
# A unary call from one daemon to another

The client of `B` calls a protocol that the client of `A` registered.  The
frame crosses three legs: `B`'s client connection, read with the configured
`persistentConnMaxMsgSize`; the stream from `B` to `A`, whose reader at `A`
is `ggio.NewDelimitedReader(s, network.MessageSizeMax)`; and `A`'s client
connection.  A request that the first leg accepts and the second refuses is
dropped by `A`'s handler, and `B`'s client hears only the stream's end.
-/

namespace P2pd

namespace Daemon

variable {s : Daemon}

/-- The request loop spawns the worker of a request that fits the configured
limit and whose call id parses. -/
theorem readLoop_request {sid : Nat} {handlers : List String} {req : Request} {callID : Uuid}
    (present : s.sessions sid = some ⟨.reading, handlers⟩)
    (fits : req.encodedSize ≤ s.config.persistentConnMaxMsgSize)
    (parsed : Uuid.fromBytes req.callId = some callID) :
    s.readLoop sid (some (.message req)) = some (s.spawnWorker sid callID req.message) := by
  simp [readLoop, present, readMsg_message fits, parsed]

/-- A handler drops a stream whose request exceeds `network.MessageSizeMax`. -/
theorem streamHandlerRead_refused {h : Nat} {v : StreamHandler} {req : Request}
    (handler : s.inboundHandlers h = some v) (reading : v.pc = .reading)
    (refused : messageSizeMax < req.encodedSize) :
    s.streamHandlerRead h (.ok (.message req)) =
      some (s.setHandler h { v with closed := true, pc := .finished }) := by
  simp [streamHandlerRead, handler, reading, Except.bind, readMsg_oversized refused]

end Daemon

/-! ## A request between the two limits -/

/-- Persistent connections that take frames of up to 8 MiB. -/
def largeConfig : Config := ⟨8388608, multihashPeerId⟩

/-- `A`'s peer id in the runs below, the identity multihash of `[1]`. -/
def calleeSample : PeerId := [0, 1, 1]

/-- `B`'s peer id in the runs below, the identity multihash of `[2]`. -/
def callerSample : PeerId := [0, 1, 2]

/-- The call `B`'s client makes: `data` to `A` on `/p/a`. -/
def callToCallee (data : List UInt8) : CallUnaryRequest := ⟨calleeSample, "/p/a", data⟩

/-- `A`'s client registers `/p/a`, and `B`'s client starts its session. -/
def registerAndConnect : List World.Event :=
  [.callee .startSession,
    .callee (.readLoop 0 (some (.message (addUnaryHandlerRequest (sampleCallID 2) "/p/a")))),
    .callee (.addUnaryHandlerWorker 0), .callee (.addUnaryHandlerWorker 0),
    .callee (.addUnaryHandlerWorker 0), .caller .startSession]

/-- `B`'s client calls `/p/a` on `A` with `data`: `B`'s worker stores its
cancel function, opens the stream and writes the request, and `A`'s handler
reads it; `B`'s exchange then reads from the stream, and the worker writes
what it received and returns. -/
def callAcross (data : List UInt8) : List World.Event :=
  registerAndConnect ++
    [.caller (.readLoop 0 (some (.message (callUnaryRequest (sampleCallID 1) (callToCallee data))))),
      .caller (.callUnaryWorker 0), .connect 0, .send 0, .receive 0, .respond 0,
      .caller (.receiveResponse 0), .caller (.callUnaryWorker 0), .caller (.callUnaryWorker 0)]


/-- The length the call's frame announces, from the length of its data. -/
theorem callToCallee_encodedSize (data : List UInt8) :
    (callUnaryRequest (sampleCallID 1) (callToCallee data)).encodedSize =
      lengthDelimited 16 + lengthDelimited (lengthDelimited 3 + lengthDelimited 4 +
        lengthDelimited data.length) := rfl

/-- The world once `A`'s client has registered `/p/a` and `B`'s client has
connected. -/
def registered : World :=
  ((World.init largeConfig largeConfig calleeSample callerSample).run registerAndConnect).getD
    (World.init largeConfig largeConfig calleeSample callerSample)

/-- A call whose frame `B`'s client connection accepts and the stream's reader
at `A` refuses: `A`'s handler drops the stream, `A`'s client, still connected,
hears nothing of the call, and `B`'s client gets `DaemonError("EOF")`. -/
theorem oversized_call_dropped (data : List UInt8)
    (accepted : (callUnaryRequest (sampleCallID 1) (callToCallee data)).encodedSize ≤ 8388608)
    (refused : messageSizeMax < (callUnaryRequest (sampleCallID 1) (callToCallee data)).encodedSize) :
    ∃ w, (World.init largeConfig largeConfig calleeSample callerSample).run (callAcross data) =
        some w ∧
      (w.callee.sessions 0).map Session.phase = some .reading ∧
      w.callee.written 0 = [some (okUnaryCallResponse (sampleCallID 2))] ∧
      w.caller.written 0 = [some (errorUnaryCall (sampleCallID 1) eof)] := by
  have ran₁ : (World.init largeConfig largeConfig calleeSample callerSample).run
      registerAndConnect = some registered := rfl
  have present : registered.caller.sessions 0 = some ⟨.reading, []⟩ := rfl
  have step₂ : registered.step (.caller (.readLoop 0 (some (.message
      (callUnaryRequest (sampleCallID 1) (callToCallee data)))))) =
      (registered.caller.readLoop 0 (some (.message
        (callUnaryRequest (sampleCallID 1) (callToCallee data))))).map
        fun b' => { registered with caller := b' } := rfl
  rw [Daemon.readLoop_request present accepted (Uuid.fromBytes_bytes _), Option.map_some']
    at step₂
  rw [callAcross, World.run_append _ ran₁, World.run_cons, step₂, Option.some_bind]
  -- The payload is carried along but never measured again until `A` reads it.
  let u₂ : World := { registered with
    caller := registered.caller.spawnWorker 0 (sampleCallID 1)
      (some (.callUnary (callToCallee data))) }
  let u₃ := (u₂.run [.caller (.callUnaryWorker 0), .connect 0, .send 0]).getD u₂
  have ran₃ : u₂.run [.caller (.callUnaryWorker 0), .connect 0, .send 0] = some u₃ := rfl
  have handler₃ : u₃.callee.inboundHandlers 1 =
      some ⟨0, callerSample, none, false, [], false, .reading⟩ := rfl
  have step₄ : u₃.step (.receive 0) =
      (u₃.callee.streamHandlerRead 1 (.ok (.message
        (callUnaryRequest (sampleCallID 1) (callToCallee data))))).map
        fun a' => { u₃ with callee := a' }.setStream 0 ⟨1, [], []⟩ := rfl
  rw [Daemon.streamHandlerRead_refused handler₃ rfl refused, Option.map_some'] at step₄
  let u₄ := { u₃ with
    callee := u₃.callee.setHandler 1 ⟨0, callerSample, none, false, [], true, .finished⟩ }
    |>.setStream 0 ⟨1, [], []⟩
  let seg₃ : List World.Event := [.respond 0, .caller (.receiveResponse 0),
    .caller (.callUnaryWorker 0), .caller (.callUnaryWorker 0)]
  have ran₅ : u₄.run seg₃ = some ((u₄.run seg₃).getD u₄) := rfl
  show ∃ w,
    u₂.run ([.caller (.callUnaryWorker 0), .connect 0, .send 0] ++ .receive 0 :: seg₃) =
      some w ∧ _
  rw [World.run_append _ ran₃, World.run_cons, step₄, Option.some_bind]
  exact ⟨_, ran₅, rfl, rfl, rfl⟩

/-- With 5000000 bytes of data the call's frame is 5000039 bytes long: within
8 MiB and over `network.MessageSizeMax`, and the call is dropped. -/
theorem oversized_call_dropped_at_five_million_bytes :
    ∃ w, (World.init largeConfig largeConfig calleeSample callerSample).run
        (callAcross (List.replicate 5000000 0)) = some w ∧
      (w.callee.sessions 0).map Session.phase = some .reading ∧
      w.callee.written 0 = [some (okUnaryCallResponse (sampleCallID 2))] ∧
      w.caller.written 0 = [some (errorUnaryCall (sampleCallID 1) eof)] := by
  have size : (callUnaryRequest (sampleCallID 1)
      (callToCallee (List.replicate 5000000 0))).encodedSize = 5000039 := by
    rw [callToCallee_encodedSize, List.length_replicate]
    decide
  exact oversized_call_dropped _ (by rw [size]; decide) (by rw [size]; decide)

end P2pd

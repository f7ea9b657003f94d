import P2pd.Inbound

/-!
# Two daemons

A unary call crosses two daemons: the `CallUnary` worker of the caller `B`
opens a stream to the callee `A` with `NewStream`, and `A`'s host starts on it
the handler `getPersistentStreamHandler` built for the protocol.  The world
holds both daemons and, for each stream between them, the frames in flight
each way.  An event of the world is a step of one daemon that involves no
stream between them, or a step on a stream: its opening, which is `B`'s dial
and `A`'s accept at once; a frame written at one end, or read at the other;
or a read that meets the end of a stream the other side has closed.  No stream
is reset, and `A` makes no calls of its own to `B`.
-/

namespace P2pd

/-- What a read returns once the other end has closed the stream. -/
def eof : String := "EOF"

/-- Whether an action of one daemon involves no stream between the two; the
steps on a stream are events of the world. -/
def Action.offStream : Action → Bool
  | .dial _ .opened | .exchangeWrite _ _ | .exchangeRead _ _ | .accept _ _
  | .streamHandlerRead _ _ | .streamHandlerReply _ _ | .awaitReadFailRead _ _ => false
  | _ => true

/-- A stream from a `CallUnary` worker of the caller to the handler the
callee's host started on it. -/
structure Stream where
  /-- The handler at the callee. -/
  handler : Nat
  /-- Frames the caller's `exchangeMessages` wrote that the handler has not read. -/
  toCallee : List Frame
  /-- Frames the handler wrote that `exchangeMessages` has not read. -/
  toCaller : List Frame
  deriving DecidableEq

/-- The callee `A`, the caller `B`, and the streams from `B`'s call workers to
`A`, each filed under its call worker. -/
structure World where
  callee : Daemon
  caller : Daemon
  /-- `A`'s peer id, what `peer.IDFromBytes` gives for a call to `A`. -/
  calleeID : PeerId
  /-- `B`'s peer id, `s.Conn().RemotePeer()` at `A`. -/
  callerID : PeerId
  streams : Nat → Option Stream

/-- Two daemons before their first persistent connection. -/
def World.init (calleeConfig callerConfig : Config) (calleeID callerID : PeerId) : World :=
  ⟨.init calleeConfig, .init callerConfig, calleeID, callerID, fun _ => none⟩

/-- One event of the world. -/
inductive World.Event
  /-- A step of `A` that involves no stream from `B`. -/
  | callee (a : Action)
  /-- A step of `B` that involves no stream to `A`. -/
  | caller (a : Action)
  /-- `B`'s `NewStream` to `A` for worker `g` succeeds, and `A`'s host starts a
  handler on the stream. -/
  | connect (g : Nat)
  /-- `exchangeMessages` of worker `g` writes its request to the stream. -/
  | send (g : Nat)
  /-- The handler on worker `g`'s stream reads the next frame, or the end of
  the stream once `B` has closed it. -/
  | receive (g : Nat)
  /-- The handler on worker `g`'s stream writes the client's reply to it. -/
  | reply (g : Nat)
  /-- `exchangeMessages` of worker `g` reads the next frame, or the end of the
  stream once `A` has closed it. -/
  | respond (g : Nat)
  /-- The `awaitReadFail` of the handler on worker `g`'s stream reads the end
  of the stream once `B` has closed it. -/
  | halfClose (g : Nat)

namespace World

/-- Replace the stream of worker `g`. -/
def setStream (w : World) (g : Nat) (st : Stream) : World :=
  { w with streams := Function.update w.streams g (some st) }

/-- Whether `B` has closed worker `g`'s end of its stream. -/
def callerClosed (w : World) (g : Nat) : Bool :=
  ((w.caller.callWorkers g).map CallUnaryWorker.streamClosed).getD false

/-- Whether `A` has closed handler `h`'s end of its stream. -/
def calleeClosed (w : World) (h : Nat) : Bool :=
  ((w.callee.inboundHandlers h).map StreamHandler.closed).getD false

/-- The world after one event, `none` when it is not enabled. -/
def step (w : World) : Event → Option World
  | .callee a =>
      if a.offStream then (w.callee.step a).map fun a' => { w with callee := a' } else none
  | .caller a =>
      if a.offStream then (w.caller.step a).map fun b' => { w with caller := b' } else none
  | .connect g =>
      match w.streams g, w.caller.callWorkers g with
      | none, some v =>
          match w.caller.config.idFromBytes v.call.peer with
          | .ok pid =>
              if pid = w.calleeID then
                match w.caller.step (.dial g .opened),
                    w.callee.step (.accept v.call.proto w.callerID) with
                | some b', some a' =>
                    some ({ w with caller := b', callee := a' }.setStream g
                      ⟨w.callee.nextRoutine, [], []⟩)
                | _, _ => none
              else none
          | .error _ => none
      | _, _ => none
  | .send g =>
      match w.streams g, w.caller.callWorkers g with
      | some st, some v =>
          (w.caller.step (.exchangeWrite g none)).map fun b' =>
            { w with caller := b' }.setStream g
              { st with toCallee := st.toCallee ++ [Frame.message v.request] }
      | _, _ => none
  | .receive g =>
      match w.streams g with
      | some st =>
          match st.toCallee with
          | f :: rest =>
              (w.callee.step (.streamHandlerRead st.handler (.ok f))).map fun a' =>
                { w with callee := a' }.setStream g { st with toCallee := rest }
          | [] =>
              if w.callerClosed g then
                (w.callee.step (.streamHandlerRead st.handler (.error eof))).map fun a' =>
                  { w with callee := a' }
              else none
      | none => none
  | .reply g =>
      match w.streams g with
      | some st =>
          match (w.callee.inboundHandlers st.handler).map StreamHandler.pc with
          | some (.replying response) =>
              (w.callee.step (.streamHandlerReply st.handler none)).map fun a' =>
                { w with callee := a' }.setStream g
                  { st with toCaller := st.toCaller ++ [Frame.message response] }
          | _ => none
      | none => none
  | .respond g =>
      match w.streams g with
      | some st =>
          match st.toCaller with
          | f :: rest =>
              (w.caller.step (.exchangeRead g (.ok f))).map fun b' =>
                { w with caller := b' }.setStream g { st with toCaller := rest }
          | [] =>
              if w.calleeClosed st.handler then
                (w.caller.step (.exchangeRead g (.error eof))).map fun b' =>
                  { w with caller := b' }
              else none
      | none => none
  | .halfClose g =>
      match w.streams g with
      | some st =>
          if st.toCallee = [] ∧ w.callerClosed g then
            (w.callee.step (.awaitReadFailRead st.handler true)).map fun a' =>
              { w with callee := a' }
          else none
      | none => none

/-- The world after a schedule of events, if each was enabled in turn. -/
def run (w : World) : List Event → Option World
  | [] => some w
  | e :: rest => (w.step e).bind fun u => u.run rest

@[simp] theorem run_nil (w : World) : w.run [] = some w := rfl

@[simp] theorem run_cons (w : World) (e : Event) (rest : List Event) :
    w.run (e :: rest) = (w.step e).bind fun u => u.run rest := rfl

theorem run_append {w u : World} {first : List Event} (second : List Event)
    (ran : w.run first = some u) : w.run (first ++ second) = u.run second := by
  induction first generalizing w with
  | nil => cases ran; rfl
  | cons e rest ih =>
      simp only [run_cons, Option.bind_eq_some] at ran
      obtain ⟨v, stepped, ran⟩ := ran
      simp [stepped, ih ran]

end World

end P2pd

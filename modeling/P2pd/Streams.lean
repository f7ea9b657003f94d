import P2pd.Responses

/-!
# Frames on the peer-to-peer streams

A unary call's stream carries at most one frame each way.  `exchangeMessages`
writes its call's request once, before it reads; the handler at the other
end writes the client's `UnaryResponse` for the call id it read, once, from
the reply branch of its select.  The half-close branch of that select and the
reply branch exclude each other: a handler that took the first never writes
to its stream, and one that wrote its reply never takes the first.
-/

namespace P2pd

/-- Whether a handler has left its select by the half-close branch, or is past
both branches: nothing more is written to its stream. -/
def StreamHandlerPc.settled : StreamHandlerPc → Bool
  | .cancelling | .exiting | .finished => true
  | _ => false

/-- Whether a handler is past both branches of its select. -/
def StreamHandlerPc.done : StreamHandlerPc → Bool
  | .exiting | .finished => true
  | _ => false

namespace Daemon

variable {s t : Daemon} {a : Action}

/-! ## What each end has written -/

/-- A frame a handler may write to its stream: the client's `UnaryResponse`
request for the call id the handler read. -/
def Replies (s : Daemon) (v : StreamHandler) (r : Request) : Prop :=
  ∃ g w, s.responseWorkers g = some w ∧ r = w.request ∧ v.callID = some w.callID

/-- What `exchangeMessages` has written: nothing, or its call's request once,
and then it is past its write. -/
def ExchangeWrote (s : Daemon) (g : Nat) (e : ExchangeMessages) : Prop :=
  e.written = [] ∨ (e.pc ≠ .writing ∧ ∃ w, s.callWorkers g = some w ∧ e.written = [w.request])

/-- What a handler has written: in its reply branch, nothing yet and the
client's reply in hand; otherwise nothing, or that reply once and it is past
its select. -/
def HandlerWrote (s : Daemon) (v : StreamHandler) : Prop :=
  (∀ r, v.pc = .replying r → v.written = [] ∧ s.Replies v r) ∧
    (v.written = [] ∨ (v.pc.done = true ∧ ∃ r, v.written = [r] ∧ s.Replies v r))

theorem Replies.keeps {v v' : StreamHandler} {r : Request} (keeps : Keeps s t)
    (moved : v.Moved v') (replies : s.Replies v r) : t.Replies v' r := by
  obtain ⟨g, w, worker, rfl, named⟩ := replies
  obtain ⟨w', worker', -, callID, response⟩ := keeps.responseWorkers g w worker
  exact ⟨g, w', worker', by simp [UnaryResponseWorker.request, callID, response],
    by rw [moved.2.2 _ named, callID]⟩

theorem ExchangeWrote.keeps {g : Nat} {e : ExchangeMessages} (keeps : Keeps s t)
    (wrote : s.ExchangeWrote g e) : t.ExchangeWrote g e := by
  rcases wrote with silent | ⟨past, w, worker, once⟩
  · exact .inl silent
  · obtain ⟨w', worker', -, callID, call⟩ := keeps.callWorkers g w worker
    exact .inr ⟨past, w', worker', by simp [once, CallUnaryWorker.request, callID, call]⟩

/-- An exchange that moves on from its write keeps what it wrote. -/
theorem ExchangeWrote.move {g : Nat} {e : ExchangeMessages} {pc : ExchangeMessagesPc}
    (keeps : Keeps s t) (wrote : s.ExchangeWrote g e) (past : pc ≠ .writing) :
    t.ExchangeWrote g { e with pc := pc } := by
  rcases wrote.keeps keeps with silent | ⟨-, w, worker, once⟩
  · exact .inl silent
  · exact .inr ⟨past, w, worker, once⟩

theorem HandlerWrote.keeps {v : StreamHandler} (keeps : Keeps s t) (wrote : s.HandlerWrote v) :
    t.HandlerWrote v := by
  refine ⟨fun r replying => ?_, ?_⟩
  · obtain ⟨silent, replies⟩ := wrote.1 r replying
    exact ⟨silent, replies.keeps keeps (handlerMoved_refl v)⟩
  · rcases wrote.2 with silent | ⟨done, r, once, replies⟩
    · exact .inl silent
    · exact .inr ⟨done, r, once, replies.keeps keeps (handlerMoved_refl v)⟩

/-- A handler that has written nothing and is not in its reply branch. -/
theorem handlerWrote_silent {v : StreamHandler} (silent : v.written = [])
    (notReplying : ∀ r, v.pc ≠ .replying r) : s.HandlerWrote v :=
  ⟨fun r replying => absurd replying (notReplying r), .inl silent⟩

/-- Every end of every stream. -/
structure StreamInvariant (s : Daemon) : Prop where
  exchange : ∀ g e, s.exchanges g = some e → s.ExchangeWrote g e
  handler : ∀ h v, s.inboundHandlers h = some v → s.HandlerWrote v

theorem streamInvariant_init (config : Config) : (Daemon.init config).StreamInvariant where
  exchange _ _ present := by simp [Daemon.init] at present
  handler _ _ present := by simp [Daemon.init] at present

/-! ## One step -/

/-- `exchangeMessages` writes once, at its write, the request of its call. -/
theorem step_exchangeWrote (inv : ∀ g e, s.exchanges g = some e → s.ExchangeWrote g e)
    (keeps : Keeps s t) (stepped : s.step a = some t) :
    ∀ g e, t.exchanges g = some e → t.ExchangeWrote g e := by
  have kept (same : t.exchanges = s.exchanges) : ∀ g e, t.exchanges g = some e →
      t.ExchangeWrote g e := fun g e exchange => (inv g e (same ▸ exchange)).keeps keeps
  cases touches : a.touchesOutbound
  · exact kept (step_outbound_frame stepped touches).2.2.1
  unfold step at stepped
  split at stepped
  · cases stepped
  cases a <;> simp only [Action.touchesOutbound, reduceCtorEq] at touches
  case readLoop sid frame =>
    exact kept (by rcases readLoop_cases stepped with rfl | ⟨_, _, rfl⟩ | ⟨_, -, rfl⟩ <;> simp)
  case dial g outcome =>
    simp only [dial] at stepped
    split at stepped
    · (repeat' split at stepped) <;> cases stepped
      all_goals first
        | exact kept rfl
        | exact forall_update_at (fun g' e exchange => (inv g' e exchange).keeps keeps) (.inl rfl)
    · cases stepped
  case receiveResponse g =>
    simp only [receiveResponse] at stepped
    split at stepped
    · rename_i w e worker exchange
      (repeat' split at stepped) <;> cases stepped
      all_goals first
        | exact kept rfl
        | exact forall_update_at (fun g' e exchange => (inv g' e exchange).keeps keeps)
            ((inv g e exchange).move keeps (by simp))
    · cases stepped
  case exchangeWrite g error =>
    simp only [exchangeWrite] at stepped
    split at stepped
    · rename_i w e worker exchange
      split at stepped <;> cases stepped
      rename_i guard
      have silent : e.written = [] := by
        rcases inv g e exchange with silent | ⟨past, -⟩
        exacts [silent, absurd guard.1 past]
      refine forall_update_at (fun g' e exchange => (inv g' e exchange).keeps keeps) ?_
      cases error
      · exact .inr ⟨by split_ifs <;> simp, w, by simpa using worker, by simp [silent]⟩
      · exact .inl (by simp [silent])
    · cases stepped
  case exchangeRead g _ | exchangeAbandon g =>
    simp only [exchangeRead, exchangeAbandon] at stepped
    split at stepped
    · rename_i w e worker exchange
      (repeat' split at stepped) <;> cases stepped
      all_goals
        exact forall_update_at (fun g' e exchange => (inv g' e exchange).keeps keeps)
          ((inv g e exchange).move keeps (by simp))
    · cases stepped
  all_goals
    simp only [callUnaryWorker, receiveDone, cancelWorker] at stepped
    (repeat' split at stepped) <;> cases stepped <;> exact kept rfl

/-- A handler writes once, from its reply branch, the client's reply for its
call id; its other moves write nothing. -/
theorem step_handlerWrote (inv : ∀ h v, s.inboundHandlers h = some v → s.HandlerWrote v)
    (keeps : Keeps s t) (waiters : s.WaiterInvariant) (stepped : s.step a = some t) :
    ∀ h v, t.inboundHandlers h = some v → t.HandlerWrote v := by
  have others := fun h v (handler : s.inboundHandlers h = some v) => (inv h v handler).keeps keeps
  have kept (same : t.inboundHandlers = s.inboundHandlers) : ∀ h v, t.inboundHandlers h = some v →
      t.HandlerWrote v := fun h v handler => others h v (same ▸ handler)
  /- A handler outside its reply branch has written nothing unless it is past
  its select. -/
  have silentBefore {h : Nat} {v : StreamHandler} (handler : s.inboundHandlers h = some v)
      (pending : v.pc.done = false) : v.written = [] := by
    rcases (inv h v handler).2 with silent | ⟨done, -⟩
    exacts [silent, absurd done (by simp [pending])]
  cases touches : a.touchesInbound
  · exact kept (step_inbound_frame stepped touches).2.1
  unfold step at stepped
  split at stepped
  · cases stepped
  cases a <;> simp only [Action.touchesInbound, reduceCtorEq] at touches
  case accept proto remotePeer =>
    simp only [accept] at stepped
    split at stepped <;> cases stepped
    exact forall_update_at others (handlerWrote_silent rfl (by simp))
  case streamHandlerRead h result | notify h result =>
    simp only [streamHandlerRead, notify] at stepped
    split at stepped
    · rename_i v handler
      (repeat' split at stepped) <;> cases stepped
      all_goals first
        | exact kept rfl
        | exact forall_update_at others (handlerWrote_silent
            (silentBefore (v := v) handler (by simp [*, StreamHandlerPc.done])) (by simp))
    · cases stepped
  case halfClosed h =>
    simp only [halfClosed] at stepped
    split at stepped
    · rename_i v pc handler _
      split at stepped <;> cases stepped
      rename_i guard
      exact forall_update_at others (handlerWrote_silent
        (silentBefore (v := v) handler (by simp [guard.1, StreamHandlerPc.done])) (by simp))
    · cases stepped
  case streamHandler h =>
    simp only [streamHandler] at stepped
    split at stepped
    · rename_i v handler
      split at stepped <;> cases stepped
      · rename_i c cancelling _
        exact forall_update_at others (handlerWrote_silent
          (silentBefore (v := v) handler (by simp [cancelling, StreamHandlerPc.done])) (by simp))
      · rename_i c exiting _
        refine forall_update_at others ⟨fun r replying => by simp at replying, ?_⟩
        rcases (inv h v handler).2 with silent | ⟨-, r, once, replies⟩
        · exact .inl silent
        · exact .inr ⟨rfl, r, once, replies.keeps keeps ⟨rfl, rfl, fun _ => id⟩⟩
    · cases stepped
  case deliver h g =>
    simp only [deliver] at stepped
    split at stepped
    · rename_i v w handler worker
      split at stepped <;> cases stepped
      rename_i guard
      obtain ⟨v₀, handler₀, named⟩ := waiters.sending_named g w h worker guard.2
      cases handler.symm.trans handler₀
      refine forall_update_at others ⟨fun r replying => ?_, .inl ?_⟩
      · cases replying
        exact ⟨silentBefore (v := v) handler (by simp [guard.1, StreamHandlerPc.done]),
          g, _, Function.update_same _ _ _, rfl, named⟩
      · exact silentBefore (v := v) handler (by simp [guard.1, StreamHandlerPc.done])
    · cases stepped
  case streamHandlerReply h error =>
    simp only [streamHandlerReply] at stepped
    split at stepped
    · rename_i v handler
      split at stepped <;> cases stepped
      rename_i r replying
      obtain ⟨silent, replies⟩ := (inv h v handler).1 r replying
      refine forall_update_at others ⟨fun r' replying' => by simp at replying', ?_⟩
      cases error
      · exact .inr ⟨rfl, r, by simp [silent], replies.keeps keeps ⟨rfl, rfl, fun _ => id⟩⟩
      · exact .inl (by simp [silent])
    · cases stepped
  all_goals
    simp only [unaryResponseWorker, awaitReadFailRead, awaitReadFailGiveUp] at stepped
    first
      | exact kept (by rcases readLoop_cases stepped with rfl | ⟨_, _, rfl⟩ | ⟨_, -, rfl⟩ <;> simp)
      | (repeat' split at stepped) <;> cases stepped <;> exact kept rfl

theorem step_streamInvariant (inv : s.StreamInvariant) (fresh : s.Fresh)
    (waiters : s.WaiterInvariant) (stepped : s.step a = some t) : t.StreamInvariant :=
  have keeps := step_keeps fresh waiters stepped
  ⟨step_exchangeWrote inv.exchange keeps stepped, step_handlerWrote inv.handler keeps waiters stepped⟩

/-! ## The two branches of the handler's select -/

/-- A handler that took the half-close branch, or is past its select, stays
so and writes nothing more to its stream. -/
theorem step_settled {h : Nat} {v : StreamHandler} (fresh : s.Fresh)
    (stepped : s.step a = some t) (handler : s.inboundHandlers h = some v)
    (settled : v.pc.settled = true) :
    ∃ v', t.inboundHandlers h = some v' ∧ v'.written = v.written ∧ v'.pc.settled = true ∧
      (v.pc.done = true → v'.pc.done = true) := by
  have unchanged (same : t.inboundHandlers h = s.inboundHandlers h) :=
    (⟨v, same.trans handler, rfl, settled, id⟩ :
      ∃ v', t.inboundHandlers h = some v' ∧ v'.written = v.written ∧ v'.pc.settled = true ∧
        (v.pc.done = true → v'.pc.done = true))
  cases touches : a.touchesInbound
  · exact unchanged (by rw [(step_inbound_frame stepped touches).2.1])
  unfold step at stepped
  split at stepped
  · cases stepped
  cases a <;> simp only [Action.touchesInbound, reduceCtorEq] at touches
  case accept proto remotePeer =>
    simp only [accept] at stepped
    split at stepped <;> cases stepped
    exact unchanged (by simp [Nat.ne_of_lt (fresh.routine_lt h (by simp [handler]))])
  case streamHandler h' =>
    simp only [streamHandler] at stepped
    split at stepped
    · rename_i v' handler'
      by_cases same : h = h'
      · subst same
        cases handler.symm.trans handler'
        split at stepped <;> cases stepped <;> rename_i atPc _ <;>
          exact ⟨_, Function.update_same _ _ _, rfl, rfl, by simp [atPc, StreamHandlerPc.done]⟩
      · split at stepped <;> cases stepped <;> exact unchanged (by simp [same, writeMsg])
    · cases stepped
  case streamHandlerRead h' _ | notify h' _ | streamHandlerReply h' _ =>
    simp only [streamHandlerRead, notify, streamHandlerReply] at stepped
    split at stepped
    · rename_i v' handler'
      by_cases same : h = h'
      · subst same
        cases handler.symm.trans handler'
        (repeat' split at stepped) <;> cases stepped <;> simp_all [StreamHandlerPc.settled]
      · (repeat' split at stepped) <;> cases stepped <;> exact unchanged (by simp [same, writeMsg])
    · cases stepped
  case halfClosed h' =>
    simp only [halfClosed] at stepped
    split at stepped
    · rename_i v' pc handler' _
      split at stepped <;> cases stepped
      rename_i guard
      by_cases same : h = h'
      · subst same
        cases handler.symm.trans handler'
        simp [guard.1, StreamHandlerPc.settled] at settled
      · exact unchanged (by simp [same])
    · cases stepped
  case deliver h' g =>
    simp only [deliver] at stepped
    split at stepped
    · rename_i v' w handler' worker
      split at stepped <;> cases stepped
      rename_i guard
      by_cases same : h = h'
      · subst same
        cases handler.symm.trans handler'
        simp [guard.1, StreamHandlerPc.settled] at settled
      · exact unchanged (by simp [same])
    · cases stepped
  case readLoop sid frame =>
    exact unchanged (by rcases readLoop_cases stepped with rfl | ⟨_, _, rfl⟩ | ⟨_, -, rfl⟩ <;> simp)
  all_goals
    simp only [unaryResponseWorker, awaitReadFailRead, awaitReadFailGiveUp] at stepped
    (repeat' split at stepped) <;> cases stepped <;> exact unchanged rfl

/-- Along every run, a settled handler stays settled and writes nothing more. -/
theorem run_settled {h : Nat} :
    ∀ {actions : List Action} {s t : Daemon} {v : StreamHandler}, Reachable s →
      s.run actions = some t → s.inboundHandlers h = some v → v.pc.settled = true →
      ∃ v', t.inboundHandlers h = some v' ∧ v'.written = v.written ∧ v'.pc.settled = true ∧
        (v.pc.done = true → v'.pc.done = true)
  | [], s, t, v, _, ran, handler, settled => by cases ran; exact ⟨v, handler, rfl, settled, id⟩
  | a :: rest, s, t, v, reachable, ran, handler, settled => by
      obtain ⟨u, stepped, ran⟩ := run_cons_eq_some ran
      obtain ⟨v₁, handler₁, written₁, settled₁, done₁⟩ :=
        step_settled reachable.fresh stepped handler settled
      obtain ⟨v₂, handler₂, written₂, settled₂, done₂⟩ :=
        run_settled (reachable.step a stepped) ran handler₁ settled₁
      exact ⟨v₂, handler₂, written₂.trans written₁, settled₂, fun done => done₂ (done₁ done)⟩

end Daemon

theorem Reachable.streamInvariant {s : Daemon} (reachable : Reachable s) : s.StreamInvariant := by
  induction reachable with
  | init config => exact Daemon.streamInvariant_init config
  | step a reachable stepped ih =>
      exact Daemon.step_streamInvariant ih reachable.fresh reachable.waiterInvariant stepped

/-- Each stream of a unary call carries at most one frame each way:
`exchangeMessages` writes its call's request, once, and the handler at the
other end writes the client's `UnaryResponse` for the call id it read, once. -/
theorem stream_carries_one_frame_each_way {s : Daemon} (reachable : Reachable s) :
    (∀ g e, s.exchanges g = some e →
      e.written = [] ∨ ∃ w, s.callWorkers g = some w ∧ e.written = [w.request]) ∧
    (∀ h v, s.inboundHandlers h = some v →
      v.written = [] ∨ ∃ g w, s.responseWorkers g = some w ∧ v.written = [w.request] ∧
        v.callID = some w.callID) := by
  have inv := reachable.streamInvariant
  refine ⟨fun g e exchange => ?_, fun h v handler => ?_⟩
  · rcases inv.exchange g e exchange with silent | ⟨-, once⟩
    exacts [.inl silent, .inr once]
  · rcases (inv.handler h v handler).2 with silent | ⟨-, r, once, g, w, worker, rfl, named⟩
    exacts [.inl silent, .inr ⟨g, w, worker, once, named⟩]

theorem handlerWaiting_streams :
    Reachable handlerWaiting ∧
      ((∀ g e, handlerWaiting.exchanges g = some e → e.written = [] ∨
          ∃ w, handlerWaiting.callWorkers g = some w ∧ e.written = [w.request]) ∧
        (∀ h v, handlerWaiting.inboundHandlers h = some v → v.written = [] ∨
          ∃ g w, handlerWaiting.responseWorkers g = some w ∧ v.written = [w.request] ∧
            v.callID = some w.callID)) :=
  ⟨handlerWaiting_reachable, stream_carries_one_frame_each_way handlerWaiting_reachable⟩

/-- The two branches of an inbound handler's select exclude each other: once
it has taken the half-close branch it never writes to its stream, and once it
has written its reply it never takes the half-close branch. -/
theorem half_close_excludes_reply {s : Daemon} (reachable : Reachable s) {h : Nat}
    {v : StreamHandler} (handler : s.inboundHandlers h = some v) :
    (v.pc = .cancelling → ∀ actions t, s.run actions = some t →
      ∃ v', t.inboundHandlers h = some v' ∧ v'.written = []) ∧
    (v.written ≠ [] → ∀ actions t, s.run actions = some t →
      ∃ v', t.inboundHandlers h = some v' ∧ v'.written = v.written ∧ v'.pc ≠ .cancelling) := by
  have wrote := (reachable.streamInvariant.handler h v handler).2
  refine ⟨fun cancelling actions t ran => ?_, fun replied actions t ran => ?_⟩
  · have silent : v.written = [] := by
      rcases wrote with silent | ⟨done, -⟩
      exacts [silent, by simp [cancelling, StreamHandlerPc.done] at done]
    obtain ⟨v', handler', written, -⟩ :=
      Daemon.run_settled reachable ran handler (by simp [cancelling, StreamHandlerPc.settled])
    exact ⟨v', handler', written.trans silent⟩
  · obtain ⟨done, -⟩ := wrote.resolve_left replied
    have settled : v.pc.settled = true := by
      revert done; cases v.pc <;> simp [StreamHandlerPc.done, StreamHandlerPc.settled]
    obtain ⟨v', handler', written, -, done'⟩ := Daemon.run_settled reachable ran handler settled
    refine ⟨v', handler', written, fun cancelling => ?_⟩
    simpa [cancelling, StreamHandlerPc.done] using done' done

/-- Where `replyAfterHalfClose` stands once the handler has taken the
half-close branch. -/
def handlerHalfClosed : Daemon :=
  ((Daemon.init sampleConfig).run ((replyAfterHalfClose (sampleCallID 1)).take 12)).getD
    (Daemon.init sampleConfig)

/-- Where `replyAfterHalfClose` would stand had the client's answer reached the
handler before the peer half-closed: the handler has written it and returned. -/
def handlerReplied : Daemon :=
  ((Daemon.init sampleConfig).run ((replyAfterHalfClose (sampleCallID 1)).take 10 ++
    [.deliver 1 2, .streamHandlerReply 1 none])).getD (Daemon.init sampleConfig)

/-- The half-closed handler stays silent, and the handler that replied keeps its
reply and never takes the half-close branch, whatever runs next. -/
theorem handler_select_branches :
    (Reachable handlerHalfClosed ∧
      handlerHalfClosed.inboundHandlers 1 =
        some ⟨0, [9], some (sampleCallID 1), false, [], false, .cancelling⟩ ∧
      ∀ actions t, handlerHalfClosed.run actions = some t →
        ∃ v', t.inboundHandlers 1 = some v' ∧ v'.written = []) ∧
    (Reachable handlerReplied ∧
      handlerReplied.inboundHandlers 1 =
        some ⟨0, [9], some (sampleCallID 1), false,
          [unaryResponseRequest (sampleCallID 1) (.response [2])], false, .exiting⟩ ∧
      ∀ actions t, handlerReplied.run actions = some t →
        ∃ v', t.inboundHandlers 1 = some v' ∧
          v'.written = [unaryResponseRequest (sampleCallID 1) (.response [2])] ∧
          v'.pc ≠ .cancelling) :=
  have halfClosed : Reachable handlerHalfClosed := (Reachable.init sampleConfig).run
    (show (Daemon.init sampleConfig).run ((replyAfterHalfClose (sampleCallID 1)).take 12) =
      some handlerHalfClosed from rfl)
  have replied : Reachable handlerReplied := (Reachable.init sampleConfig).run
    (show (Daemon.init sampleConfig).run ((replyAfterHalfClose (sampleCallID 1)).take 10 ++
      [.deliver 1 2, .streamHandlerReply 1 none]) = some handlerReplied from rfl)
  have silent : handlerHalfClosed.inboundHandlers 1 =
      some ⟨0, [9], some (sampleCallID 1), false, [], false, .cancelling⟩ := by decide
  have answered : handlerReplied.inboundHandlers 1 =
      some ⟨0, [9], some (sampleCallID 1), false,
        [unaryResponseRequest (sampleCallID 1) (.response [2])], false, .exiting⟩ := by decide
  ⟨⟨halfClosed, silent, (half_close_excludes_reply halfClosed silent).1 rfl⟩,
    ⟨replied, answered, (half_close_excludes_reply replied answered).2 (List.cons_ne_nil _ _)⟩⟩

end P2pd

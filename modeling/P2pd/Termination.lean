import P2pd.Frame
import Mathlib.Data.Finset.Card

/-!
# The termination counter

`handleUpgradedConn` joins `d.terminateWG` in its prologue and leaves it by a
deferred `Done()`, which Go runs before the deferred cleanup registered ahead
of it.  The counter therefore counts the sessions still in their request
loop: it rises when a session starts and falls when its read fails, and the
cleanup that follows leaves it alone.  Here that count is a set of session
numbers that computes, and the counter is shown to equal its size in every
reachable daemon, so that no `Done()` ever finds the counter at zero.
-/

namespace P2pd

namespace Daemon

/-- The sessions still in their request loop: their prologue ran
`terminateWG.Add(1)` and their deferred `Done()` has not. -/
def liveSessions (s : Daemon) : Finset Nat :=
  (Finset.range s.nextSession).filter fun sid =>
    (s.sessions sid).map Session.phase = some .reading

variable {s t : Daemon} {a : Action}

theorem mem_liveSessions {sid : Nat} :
    sid ∈ s.liveSessions ↔
      sid < s.nextSession ∧ (s.sessions sid).map Session.phase = some .reading := by
  simp [liveSessions]

/-- The live sessions read only the counter of session numbers and each
session's phase. -/
theorem liveSessions_congr (next : t.nextSession = s.nextSession)
    (phases : ∀ sid, (t.sessions sid).map Session.phase = (s.sessions sid).map Session.phase) :
    t.liveSessions = s.liveSessions := by
  ext sid
  simp [mem_liveSessions, next, phases]

/-- A session that starts is live, and the only new one. -/
theorem liveSessions_startSession (fresh : s.Fresh) :
    s.startSession.liveSessions = insert s.nextSession s.liveSessions := by
  ext sid
  by_cases isNew : sid = s.nextSession
  · simp [mem_liveSessions, startSession, isNew]
  · have later : s.nextSession ≤ sid → s.sessions sid = none := fresh.sessions sid
    simp only [mem_liveSessions, startSession, Function.update_apply, isNew, if_false,
      Finset.mem_insert, false_or]
    constructor
    · rintro ⟨below, reading⟩
      exact ⟨by omega, reading⟩
    · rintro ⟨below, reading⟩
      exact ⟨by omega, reading⟩

/-- A session whose read failed leaves the live sessions. -/
theorem liveSessions_exit {sid : Nat} {handlers : List String} :
    { s with sessions := Function.update s.sessions sid (some ⟨.exiting, handlers⟩)
             terminateWG := s.terminateWG - 1 }.liveSessions = s.liveSessions.erase sid := by
  ext sid'
  by_cases same : sid' = sid <;> simp [mem_liveSessions, same]

/-- A session's cleanup touches only a session that is no longer live. -/
theorem liveSessions_cleanup {sid : Nat} {handlers : List String} {u : Daemon}
    (exiting : s.sessions sid = some ⟨.exiting, handlers⟩) (next : u.nextSession = s.nextSession) :
    { u with sessions := Function.update s.sessions sid (some ⟨.returned, handlers⟩) }.liveSessions =
      s.liveSessions := by
  ext sid'
  by_cases same : sid' = sid <;> simp [mem_liveSessions, same, exiting, next]

/-- An append to a session's slice keeps its phase. -/
theorem appendStreamHandler_phase {sid sid' : Nat} {proto : String} :
    ((s.appendStreamHandler sid proto).sessions sid').map Session.phase =
      (s.sessions sid').map Session.phase := by
  by_cases same : sid' = sid
  · subst same
    cases present : s.sessions sid' <;> simp [appendStreamHandler, present]
  · simp [appendStreamHandler, same]

/-- Steps that leave the sessions alone leave both counters alone. -/
theorem step_counters_frame (stepped : s.step a = some t)
    (untouched : a.touchesRegistry = false) :
    t.terminateWG = s.terminateWG ∧ t.nextSession = s.nextSession := by
  unfold step at stepped
  split at stepped
  · cases stepped
  cases a <;> simp only [Action.touchesRegistry, reduceCtorEq] at untouched <;>
    simp only [callUnaryWorker, dial, receiveResponse, receiveDone, exchangeWrite, exchangeRead,
      exchangeAbandon, unaryResponseWorker, cancelWorker, accept, streamHandlerRead, notify,
      streamHandler, halfClosed, deliver, streamHandlerReply, awaitReadFailRead,
      awaitReadFailGiveUp] at stepped <;>
    (repeat' split at stepped) <;> (try simp only [Option.some.injEq, reduceCtorEq] at stepped) <;>
    (try subst stepped) <;> simp [writeMsg]

/-- One step keeps `terminateWG` equal to the number of live sessions. -/
theorem step_terminateWG (fresh : s.Fresh) (counts : s.terminateWG = s.liveSessions.card)
    (stepped : s.step a = some t) : t.terminateWG = t.liveSessions.card := by
  cases touches : a.touchesRegistry
  · obtain ⟨-, -, sessions, -⟩ := step_registry_frame stepped touches
    obtain ⟨counter, next⟩ := step_counters_frame stepped touches
    rw [counter, counts, liveSessions_congr next (by simp [sessions])]
  unfold step at stepped
  split at stepped
  · cases stepped
  cases a <;> simp only [Action.touchesRegistry, reduceCtorEq] at touches
  case startSession =>
    cases stepped
    have notLive : s.nextSession ∉ s.liveSessions := by simp [mem_liveSessions]
    rw [liveSessions_startSession fresh, Finset.card_insert_of_not_mem notLive, ← counts]
    rfl
  case readLoop sid frame =>
    rcases readLoop_cases stepped with rfl | ⟨callID, msg, rfl⟩ | ⟨handlers, reading, rfl⟩
    · exact counts
    · rw [liveSessions_congr (s := s) (by simp) (by simp)]
      simpa using counts
    · have live : sid ∈ s.liveSessions :=
        mem_liveSessions.mpr ⟨fresh.session_lt reading, by simp [reading]⟩
      rw [liveSessions_exit, Finset.card_erase_of_mem live, ← counts]
  case cleanup sid =>
    simp only [cleanup] at stepped
    split at stepped
    · rename_i handlers exiting
      cases stepped
      rw [liveSessions_cleanup exiting (by simp [foldl_removeUnaryHandler]), ← counts]
      simp [foldl_removeUnaryHandler]
    · cases stepped
  case addUnaryHandlerWorker g =>
    simp only [addUnaryHandlerWorker] at stepped
    split at stepped
    · split at stepped <;> cases stepped
      · simp only [doAddUnaryHandler]
        split_ifs <;> exact counts
      · split_ifs
        · exact counts
        · refine counts.trans (congrArg Finset.card (liveSessions_congr ?_ ?_).symm)
          exacts [rfl, fun _ => appendStreamHandler_phase]
      · exact counts
    · cases stepped

end Daemon

theorem Reachable.terminateWG_eq {s : Daemon} (reachable : Reachable s) :
    s.terminateWG = s.liveSessions.card :=
  Reachable.induction (P := fun s => s.terminateWG = s.liveSessions.card)
    (fun _ => rfl)
    (fun _ _ _ reachable counts stepped => Daemon.step_terminateWG reachable.fresh counts stepped)
    reachable

/-- `terminateWG` always counts the sessions in their request loop, so the
deferred `Done()` of a session whose read fails finds the counter positive:
the counter never goes below zero. -/
theorem terminateWG_counts_live_sessions {s : Daemon} (reachable : Reachable s) :
    s.terminateWG = s.liveSessions.card ∧
      ∀ sid handlers, s.sessions sid = some ⟨.reading, handlers⟩ → 0 < s.terminateWG := by
  refine ⟨reachable.terminateWG_eq, fun sid handlers reading => ?_⟩
  rw [reachable.terminateWG_eq, Finset.card_pos]
  exact ⟨sid, Daemon.mem_liveSessions.mpr ⟨reachable.fresh.session_lt reading, by simp [reading]⟩⟩

/-- A daemon serving its first session. -/
def firstSession : Daemon :=
  (Daemon.init ⟨4194304, multihashPeerId⟩).startSession

theorem terminateWG_counts_first_session :
    Reachable firstSession ∧ (firstSession.terminateWG = firstSession.liveSessions.card ∧
      ∀ sid handlers, firstSession.sessions sid = some ⟨.reading, handlers⟩ →
        0 < firstSession.terminateWG) :=
  have reachable : Reachable firstSession := .step .startSession (.init _) rfl
  ⟨reachable, terminateWG_counts_live_sessions reachable⟩

end P2pd

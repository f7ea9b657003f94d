import P2pd.Frame

/-!
# The protocol registry

`d.registeredUnaryProtocols`, the host's handler table and the
`streamHandlers` slices of the sessions are kept together under `d.mx`.  The
invariant here says how: a protocol is registered exactly when a handler is
installed for it, and the installed handler belongs to the one party that
holds the registration, either a live session that lists the protocol or an
`AddUnaryHandler` worker between its `doAddUnaryHandler` and its append.
-/

namespace P2pd

/-- A worker whose `doAddUnaryHandler` was answered `Ok` and whose append to
`streamHandlers` has not run: it holds the registration it made. -/
def AddUnaryHandlerPc.holding : AddUnaryHandlerPc → Bool
  | .appending resp => !resp.isDaemonError
  | _ => false

namespace Daemon

variable {s t : Daemon}

/-- How the registry, the host's table and the sessions' slices agree. -/
structure RegistryInvariant (s : Daemon) : Prop where
  /-- A protocol is registered exactly when a handler is installed for it. -/
  registered_iff : ∀ p, s.registeredUnaryProtocols p = true ↔ (s.hostHandlers p).isSome
  /-- A live session's slice lists only protocols installed over its writer. -/
  listed_installed : ∀ sid session p, s.sessions sid = some session →
    session.phase ≠ .returned → p ∈ session.streamHandlers → s.hostHandlers p = some sid
  /-- A holding worker's protocol is installed over its session's writer. -/
  holding_installed : ∀ g w, s.addWorkers g = some w → w.pc.holding = true →
    s.hostHandlers w.proto = some w.session
  /-- No live session lists a protocol a worker still holds. -/
  holding_unlisted : ∀ g w sid session, s.addWorkers g = some w → w.pc.holding = true →
    s.sessions sid = some session → session.phase ≠ .returned →
    w.proto ∉ session.streamHandlers
  /-- At most one worker holds a protocol. -/
  holding_unique : ∀ g w g' w', s.addWorkers g = some w → s.addWorkers g' = some w' →
    w.pc.holding = true → w'.pc.holding = true → w.proto = w'.proto → g = g'
  /-- A worker about to write `Ok` finds its handler installed, unless its
  session has since returned. -/
  writing_installed : ∀ g w resp, s.addWorkers g = some w → w.pc = .writing resp →
    resp.isDaemonError = false →
    s.hostHandlers w.proto = some w.session ∨
      ∃ session, s.sessions w.session = some session ∧ session.phase = .returned

theorem registryInvariant_init (config : Config) : (Daemon.init config).RegistryInvariant where
  registered_iff _ := by simp [Daemon.init]
  listed_installed _ _ _ present := by simp [Daemon.init] at present
  holding_installed _ _ present := by simp [Daemon.init] at present
  holding_unlisted _ _ _ _ present := by simp [Daemon.init] at present
  holding_unique _ _ _ _ present := by simp [Daemon.init] at present
  writing_installed _ _ _ present := by simp [Daemon.init] at present

namespace RegistryInvariant

/-- The invariant reads only the registry, the host's table, the sessions and
the `AddUnaryHandler` workers. -/
theorem congr (inv : s.RegistryInvariant)
    (registered : t.registeredUnaryProtocols = s.registeredUnaryProtocols)
    (installed : t.hostHandlers = s.hostHandlers) (sessions : t.sessions = s.sessions)
    (workers : t.addWorkers = s.addWorkers) : t.RegistryInvariant := by
  constructor <;> simp only [registered, installed, sessions, workers]
  exacts [inv.registered_iff, inv.listed_installed, inv.holding_installed, inv.holding_unlisted,
    inv.holding_unique, inv.writing_installed]

/-- A worker that holds nothing and is not about to write `Ok` can be put in
any slot. -/
theorem setAddWorker {g : Nat} {w : AddUnaryHandlerWorker} (inv : s.RegistryInvariant)
    (notHolding : w.pc.holding = false)
    (notOk : ∀ resp, w.pc = .writing resp → resp.isDaemonError = true) :
    (s.setAddWorker g w).RegistryInvariant where
  registered_iff := inv.registered_iff
  listed_installed := inv.listed_installed
  holding_installed g' w' present holding := by
    simp only [Daemon.setAddWorker, Function.update_apply] at present
    split_ifs at present
    · cases present; simp [notHolding] at holding
    · exact inv.holding_installed g' w' present holding
  holding_unlisted g' w' sid session present holding := by
    simp only [Daemon.setAddWorker, Function.update_apply] at present
    split_ifs at present
    · cases present; simp [notHolding] at holding
    · exact inv.holding_unlisted g' w' sid session present holding
  holding_unique g₁ w₁ g₂ w₂ present₁ present₂ := by
    simp only [Daemon.setAddWorker, Function.update_apply] at present₁ present₂
    split_ifs at present₁ present₂
    all_goals
      first
      | (cases present₁; simp [notHolding])
      | (cases present₂; simp [notHolding])
      | exact inv.holding_unique g₁ w₁ g₂ w₂ present₁ present₂
  writing_installed g' w' resp present writing ok := by
    simp only [Daemon.setAddWorker, Function.update_apply] at present
    split_ifs at present
    · cases present; simp [notOk resp writing] at ok
    · exact inv.writing_installed g' w' resp present writing ok

theorem startSession (inv : s.RegistryInvariant) (fresh : s.Fresh) :
    s.startSession.RegistryInvariant where
  registered_iff := inv.registered_iff
  listed_installed sid session p present live listed := by
    simp only [Daemon.startSession, Function.update_apply] at present
    split_ifs at present
    · cases present; simp at listed
    · exact inv.listed_installed sid session p present live listed
  holding_installed := inv.holding_installed
  holding_unlisted g w sid session worker holding present live := by
    simp only [Daemon.startSession, Function.update_apply] at present
    split_ifs at present
    · cases present; simp
    · exact inv.holding_unlisted g w sid session worker holding present live
  holding_unique := inv.holding_unique
  writing_installed g w resp worker writing ok := by
    refine (inv.writing_installed g w resp worker writing ok).imp id ?_
    rintro ⟨session, present, returned⟩
    refine ⟨session, ?_, returned⟩
    simp [Daemon.startSession, Function.update_apply, (fresh.session_lt present).ne, present]

theorem spawnWorker (inv : s.RegistryInvariant) (sid : Nat) (callID : Uuid)
    (msg : Option RequestMessage) : (s.spawnWorker sid callID msg).RegistryInvariant := by
  rcases msg with _ | ⟨proto⟩ | _ | _ | _
  · exact inv
  · exact (inv.setAddWorker (w := ⟨sid, callID, proto, .start⟩) rfl (by simp)).congr
      rfl rfl rfl rfl
  all_goals exact inv.congr rfl rfl rfl rfl

/-- A failed read moves a reading session to `exiting`; its slice stays. -/
theorem exitSession (inv : s.RegistryInvariant) {sid : Nat} {handlers : List String}
    (present : s.sessions sid = some ⟨.reading, handlers⟩) (wg : Nat) :
    ({ s with
        sessions := Function.update s.sessions sid (some ⟨.exiting, handlers⟩)
        terminateWG := wg } : Daemon).RegistryInvariant where
  registered_iff := inv.registered_iff
  listed_installed sid' session p present' live listed := by
    simp only [Function.update_apply] at present'
    split_ifs at present' with same
    · cases present'; subst same
      exact inv.listed_installed sid' _ p present (by simp) listed
    · exact inv.listed_installed sid' session p present' live listed
  holding_installed := inv.holding_installed
  holding_unlisted g w sid' session worker holding present' live := by
    simp only [Function.update_apply] at present'
    split_ifs at present' with same
    · cases present'; subst same
      exact inv.holding_unlisted g w sid' ⟨.reading, handlers⟩ worker holding present (by simp)
    · exact inv.holding_unlisted g w sid' session worker holding present' live
  holding_unique := inv.holding_unique
  writing_installed g w resp worker writing ok := by
    refine (inv.writing_installed g w resp worker writing ok).imp id ?_
    rintro ⟨session, present', returned⟩
    have other : w.session ≠ sid := by
      rintro same
      rw [same, present] at present'
      cases present'
      cases returned
    exact ⟨session, by simp [Function.update_apply, other, present'], returned⟩

theorem readLoop (inv : s.RegistryInvariant) {sid : Nat} {frame : Option Frame}
    (stepped : s.readLoop sid frame = some t) : t.RegistryInvariant := by
  rcases Daemon.readLoop_cases stepped with
    rfl | ⟨callID, msg, rfl⟩ | ⟨handlers, present, rfl⟩
  · exact inv
  · exact inv.spawnWorker sid callID msg
  · exact inv.exitSession present _

theorem cleanup (inv : s.RegistryInvariant) {sid : Nat} (stepped : s.cleanup sid = some t) :
    t.RegistryInvariant := by
  simp only [Daemon.cleanup] at stepped
  split at stepped
  · rename_i handlers exiting
    cases stepped
    rw [foldl_removeUnaryHandler]
    have owned : ∀ p ∈ handlers, s.hostHandlers p = some sid :=
      fun p listed => inv.listed_installed sid _ p exiting (by simp) listed
    constructor
    · intro p
      simp only [foldl_removeUnaryHandler]
      split_ifs <;> simp [inv.registered_iff p]
    · intro sid' session p present live listed
      simp only [foldl_removeUnaryHandler, Function.update_apply] at present ⊢
      split_ifs at present with same
      · cases present; exact absurd rfl live
      · have old := inv.listed_installed sid' session p present live listed
        have unlisted : p ∉ handlers :=
          fun mem => same (Option.some.inj ((owned p mem).symm.trans old)).symm
        simp [unlisted, old]
    · intro g w worker holding
      have unlisted : w.proto ∉ handlers :=
        inv.holding_unlisted g w sid _ worker holding exiting (by simp)
      simp [foldl_removeUnaryHandler, unlisted, inv.holding_installed g w worker holding]
    · intro g w sid' session worker holding present live
      simp only [foldl_removeUnaryHandler, Function.update_apply] at present
      split_ifs at present
      · cases present; exact absurd rfl live
      · exact inv.holding_unlisted g w sid' session worker holding present live
    · exact inv.holding_unique
    · intro g w resp worker writing ok
      rcases inv.writing_installed g w resp worker writing ok with
        installed | ⟨session, present, returned⟩
      · by_cases listed : w.proto ∈ handlers
        · have own : w.session = sid := Option.some.inj (installed.symm.trans (owned _ listed))
          refine .inr ⟨⟨.returned, handlers⟩, ?_, rfl⟩
          show Function.update s.sessions sid _ w.session = _
          rw [own, Function.update_same]
        · exact .inl (by simp [foldl_removeUnaryHandler, listed, installed])
      · have other : w.session ≠ sid := by
          rintro same
          rw [same, exiting] at present
          cases present
          cases returned
        exact .inr ⟨session, by simp [Function.update_apply, other, present], returned⟩
  · cases stepped

/-- `doAddUnaryHandler` on an unregistered protocol: the handler is installed
and the worker holds the registration. -/
theorem grant (inv : s.RegistryInvariant) {g : Nat} {w : AddUnaryHandlerWorker}
    (unregistered : s.registeredUnaryProtocols w.proto = false) {resp : Response} :
    (({ s with
        hostHandlers := Function.update s.hostHandlers w.proto (some w.session)
        registeredUnaryProtocols := Function.update s.registeredUnaryProtocols w.proto true } :
          Daemon).setAddWorker g { w with pc := .appending resp }).RegistryInvariant := by
  have vacant : s.hostHandlers w.proto = none :=
    Option.not_isSome_iff_eq_none.mp (by rw [← inv.registered_iff]; simp [unregistered])
  have other : ∀ q sid, s.hostHandlers q = some sid → q ≠ w.proto := by
    rintro q sid installed rfl
    simp [vacant] at installed
  constructor
  · intro q
    simp only [Daemon.setAddWorker, Function.update_apply]
    split_ifs
    · simp
    · exact inv.registered_iff q
  · intro sid session q present live listed
    have old := inv.listed_installed sid session q present live listed
    simp [Function.update_apply, other q sid old, old]
  · intro g' w' present holding
    simp only [Daemon.setAddWorker, Function.update_apply] at present ⊢
    split_ifs at present
    · cases present; simp
    · have old := inv.holding_installed g' w' present holding
      simp [other _ _ old, old]
  · intro g' w' sid session present holding sessionPresent live listed
    simp only [Daemon.setAddWorker, Function.update_apply] at present
    split_ifs at present
    · cases present
      have old := inv.listed_installed sid session w.proto sessionPresent live listed
      simp [vacant] at old
    · exact inv.holding_unlisted g' w' sid session present holding sessionPresent live listed
  · intro g₁ w₁ g₂ w₂ present₁ present₂ holding₁ holding₂ same
    simp only [Daemon.setAddWorker, Function.update_apply] at present₁ present₂
    split_ifs at present₁ present₂ with first second
    · exact first.trans second.symm
    · cases present₁
      exact absurd same.symm (other _ _ (inv.holding_installed g₂ w₂ present₂ holding₂))
    · cases present₂
      exact absurd same (other _ _ (inv.holding_installed g₁ w₁ present₁ holding₁))
    · exact inv.holding_unique g₁ w₁ g₂ w₂ present₁ present₂ holding₁ holding₂ same
  · intro g' w' resp' present writing ok'
    simp only [Daemon.setAddWorker, Function.update_apply] at present
    split_ifs at present
    · cases present; cases writing
    · refine (inv.writing_installed g' w' resp' present writing ok').imp (fun old => ?_) id
      simp [Function.update_apply, other _ _ old, old]

/-- The append under `d.mx`: the registration passes from the worker to its
session's slice. -/
theorem append (inv : s.RegistryInvariant) {g : Nat} {w : AddUnaryHandlerWorker}
    {resp : Response} (worker : s.addWorkers g = some w) (appending : w.pc = .appending resp)
    (ok : resp.isDaemonError = false) :
    ((s.appendStreamHandler w.session w.proto).setAddWorker g
      { w with pc := .writing resp }).RegistryInvariant := by
  have holding : w.pc.holding = true := by simp [appending, ok, AddUnaryHandlerPc.holding]
  have installed := inv.holding_installed g w worker holding
  constructor
  · exact inv.registered_iff
  · intro sid session q present live listed
    simp only [Daemon.setAddWorker, Daemon.appendStreamHandler, Function.update_apply] at present
    split_ifs at present with own
    · subst own
      obtain ⟨old, oldPresent, rfl⟩ := Option.map_eq_some'.mp present
      rcases List.mem_append.mp listed with listed | listed
      · exact inv.listed_installed _ old q oldPresent live listed
      · rw [List.mem_singleton.mp listed]; exact installed
    · exact inv.listed_installed sid session q present live listed
  · intro g' w' present holding'
    simp only [Daemon.setAddWorker, Function.update_apply] at present
    split_ifs at present
    · cases present; simp [AddUnaryHandlerPc.holding] at holding'
    · exact inv.holding_installed g' w' present holding'
  · intro g' w' sid session present holding' sessionPresent live
    simp only [Daemon.setAddWorker, Function.update_apply] at present
    split_ifs at present with same
    · cases present; simp [AddUnaryHandlerPc.holding] at holding'
    · have unique : w'.proto ≠ w.proto :=
        fun proto => same (inv.holding_unique g' w' g w present worker holding' holding proto)
      simp only [Daemon.setAddWorker, Daemon.appendStreamHandler, Function.update_apply]
        at sessionPresent
      split_ifs at sessionPresent with own
      · subst own
        obtain ⟨old, oldPresent, rfl⟩ := Option.map_eq_some'.mp sessionPresent
        simpa [unique] using inv.holding_unlisted g' w' _ old present holding' oldPresent live
      · exact inv.holding_unlisted g' w' sid session present holding' sessionPresent live
  · intro g₁ w₁ g₂ w₂ present₁ present₂ holding₁ holding₂
    simp only [Daemon.setAddWorker, Function.update_apply] at present₁ present₂
    split_ifs at present₁ present₂
    all_goals
      first
      | (cases present₁; simp [AddUnaryHandlerPc.holding] at holding₁)
      | (cases present₂; simp [AddUnaryHandlerPc.holding] at holding₂)
      | exact inv.holding_unique g₁ w₁ g₂ w₂ present₁ present₂ holding₁ holding₂
  · intro g' w' resp' present writing ok'
    simp only [Daemon.setAddWorker, Function.update_apply] at present
    split_ifs at present
    · cases present; exact .inl installed
    · refine (inv.writing_installed g' w' resp' present writing ok').imp id ?_
      rintro ⟨session, sessionPresent, returned⟩
      simp only [Daemon.setAddWorker, Daemon.appendStreamHandler, Function.update_apply]
      split_ifs with own
      · refine ⟨{ session with streamHandlers := session.streamHandlers ++ [w.proto] }, ?_,
          returned⟩
        rw [← own, sessionPresent]
        rfl
      · exact ⟨session, sessionPresent, returned⟩

theorem addUnaryHandlerWorker (inv : s.RegistryInvariant) {g : Nat}
    (stepped : s.addUnaryHandlerWorker g = some t) : t.RegistryInvariant := by
  simp only [Daemon.addUnaryHandlerWorker] at stepped
  split at stepped
  · rename_i w worker
    split at stepped <;> cases stepped
    · by_cases registered : s.registeredUnaryProtocols w.proto = true
      · simp only [Daemon.doAddUnaryHandler, registered, if_true]
        exact inv.setAddWorker (by simp [AddUnaryHandlerPc.holding, errorUnaryCallString,
          Response.isDaemonError]) (by simp)
      · simp only [Daemon.doAddUnaryHandler, registered, if_false]
        exact inv.grant (by simpa using registered)
    · rename_i resp appending
      by_cases isError : resp.isDaemonError = true
      · simp only [isError, if_true]
        exact inv.setAddWorker (by simp [AddUnaryHandlerPc.holding]) (by simp [isError])
      · simp only [isError, if_false]
        exact inv.append worker appending (by simpa using isError)
    · exact (inv.congr (t := s.writeMsg w.session _) rfl rfl rfl rfl).setAddWorker
        (by simp [AddUnaryHandlerPc.holding]) (by simp)
  · cases stepped

end RegistryInvariant

theorem step_registryInvariant (inv : s.RegistryInvariant) (fresh : s.Fresh) {a : Action}
    (stepped : s.step a = some t) : t.RegistryInvariant := by
  cases touches : a.touchesRegistry
  · obtain ⟨registered, installed, sessions, workers⟩ := step_registry_frame stepped touches
    exact inv.congr registered installed sessions workers
  · unfold step at stepped
    split at stepped
    · cases stepped
    cases a <;> simp only [Action.touchesRegistry, reduceCtorEq] at touches
    · cases stepped; exact inv.startSession fresh
    · exact inv.readLoop stepped
    · exact inv.cleanup stepped
    · exact inv.addUnaryHandlerWorker stepped

end Daemon

theorem Reachable.registryInvariant {s : Daemon} (reachable : Reachable s) :
    s.RegistryInvariant := by
  induction reachable with
  | init config => exact Daemon.registryInvariant_init config
  | step a reachable stepped ih => exact Daemon.step_registryInvariant ih reachable.fresh stepped

end P2pd

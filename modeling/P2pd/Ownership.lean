import P2pd.Registry

/-!
# Exclusive ownership of protocols

What the registry invariant gives over whole runs: a registration is set only
by a `doAddUnaryHandler` that installs the handler over its session's writer,
cleared only by the cleanup of that session, and the handler installed is the
one of the worker that last set the entry.  Two `Ok` answers for one protocol
are therefore separated by the cleanup of the first owner's session.
-/

namespace P2pd

namespace Daemon

variable {s t : Daemon} {a : Action}

/-- The next step of worker `g` is a `doAddUnaryHandler` for `p` answered `Ok`. -/
def Grants (s : Daemon) (g : Nat) (p : String) : Prop :=
  ∃ w, s.addWorkers g = some w ∧ w.pc = .start ∧ w.proto = p ∧
    s.registeredUnaryProtocols p = false

theorem Grants.unregistered {g : Nat} {p : String} (grants : s.Grants g p) :
    s.registeredUnaryProtocols p = false :=
  grants.elim fun _ granting => granting.2.2.2

/-- What one step can do to the registry and the host's table: nothing, the
cleanup of an exiting session over its slice, or a granting
`doAddUnaryHandler`. -/
theorem step_registry_cases (stepped : s.step a = some t) :
    (t.registeredUnaryProtocols = s.registeredUnaryProtocols ∧
        t.hostHandlers = s.hostHandlers) ∨
      (∃ sid handlers, a = .cleanup sid ∧ s.sessions sid = some ⟨.exiting, handlers⟩ ∧
        t.registeredUnaryProtocols =
          (fun p => if p ∈ handlers then false else s.registeredUnaryProtocols p) ∧
        t.hostHandlers = (fun p => if p ∈ handlers then none else s.hostHandlers p)) ∨
      (∃ g w, a = .addUnaryHandlerWorker g ∧ s.addWorkers g = some w ∧ w.pc = .start ∧
        s.registeredUnaryProtocols w.proto = false ∧
        t.registeredUnaryProtocols = Function.update s.registeredUnaryProtocols w.proto true ∧
        t.hostHandlers = Function.update s.hostHandlers w.proto (some w.session)) := by
  cases touches : a.touchesRegistry
  · obtain ⟨registered, installed, -⟩ := step_registry_frame stepped touches
    exact .inl ⟨registered, installed⟩
  unfold step at stepped
  split at stepped
  · cases stepped
  cases a <;> simp only [Action.touchesRegistry, reduceCtorEq] at touches
  · cases stepped; exact .inl ⟨rfl, rfl⟩
  · simp only [readLoop] at stepped
    split at stepped
    · split at stepped
      · split at stepped <;> cases stepped <;> simp
      · cases stepped; exact .inl ⟨rfl, rfl⟩
    · cases stepped
  · simp only [cleanup] at stepped
    split at stepped
    · rename_i handlers exiting
      cases stepped
      exact .inr (.inl ⟨_, handlers, rfl, exiting, by simp [foldl_removeUnaryHandler],
        by simp [foldl_removeUnaryHandler]⟩)
    · cases stepped
  · simp only [addUnaryHandlerWorker] at stepped
    split at stepped
    · rename_i w worker
      split at stepped <;> cases stepped
      · rename_i started
        by_cases registered : s.registeredUnaryProtocols w.proto = true
        · simp only [doAddUnaryHandler, registered, if_true]; exact .inl ⟨rfl, rfl⟩
        · simp only [doAddUnaryHandler, registered, if_false]
          exact .inr (.inr ⟨_, w, rfl, worker, started, by simpa using registered, rfl, rfl⟩)
      · split_ifs <;> exact .inl ⟨rfl, rfl⟩
      · exact .inl ⟨rfl, rfl⟩
    · cases stepped

/-- While a protocol stays registered, its installed handler does not change. -/
theorem step_kept (stepped : s.step a = some t) {p : String}
    (before : s.registeredUnaryProtocols p = true) (after : t.registeredUnaryProtocols p = true) :
    t.hostHandlers p = s.hostHandlers p := by
  rcases step_registry_cases stepped with
    ⟨-, installed⟩ | ⟨sid, handlers, -, -, registered, installed⟩ |
      ⟨g, w, -, -, -, unregistered, -, installed⟩
  · rw [installed]
  · have unlisted : p ∉ handlers := by intro listed; simp [registered, listed] at after
    simp [installed, unlisted]
  · have other : p ≠ w.proto := by rintro rfl; simp [before] at unregistered
    simp [installed, other]

/-- A registration is cleared only by the cleanup of the session that lists
it, and that session's writer is the one the installed handler closes over. -/
theorem step_cleared (inv : s.RegistryInvariant) (stepped : s.step a = some t) {p : String}
    (before : s.registeredUnaryProtocols p = true) (after : t.registeredUnaryProtocols p = false) :
    ∃ sid handlers, a = .cleanup sid ∧ s.sessions sid = some ⟨.exiting, handlers⟩ ∧
      p ∈ handlers ∧ s.hostHandlers p = some sid := by
  rcases step_registry_cases stepped with
    ⟨registered, -⟩ | ⟨sid, handlers, rfl, exiting, registered, -⟩ |
      ⟨g, w, -, -, -, -, registered, -⟩
  · simp [registered, before] at after
  · have listed : p ∈ handlers := by
      by_contra unlisted; simp [registered, unlisted, before] at after
    exact ⟨sid, handlers, rfl, exiting, listed,
      inv.listed_installed sid _ p exiting (by simp) listed⟩
  · by_cases same : p = w.proto
    · simp [registered, same] at after
    · simp [registered, same, before] at after

/-- A registration is set only by a `doAddUnaryHandler` answered `Ok`, which
installs the handler built over its session's writer. -/
theorem step_set (stepped : s.step a = some t) {p : String}
    (before : s.registeredUnaryProtocols p = false) (after : t.registeredUnaryProtocols p = true) :
    ∃ g w, a = .addUnaryHandlerWorker g ∧ s.Grants g p ∧ s.addWorkers g = some w ∧
      t.hostHandlers p = some w.session := by
  rcases step_registry_cases stepped with
    ⟨registered, -⟩ | ⟨sid, handlers, -, -, registered, -⟩ |
      ⟨g, w, rfl, worker, started, unregistered, registered, installed⟩
  · simp [registered, before] at after
  · by_cases listed : p ∈ handlers <;> simp [registered, listed, before] at after
  · have same : p = w.proto := by by_contra other; simp [registered, other, before] at after
    subst same
    exact ⟨g, w, rfl, ⟨w, worker, started, rfl, unregistered⟩, worker, by simp [installed]⟩

/-- A granting step registers `p` with the handler over the worker's session. -/
theorem Grants.step_granted {g : Nat} {p : String} (grants : s.Grants g p)
    (stepped : s.step (.addUnaryHandlerWorker g) = some t) :
    ∃ w, s.addWorkers g = some w ∧ t.registeredUnaryProtocols p = true ∧
      t.hostHandlers p = some w.session := by
  obtain ⟨w, worker, started, rfl, unregistered⟩ := grants
  unfold step at stepped
  split at stepped
  · cases stepped
  simp only [addUnaryHandlerWorker, worker, started, doAddUnaryHandler, unregistered] at stepped
  cases stepped
  exact ⟨w, worker, by simp, by simp⟩

/-! ## Over runs -/

/-- `p` is registered in every daemon met along the actions, the first one
included. -/
def StaysRegistered (s : Daemon) (actions : List Action) (p : String) : Prop :=
  ∀ k x, s.run (actions.take k) = some x → x.registeredUnaryProtocols p = true

theorem run_cons_eq_some {actions : List Action} (ran : s.run (a :: actions) = some t) :
    ∃ u, s.step a = some u ∧ u.run actions = some t := by
  simpa [Option.bind_eq_some] using ran

theorem StaysRegistered.cons {u : Daemon} {actions : List Action} {p : String}
    (before : s.registeredUnaryProtocols p = true) (stepped : s.step a = some u)
    (stays : u.StaysRegistered actions p) : s.StaysRegistered (a :: actions) p := by
  rintro (_ | k) x ran
  · cases ran; exact before
  · simp only [List.take_succ_cons, run_cons, stepped, Option.some_bind] at ran
    exact stays k x ran

/-- The last setter of a registration: along a run that ends with `p`
registered, either `p` was registered throughout with its handler unchanged,
or a last `doAddUnaryHandler` answered `Ok` set it, `p` stayed registered
after it, and the installed handler is the one over that worker's session. -/
theorem run_lastSetter {p : String} : ∀ {actions : List Action} {s t : Daemon},
    s.run actions = some t → t.registeredUnaryProtocols p = true →
    (s.registeredUnaryProtocols p = true ∧ t.hostHandlers p = s.hostHandlers p ∧
        s.StaysRegistered actions p) ∨
      ∃ pre g post u v w, actions = pre ++ .addUnaryHandlerWorker g :: post ∧
        s.run pre = some u ∧ u.Grants g p ∧ u.addWorkers g = some w ∧
        u.step (.addUnaryHandlerWorker g) = some v ∧ v.StaysRegistered post p ∧
        t.hostHandlers p = some w.session
  | [], s, t, ran, after => by
      cases ran
      refine .inl ⟨after, rfl, fun k x ran => ?_⟩
      simp only [List.take_nil, run_nil, Option.some.injEq] at ran
      exact ran ▸ after
  | a :: rest, s, t, ran, after => by
      obtain ⟨u, stepped, ran⟩ := run_cons_eq_some ran
      rcases run_lastSetter ran after with ⟨before, installed, stays⟩ |
          ⟨pre, g, post, x, v, w, rfl, ranPre, grants, worker, setStep, stays, installed⟩
      · cases registered : s.registeredUnaryProtocols p
        · obtain ⟨g, w, rfl, grants, worker, set⟩ := step_set stepped registered before
          exact .inr ⟨[], g, rest, s, u, w, rfl, rfl, grants, worker, stepped, stays,
            installed.trans set⟩
        · exact .inl ⟨rfl, installed.trans (step_kept stepped registered before),
            StaysRegistered.cons registered stepped stays⟩
      · exact .inr ⟨a :: pre, g, post, x, v, w, rfl, by simp [stepped, ranPre], grants, worker,
          setStep, stays, installed⟩

/-- A registration whose handler is over session `sid` ends only through the
cleanup of `sid`, run while `p` is in its slice. -/
theorem run_clearedBy {p : String} {sid : Nat} : ∀ {actions : List Action} {s t : Daemon},
    Reachable s → s.registeredUnaryProtocols p = true → s.hostHandlers p = some sid →
    s.run actions = some t → t.registeredUnaryProtocols p = false →
    ∃ pre post x handlers, actions = pre ++ .cleanup sid :: post ∧ s.run pre = some x ∧
      x.sessions sid = some ⟨.exiting, handlers⟩ ∧ p ∈ handlers
  | [], s, t, _, before, _, ran, after => by cases ran; simp [before] at after
  | a :: rest, s, t, reachable, before, installed, ran, after => by
      obtain ⟨u, stepped, ran⟩ := run_cons_eq_some ran
      cases registered : u.registeredUnaryProtocols p
      · obtain ⟨sid', handlers, rfl, exiting, listed, owner⟩ :=
          step_cleared reachable.registryInvariant stepped before registered
        obtain rfl : sid' = sid := Option.some.inj (owner.symm.trans installed)
        exact ⟨[], rest, s, handlers, rfl, rfl, exiting, listed⟩
      · obtain ⟨pre, post, x, handlers, rfl, ranPre, exiting, listed⟩ :=
          run_clearedBy (reachable.step a stepped) registered
            ((step_kept stepped before registered).trans installed) ran after
        exact ⟨a :: pre, post, x, handlers, rfl, by simp [stepped, ranPre], exiting, listed⟩

end Daemon

open Daemon in
/-- Exclusive protocol ownership.  In every reachable daemon a protocol is
registered exactly when a handler is installed for it, a live session's slice
lists only protocols whose handler closes over its writer (so no two live
sessions list one protocol), and a worker about to write `Ok` finds its
handler installed unless its session has since returned.  Over every run, the
installed handler is the one of the `doAddUnaryHandler` that last set the
entry, and two `Ok` answers for one protocol are separated by the cleanup of
the first one's session with the protocol in its slice. -/
theorem exclusive_protocol_ownership :
    (∀ s, Reachable s → ∀ p,
      (s.registeredUnaryProtocols p = true ↔ (s.hostHandlers p).isSome) ∧
      (∀ sid session, s.sessions sid = some session → session.phase ≠ .returned →
        p ∈ session.streamHandlers → s.hostHandlers p = some sid) ∧
      (∀ sid sid' session session', s.sessions sid = some session →
        s.sessions sid' = some session' → session.phase ≠ .returned →
        session'.phase ≠ .returned → p ∈ session.streamHandlers →
        p ∈ session'.streamHandlers → sid = sid') ∧
      (∀ g w resp, s.addWorkers g = some w → w.proto = p → w.pc = .writing resp →
        resp.isDaemonError = false →
        s.hostHandlers p = some w.session ∨
          ∃ session, s.sessions w.session = some session ∧ session.phase = .returned)) ∧
    (∀ config actions s p, (Daemon.init config).run actions = some s →
      s.registeredUnaryProtocols p = true →
      ∃ pre g post u v w, actions = pre ++ .addUnaryHandlerWorker g :: post ∧
        (Daemon.init config).run pre = some u ∧ u.Grants g p ∧ u.addWorkers g = some w ∧
        u.step (.addUnaryHandlerWorker g) = some v ∧ v.StaysRegistered post p ∧
        s.hostHandlers p = some w.session) ∧
    (∀ u₁ v₁ u₂ g₁ g₂ w₁ p mid, Reachable u₁ → u₁.Grants g₁ p → u₁.addWorkers g₁ = some w₁ →
      u₁.step (.addUnaryHandlerWorker g₁) = some v₁ → v₁.run mid = some u₂ → u₂.Grants g₂ p →
      ∃ pre post x handlers, mid = pre ++ .cleanup w₁.session :: post ∧ v₁.run pre = some x ∧
        x.sessions w₁.session = some ⟨.exiting, handlers⟩ ∧ p ∈ handlers) := by
  refine ⟨fun s reachable p => ?_, fun config actions s p ran registered => ?_,
    fun u₁ v₁ u₂ g₁ g₂ w₁ p mid reachable grants worker stepped ran regrants => ?_⟩
  · have inv := reachable.registryInvariant
    refine ⟨inv.registered_iff p, fun sid session => inv.listed_installed sid session p,
      fun sid sid' session session' present present' live live' listed listed' => ?_,
      fun g w resp worker proto => proto ▸ inv.writing_installed g w resp worker⟩
    exact Option.some.inj ((inv.listed_installed sid session p present live listed).symm.trans
      (inv.listed_installed sid' session' p present' live' listed'))
  · rcases run_lastSetter ran registered with ⟨initially, -⟩ | found
    · simp [Daemon.init] at initially
    · exact found
  · obtain ⟨w, worker', registered, installed⟩ := grants.step_granted stepped
    cases worker.symm.trans worker'
    exact run_clearedBy (reachable.step _ stepped) registered installed ran regrants.unregistered

/-! ## A registration outlives its session

The deferred cleanup of `handleUpgradedConn` removes the protocols in the
session's `streamHandlers` slice, and nothing makes it wait for the
`AddUnaryHandler` workers the session spawned.  A worker scheduled after the
cleanup registers its protocol over the writer of a session that has returned,
and the registration stays. -/

/-- The configuration of the runs below: the default limit, and the multihash
check of `peer.IDFromBytes`. -/
def sampleConfig : Config := ⟨4194304, multihashPeerId⟩

/-- A well-formed call id, all of whose bytes are `b`. -/
def sampleCallID (b : UInt8) : Uuid := ⟨List.replicate 16 b, List.length_replicate 16 b⟩

/-- `AddUnaryHandler{proto}` with call id `callID`. -/
def addUnaryHandlerRequest (callID : Uuid) (proto : String) : Request :=
  ⟨callID.bytes, some (.addUnaryHandler proto)⟩

/-- A client of session `0` sends `AddUnaryHandler{proto}` and hangs up; the
session returns before its worker `0` is scheduled, and the worker then runs
to its end. -/
def hangUpBeforeWorker (callID : Uuid) (proto : String) : List Action :=
  [.startSession, .readLoop 0 (some (.message (addUnaryHandlerRequest callID proto))),
    .readLoop 0 none, .cleanup 0,
    .addUnaryHandlerWorker 0, .addUnaryHandlerWorker 0, .addUnaryHandlerWorker 0]

/-- A new client, served as session `sid`, sends `AddUnaryHandler{proto}` and
its worker `g` runs to its end. -/
def addOnNewSession (sid g : Nat) (callID : Uuid) (proto : String) : List Action :=
  [.startSession, .readLoop sid (some (.message (addUnaryHandlerRequest callID proto))),
    .addUnaryHandlerWorker g, .addUnaryHandlerWorker g, .addUnaryHandlerWorker g]

/-- Session `0` has returned and its only worker has finished, yet `/p/a` is
registered with the handler over session `0`'s writer, and the next client's
`AddUnaryHandler{/p/a}` is refused. -/
theorem registration_outlives_session :
    ∃ s, (Daemon.init sampleConfig).run (hangUpBeforeWorker (sampleCallID 1) "/p/a") = some s ∧
      (s.sessions 0).map Session.phase = some .returned ∧
      (∀ g w, s.addWorkers g = some w → w.session = 0 → w.pc = .finished) ∧
      s.registeredUnaryProtocols "/p/a" = true ∧ s.hostHandlers "/p/a" = some 0 ∧
      ∃ t, s.run (addOnNewSession 1 1 (sampleCallID 2) "/p/a") = some t ∧
        t.written 1 = [some (errorUnaryCallString (sampleCallID 2)
          "handler for protocol /p/a already set")] := by
  refine ⟨_, rfl, by decide, fun g w worker _ => ?_, by decide, by decide, _, rfl, by decide⟩
  have ran : (Daemon.init sampleConfig).run (hangUpBeforeWorker (sampleCallID 1) "/p/a") = _ :=
    rfl
  have fresh := ((Reachable.init sampleConfig).run ran).fresh
  obtain rfl : g = 0 := Nat.lt_one_iff.mp
    (fresh.routine_lt g fun unused => Option.some_ne_none w (worker.symm.trans unused.1))
  exact Option.some.inj ((congrArg (Option.map AddUnaryHandlerWorker.pc) worker).symm.trans rfl)


/-- Session `0` registers `/p/a` and hangs up, its cleanup runs, and a new
client, served as session `1`, asks for `/p/a` again. -/
def registerAfterCleanup : List Action :=
  addOnNewSession 0 0 (sampleCallID 1) "/p/a" ++
    [.readLoop 0 none, .cleanup 0, .startSession,
      .readLoop 1 (some (.message (addUnaryHandlerRequest (sampleCallID 2) "/p/a")))]

/-- Worker `0` grants `/p/a` after the first two actions, and worker `1` grants
it again at the end; between the two stands session `0`'s cleanup, with `/p/a`
in its slice. -/
theorem regrant_follows_cleanup :
    ∃ u₁ v₁ u₂, (Daemon.init sampleConfig).run (registerAfterCleanup.take 2) = some u₁ ∧
      u₁.Grants 0 "/p/a" ∧ u₁.step (.addUnaryHandlerWorker 0) = some v₁ ∧
      v₁.run (registerAfterCleanup.drop 3) = some u₂ ∧ u₂.Grants 1 "/p/a" ∧
      ∃ pre post x handlers, registerAfterCleanup.drop 3 = pre ++ .cleanup 0 :: post ∧
        v₁.run pre = some x ∧ x.sessions 0 = some ⟨.exiting, handlers⟩ ∧ "/p/a" ∈ handlers := by
  obtain ⟨-, -, regrant⟩ := exclusive_protocol_ownership
  have ran : (Daemon.init sampleConfig).run (registerAfterCleanup.take 2) = _ := rfl
  refine ⟨_, _, _, ran, ?_, rfl, rfl, ?_,
    regrant _ _ _ 0 1 _ "/p/a" _ ((Reachable.init sampleConfig).run ran) ?_ rfl rfl rfl ?_⟩ <;>
  exact ⟨_, rfl, rfl, rfl, rfl⟩

end P2pd

import Mathlib.Data.List.Basic

/-!
# Startup of `p2pd`

`main` reads its flags and starts from a configuration: the one on stdin with
`-i`, the one in the `-f` file, or the default.  The flags override parts of
it.  `main` then refuses some combinations of relay flags with a panic,
collects the libp2p options of the host, and starts the daemon.  It also
refuses a host with no channel security, or with both reachabilities forced.
Some collaborators lie outside the sources: the `config` package, the
multiaddr parser, the identity reader, the connection manager and the daemon's
own start.  Their answers form an environment of inputs.  `pprofHTTP` looks
for a port to serve the profiler on.
-/

namespace P2pd

namespace Main

/-- A multiaddr that `multiaddr.NewMultiaddr` parsed, by its text. -/
structure Multiaddr where
  text : String
  deriving DecidableEq

/-- `config.DHTFullMode`. -/
def dhtFullMode : String := "full"

/-- `config.DHTClientMode`. -/
def dhtClientMode : String := "client"

/-- `config.DHTServerMode`. -/
def dhtServerMode : String := "server"

/-- The flags `main` reads, after `flag.Parse()`, under the names of the
variables that hold them; each field's default is the flag's default.
Durations are in nanoseconds, as `time.Duration` counts them. -/
structure Flags where
  maddrString : String := "/unix/tmp/p2pd.sock"
  id : String := ""
  bootstrap : Bool := false
  bootstrapPeers : String := ""
  dht : Bool := false
  dhtClient : Bool := false
  dhtServer : Bool := false
  connMgr : Bool := false
  connMgrLo : Int := 256
  connMgrHi : Int := 512
  connMgrGrace : Int := 120000000000
  natPortMap : Bool := false
  pubsub : Bool := false
  pubsubRouter : String := "gossipsub"
  pubsubSign : Bool := true
  pubsubSignStrict : Bool := true
  gossipsubHeartbeatInterval : Int := 0
  gossipsubHeartbeatInitialDelay : Int := 0
  relayEnabled : Bool := true
  relayHopLimit : Int := 0
  autoRelay : Bool := false
  relayDiscovery : Bool := true
  trustedRelaysRaw : String := ""
  relayService : Bool := true
  relayMaxCircuits : Int := 16
  relayMaxReservations : Int := 128
  relayBufferSize : Int := 16777216
  relayDataLimit : Int := 4294967296
  relayTimeLimit : Int := 1800000000000
  autonat : Bool := false
  hostAddrs : String := ""
  announceAddrs : String := ""
  noListen : Bool := false
  configFilename : String := ""
  configStdin : Bool := false
  pprof : Bool := false
  pprofPort : Nat := 0
  useNoise : Bool := true
  useTls : Bool := true
  forceReachabilityPublic : Bool := false
  forceReachabilityPrivate : Bool := false
  persistentConnMaxMsgSize : Int := 4194304

/-- The fields of `config.Config` that `main` reads or sets, flattened. -/
structure DaemonConfig where
  listenAddr : Multiaddr
  id : String
  hostAddresses : List Multiaddr
  announceAddresses : List Multiaddr
  connectionManagerEnabled : Bool
  connectionManagerGracePeriod : Int
  connectionManagerHighWaterMark : Int
  connectionManagerLowWaterMark : Int
  natPortMap : Bool
  relayEnabled : Bool
  relayHopLimit : Int
  relayAuto : Bool
  noListen : Bool
  autoNat : Bool
  pubSubEnabled : Bool
  pubSubRouter : String
  pubSubSign : Bool
  pubSubSignStrict : Bool
  gossipSubHeartbeatInterval : Int
  gossipSubHeartbeatInitialDelay : Int
  bootstrapPeers : List Multiaddr
  bootstrapEnabled : Bool
  dhtMode : String
  pprofEnabled : Bool
  pprofPort : Nat
  securityTLS : Bool
  securityNoise : Bool
  deriving DecidableEq

/-- A channel security protocol of the host. -/
inductive SecurityTransport
  | noise
  | tls
  deriving DecidableEq

/-- The libp2p options `main` hands to the host, by the constructor that built
each. -/
inductive HostOption
  | userAgent (agent : String)
  | identity (key : String)
  | listenAddrs (addrs : List Multiaddr)
  | addrsFactory (addrs : List Multiaddr)
  | connectionManager (low high grace : Int)
  | natPortMap
  | enableNATService
  | enableHolePunching
  | enableRelay
  | noListenAddrs
  | security (transport : SecurityTransport)
  | forceReachabilityPrivate
  | forceReachabilityPublic
  deriving DecidableEq

/-- The arguments of `p2pd.NewDaemon` besides the options. -/
structure DaemonArgs where
  listenAddr : Multiaddr
  dhtMode : String
  relayDiscovery : Bool
  trustedRelays : List String
  persistentConnMaxMsgSize : Int
  deriving DecidableEq

/-- What the collaborators outside the sources answer. -/
structure Environment where
  /-- `ioutil.ReadAll(stdin)` and `json.Unmarshal`, or the first error. -/
  readStdin : Except String DaemonConfig
  /-- `ioutil.ReadFile(name)` and `json.Unmarshal`, or the first error. -/
  readFile : String → Except String DaemonConfig
  /-- `config.NewDefaultConfig()`. -/
  defaultConfig : DaemonConfig
  /-- `multiaddr.NewMultiaddr`. -/
  newMultiaddr : String → Except String Multiaddr
  /-- The error `c.Validate()` returns, if any. -/
  validate : DaemonConfig → Option String
  /-- `p2pd.ReadIdentity`: the key, by its text, or the error. -/
  readIdentity : String → Except String String
  /-- The error `connmgr.NewConnManager(low, high, grace)` returns, if any. -/
  newConnManager : Int → Int → Int → Option String
  /-- `p2pd.ConfigureRelayService(opts, maxCircuits, maxReservations,
  bufferSize, dataLimit, timeLimit)`. -/
  configureRelayService : List HostOption → Int → Int → Int → Int → Int → List HostOption
  /-- The error `p2pd.NewDaemon` returns, if any. -/
  newDaemon : DaemonArgs → List HostOption → Option String
  /-- The error `d.EnablePubsub(router, sign, signStrict)` returns, if any. -/
  enablePubsub : String → Bool → Bool → Option String
  /-- The error `d.Bootstrap()` returns, if any. -/
  bootstrap : Option String
  /-- The error `d.Serve()` returns, if any. -/
  serve : Option String

/-- How `main` ends. -/
inductive Exit
  /-- `log.Fatal`: the error's text is logged and the process exits. -/
  | fatal (err : String)
  | panic (message : String)
  /-- `d.Serve()` returned without an error. -/
  | returned
  deriving DecidableEq

/-- What `main` starts the daemon with. -/
structure Startup where
  config : DaemonConfig
  trustedRelays : List String
  options : List HostOption

/-! ## The steps of `main` -/

section Steps

variable (flags : Flags) (env : Environment)

/-- The configuration `main` starts from; a read or decode error is fatal. -/
def loadConfig : Except Exit DaemonConfig :=
  if flags.configStdin then env.readStdin.mapError .fatal
  else if flags.configFilename ≠ "" then (env.readFile flags.configFilename).mapError .fatal
  else .ok env.defaultConfig

/-- `strings.Split` on commas, each part parsed by `multiaddr.NewMultiaddr`;
the first part that does not parse is fatal. -/
def parseAddrs (addrs : String) : Except Exit (List Multiaddr) :=
  (addrs.splitOn ",").mapM fun a => (env.newMultiaddr a).mapError .fatal

/-- The listen address, the identity file and the host's own addresses. -/
def setAddresses (c : DaemonConfig) : Except Exit DaemonConfig := do
  let maddr ← (env.newMultiaddr flags.maddrString).mapError .fatal
  let c := { c with listenAddr := maddr }
  let c := if flags.id ≠ "" then { c with id := flags.id } else c
  let c ← (if flags.hostAddrs ≠ "" then
      (fun ha => { c with hostAddresses := ha }) <$> parseAddrs env flags.hostAddrs
    else pure c)
  if flags.announceAddrs ≠ "" then
    (fun ha => { c with announceAddresses := ha }) <$> parseAddrs env flags.announceAddrs
  else pure c

/-- The connection manager, NAT port mapping, relay and autorelay flags. -/
def setServices (c : DaemonConfig) : DaemonConfig :=
  let c := if flags.connMgr then
      { c with
        connectionManagerEnabled := true
        connectionManagerGracePeriod := flags.connMgrGrace
        connectionManagerHighWaterMark := flags.connMgrHi
        connectionManagerLowWaterMark := flags.connMgrLo }
    else c
  let c := if flags.natPortMap then { c with natPortMap := true } else c
  let c := if flags.relayEnabled then
      { c with
        relayEnabled := true
        relayHopLimit := if flags.relayHopLimit > 0 then flags.relayHopLimit else c.relayHopLimit }
    else c
  if flags.autoRelay then { c with relayAuto := true } else c

/-- The panic when static relays are given without relays enabled. -/
def relaysNotEnabled : String :=
  "Found staticRelays but relays are not enabled, expected -relayEnabled=1"

/-- The panic when static relays are given without autorelay. -/
def autoRelayNotEnabled : String :=
  "Found staticRelays but autoRelay is not enabled, expected -autoRelay=1"

/-- The panic when autorelay has neither discovery nor static relays. -/
def autoRelayWithoutRelays : String :=
  "Daemon with autoRelay requires either -relayDiscovery=1 or -trustedRelays=$STATIC_RELAYS_HERE"

/-- The static relays, and the checks of the relay flags, which panic. -/
def checkRelays : Except Exit (List String) := do
  let trustedRelays ← if flags.trustedRelaysRaw ≠ "" then do
      let trustedRelays := flags.trustedRelaysRaw.splitOn ","
      if trustedRelays.length > 0 ∧ !flags.relayEnabled then throw (.panic relaysNotEnabled)
      if trustedRelays.length > 0 ∧ !flags.autoRelay then throw (.panic autoRelayNotEnabled)
      pure trustedRelays
    else pure []
  if flags.autoRelay ∧ !flags.relayDiscovery ∧ trustedRelays.length = 0 then
    throw (.panic autoRelayWithoutRelays)
  pure trustedRelays

/-- The listen-nothing, AutoNAT and pubsub flags. -/
def setPubsub (c : DaemonConfig) : DaemonConfig :=
  let c := if flags.noListen then { c with noListen := true } else c
  let c := if flags.autonat then { c with autoNat := true } else c
  if flags.pubsub then
    { c with
      pubSubEnabled := true
      pubSubRouter := flags.pubsubRouter
      pubSubSign := flags.pubsubSign
      pubSubSignStrict := flags.pubsubSignStrict
      gossipSubHeartbeatInterval :=
        if flags.gossipsubHeartbeatInterval > 0 then flags.gossipsubHeartbeatInterval
        else c.gossipSubHeartbeatInterval
      gossipSubHeartbeatInitialDelay :=
        if flags.gossipsubHeartbeatInitialDelay > 0 then flags.gossipsubHeartbeatInitialDelay
        else c.gossipSubHeartbeatInitialDelay }
  else c

/-- The bootstrap peers, parsed. -/
def setBootstrapPeers (c : DaemonConfig) : Except Exit DaemonConfig :=
  if flags.bootstrapPeers ≠ "" then
    (fun bps => { c with bootstrapPeers := bps }) <$> parseAddrs env flags.bootstrapPeers
  else pure c

/-- The bootstrap, DHT, profiler and security flags.  The flag pointers
`pprofPort`, `useTls` and `useNoise` are never nil, so their values always
replace the configuration's. -/
def setModes (c : DaemonConfig) : DaemonConfig :=
  let c := if flags.bootstrap then { c with bootstrapEnabled := true } else c
  let c := if flags.dht then { c with dhtMode := dhtFullMode }
    else if flags.dhtClient then { c with dhtMode := dhtClientMode }
    else if flags.dhtServer then { c with dhtMode := dhtServerMode }
    else c
  let c := if flags.pprof then { c with pprofEnabled := true, pprofPort := flags.pprofPort } else c
  { c with securityTLS := flags.useTls, securityNoise := flags.useNoise }

/-- The channel security options, Noise first. -/
def securityOpts (c : DaemonConfig) : List HostOption :=
  (if c.securityNoise then [.security .noise] else []) ++
    (if c.securityTLS then [.security .tls] else [])

/-- The fatal error of a host with no channel security. -/
def noSecurity : String := "at least one channel security protocol must be enabled"

/-- The fatal error of both reachabilities forced. -/
def bothReachabilities : String := "forceReachability must be public or private, not both"

/-- The channel security options, which must not be empty, and the forced
reachability, appended to the options collected before them. -/
def securityAndReachability (c : DaemonConfig) (opts : List HostOption) :
    Except Exit (List HostOption) :=
  if securityOpts c = [] then throw (.fatal noSecurity)
  else
    let opts := opts ++ securityOpts c
    if flags.forceReachabilityPrivate ∧ flags.forceReachabilityPublic then
      throw (.fatal bothReachabilities)
    else if flags.forceReachabilityPrivate then pure (opts ++ [.forceReachabilityPrivate])
    else if flags.forceReachabilityPublic then pure (opts ++ [.forceReachabilityPublic])
    else pure opts

/-- The options of the host, from the validated configuration. -/
def collectOptions (c : DaemonConfig) : Except Exit (List HostOption) := do
  let opts := [HostOption.userAgent "p2pd/0.1"]
  let opts ← (if c.id ≠ "" then
      (fun key => opts ++ [.identity key]) <$> (env.readIdentity c.id).mapError .fatal
    else pure opts)
  let opts := if c.hostAddresses ≠ [] then opts ++ [.listenAddrs c.hostAddresses] else opts
  let opts := if c.announceAddresses ≠ [] then opts ++ [.addrsFactory c.announceAddresses]
    else opts
  let opts ← (if c.connectionManagerEnabled then
      match env.newConnManager c.connectionManagerLowWaterMark c.connectionManagerHighWaterMark
          c.connectionManagerGracePeriod with
      | some err => throw (.fatal err)
      | none => pure (opts ++ [.connectionManager c.connectionManagerLowWaterMark
          c.connectionManagerHighWaterMark c.connectionManagerGracePeriod])
    else pure opts)
  let opts := if c.natPortMap then opts ++ [.natPortMap] else opts
  let opts := if c.autoNat then opts ++ [.enableNATService, .enableHolePunching] else opts
  let opts := if c.relayEnabled then
      let opts := opts ++ [.enableRelay]
      if flags.relayService then
        env.configureRelayService opts flags.relayMaxCircuits flags.relayMaxReservations
          flags.relayBufferSize flags.relayDataLimit flags.relayTimeLimit
      else opts
    else opts
  let opts := if c.noListen then opts ++ [.noListenAddrs] else opts
  securityAndReachability flags c opts

/-- `c.Validate()`, whose error is fatal. -/
def validateConfig (c : DaemonConfig) : Except Exit Unit :=
  match env.validate c with
  | some err => .error (.fatal err)
  | none => .ok ()

/-- `main` up to the start of the daemon: the configuration, checked by
`c.Validate()`, the static relays and the host's options. -/
def configure : Except Exit Startup := do
  let c ← loadConfig flags env
  let c ← setAddresses flags env c
  let c := setServices flags c
  let trustedRelays ← checkRelays flags
  let c := setPubsub flags c
  let c ← setBootstrapPeers flags env c
  let c := setModes flags c
  validateConfig env c
  let options ← collectOptions flags env c
  pure ⟨c, trustedRelays, options⟩

/-- The arguments `main` passes to `p2pd.NewDaemon`. -/
def Startup.daemonArgs (startup : Startup) : DaemonArgs :=
  ⟨startup.config.listenAddr, startup.config.dhtMode, flags.relayDiscovery,
    startup.trustedRelays, flags.persistentConnMaxMsgSize⟩

/-- How `main` ends: a refusal before the daemon starts, or an error of the
daemon's start, of pubsub, of the bootstrap, or of `d.Serve()`. -/
def main : Exit :=
  match configure flags env with
  | .error exit => exit
  | .ok startup =>
      match env.newDaemon (startup.daemonArgs flags) startup.options with
      | some err => .fatal err
      | none =>
          match (if startup.config.pubSubEnabled then
              env.enablePubsub startup.config.pubSubRouter startup.config.pubSubSign
                startup.config.pubSubSignStrict
            else none) with
          | some err => .fatal err
          | none =>
              match (if startup.config.bootstrapEnabled then env.bootstrap else none) with
              | some err => .fatal err
              | none =>
                  match env.serve with
                  | some err => .fatal err
                  | none => .returned

end Steps

/-! ## Binding in `Except`

`do` blocks in `Except` unfold to `>>=`, `<$>` and `pure`; these lemmas say
when such a block succeeds or fails, so that the steps are taken apart with
`obtain` and never unfolded twice. -/

@[simp] theorem bind_eq_ok {x : Except ε α} {f : α → Except ε β} {b : β} :
    x >>= f = .ok b ↔ ∃ a, x = .ok a ∧ f a = .ok b := by
  cases x <;> simp [bind, Except.bind]

@[simp] theorem bind_eq_error {x : Except ε α} {f : α → Except ε β} {e : ε} :
    x >>= f = .error e ↔ x = .error e ∨ ∃ a, x = .ok a ∧ f a = .error e := by
  cases x <;> simp [bind, Except.bind]

@[simp] theorem map_eq_ok {x : Except ε α} {f : α → β} {b : β} :
    f <$> x = .ok b ↔ ∃ a, x = .ok a ∧ f a = b := by
  cases x <;> simp [Functor.map, Except.map]

@[simp] theorem map_eq_error {x : Except ε α} {f : α → β} {e : ε} :
    f <$> x = .error e ↔ x = .error e := by
  cases x <;> simp [Functor.map, Except.map]

@[simp] theorem pure_eq_ok {a b : α} : (pure a : Except ε α) = .ok b ↔ a = b := by
  simp [pure, Except.pure]

@[simp] theorem pure_ne_error {a : α} {e : ε} : (pure a : Except ε α) ≠ .error e := by
  simp [pure, Except.pure]

@[simp] theorem throw_eq_error {e : ε} : (throw e : Except ε α) = .error e := rfl

@[simp] theorem mapError_eq_ok {x : Except ε α} {f : ε → ε'} {a : α} :
    x.mapError f = .ok a ↔ x = .ok a := by
  cases x <;> simp [Except.mapError]

/-! ## Where `main` panics -/

/-- The computation fails, if it does, with `log.Fatal`: never with a panic. -/
def NeverPanics (x : Except Exit α) : Prop := ∀ m, x ≠ .error (.panic m)

namespace NeverPanics

theorem of_ok (a : α) : NeverPanics (.ok a : Except Exit α) := fun _ => nofun

theorem of_pure (a : α) : NeverPanics (pure a : Except Exit α) := fun _ => nofun

theorem ite {p : Prop} [Decidable p] {x y : Except Exit α} (yes : NeverPanics x)
    (no : NeverPanics y) : NeverPanics (if p then x else y) := by
  split <;> assumption

theorem mapError_fatal (x : Except String α) : NeverPanics (x.mapError .fatal) := by
  intro m; cases x <;> simp [Except.mapError]

theorem bind {x : Except Exit α} {f : α → Except Exit β} (first : NeverPanics x)
    (rest : ∀ a, NeverPanics (f a)) : NeverPanics (x >>= f) := by
  intro m
  simp only [ne_eq, bind_eq_error, not_or, not_exists, not_and]
  exact ⟨first m, fun a _ => rest a m⟩

theorem map {x : Except Exit α} (f : α → β) (first : NeverPanics x) : NeverPanics (f <$> x) :=
  fun m => by simpa using first m

theorem mapM {f : α → Except Exit β} (each : ∀ a, NeverPanics (f a)) :
    ∀ l : List α, NeverPanics (l.mapM f)
  | [] => of_ok _
  | a :: l => by
    simpa only [List.mapM_cons] using (each a).bind fun _ => (mapM each l).bind fun _ => of_ok _

end NeverPanics

section Failures

variable (flags : Flags) (env : Environment)

theorem loadConfig_neverPanics : NeverPanics (loadConfig flags env) :=
  .ite (.mapError_fatal _) (.ite (.mapError_fatal _) (.of_ok _))

theorem parseAddrs_neverPanics (addrs : String) : NeverPanics (parseAddrs env addrs) :=
  .mapM (fun _ => .mapError_fatal _) _

theorem setAddresses_neverPanics (c : DaemonConfig) :
    NeverPanics (setAddresses flags env c) :=
  .bind (.mapError_fatal _) fun _ => .bind (.ite (.map _ (parseAddrs_neverPanics _ _)) (.of_pure _))
    fun _ => .ite (.map _ (parseAddrs_neverPanics _ _)) (.of_pure _)

theorem setBootstrapPeers_neverPanics (c : DaemonConfig) :
    NeverPanics (setBootstrapPeers flags env c) :=
  .ite (.map _ (parseAddrs_neverPanics _ _)) (.of_pure _)

theorem validateConfig_neverPanics (c : DaemonConfig) : NeverPanics (validateConfig env c) := by
  intro m; unfold validateConfig; split <;> simp

theorem securityAndReachability_neverPanics (c : DaemonConfig) (opts : List HostOption) :
    NeverPanics (securityAndReachability flags c opts) := by
  intro m; unfold securityAndReachability; split_ifs <;> simp

theorem collectOptions_neverPanics (c : DaemonConfig) :
    NeverPanics (collectOptions flags env c) := by
  refine .bind (.ite (.map _ (.mapError_fatal _)) (.of_pure _)) fun _ => ?_
  refine .bind (.ite ?_ (.of_pure _)) fun _ => securityAndReachability_neverPanics _ _ _
  split
  · exact fun _ => by simp
  · exact .of_pure _

/-- `strings.Split` never returns an empty slice. -/
theorem splitOnAux_ne_nil (s sep : String) (b i j : String.Pos) (r : List String) :
    String.splitOnAux s sep b i j r ≠ [] := by
  induction b, i, j, r using String.splitOnAux.induct s sep with
  | case1 b i j r atEnd =>
    rw [String.splitOnAux, if_pos atEnd]; simp
  | case2 b i j r notEnd same i' j' atEnd' ih =>
    rw [String.splitOnAux, if_neg notEnd, if_pos same]; simpa [i', j', atEnd'] using ih
  | case3 b i j r notEnd same i' j' notEnd' ih =>
    rw [String.splitOnAux, if_neg notEnd, if_pos same]; simpa [i', j', notEnd'] using ih
  | case4 b i j r notEnd differ ih =>
    rw [String.splitOnAux, if_neg notEnd, if_neg differ]; exact ih

theorem splitOn_ne_nil (s sep : String) : s.splitOn sep ≠ [] := by
  unfold String.splitOn; split
  · simp
  · exact splitOnAux_ne_nil _ _ _ _ _ _

/-- The relay checks in the order of the source: a non-empty `-trustedRelays`
never splits into nothing, so the length tests are tests of the flag. -/
theorem checkRelays_eq :
    checkRelays flags =
      if flags.trustedRelaysRaw ≠ "" ∧ flags.relayEnabled = false then
        .error (.panic relaysNotEnabled)
      else if flags.trustedRelaysRaw ≠ "" ∧ flags.autoRelay = false then
        .error (.panic autoRelayNotEnabled)
      else if flags.trustedRelaysRaw = "" ∧ flags.autoRelay = true ∧
          flags.relayDiscovery = false then
        .error (.panic autoRelayWithoutRelays)
      else .ok (if flags.trustedRelaysRaw = "" then [] else flags.trustedRelaysRaw.splitOn ",") := by
  have split := splitOn_ne_nil flags.trustedRelaysRaw ","
  unfold checkRelays
  by_cases raw : flags.trustedRelaysRaw = ""
  · cases flags.autoRelay <;> cases flags.relayDiscovery <;> simp [raw]
  · cases flags.relayEnabled <;> cases flags.autoRelay <;> simp [raw, split, List.length_pos]

theorem configure_eq_panic (m : String) :
    configure flags env = .error (.panic m) ↔
      ∃ c, loadConfig flags env = .ok c ∧ (∃ c', setAddresses flags env c = .ok c') ∧
        checkRelays flags = .error (.panic m) := by
  simp [configure, loadConfig_neverPanics flags env m, (setAddresses_neverPanics flags env · m),
    (setBootstrapPeers_neverPanics flags env · m), (validateConfig_neverPanics env · m),
    (collectOptions_neverPanics flags env · m)]

theorem main_eq_panic (m : String) :
    main flags env = .panic m ↔ configure flags env = .error (.panic m) := by
  unfold main
  split
  · simp_all
  · rename_i configured
    simp only [configured, reduceCtorEq, iff_false]
    (repeat' split) <;> simp

theorem checkRelays_eq_panic (m : String) :
    checkRelays flags = .error (.panic m) ↔
      flags.trustedRelaysRaw ≠ "" ∧ flags.relayEnabled = false ∧ m = relaysNotEnabled ∨
        flags.trustedRelaysRaw ≠ "" ∧ flags.relayEnabled = true ∧ flags.autoRelay = false ∧
          m = autoRelayNotEnabled ∨
        flags.trustedRelaysRaw = "" ∧ flags.autoRelay = true ∧ flags.relayDiscovery = false ∧
          m = autoRelayWithoutRelays := by
  rw [checkRelays_eq]
  by_cases raw : flags.trustedRelaysRaw = "" <;> cases flags.relayEnabled <;>
    cases flags.autoRelay <;> cases flags.relayDiscovery <;> simp [raw, eq_comm]

/-- `main` panics exactly when the configuration loads, the addresses parse,
and the relay flags are one of the three refused combinations, with that
combination's message; every other refusal is a `log.Fatal`. -/
theorem main_panics_iff (m : String) :
    main flags env = .panic m ↔
      (∃ c, loadConfig flags env = .ok c ∧ ∃ c', setAddresses flags env c = .ok c') ∧
      (flags.trustedRelaysRaw ≠ "" ∧ flags.relayEnabled = false ∧ m = relaysNotEnabled ∨
        flags.trustedRelaysRaw ≠ "" ∧ flags.relayEnabled = true ∧ flags.autoRelay = false ∧
          m = autoRelayNotEnabled ∨
        flags.trustedRelaysRaw = "" ∧ flags.autoRelay = true ∧ flags.relayDiscovery = false ∧
          m = autoRelayWithoutRelays) := by
  rw [main_eq_panic, configure_eq_panic, ← checkRelays_eq_panic]
  exact ⟨fun ⟨c, loaded, set, panics⟩ => ⟨⟨c, loaded, set⟩, panics⟩,
    fun ⟨⟨c, loaded, set⟩, panics⟩ => ⟨c, loaded, set, panics⟩⟩

end Failures

/-! ## What a started daemon was given -/

section Startup

variable (flags : Flags) (env : Environment)

@[simp] theorem setServices_listenAddr (c : DaemonConfig) :
    (setServices flags c).listenAddr = c.listenAddr := by
  simp only [setServices, apply_ite DaemonConfig.listenAddr, ite_self]

@[simp] theorem setPubsub_listenAddr (c : DaemonConfig) :
    (setPubsub flags c).listenAddr = c.listenAddr := by
  simp only [setPubsub, apply_ite DaemonConfig.listenAddr, ite_self]

@[simp] theorem setModes_listenAddr (c : DaemonConfig) :
    (setModes flags c).listenAddr = c.listenAddr := by
  simp only [setModes, apply_ite DaemonConfig.listenAddr, ite_self]

@[simp] theorem setModes_securityTLS (c : DaemonConfig) :
    (setModes flags c).securityTLS = flags.useTls := rfl

@[simp] theorem setModes_securityNoise (c : DaemonConfig) :
    (setModes flags c).securityNoise = flags.useNoise := rfl

theorem setModes_pprof (c : DaemonConfig) (pprof : flags.pprof = true) :
    (setModes flags c).pprofEnabled = true ∧ (setModes flags c).pprofPort = flags.pprofPort := by
  simp [setModes, pprof]

theorem securityOpts_ne_nil (c : DaemonConfig) :
    securityOpts c ≠ [] ↔ c.securityNoise = true ∨ c.securityTLS = true := by
  unfold securityOpts; cases c.securityNoise <;> cases c.securityTLS <;> simp

/-- A field set from a parse, or left as it is. -/
theorem exists_of_ite_map {p : Prop} [Decidable p] {x : Except ε α} {g : α → β} {b b' : β}
    (set : (if p then g <$> x else pure b) = .ok b') (kept : ∃ a, g a = b) : ∃ a, b' = g a := by
  split at set
  · obtain ⟨a, -, rfl⟩ := map_eq_ok.mp set
    exact ⟨a, rfl⟩
  · obtain ⟨a, rfl⟩ := kept
    exact ⟨a, (pure_eq_ok.mp set).symm⟩

/-- `setAddresses` sets the listen address from `-listen` and touches only the
identity and the two address lists besides. -/
theorem setAddresses_eq_ok {c c' : DaemonConfig} (addressed : setAddresses flags env c = .ok c') :
    ∃ maddr ident hosts announced, env.newMultiaddr flags.maddrString = .ok maddr ∧
      c' =
        { c with
          listenAddr := maddr
          id := ident
          hostAddresses := hosts
          announceAddresses := announced } := by
  simp only [setAddresses, bind_eq_ok, mapError_eq_ok] at addressed
  obtain ⟨maddr, parsed, c₁, hosts, announced⟩ := addressed
  obtain ⟨_, rfl⟩ := exists_of_ite_map hosts ⟨_, rfl⟩
  obtain ⟨_, rfl⟩ := exists_of_ite_map announced ⟨_, rfl⟩
  split_ifs <;> exact ⟨_, _, _, _, parsed, rfl⟩

/-- `setBootstrapPeers` touches only the bootstrap peers. -/
theorem setBootstrapPeers_eq_ok {c c' : DaemonConfig}
    (peered : setBootstrapPeers flags env c = .ok c') :
    ∃ peers, c' = { c with bootstrapPeers := peers } :=
  exists_of_ite_map peered ⟨_, rfl⟩

theorem validateConfig_eq_ok (c : DaemonConfig) (u : Unit) :
    validateConfig env c = .ok u ↔ env.validate c = none := by
  unfold validateConfig; split <;> simp_all

theorem checkRelays_eq_ok {relays : List String} (checked : checkRelays flags = .ok relays) :
    relays = (if flags.trustedRelaysRaw = "" then [] else flags.trustedRelaysRaw.splitOn ",") ∧
      (relays ≠ [] → flags.relayEnabled = true ∧ flags.autoRelay = true) ∧
      (flags.autoRelay = true → flags.relayDiscovery = true ∨ relays ≠ []) := by
  have split := splitOn_ne_nil flags.trustedRelaysRaw ","
  rw [checkRelays_eq] at checked
  revert relays
  by_cases raw : flags.trustedRelaysRaw = "" <;> cases flags.relayEnabled <;>
    cases flags.autoRelay <;> cases flags.relayDiscovery <;> simp [raw] <;>
    rintro rfl <;> simp [split]

theorem securityAndReachability_eq_ok {c : DaemonConfig} {pre opts : List HostOption}
    (collected : securityAndReachability flags c pre = .ok opts) :
    securityOpts c ≠ [] ∧
      ¬(flags.forceReachabilityPrivate = true ∧ flags.forceReachabilityPublic = true) ∧
      opts = pre ++ securityOpts c ++
        (if flags.forceReachabilityPrivate then [.forceReachabilityPrivate]
          else if flags.forceReachabilityPublic then [.forceReachabilityPublic] else []) := by
  unfold securityAndReachability at collected
  split_ifs at collected <;> simp_all

theorem collectOptions_eq_ok {c : DaemonConfig} {opts : List HostOption}
    (collected : collectOptions flags env c = .ok opts) :
    securityOpts c ≠ [] ∧
      ¬(flags.forceReachabilityPrivate = true ∧ flags.forceReachabilityPublic = true) ∧
      ∃ pre, opts = pre ++ securityOpts c ++
        (if flags.forceReachabilityPrivate then [.forceReachabilityPrivate]
          else if flags.forceReachabilityPublic then [.forceReachabilityPublic] else []) := by
  simp only [collectOptions, bind_eq_ok] at collected
  obtain ⟨_, -, _, -, collected⟩ := collected
  obtain ⟨nonempty, exclusive, rfl⟩ := securityAndReachability_eq_ok flags collected
  exact ⟨nonempty, exclusive, _, rfl⟩

/-- The configuration's switches that a flag of `main` can turn on, in the
order `main` sets them. -/
def DaemonConfig.switches (c : DaemonConfig) : List Bool :=
  [c.connectionManagerEnabled, c.natPortMap, c.relayEnabled, c.relayAuto, c.noListen, c.autoNat,
    c.pubSubEnabled, c.bootstrapEnabled, c.pprofEnabled]

/-- The flags that turn them on, in the same order. -/
def Flags.switches : List Bool :=
  [flags.connMgr, flags.natPortMap, flags.relayEnabled, flags.autoRelay, flags.noListen,
    flags.autonat, flags.pubsub, flags.bootstrap, flags.pprof]

theorem setAddresses_switches {c c' : DaemonConfig}
    (addressed : setAddresses flags env c = .ok c') : c'.switches = c.switches := by
  obtain ⟨_, _, _, _, -, rfl⟩ := setAddresses_eq_ok flags env addressed
  rfl

theorem setBootstrapPeers_switches {c c' : DaemonConfig}
    (peered : setBootstrapPeers flags env c = .ok c') : c'.switches = c.switches := by
  obtain ⟨_, rfl⟩ := setBootstrapPeers_eq_ok flags env peered
  rfl

theorem setServices_switches (c : DaemonConfig) :
    (setServices flags c).switches = List.zipWith (· || ·)
      [flags.connMgr, flags.natPortMap, flags.relayEnabled, flags.autoRelay,
        false, false, false, false, false] c.switches := by
  unfold setServices
  cases flags.connMgr <;> cases flags.natPortMap <;> cases flags.relayEnabled <;>
    cases flags.autoRelay <;> rfl

theorem setPubsub_switches (c : DaemonConfig) :
    (setPubsub flags c).switches = List.zipWith (· || ·)
      [false, false, false, false, flags.noListen, flags.autonat, flags.pubsub, false, false]
      c.switches := by
  unfold setPubsub
  cases flags.noListen <;> cases flags.autonat <;> cases flags.pubsub <;> rfl

theorem setModes_switches (c : DaemonConfig) :
    (setModes flags c).switches = List.zipWith (· || ·)
      [false, false, false, false, false, false, false, flags.bootstrap, flags.pprof]
      c.switches := by
  simp only [setModes, DaemonConfig.switches, apply_ite DaemonConfig.connectionManagerEnabled,
    apply_ite DaemonConfig.natPortMap, apply_ite DaemonConfig.relayEnabled,
    apply_ite DaemonConfig.relayAuto, apply_ite DaemonConfig.noListen,
    apply_ite DaemonConfig.autoNat, apply_ite DaemonConfig.pubSubEnabled,
    apply_ite DaemonConfig.bootstrapEnabled, apply_ite DaemonConfig.pprofEnabled, ite_self]
  cases flags.bootstrap <;> cases flags.pprof <;> rfl

/-- The stages a successful `configure` went through. -/
theorem configure_eq_ok {st : Startup} (configured : configure flags env = .ok st) :
    ∃ c₀ c₁ c₂, loadConfig flags env = .ok c₀ ∧ setAddresses flags env c₀ = .ok c₁ ∧
      checkRelays flags = .ok st.trustedRelays ∧
      setBootstrapPeers flags env (setPubsub flags (setServices flags c₁)) = .ok c₂ ∧
      st.config = setModes flags c₂ ∧ env.validate st.config = none ∧
      collectOptions flags env st.config = .ok st.options := by
  simp only [configure, bind_eq_ok, pure_eq_ok, validateConfig_eq_ok] at configured
  obtain ⟨c₀, loaded, c₁, set, relays, checked, c₂, peers, _, valid, opts, collected, rfl⟩ :=
    configured
  exact ⟨c₀, c₁, c₂, loaded, set, checked, peers, rfl, valid, collected⟩

/-- What `main` has checked when it starts a daemon: the static relays are the
`-trustedRelays` list, given only with relays and autorelay on; autorelay has
discovery or static relays; the configuration passed `c.Validate()`; and the
options end with the channel security options, never none of them, then at
most one forced reachability. -/
theorem started_daemon_checked {st : Startup} (configured : configure flags env = .ok st) :
    st.trustedRelays =
        (if flags.trustedRelaysRaw = "" then [] else flags.trustedRelaysRaw.splitOn ",") ∧
      (st.trustedRelays ≠ [] → flags.relayEnabled = true ∧ flags.autoRelay = true) ∧
      (flags.autoRelay = true → flags.relayDiscovery = true ∨ st.trustedRelays ≠ []) ∧
      env.validate st.config = none ∧
      securityOpts st.config ≠ [] ∧
      ¬(flags.forceReachabilityPrivate = true ∧ flags.forceReachabilityPublic = true) ∧
      ∃ pre, st.options = pre ++ securityOpts st.config ++
        (if flags.forceReachabilityPrivate then [.forceReachabilityPrivate]
          else if flags.forceReachabilityPublic then [.forceReachabilityPublic] else []) := by
  obtain ⟨-, -, -, -, -, checked, -, -, valid, collected⟩ := configure_eq_ok flags env configured
  obtain ⟨listed, enabled, discovered⟩ := checkRelays_eq_ok flags checked
  exact ⟨listed, enabled, discovered, valid, collectOptions_eq_ok flags env collected⟩

/-- A switch flag only turns its feature on: each switch of the configuration
`main` starts the daemon with is the loaded configuration's or its flag, so
`-relay=false` leaves on a relay the file enabled, while the relay checks
read the flag alone. -/
theorem switches_only_turn_on {c : DaemonConfig} {st : Startup}
    (loaded : loadConfig flags env = .ok c) (configured : configure flags env = .ok st) :
    st.config.switches = List.zipWith (· || ·) c.switches flags.switches := by
  obtain ⟨c₀, c₁, c₂, loaded', addressed, -, peers, config, -, -⟩ :=
    configure_eq_ok flags env configured
  cases loaded.symm.trans loaded'
  rw [config, setModes_switches, setBootstrapPeers_switches flags env peers, setPubsub_switches,
    setServices_switches, setAddresses_switches flags env addressed]
  simp [DaemonConfig.switches, Flags.switches, Bool.or_comm]

/-- The flags override the configuration file: the listen address is always
the `-listen` flag's, TLS and Noise are always the flags' (their pointers are
never nil), so the file can turn neither off, at least one of the two flags is
on, and `-pprof` fixes the profiler's port. -/
theorem startup_follows_flags {st : Startup} (configured : configure flags env = .ok st) :
    env.newMultiaddr flags.maddrString = .ok st.config.listenAddr ∧
      st.config.securityTLS = flags.useTls ∧ st.config.securityNoise = flags.useNoise ∧
      (flags.useNoise = true ∨ flags.useTls = true) ∧
      (flags.pprof = true →
        st.config.pprofEnabled = true ∧ st.config.pprofPort = flags.pprofPort) := by
  obtain ⟨_, c₁, c₂, -, addressed, -, peers, config, -, collected⟩ := configure_eq_ok flags env configured
  have secured := (securityOpts_ne_nil _).mp (collectOptions_eq_ok flags env collected).1
  rw [config] at secured ⊢
  refine ⟨?_, rfl, rfl, by simpa using secured, setModes_pprof flags c₂⟩
  obtain ⟨_, rfl⟩ := setBootstrapPeers_eq_ok flags env peers
  obtain ⟨_, _, _, _, parsed, rfl⟩ := setAddresses_eq_ok flags env addressed
  simpa using parsed

end Startup

/-- A configuration file with relays on, TLS off and the profiler on port
6061. -/
def fileConfig : DaemonConfig where
  listenAddr := ⟨"/ip4/127.0.0.1/tcp/4001"⟩
  id := ""
  hostAddresses := []
  announceAddresses := []
  connectionManagerEnabled := false
  connectionManagerGracePeriod := 0
  connectionManagerHighWaterMark := 0
  connectionManagerLowWaterMark := 0
  natPortMap := false
  relayEnabled := true
  relayHopLimit := 0
  relayAuto := false
  noListen := false
  autoNat := false
  pubSubEnabled := false
  pubSubRouter := "gossipsub"
  pubSubSign := true
  pubSubSignStrict := true
  gossipSubHeartbeatInterval := 0
  gossipSubHeartbeatInitialDelay := 0
  bootstrapPeers := []
  bootstrapEnabled := false
  dhtMode := ""
  pprofEnabled := true
  pprofPort := 6061
  securityTLS := false
  securityNoise := true

/-- Collaborators that all succeed, with `fileConfig` in every file. -/
def sampleEnvironment : Environment where
  readStdin := .ok fileConfig
  readFile _ := .ok fileConfig
  defaultConfig := fileConfig
  newMultiaddr text := .ok ⟨text⟩
  validate _ := none
  readIdentity key := .ok key
  newConnManager _ _ _ := none
  configureRelayService opts _ _ _ _ _ := opts
  newDaemon _ _ := none
  enablePubsub _ _ _ := none
  bootstrap := none
  serve := none

/-- `p2pd -f p2pd.json -relay=false -pprof -forceReachabilityPrivate`. -/
def sampleFlags : Flags :=
  { configFilename := "p2pd.json", relayEnabled := false, pprof := true,
    forceReachabilityPrivate := true }

/-- What `main` starts the daemon with under `sampleFlags`. -/
def sampleStartup : Startup :=
  match configure sampleFlags sampleEnvironment with
  | .ok startup => startup
  | .error _ => ⟨fileConfig, [], []⟩

/-- The sample daemon starts, and `started_daemon_checked` describes it. -/
theorem sample_started_checked :
    configure sampleFlags sampleEnvironment = .ok sampleStartup ∧
      (sampleStartup.trustedRelays =
          (if sampleFlags.trustedRelaysRaw = "" then []
            else sampleFlags.trustedRelaysRaw.splitOn ",") ∧
        (sampleStartup.trustedRelays ≠ [] →
          sampleFlags.relayEnabled = true ∧ sampleFlags.autoRelay = true) ∧
        (sampleFlags.autoRelay = true →
          sampleFlags.relayDiscovery = true ∨ sampleStartup.trustedRelays ≠ []) ∧
        sampleEnvironment.validate sampleStartup.config = none ∧
        securityOpts sampleStartup.config ≠ [] ∧
        ¬(sampleFlags.forceReachabilityPrivate = true ∧
          sampleFlags.forceReachabilityPublic = true) ∧
        ∃ pre, sampleStartup.options = pre ++ securityOpts sampleStartup.config ++
          (if sampleFlags.forceReachabilityPrivate then [.forceReachabilityPrivate]
            else if sampleFlags.forceReachabilityPublic then [.forceReachabilityPublic]
            else [])) :=
  ⟨rfl, started_daemon_checked _ _ rfl⟩

/-- The file turns TLS off and sets port 6061; the flags win. -/
theorem sample_follows_flags :
    configure sampleFlags sampleEnvironment = .ok sampleStartup ∧
      (sampleEnvironment.newMultiaddr sampleFlags.maddrString =
          .ok sampleStartup.config.listenAddr ∧
        sampleStartup.config.securityTLS = sampleFlags.useTls ∧
        sampleStartup.config.securityNoise = sampleFlags.useNoise ∧
        (sampleFlags.useNoise = true ∨ sampleFlags.useTls = true) ∧
        (sampleFlags.pprof = true → sampleStartup.config.pprofEnabled = true ∧
          sampleStartup.config.pprofPort = sampleFlags.pprofPort)) :=
  ⟨rfl, startup_follows_flags _ _ rfl⟩

/-- The file's relay stays on under `-relay=false`. -/
theorem sample_switches_only_turn_on :
    loadConfig sampleFlags sampleEnvironment = .ok fileConfig ∧
      configure sampleFlags sampleEnvironment = .ok sampleStartup ∧
      sampleStartup.config.switches =
        List.zipWith (· || ·) fileConfig.switches sampleFlags.switches :=
  ⟨rfl, rfl, switches_only_turn_on _ sampleEnvironment rfl rfl⟩

example : fileConfig.securityTLS = false ∧ sampleStartup.config.securityTLS = true ∧
    sampleStartup.config.pprofPort = 0 ∧ sampleStartup.config.relayEnabled = true := by
  decide

/-! ## The profiler's port -/

/-- The ports from `i` on that `pprofHTTP` listens on, at most `n` of them,
until `http.ListenAndServe` on one returns without an error. -/
def tryPorts (listen : Int → Bool) : Int → Nat → List Int
  | _, 0 => []
  | i, n + 1 => i :: if listen i then [] else tryPorts listen (i + 1) n

/-- `pprofHTTP(port)`: the ports it listens on, in order.  `listen p` says
whether `http.ListenAndServe` on `localhost:p` returned `nil` or
`http.ErrServerClosed`, which ends the search. -/
def pprofHTTP (port : Int) (listen : Int → Bool) : List Int :=
  if port > 0 then [port] else tryPorts listen 6060 1021

end Main

end P2pd

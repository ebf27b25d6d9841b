import MyHomeHub.Library.Alarms
import MyHomeHub.Zigbee.RenameRequests

/-!
# Watching the Zigbee bridge

The bridge reports its health and whether it is online. `ZigbeeHealthMonitorService` looks
at the last messages once a minute, and writes to the log when the bridge goes offline or
comes back, and when no health report has come for half an hour.

Time passes in milliseconds and never goes back. The log keeps what the monitor writes,
with the time of each entry.
-/

namespace MyHomeHub.Zigbee

open DeviceSchema Library

/-! ## The bridge -/

/-- `ZigbeeBridgeState` -/
inductive ZigbeeBridgeState where
  | online
  | offline
  deriving DecidableEq, Repr

/-- What the hub reads of a `ZigbeeBridgeHealth`. -/
structure ZigbeeBridgeHealth where
  /-- `mqtt.connected` -/
  connected : Bool
  deriving DecidableEq, Repr

/-- The static fields of `ZigbeeBridge`. -/
structure ZigbeeBridge where
  health : Option ZigbeeBridgeHealth := none
  state : Option ZigbeeBridgeState := none
  lastHealthAt : Option ℕ := none
  deriving DecidableEq, Repr

/-- `connected` -/
def ZigbeeBridge.isConnected (bridge : ZigbeeBridge) : Bool :=
  match bridge.health with
  | some health => health.connected
  | none => false

/-- `saveHealth`: an empty message clears the health but not the time of the last report. -/
def ZigbeeBridge.saveHealth (bridge : ZigbeeBridge) (now : ℕ)
    (health : Option ZigbeeBridgeHealth) : ZigbeeBridge :=
  let saved := { bridge with health }
  if health.isSome then { saved with lastHealthAt := some now } else saved

/-- `saveState` -/
def ZigbeeBridge.saveState (bridge : ZigbeeBridge) (state : Option ZigbeeBridgeState) :
    ZigbeeBridge :=
  { bridge with state }

/-- `isOnline` -/
def ZigbeeBridge.isOnline (bridge : ZigbeeBridge) : Bool :=
  bridge.state = some .online

/-- `isOffline` -/
def ZigbeeBridge.isOffline (bridge : ZigbeeBridge) : Bool :=
  bridge.state = some .offline

/-! ## The monitor -/

/-- `ZIGBEE_MONITOR_INTERVAL_MS` -/
def zigbeeMonitorIntervalMs : ℕ := 60000

/-- `ZIGBEE_HEALTH_TIMEOUT_MS` -/
def zigbeeHealthTimeoutMs : ℕ := 30 * 60000

/-- What the monitor writes to the log. -/
inductive HealthReport where
  | offline
  | backOnline
  | stale (silentForMs : ℕ)
  | receivedAgain
  deriving DecidableEq, Repr

/-- Whether an entry is about the availability of the bridge, and not about its health reports. -/
def HealthReport.isAvailability : HealthReport → Bool
  | .offline | .backOnline => true
  | .stale _ | .receivedAgain => false

/-- The clock, the bridge, the flags of the monitor and the log. -/
structure HealthState where
  now : ℕ
  bridge : ZigbeeBridge := {}
  offlineReported : Bool := false
  staleHealthReported : Bool := false
  log : List (ℕ × HealthReport) := []

/-- `isEnabled`, with the value of `ZIGBEE_MONITOR_ENABLED`. -/
def isEnabled (setting : Option String) : Bool :=
  setting = some "true"

/-- `checkBridgeAvailability` -/
def checkBridgeAvailability (s : HealthState) : HealthState :=
  let report :=
    if s.bridge.isOffline && !s.offlineReported then [(s.now, .offline)]
    else if s.bridge.isOnline && s.offlineReported then [(s.now, .backOnline)]
    else []
  { s with log := s.log ++ report, offlineReported := s.bridge.isOffline }

/-- The milliseconds since the last health report, or since the startup. -/
def silentForMs (startedAt now : ℕ) (bridge : ZigbeeBridge) : ℕ :=
  now - bridge.lastHealthAt.getD startedAt

/-- `checkHealthReports` -/
def checkHealthReports (startedAt : ℕ) (s : HealthState) : HealthState :=
  let silent := silentForMs startedAt s.now s.bridge
  let stale := zigbeeHealthTimeoutMs < silent
  let report :=
    if stale && !s.staleHealthReported then [(s.now, .stale silent)]
    else if !stale && s.staleHealthReported then [(s.now, .receivedAgain)]
    else []
  { s with log := s.log ++ report, staleHealthReported := stale }

/-- `checkBridgeHealth` -/
def checkBridgeHealth (setting : Option String) (startedAt : ℕ) (s : HealthState) : HealthState :=
  if isEnabled setting then checkHealthReports startedAt (checkBridgeAvailability s) else s

/-! ## Runs -/

/-- What can happen next. -/
inductive HealthAction where
  | passTime (ms : ℕ)
  /-- `onBridgeHealthCheck` -/
  | onBridgeHealthCheck (health : Option ZigbeeBridgeHealth)
  /-- `onBridgeAvailabilityChange`, with the state of the payload. -/
  | onBridgeAvailabilityChange (state : Option ZigbeeBridgeState)
  /-- The interval fires. -/
  | check
  deriving DecidableEq, Repr

/-- What an action does. -/
def handle (setting : Option String) (startedAt : ℕ) (s : HealthState) :
    HealthAction → HealthState
  | .passTime ms => { s with now := s.now + ms }
  | .onBridgeHealthCheck health => { s with bridge := s.bridge.saveHealth s.now health }
  | .onBridgeAvailabilityChange state => { s with bridge := s.bridge.saveState state }
  | .check => checkBridgeHealth setting startedAt s

/-- The hub after the actions, from its startup on. -/
def healthAfter (setting : Option String) (startedAt : ℕ) (actions : List HealthAction) :
    HealthState :=
  actions.foldl (handle setting startedAt) { now := startedAt }

/-- What a health message tells the hub: an empty one counts as a bridge that is not connected. -/
def HealthAction.hubMessage : HealthAction → Option HubMessage
  | .onBridgeHealthCheck health =>
      some (.bridgeHealth (ZigbeeBridge.isConnected { health := health }))
  | _ => none

/-- The monitor and the rename requests read the same bridge. -/
theorem is_connected_health_after [ExternalCalls] (setting : Option String) (startedAt : ℕ)
    (devices : DeviceStore) (configs : List DeviceConfig) (actions : List HealthAction) :
    (healthAfter setting startedAt actions).bridge.isConnected =
      (hubAfter devices configs (actions.filterMap HealthAction.hubMessage)).bridgeConnected := by
  induction actions using List.reverseRecOn with
  | nil => rfl
  | append_singleton actions action ih =>
      rw [healthAfter, List.foldl_append, List.filterMap_append]
      cases action with
      | onBridgeHealthCheck health =>
          show _ = (hubAfter devices configs (_ ++ [.bridgeHealth _])).bridgeConnected
          rw [hub_after_append]
          cases health <;> rfl
      | passTime ms | onBridgeAvailabilityChange state =>
          show _ = (hubAfter devices configs (_ ++ [])).bridgeConnected
          rw [List.append_nil]
          exact ih
      | check =>
          show (checkBridgeHealth setting startedAt _).bridge.isConnected =
            (hubAfter devices configs (_ ++ [])).bridgeConnected
          rw [List.append_nil, ← ih, checkBridgeHealth]
          split <;> rfl

/-! ## What there is to see -/

/-- What the interval finds when it fires. -/
structure HealthSample where
  now : ℕ
  bridge : ZigbeeBridge
  deriving DecidableEq, Repr

/-- A run as seen from outside, without the monitor. -/
structure Watched where
  now : ℕ
  bridge : ZigbeeBridge := {}
  samples : List HealthSample := []
  /-- When the health reports have come. -/
  received : List ℕ := []
  /-- When the interval has fired last, or the startup. -/
  checkedAt : ℕ

/-- What an action shows. -/
def watch (w : Watched) : HealthAction → Watched
  | .passTime ms => { w with now := w.now + ms }
  | .onBridgeHealthCheck health =>
      { w with
        bridge := w.bridge.saveHealth w.now health
        received := if health.isSome then w.received ++ [w.now] else w.received }
  | .onBridgeAvailabilityChange state => { w with bridge := w.bridge.saveState state }
  | .check => { w with samples := w.samples ++ [⟨w.now, w.bridge⟩], checkedAt := w.now }

/-- What the actions show. -/
def watched (startedAt : ℕ) (actions : List HealthAction) : Watched :=
  actions.foldl watch { now := startedAt, checkedAt := startedAt }

/-- What a sample says of the availability: without a message it says nothing. -/
def availabilityLevel (sample : HealthSample) : Level :=
  match sample.bridge.state with
  | some .offline => .down
  | some .online => .up
  | none => .unknown

/-- What a sample says of the health reports. -/
def healthLevel (startedAt : ℕ) (sample : HealthSample) : Level :=
  if zigbeeHealthTimeoutMs < silentForMs startedAt sample.now sample.bridge then .down else .up

/-- The entry of a change of the availability. -/
def availabilityEntry : HealthSample × Edge → ℕ × HealthReport
  | (sample, .raised) => (sample.now, .offline)
  | (sample, .cleared) => (sample.now, .backOnline)

/-- The entry of a change of the health reports. -/
def healthEntry (startedAt : ℕ) : HealthSample × Edge → ℕ × HealthReport
  | (sample, .raised) => (sample.now, .stale (silentForMs startedAt sample.now sample.bridge))
  | (sample, .cleared) => (sample.now, .receivedAgain)

/-! ## The log -/

/-- The monitor and the samples agree. -/
structure AgreesWith (startedAt : ℕ) (s : HealthState) (w : Watched) : Prop where
  now : s.now = w.now
  bridge : s.bridge = w.bridge
  offlineReported : s.offlineReported = endsDown availabilityLevel w.samples
  staleHealthReported : s.staleHealthReported = endsDown (healthLevel startedAt) w.samples
  availability : s.log.filter (·.2.isAvailability) =
    (edges availabilityLevel false w.samples).map availabilityEntry
  health : s.log.filter (fun entry => !entry.2.isAvailability) =
    (edges (healthLevel startedAt) false w.samples).map (healthEntry startedAt)

variable {setting : Option String} {startedAt : ℕ} {s : HealthState} {w : Watched}

/-- The availability check compares the sample with the last one. -/
theorem check_availability_eq :
    checkBridgeAvailability s =
      { s with
        log := s.log ++ ((edge s.offlineReported (availabilityLevel ⟨s.now, s.bridge⟩)).map
          fun reported => availabilityEntry (⟨s.now, s.bridge⟩, reported)).toList
        offlineReported := availabilityLevel ⟨s.now, s.bridge⟩ = .down } := by
  obtain ⟨now, ⟨health, state, lastHealthAt⟩, offlineReported, stale, log⟩ := s
  obtain _ | (_ | _) := state <;> cases offlineReported <;> rfl

/-- The check of the health reports compares the sample with the last one. -/
theorem check_health_reports_eq :
    checkHealthReports startedAt s =
      { s with
        log := s.log ++ ((edge s.staleHealthReported (healthLevel startedAt ⟨s.now, s.bridge⟩)).map
          fun reported => healthEntry startedAt (⟨s.now, s.bridge⟩, reported)).toList
        staleHealthReported := healthLevel startedAt ⟨s.now, s.bridge⟩ = .down } := by
  unfold checkHealthReports healthLevel
  dsimp only
  by_cases hstale : zigbeeHealthTimeoutMs < silentForMs startedAt s.now s.bridge
  · rw [if_pos hstale]
    cases hreported : s.staleHealthReported <;> simp [edge, healthEntry, hstale]
  · rw [if_neg hstale]
    cases hreported : s.staleHealthReported <;> simp [edge, healthEntry, hstale]

theorem is_availability_availability_entry (change : HealthSample × Edge) :
    (availabilityEntry change).2.isAvailability = true := by
  obtain ⟨sample, _ | _⟩ := change <;> rfl

theorem is_availability_health_entry (change : HealthSample × Edge) :
    (healthEntry startedAt change).2.isAvailability = false := by
  obtain ⟨sample, _ | _⟩ := change <;> rfl

/-- One check of an enabled monitor. -/
theorem AgreesWith.check (h : AgreesWith startedAt s w) (henabled : isEnabled setting = true) :
    AgreesWith startedAt (handle setting startedAt s .check) (watch w .check) := by
  obtain ⟨hnow, hbridge, hoffline, hstale, havailability, hhealth⟩ := h
  have hstep : handle setting startedAt s .check =
      checkHealthReports startedAt (checkBridgeAvailability s) := if_pos henabled
  rw [hstep, check_health_reports_eq, check_availability_eq]
  refine ⟨hnow, hbridge, ?_, ?_, ?_, ?_⟩
  · show decide _ = endsDown availabilityLevel (w.samples ++ [⟨w.now, w.bridge⟩])
    rw [ends_down_concat, hnow, hbridge]
  · show decide _ = endsDown (healthLevel startedAt) (w.samples ++ [⟨w.now, w.bridge⟩])
    rw [ends_down_concat, hnow, hbridge]
  · show List.filter _ (_ ++ _ ++ _) =
      (edges availabilityLevel false (w.samples ++ [⟨w.now, w.bridge⟩])).map availabilityEntry
    rw [edges_concat, List.filter_append, List.filter_append, havailability, List.map_append,
      List.append_assoc, hoffline, hnow, hbridge]
    congr 1
    cases edge (endsDown availabilityLevel w.samples) (availabilityLevel ⟨w.now, w.bridge⟩) <;>
      cases edge s.staleHealthReported (healthLevel startedAt ⟨w.now, w.bridge⟩) <;>
      simp [is_availability_availability_entry, is_availability_health_entry]
  · show List.filter _ (_ ++ _ ++ _) =
      (edges (healthLevel startedAt) false (w.samples ++ [⟨w.now, w.bridge⟩])).map
        (healthEntry startedAt)
    rw [edges_concat, List.filter_append, List.filter_append, hhealth, List.map_append,
      List.append_assoc, hstale, hnow, hbridge]
    congr 1
    cases edge s.offlineReported (availabilityLevel ⟨w.now, w.bridge⟩) <;>
      cases edge (endsDown (healthLevel startedAt) w.samples)
        (healthLevel startedAt ⟨w.now, w.bridge⟩) <;>
      simp [is_availability_availability_entry, is_availability_health_entry]

theorem agrees_with_after (henabled : isEnabled setting = true) (actions : List HealthAction) :
    AgreesWith startedAt (healthAfter setting startedAt actions) (watched startedAt actions) := by
  induction actions using List.reverseRecOn with
  | nil => exact ⟨rfl, rfl, rfl, rfl, rfl, rfl⟩
  | append_singleton actions action ih =>
      rw [healthAfter, watched, List.foldl_concat, List.foldl_concat]
      cases action with
      | check => exact ih.check henabled
      | passTime ms =>
          exact { ih with now := congrArg (· + ms) ih.now }
      | onBridgeHealthCheck health =>
          exact { ih with
            bridge := congrArg₂ (fun bridge now => ZigbeeBridge.saveHealth bridge now health)
              ih.bridge ih.now }
      | onBridgeAvailabilityChange state =>
          exact { ih with bridge := congrArg (·.saveState state) ih.bridge }

/-- The log of an enabled monitor tells the changes between one check and the next, whatever has
happened between them: what it writes of the availability and of the health reports are the
reports on the samples, and those on the health reports take turns. A monitor that is not enabled
writes nothing. -/
theorem health_log_tells_changes (setting : Option String) (startedAt : ℕ)
    (actions : List HealthAction) :
    (setting = some "true" →
      (healthAfter setting startedAt actions).log.filter (·.2.isAvailability) =
        (edges availabilityLevel false (watched startedAt actions).samples).map
          availabilityEntry ∧
      (healthAfter setting startedAt actions).log.filter (fun entry => !entry.2.isAvailability) =
        (edges (healthLevel startedAt) false (watched startedAt actions).samples).map
          (healthEntry startedAt) ∧
      ((edges (healthLevel startedAt) false (watched startedAt actions).samples).map
        Prod.snd).IsChain (· ≠ ·)) ∧
    (setting ≠ some "true" → (healthAfter setting startedAt actions).log = []) := by
  refine ⟨fun hsetting => ?_, fun hsetting => ?_⟩
  · have hagrees := @agrees_with_after setting startedAt (by rw [hsetting]; rfl) actions
    refine ⟨hagrees.availability, hagrees.health, ?_⟩
    refine (edges_take_turns (healthLevel startedAt) fun sample _ => ?_).1
    unfold healthLevel
    split_ifs <;> exact nofun
  · have hdisabled : isEnabled setting = false := decide_eq_false hsetting
    induction actions using List.reverseRecOn with
    | nil => rfl
    | append_singleton actions action ih =>
        rw [healthAfter, List.foldl_concat]
        cases action with
        | check =>
            show (checkBridgeHealth setting startedAt _).log = []
            rw [checkBridgeHealth, if_neg (by rw [hdisabled]; exact Bool.false_ne_true)]
            exact ih
        | passTime ms => exact ih
        | onBridgeHealthCheck health => exact ih
        | onBridgeAvailabilityChange state => exact ih

end MyHomeHub.Zigbee

import Mathlib
import MyHomeHub.Zigbee.HealthMonitor

/-!
# A bridge that has fallen silent

When the interval fires often enough, each silence of the bridge that lasts longer than
the timeout makes one error in the log, between the timeout and one interval after it, and
there is no other error of this kind.
-/

namespace MyHomeHub.Zigbee

open Library

/-- The interval fires at least once in a period. -/
def Timely (period startedAt : ℕ) (actions : List HealthAction) : Prop :=
  ∀ before ∈ actions.inits,
    (watched startedAt before).now ≤ (watched startedAt before).checkedAt + period

instance (period startedAt : ℕ) (actions : List HealthAction) :
    Decidable (Timely period startedAt actions) :=
  inferInstanceAs (Decidable (∀ before ∈ actions.inits, _))

/-- The arrival of the last health report, or the startup. -/
def Watched.heardAt (w : Watched) (startedAt : ℕ) : ℕ :=
  w.received.getLast?.getD startedAt

/-- The start of the silence that an entry is about. -/
def silentSince : ℕ × HealthReport → Option ℕ
  | (time, .stale silent) => some (time - silent)
  | _ => none

variable {setting : Option String} {period startedAt : ℕ} {s : HealthState} {w : Watched}

/-- What the log knows of the silences of a run. -/
structure SilenceInvariant (period startedAt : ℕ) (s : HealthState) (w : Watched) : Prop where
  now : s.now = w.now
  bridge : s.bridge = w.bridge
  lastHealthAt : w.bridge.lastHealthAt = w.received.getLast?
  received : ∀ arrival ∈ w.received, arrival ≤ w.heardAt startedAt
  heard : startedAt ≤ w.heardAt startedAt ∧ w.heardAt startedAt ≤ w.now
  checked : w.checkedAt ≤ w.now ∧ w.now ≤ w.checkedAt + period
  /-- An error is about a silence that has lasted to the error, and for long enough. -/
  entries : ∀ time silent, (time, HealthReport.stale silent) ∈ s.log →
    time ≤ w.now ∧ zigbeeHealthTimeoutMs < silent ∧
      ∃ since ∈ startedAt :: w.received, time = since + silent ∧ since ≤ w.heardAt startedAt ∧
        ∀ arrival ∈ w.received, arrival ≤ since ∨ time ≤ arrival
  once : (s.log.filterMap silentSince).Nodup
  /-- The silence that goes on has its error only while the flag is set. -/
  flagged : w.heardAt startedAt ∈ s.log.filterMap silentSince → s.staleHealthReported = true
  /-- The last check has seen the silence, unless it was before it. -/
  seen : w.heardAt startedAt < w.checkedAt →
    (s.staleHealthReported = true ↔ w.heardAt startedAt + zigbeeHealthTimeoutMs < w.checkedAt)
  logged : w.heardAt startedAt < w.checkedAt → s.staleHealthReported = true →
    ∃ time silent, (time, HealthReport.stale silent) ∈ s.log ∧
      time = w.heardAt startedAt + silent ∧
      time ≤ w.heardAt startedAt + zigbeeHealthTimeoutMs + period
  /-- The long silences that are over have their errors. -/
  told : ∀ since ∈ startedAt :: w.received, since < w.heardAt startedAt →
    (∀ arrival ∈ w.received,
      arrival ≤ since ∨ since + zigbeeHealthTimeoutMs + period < arrival) →
    ∃ time silent, (time, HealthReport.stale silent) ∈ s.log ∧ time = since + silent ∧
      time ≤ since + zigbeeHealthTimeoutMs + period

/-- What a check writes, with the error of the silence last. -/
theorem check_log (startedAt : ℕ) (s : HealthState) :
    ∃ others : List (ℕ × HealthReport), (∀ entry ∈ others, silentSince entry = none) ∧
      (checkHealthReports startedAt (checkBridgeAvailability s)).log =
        s.log ++ others ++
          if zigbeeHealthTimeoutMs < silentForMs startedAt s.now s.bridge ∧
            s.staleHealthReported = false
          then [(s.now, .stale (silentForMs startedAt s.now s.bridge))] else [] := by
  have havailability : ∀ entry ∈ ((edge s.offlineReported
      (availabilityLevel ⟨s.now, s.bridge⟩)).map fun reported =>
        availabilityEntry (⟨s.now, s.bridge⟩, reported)).toList, silentSince entry = none := by
    intro entry hentry
    generalize edge _ _ = reported at hentry
    obtain _ | (_ | _) := reported
    · cases hentry
    · rw [List.mem_singleton.mp hentry]
      rfl
    · rw [List.mem_singleton.mp hentry]
      rfl
  rw [check_health_reports_eq, check_availability_eq]
  unfold healthLevel
  dsimp only
  generalize (Option.map _ (edge s.offlineReported _)).toList = written at havailability ⊢
  by_cases hstale : zigbeeHealthTimeoutMs < silentForMs startedAt s.now s.bridge
  · refine ⟨written, havailability, ?_⟩
    rw [if_pos hstale]
    cases hreported : s.staleHealthReported <;> simp [edge, healthEntry, hstale]
  · rw [if_neg hstale]
    cases hreported : s.staleHealthReported with
    | false =>
        refine ⟨written, havailability, ?_⟩
        simp [edge, hstale]
    | true =>
        refine ⟨written ++ [(s.now, .receivedAgain)], fun entry hentry => ?_, ?_⟩
        · obtain hentry | hentry := List.mem_append.mp hentry
          · exact havailability entry hentry
          · rw [List.mem_singleton.mp hentry]
            rfl
        · simp [edge, healthEntry, hstale]

theorem filter_map_silent_since_check :
    (checkHealthReports startedAt (checkBridgeAvailability s)).log.filterMap silentSince =
      s.log.filterMap silentSince ++
        if zigbeeHealthTimeoutMs < silentForMs startedAt s.now s.bridge ∧
          s.staleHealthReported = false
        then [s.now - silentForMs startedAt s.now s.bridge] else [] := by
  obtain ⟨others, hothers, hlog⟩ := check_log startedAt s
  rw [hlog, List.filterMap_append, List.filterMap_append, List.filterMap_eq_nil_iff.mpr hothers,
    List.append_nil]
  split_ifs <;> rfl

theorem mem_check_log_iff {time silent : ℕ} :
    (time, HealthReport.stale silent) ∈
        (checkHealthReports startedAt (checkBridgeAvailability s)).log ↔
      (time, HealthReport.stale silent) ∈ s.log ∨
        (zigbeeHealthTimeoutMs < silentForMs startedAt s.now s.bridge ∧
          s.staleHealthReported = false) ∧ time = s.now ∧
          silent = silentForMs startedAt s.now s.bridge := by
  obtain ⟨others, hothers, hlog⟩ := check_log startedAt s
  have hother : (time, HealthReport.stale silent) ∉ others := fun h => nomatch hothers _ h
  rw [hlog, List.mem_append, List.mem_append]
  split_ifs with hnew <;> simp [hother, hnew]

/-- The health flag after a check. -/
theorem stale_check_iff :
    (checkHealthReports startedAt (checkBridgeAvailability s)).staleHealthReported = true ↔
      zigbeeHealthTimeoutMs < silentForMs startedAt s.now s.bridge :=
  decide_eq_true_iff

theorem heard_at_mem : w.heardAt startedAt ∈ startedAt :: w.received := by
  unfold Watched.heardAt
  cases hlast : w.received.getLast? with
  | none => exact List.mem_cons_self
  | some arrival => exact List.mem_cons_of_mem _ (List.mem_of_getLast? hlast)

theorem SilenceInvariant.check (h : SilenceInvariant period startedAt s w)
    (henabled : isEnabled setting = true) (hperiod : period ≤ zigbeeHealthTimeoutMs) :
    SilenceInvariant period startedAt (handle setting startedAt s .check) (watch w .check) := by
  have hstep : handle setting startedAt s .check =
      checkHealthReports startedAt (checkBridgeAvailability s) := if_pos henabled
  have hsilent : silentForMs startedAt s.now s.bridge = w.now - w.heardAt startedAt := by
    rw [silentForMs, h.now, h.bridge, h.lastHealthAt, Watched.heardAt]
  have hheard := h.heard
  have hchecked := h.checked
  rw [hstep]
  -- a check that finds a long silence comes after one that has seen the silence begin
  have hseen (hlong : w.heardAt startedAt + zigbeeHealthTimeoutMs < w.now) :
      w.heardAt startedAt < w.checkedAt := by omega
  refine ⟨h.now, h.bridge, h.lastHealthAt, h.received, h.heard, ⟨le_rfl, Nat.le_add_right _ _⟩,
    fun time silent hentry => ?_, ?_, fun hmem => ?_, fun _ => ?_, fun _ hstale => ?_,
    fun since hmem hbefore hgap => ?_⟩
  · obtain hold | ⟨⟨hlong, -⟩, htime, hsince⟩ := mem_check_log_iff.mp hentry
    · exact h.entries time silent hold
    · rw [hsilent] at hlong hsince
      rw [h.now] at htime
      refine ⟨htime.le, by omega, w.heardAt startedAt, heard_at_mem, by omega, le_rfl,
        fun arrival harrival => .inl (h.received arrival harrival)⟩
  · rw [filter_map_silent_since_check]
    split_ifs with hnew
    · have hsince : s.now - silentForMs startedAt s.now s.bridge = w.heardAt startedAt := by
        rw [hsilent, h.now]
        omega
      rw [hsince, List.nodup_append]
      refine ⟨h.once, List.nodup_singleton _, fun since hmem other hother => ?_⟩
      rw [List.mem_singleton.mp hother]
      rintro rfl
      rw [h.flagged hmem] at hnew
      exact nomatch hnew.2
    · rw [List.append_nil]
      exact h.once
  · rw [stale_check_iff, hsilent]
    obtain ⟨⟨time, report⟩, hentry, hsince⟩ := List.mem_filterMap.mp hmem
    cases report with
    | stale silent =>
        obtain hold | ⟨⟨hlong, -⟩, -⟩ := mem_check_log_iff.mp hentry
        · obtain ⟨htime, hlong, since, -, rfl, -⟩ := h.entries time silent hold
          have hstart : since + silent - silent = w.heardAt startedAt := Option.some.inj hsince
          omega
        · rwa [hsilent] at hlong
    | offline => cases hsince
    | backOnline => cases hsince
    | receivedAgain => cases hsince
  · rw [stale_check_iff, hsilent]
    show _ ↔ w.heardAt startedAt + zigbeeHealthTimeoutMs < w.now
    omega
  · rw [stale_check_iff, hsilent] at hstale
    have hbefore := hseen (by omega)
    cases hflag : s.staleHealthReported with
    | false =>
        have hnot := mt (h.seen hbefore).mpr (by rw [hflag]; exact Bool.false_ne_true)
        refine ⟨w.now, w.now - w.heardAt startedAt, mem_check_log_iff.mpr (.inr ?_), ?_, ?_⟩
        · rw [hsilent]
          exact ⟨⟨hstale, hflag⟩, h.now.symm, rfl⟩
        · show w.now = w.heardAt startedAt + _
          omega
        · show w.now ≤ w.heardAt startedAt + _ + _
          omega
    | true =>
        obtain ⟨time, silent, hentry, htime⟩ := h.logged hbefore hflag
        exact ⟨time, silent, mem_check_log_iff.mpr (.inl hentry), htime⟩
  · obtain ⟨time, silent, hentry, htime⟩ := h.told since hmem hbefore hgap
    exact ⟨time, silent, mem_check_log_iff.mpr (.inl hentry), htime⟩

/-- A silence that has outlasted the timeout by a period has its error. -/
theorem SilenceInvariant.error_of_lasting (h : SilenceInvariant period startedAt s w)
    (hlong : w.heardAt startedAt + zigbeeHealthTimeoutMs + period < w.now) :
    ∃ time silent, (time, HealthReport.stale silent) ∈ s.log ∧
      time = w.heardAt startedAt + silent ∧
      time ≤ w.heardAt startedAt + zigbeeHealthTimeoutMs + period := by
  have hchecked := h.checked
  have hbefore : w.heardAt startedAt < w.checkedAt := by omega
  exact h.logged hbefore ((h.seen hbefore).mpr (by omega))

theorem SilenceInvariant.pass_time (h : SilenceInvariant period startedAt s w) {ms : ℕ}
    (htimely : w.now + ms ≤ w.checkedAt + period) :
    SilenceInvariant period startedAt (handle setting startedAt s (.passTime ms))
      (watch w (.passTime ms)) := by
  refine ⟨congrArg (· + ms) h.now, h.bridge, h.lastHealthAt, h.received,
    ⟨h.heard.1, h.heard.2.trans (Nat.le_add_right _ _)⟩,
    ⟨h.checked.1.trans (Nat.le_add_right _ _), htimely⟩, fun time silent hentry => ?_, h.once,
    h.flagged, h.seen, h.logged, h.told⟩
  obtain ⟨htime, hrest⟩ := h.entries time silent hentry
  exact ⟨htime.trans (Nat.le_add_right _ _), hrest⟩

theorem heard_at_of_report {health : ZigbeeBridgeHealth} :
    (watch w (.onBridgeHealthCheck (some health))).heardAt startedAt = w.now := by
  show (w.received ++ [w.now]).getLast?.getD startedAt = w.now
  rw [List.getLast?_concat]
  rfl

/-- A report ends the silence, whether it was long or not. -/
theorem SilenceInvariant.report (h : SilenceInvariant period startedAt s w)
    (health : ZigbeeBridgeHealth) :
    SilenceInvariant period startedAt
      (handle setting startedAt s (.onBridgeHealthCheck (some health)))
      (watch w (.onBridgeHealthCheck (some health))) := by
  have hheard := h.heard
  refine ⟨h.now, ?_, ?_, ?_, ?_, h.checked, fun time silent hentry => ?_, h.once, ?_, ?_, ?_, ?_⟩
  · show s.bridge.saveHealth s.now (some health) = w.bridge.saveHealth w.now (some health)
    rw [h.bridge, h.now]
  · exact List.getLast?_concat.symm
  · rw [heard_at_of_report]
    intro arrival harrival
    obtain hold | hnew := List.mem_append.mp harrival
    · exact (h.received arrival hold).trans hheard.2
    · exact (List.mem_singleton.mp hnew).le
  · rw [heard_at_of_report]
    exact ⟨hheard.1.trans hheard.2, le_rfl⟩
  · rw [heard_at_of_report]
    obtain ⟨htime, hlong, since, hsince, hsilent, hbefore, hgap⟩ := h.entries time silent hentry
    refine ⟨htime, hlong, since, ?_, hsilent, hbefore.trans hheard.2, fun arrival harrival => ?_⟩
    · exact List.mem_append_left [w.now] hsince
    · obtain hold | hnew := List.mem_append.mp harrival
      · exact hgap arrival hold
      · exact .inr (htime.trans (List.mem_singleton.mp hnew).ge)
  · -- no error is about a silence that begins now
    rw [heard_at_of_report]
    intro hmem
    obtain ⟨⟨time, report⟩, hentry, hstart⟩ := List.mem_filterMap.mp hmem
    cases report with
    | stale silent =>
        obtain ⟨htime, hlong, since, -, rfl, -⟩ := h.entries time silent hentry
        have hnow : since + silent - silent = w.now := Option.some.inj hstart
        omega
    | offline => cases hstart
    | backOnline => cases hstart
    | receivedAgain => cases hstart
  · rw [heard_at_of_report]
    exact fun hafter => absurd h.checked.1 (not_le.mpr hafter)
  · rw [heard_at_of_report]
    exact fun hafter => absurd h.checked.1 (not_le.mpr hafter)
  · rw [heard_at_of_report]
    intro since hmem hbefore hgap
    have hold : since ∈ startedAt :: w.received := by
      obtain hold | hnew := List.mem_append.mp (show since ∈ (startedAt :: w.received) ++ [w.now]
        from hmem)
      · exact hold
      · exact absurd (List.mem_singleton.mp hnew) hbefore.ne
    have hgapOld : ∀ arrival ∈ w.received,
        arrival ≤ since ∨ since + zigbeeHealthTimeoutMs + period < arrival :=
      fun arrival harrival => hgap arrival (List.mem_append_left _ harrival)
    have hgapNow := hgap w.now (List.mem_append_right _ List.mem_cons_self)
    have hle : since ≤ w.heardAt startedAt := by
      obtain rfl | hmemOld := List.mem_cons.mp hold
      · exact hheard.1
      · exact h.received since hmemOld
    obtain hearlier | rfl := lt_or_eq_of_le hle
    · exact h.told since hold hearlier hgapOld
    · exact h.error_of_lasting (by omega)

/-- A message without a report, or of the availability, leaves the silence. -/
theorem SilenceInvariant.other_message (h : SilenceInvariant period startedAt s w)
    {action : HealthAction}
    (haction : action = .onBridgeHealthCheck none ∨
      ∃ state, action = .onBridgeAvailabilityChange state) :
    SilenceInvariant period startedAt (handle setting startedAt s action) (watch w action) := by
  obtain rfl | ⟨state, rfl⟩ := haction
  · exact { h with
      bridge := congrArg (fun bridge => ZigbeeBridge.saveHealth bridge 0 none) h.bridge }
  · exact { h with bridge := congrArg (·.saveState state) h.bridge }

/-- What the log knows of the silences after any timely run. -/
theorem silence_invariant_after {actions : List HealthAction} (henabled : isEnabled setting = true)
    (hperiod : period ≤ zigbeeHealthTimeoutMs) (htimely : Timely period startedAt actions) :
    SilenceInvariant period startedAt (healthAfter setting startedAt actions)
      (watched startedAt actions) := by
  induction actions using List.reverseRecOn with
  | nil =>
      refine ⟨rfl, rfl, rfl, nofun, ⟨le_rfl, le_rfl⟩, ⟨le_rfl, Nat.le_add_right _ _⟩, nofun,
        List.nodup_nil, nofun, fun h => absurd h (lt_irrefl startedAt),
        fun h => absurd h (lt_irrefl startedAt), fun since hmem hbefore => ?_⟩
      rw [List.mem_singleton.mp hmem] at hbefore
      exact absurd hbefore (lt_irrefl startedAt)
  | append_singleton actions action ih =>
      have hbefore := ih fun before hbefore => htimely before <| by
        rw [List.mem_inits] at hbefore ⊢
        exact hbefore.trans (List.prefix_append _ _)
      have hlast := htimely (actions ++ [action]) ((List.mem_inits _ _).mpr (List.prefix_refl _))
      rw [healthAfter, watched, List.foldl_concat, List.foldl_concat]
      rw [watched, List.foldl_concat] at hlast
      cases action with
      | passTime ms => exact hbefore.pass_time hlast
      | onBridgeHealthCheck health =>
          cases health with
          | none => exact hbefore.other_message (.inl rfl)
          | some health => exact hbefore.report health
      | onBridgeAvailabilityChange state => exact hbefore.other_message (.inr ⟨state, rfl⟩)
      | check => exact hbefore.check henabled hperiod

/-- Each silence that lasts a period longer than the timeout makes an error, within a period after
the timeout. No error is written of a shorter silence, and no two are written of the same one. -/
theorem stale_error_once_in_time {setting : Option String} {period startedAt : ℕ}
    {actions : List HealthAction} (hsetting : setting = some "true")
    (hperiod : period ≤ zigbeeHealthTimeoutMs) (htimely : Timely period startedAt actions) :
    (∀ time silent,
      (time, HealthReport.stale silent) ∈ (healthAfter setting startedAt actions).log →
      zigbeeHealthTimeoutMs < silent ∧ ∃ since ∈ startedAt :: (watched startedAt actions).received,
        time = since + silent ∧
        ∀ arrival ∈ (watched startedAt actions).received, arrival ≤ since ∨ time ≤ arrival) ∧
    ((healthAfter setting startedAt actions).log.filterMap silentSince).Nodup ∧
    ∀ since ∈ startedAt :: (watched startedAt actions).received,
      since + zigbeeHealthTimeoutMs + period < (watched startedAt actions).now →
      (∀ arrival ∈ (watched startedAt actions).received,
        arrival ≤ since ∨ since + zigbeeHealthTimeoutMs + period < arrival) →
      ∃ time silent,
        (time, HealthReport.stale silent) ∈ (healthAfter setting startedAt actions).log ∧
        time = since + silent ∧ time ≤ since + zigbeeHealthTimeoutMs + period := by
  have h := @silence_invariant_after setting period startedAt actions (by rw [hsetting]; rfl)
    hperiod htimely
  refine ⟨fun time silent hentry => ?_, h.once, fun since hmem hlong hgap => ?_⟩
  · obtain ⟨-, hlong, since, hsince, htime, -, hgap⟩ := h.entries time silent hentry
    exact ⟨hlong, since, hsince, htime, hgap⟩
  · have hle : since ≤ (watched startedAt actions).heardAt startedAt := by
      obtain rfl | hreceived := List.mem_cons.mp hmem
      · exact h.heard.1
      · exact h.received since hreceived
    obtain hearlier | rfl := lt_or_eq_of_le hle
    · exact h.told since hmem hearlier hgap
    · exact h.error_of_lasting hlong

/-- Thirty-two minutes in which only the interval fires. -/
def silentBridge : List HealthAction :=
  (List.replicate 32 [.passTime zigbeeMonitorIntervalMs, .check]).flatten

/-- A bridge that never reports is told of once, after thirty-one minutes at the latest. -/
theorem stale_error_once_in_time_silent :
    (∃ time silent,
      (time, HealthReport.stale silent) ∈ (healthAfter (some "true") 0 silentBridge).log ∧
        time = 0 + silent ∧ time ≤ 0 + zigbeeHealthTimeoutMs + zigbeeMonitorIntervalMs) ∧
      ((healthAfter (some "true") 0 silentBridge).log.filterMap silentSince).Nodup := by
  obtain ⟨-, honce, hall⟩ := @stale_error_once_in_time (some "true") zigbeeMonitorIntervalMs 0
    silentBridge rfl (by decide) (by decide +kernel)
  exact ⟨hall 0 List.mem_cons_self (by decide +kernel) nofun, honce⟩

end MyHomeHub.Zigbee

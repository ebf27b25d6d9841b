import MyHomeHub.JavaScript.Object
import MyHomeHub.Scenarios.TriggerLogic
import MyHomeHub.DeviceConfigs.MapperRoundTrip
import MyHomeHub.Devices.Service
import MyHomeHub.Devices.ConfigInvariant
import MyHomeHub.Library.Runs
import MyHomeHub.Devices.OverrideFlag
import MyHomeHub.Library.ReadModifyWrite
import MyHomeHub.Devices.ConcurrentUpdates
import MyHomeHub.Devices.Reconcile
import MyHomeHub.Scenarios.Schema
import MyHomeHub.Scenarios.Groups
import MyHomeHub.Scenarios.Service
import MyHomeHub.Scenarios.JobRegistry
import MyHomeHub.Scenarios.JobInvariant
import MyHomeHub.Scenarios.Execution
import MyHomeHub.Scenarios.RepeatTimes
import MyHomeHub.Scenarios.ExecutionsInTurn
import MyHomeHub.Library.Cascade
import MyHomeHub.Scenarios.Cascade
import MyHomeHub.Scenarios.Actions
import MyHomeHub.DeviceConfigs.Parser
import MyHomeHub.Scenarios.ConditionMatching
import MyHomeHub.DeviceConfigs.DefaultPayloads
import MyHomeHub.DeviceConfigs.Schema
import MyHomeHub.DeviceConfigs.Storing
import MyHomeHub.DeviceConfigs.Service
import MyHomeHub.DeviceConfigs.Synchronization
import MyHomeHub.DeviceConfigs.CachedConfigs
import MyHomeHub.DeviceConfigs.OverlappingSyncs
import MyHomeHub.Devices.Transport
import MyHomeHub.Devices.RejectedUpdates
import MyHomeHub.Library.Counting
import MyHomeHub.Scenarios.GroupCounts
import MyHomeHub.Auth.GoogleLinking
import MyHomeHub.Auth.GrantedRoles
import MyHomeHub.Auth.LinkedAccounts
import MyHomeHub.Library.Loops
import MyHomeHub.Scenarios.DayTimeAdjustments
import MyHomeHub.Zigbee.FriendlyNames
import MyHomeHub.Zigbee.RenameRequests
import MyHomeHub.Conditions.ReadOnce
import MyHomeHub.DeviceConfigs.MalformedItems
import MyHomeHub.Devices.AddedPayloads
import MyHomeHub.Devices.ReconciledNames
import MyHomeHub.Scenarios.LogicOperands
import MyHomeHub.DeviceConfigs.Sanitizing
import MyHomeHub.Devices.OverrideReading
import MyHomeHub.Scenarios.Removal
import MyHomeHub.Scenarios.Rollback
import MyHomeHub.Library.ExclusiveReads
import MyHomeHub.Scenarios.ConcurrentGroups
import MyHomeHub.Scenarios.CronTimes
import MyHomeHub.Common.GlobalInterceptor
import MyHomeHub.Common.CustomValidationException
import MyHomeHub.Library.Overlays
import MyHomeHub.Devices.MqttService
import MyHomeHub.Devices.SectionChanges
import MyHomeHub.Devices.Pairing
import MyHomeHub.Mqtt.Service
import MyHomeHub.Devices.Listing
import MyHomeHub.Scripts.MergeConfigs
import MyHomeHub.Scripts.EnvFile
import MyHomeHub.DeviceConfigs.FieldCollisions
import MyHomeHub.Scenarios.ReportedViolations
import MyHomeHub.Library.Tickets
import MyHomeHub.Library.SignedTokens
import MyHomeHub.Library.Alarms
import MyHomeHub.Library.Debounce
import MyHomeHub.JavaScript.Hexadecimal
import MyHomeHub.JavaScript.Map
import MyHomeHub.Auth.Identities
import MyHomeHub.Auth.PasswordResets
import MyHomeHub.Auth.ResetTokens
import MyHomeHub.Auth.Guards
import MyHomeHub.Auth.Sessions
import MyHomeHub.Auth.SessionTokens
import MyHomeHub.Scripts.Migrations
import MyHomeHub.Devices.ColorFormats
import MyHomeHub.Zigbee.HealthMonitor
import MyHomeHub.Zigbee.HealthTimeout
import MyHomeHub.Zigbee.PairableListing
import MyHomeHub.DeviceConfigs.Watcher
import MyHomeHub.DeviceConfigs.WatchedStore
import MyHomeHub.Scripts.GenerateSecrets
import MyHomeHub.Zigbee.NameProtocol
import MyHomeHub.Zigbee.NameAgreement
import MyHomeHub.Library.Redelivery
import MyHomeHub.Zigbee.StateReports

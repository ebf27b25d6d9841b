import Mathlib.Logic.Basic

/-!
# External calls

The third-party functions that the services call on values: the validators of
`class-validator`, the regular expressions of a device config, and the two cron packages.
Everything that depends on them takes them as an instance.
-/

namespace MyHomeHub

/-- The third-party functions. -/
class ExternalCalls where
  /-- `new RegExp(pattern)` as a test, or none when the pattern is a syntax error. -/
  regExp : (pattern : String) → Option (String → Bool)
  /-- `isHexColor` -/
  isHexColor : String → Bool
  /-- `isIP` for the allowed version -/
  isIP : String → Bool
  /-- `isURL` -/
  isURL : String → Bool
  /-- `isValidCron` -/
  isValidCron : String → Bool
  /-- Whether `new CronJob(cron, …)` accepts the expression instead of throwing. -/
  cronJobAccepts : String → Bool

/-- Calls for runs in which no text reaches a third-party function. -/
@[reducible] def ExternalCalls.unused : ExternalCalls where
  regExp _ := none
  isHexColor _ := false
  isIP _ := false
  isURL _ := false
  isValidCron _ := false
  cronJobAccepts _ := false

end MyHomeHub

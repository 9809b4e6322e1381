import HarnessLink.Duration

/-!
# Settings of the master
-/
namespace HarnessLink

/-- How commands are sent to the slaves. -/
structure ChannelConfig where
  /-- How long a reply may take after each transmission. -/
  responseTimeout : Duration := .ofMillis 500
  /-- Further attempts after the first. -/
  retries : Nat := 3
  /-- The slot of outgoing link frames. -/
  slot : UInt8 := 0
  deriving DecidableEq

/-- How often a command is sent before it is given up. The count stops at the
largest number of 32 bits. -/
def ChannelConfig.attempts (c : ChannelConfig) : Nat := min 4294967295 (c.retries + 1)

structure MasterConfig where
  /-- How many commands may wait. -/
  queueCapacity : Nat := 10
  /-- How long a command may wait for room in the queue. -/
  queueTimeout : Duration := .ofSeconds 5
  /-- How long the backend waits for an outcome. -/
  outcomeTimeout : Duration := .ofSeconds 5
  /-- Time of the conduction test for each pin. -/
  conductionInterval : Duration := .ofMillis 10
  clipInterval : UInt8 := 10
  /-- Slack of a conduction cycle. -/
  syncRedundancy : Duration := .ofMillis 100
  /-- Length of a cycle outside conduction tests. -/
  idlePeriod : Duration := .ofSeconds 1
  /-- How long an upload may wait for the uplink. -/
  uploadTimeout : Duration := .ofSeconds 1
  deriving DecidableEq

end HarnessLink

import Vigil.Chain.Kind
import Vigil.Config.Placeholders
import Vigil.Failure
import Vigil.Json.Basic

/-!
# Events worth logging

Everything the service reports while it runs. An event has a level, the name of the part of
the service that reports it, a message, and fields; fields that count are numbers and the rest
are texts.
-/

set_option autoImplicit false

namespace Vigil

/-- How grave an event is. -/
inductive Level where
  | trace | debug | info | warn | error
  deriving DecidableEq, Repr, Inhabited

namespace Level

/-- The position of a level, the gravest first. -/
def rank : Level → Nat
  | .error => 1
  | .warn => 2
  | .info => 3
  | .debug => 4
  | .trace => 5

/-- The name of a level. -/
def name : Level → String
  | .trace => "TRACE"
  | .debug => "DEBUG"
  | .info => "INFO"
  | .warn => "WARN"
  | .error => "ERROR"

end Level

/-- The signals that end the service. -/
inductive Signal where
  | interrupt | terminate
  deriving DecidableEq, Repr

/-- The name of a signal. -/
def Signal.name : Signal → String
  | .interrupt => "SIGINT"
  | .terminate => "SIGTERM"

/-- Something that the service reports. -/
inductive Event where
  /-- A slot of a configured request that no variable can fill. -/
  | undeclaredSlot (slot : Undeclared)
  | configurationLoaded (path : String) (monitors : Nat)
  | executing (chain : ChainKind) (request : String)
  | sending (request : String) (method : String) (url : String) (allowed : Duration)
  | received (request : String) (status : UInt16) (bytes : Nat)
  | succeeded (chain : ChainKind) (request : String) (extracted : Nat)
  | failed (chain : ChainKind) (request : String) (failure : Failure)
  /-- A chain ended early and left requests unattempted. -/
  | skipping (chain : ChainKind) (requests : Nat)
  | tickCompleted (monitor : String) (requests cleanupFailures : Nat)
  | tickFailed (monitor request : String) (failure : Failure) (skipped cleanupFailures : Nat)
  | monitorStarted (monitor : String) (period : Duration)
  | monitorNotRunning (monitor : String)
  | monitorStopped (monitor : String)
  | loopStarting
  | loopEnding
  /-- The timer fired for a moment within the last run. -/
  | fireDropped
  | workerDied (monitor : String)
  | allStarted (count : Nat)
  | allStopped
  | noMonitors (path : String)
  | onceFinished (monitors unhealthy : Nat)
  | signalReceived (signal : Signal)
  | shuttingDown
  deriving DecidableEq

namespace Event

/-- The level of an event. -/
def level : Event → Level
  | .undeclaredSlot _ | .tickFailed .. | .noMonitors _ => .warn
  | .failed .. | .workerDied _ => .error
  | .configurationLoaded .. | .executing .. | .sending .. | .received .. | .succeeded ..
  | .skipping .. | .monitorNotRunning _ | .loopStarting | .loopEnding | .fireDropped => .debug
  | .tickCompleted .. | .monitorStarted .. | .monitorStopped _ | .allStarted _ | .allStopped
  | .onceFinished .. | .signalReceived _ | .shuttingDown => .info

/-- The part of the service that reports an event, as log filters name it. -/
def target : Event → String
  | .undeclaredSlot _ | .configurationLoaded .. => "http_monitor::config"
  | .sending .. | .received .. => "http_monitor::executor"
  | .executing .. | .succeeded .. | .failed .. | .skipping .. | .tickCompleted ..
  | .tickFailed .. => "http_monitor::runner"
  | .monitorStarted .. | .monitorNotRunning _ | .monitorStopped _ | .loopStarting | .loopEnding
  | .fireDropped | .workerDied _ | .allStarted _ | .allStopped => "http_monitor::scheduler"
  | .noMonitors _ | .onceFinished .. | .signalReceived _ | .shuttingDown => "http_monitor"

/-- The message of an event. -/
def message : Event → String
  | .undeclaredSlot _ =>
    "placeholder does not match any variable and will be sent verbatim"
  | .configurationLoaded .. => "configuration loaded"
  | .executing .. => "executing request"
  | .sending .. => "sending request"
  | .received .. => "response received"
  | .succeeded .. => "request completed"
  | .failed chain .. => "failed to complete " ++ chain.label ++ " request"
  | .skipping .. => "remaining requests skipped for this tick"
  | .tickCompleted .. => "tick completed"
  | .tickFailed .. => "tick failed"
  | .monitorStarted .. => "monitor started"
  | .monitorNotRunning _ => "stop requested but monitor is not running"
  | .monitorStopped _ => "monitor stopped"
  | .loopStarting => "monitor loop starting"
  | .loopEnding => "monitor loop shutting down"
  | .fireDropped => "timer fired during previous tick, dropped"
  | .workerDied _ => "monitor worker ended abnormally"
  | .allStarted _ => "all monitors started"
  | .allStopped => "all monitors stopped"
  | .noMonitors _ => "no monitors configured"
  | .onceFinished .. => "single run finished"
  | .signalReceived s => "received " ++ s.name
  | .shuttingDown => "shutting down"

/-- A whole number of milliseconds in 64 bits. -/
def millisField (d : Duration) : Json := .nat (d.millis % UInt64.size)

/-- The fields of an event. -/
def fields : Event → List (String × Json)
  | .undeclaredSlot s =>
    [("monitor", .string s.monitor), ("request", .string s.request),
      ("placeholder", .string s.name)]
  | .configurationLoaded path monitors =>
    [("path", .string path), ("monitors", .nat monitors)]
  | .executing chain request =>
    [("request", .string request), ("chain", .string chain.label),
      ("phase", .string "executing")]
  | .sending request method url allowed =>
    [("request", .string request), ("method", .string method), ("url", .string url),
      ("timeout_ms", millisField allowed)]
  | .received request status bytes =>
    [("request", .string request), ("status", .nat status.toNat), ("body_bytes", .nat bytes)]
  | .succeeded chain request extracted =>
    [("request", .string request), ("chain", .string chain.label),
      ("phase", .string "succeeded"), ("extracted", .nat extracted)]
  | .failed chain request failure =>
    [("request", .string request), ("chain", .string chain.label), ("phase", .string "failed"),
      ("error_kind", .string failure.kind.label), ("error", .string failure.message)]
  | .skipping chain requests =>
    [("chain", .string chain.label), ("skipped", .nat requests)]
  | .tickCompleted monitor requests cleanupFailures =>
    [("monitor", .string monitor), ("requests", .nat requests),
      ("cleanup_failures", .nat cleanupFailures)]
  | .tickFailed monitor request failure skipped cleanupFailures =>
    [("monitor", .string monitor), ("failed_request", .string request),
      ("error", .string failure.message), ("skipped", .nat skipped),
      ("cleanup_failures", .nat cleanupFailures)]
  | .monitorStarted monitor period =>
    [("monitor", .string monitor), ("period", .string period.text)]
  | .monitorNotRunning monitor | .monitorStopped monitor | .workerDied monitor =>
    [("monitor", .string monitor)]
  | .allStarted count => [("count", .nat count)]
  | .noMonitors path => [("path", .string path)]
  | .onceFinished monitors unhealthy =>
    [("monitors", .nat monitors), ("failed", .nat unhealthy)]
  | .loopStarting | .loopEnding | .fireDropped | .allStopped | .signalReceived _
  | .shuttingDown => []

end Event

end Vigil

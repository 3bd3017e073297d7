import Vigil.CommandLine.Arguments
import Vigil.Config.Loading
import Vigil.Http.Client
import Vigil.Log.Filter
import Vigil.Schedule.Roster

/-!
# The service as a program

The program loads its configuration, makes the client that all requests share, and then either
runs every monitor once, in order, or starts them all and stops them when a signal comes. A
single run ends well if every monitor is healthy. How a program ends is worked out from its
arguments and from what it finds around it (`Request.ending`).
-/

set_option autoImplicit false

namespace Vigil.CommandLine

/-- What a program that is about to run works with. -/
structure Service where
  /-- The path of the configuration, as it was given. -/
  path : String
  config : ServiceConfig
  client : Client

namespace Service

/-- The service with the configuration that was found at `path`. -/
def load (path : String) (contents : Except FileFault (List UInt8)) :
    Except ConfigError Service := do
  let config ← ServiceConfig.ofFile path contents
  match Client.ofSettings config.client with
  | .ok client => return { path, config, client }
  | .error reason => .error (.unusable reason)

/-- What is reported before any monitor is run. -/
def greeting (s : Service) : List Event :=
  if s.config.monitors.isEmpty then [.noMonitors s.path] else []

/-- Whether the log is to show an event. -/
def shows (s : Service) (e : Event) : Bool := (LogFilter.ofText s.config.logLevel).allows e

/-- Runs monitors one after the other: how many are unhealthy. -/
def runEach (client : Client) (server : Server) (builtins : Nat → Builtins) :
    List Monitor → Nat → Journal → Nat × Journal
  | [], unhealthy, j => (unhealthy, j)
  | m :: rest, unhealthy, j =>
    match m.tick client server (builtins rest.length) j with
    | (report, j) =>
      runEach client server builtins rest
        (if report.isHealthy then unhealthy else unhealthy + 1) j

/-- Runs every monitor once: how many are unhealthy. -/
def runOnce (s : Service) (server : Server) (builtins : Nat → Builtins) (j : Journal) :
    Nat × Journal :=
  match runEach s.client server builtins s.config.monitors 0
      (s.greeting.foldl Journal.report j) with
  | (unhealthy, j) =>
    (unhealthy, j.report (.onceFinished s.config.monitors.length unhealthy))

/-- Starts all monitors. -/
def start (s : Service) (now : Nat) : Except Unusable Station := do
  let station ← Station.ofMonitors now s.config.monitors
  return (station.report s.greeting).startAll

/-- Stops all monitors because of a signal. -/
def stop (signal : Signal) (course : Monitor → Course) (station : Station) : Station :=
  (station.report [.signalReceived signal, .shuttingDown]).stopAll course

end Service

/-- How a program ended. -/
structure Ending where
  exitCode : UInt8
  /-- Why it could not begin. -/
  failure : Option ConfigError := none
  /-- What the log shows, if it can be shown. -/
  events : List Event := []
  /-- What has happened, in a program that runs its monitors once. -/
  journal : Journal := {}

namespace Ending

/-- The messages that arrived at the server. -/
def arrived (e : Ending) : List Message := e.journal.arrived

/-- The line for the terminal about a program that could not begin. -/
def failureLine (e : ConfigError) : String := "http-monitor: " ++ e.message

/-- A program that could not begin. -/
def failed (e : ConfigError) : Ending := { exitCode := 1, failure := some e }

end Ending

namespace Service

/-- The end of a single run. -/
def endOfOnce (s : Service) (server : Server) (builtins : Nat → Builtins) (now : Nat) : Ending :=
  match Station.ofMonitors now s.config.monitors with
  | .error reason => .failed (.unusable reason)
  | .ok _ =>
    match s.runOnce server builtins { now } with
    | (unhealthy, j) =>
      { exitCode := if unhealthy = 0 then 0 else 1
        events := j.events.filter s.shows
        journal := j }

/-- The end of a program that gets a signal as soon as all monitors are started. -/
def endOfSignal (s : Service) (signal : Signal) (course : Monitor → Course) (now : Nat) :
    Ending :=
  match s.start now with
  | .error reason => .failed (.unusable reason)
  | .ok station =>
    let station := stop signal course (station.settle course)
    { exitCode := 0, events := (station.lines.map (·.entry.event)).filter s.shows }

end Service

/-- What a program finds around it. -/
structure Surroundings where
  /-- What is found at a path. -/
  contents : String → Except FileFault (List UInt8)
  server : Server
  /-- The built-in variables of each run: in a single run, of the one that so many monitors wait
  behind, and otherwise of the one that begins at this moment. -/
  builtins : Nat → Builtins
  /-- The moment at which the program begins. -/
  now : Nat := 0
  /-- What ends a program that is not to end by itself. -/
  signal : Signal := .terminate

/-- The end of a program that does what it is asked for. -/
def Request.ending (w : Surroundings) : Request → Ending
  | .help | .version => { exitCode := 0 }
  | .misuse => { exitCode := 2 }
  | .run path once =>
    match Service.load path (w.contents path) with
    | .error e => .failed e
    | .ok s =>
      if once then s.endOfOnce w.server w.builtins w.now
      else s.endOfSignal w.signal (Monitor.tickAt s.client w.server w.builtins) w.now

end Vigil.CommandLine

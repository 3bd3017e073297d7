import Std.Async.DNS
import Std.Async.Select
import Std.Async.Signal
import Std.Async.TCP
import Std.Async.Timer
import Vigil.CommandLine.Service
import Vigil.Http.Wire
import Vigil.Log.Format

/-!
# The program

The command line around the library: it reads the configuration, connects to servers, waits for
timers and signals, and writes the log. How the program ends is worked out by the library
(`Request.ending`), from the replies known so far; whenever it comes to a message without a reply,
that message is sent and the ending is worked out again with one more reply. Only a program that
runs until a signal comes does what its workers do at the moments when they do it.
-/

set_option autoImplicit false

namespace Vigil.Program

open Std.Async
open CommandLine (Service Request)

/-! ## The network -/

/-- The words for a message that has not been sent yet. -/
def pending : String := "pending"

/-- The server that gives the replies known so far. -/
def replaying (replies : List Reply) : Server := fun _ arrived _ =>
  (replies[arrived.length]?).getD (.lost 0 pending)

/-- Whether an event tells that a message has not been sent yet. -/
def isPending : Event → Bool
  | .failed _ _ (.transport words) => words == pending
  | _ => false

/-- The entries that no further reply will change. -/
def settled (j : Journal) : List Entry := j.entries.takeWhile fun e => !isPending e.event

/-- The time allowed for the last request of some entries. -/
def allowed (entries : List Entry) : Duration :=
  (entries.reverse.findSome? fun e =>
    match e.event with
    | .sending _ _ _ d => some d
    | _ => none).getD .clientDefault

/-- A number as two bytes. -/
def twoBytes (n : Nat) : UInt16 := UInt16.ofNat n

/-- The address of a host. -/
def addressOf (host : Host) : Async Std.Net.IPAddr := do
  match host with
  | .v4 n =>
    let byte (k : Nat) := UInt8.ofNat (n >>> (8 * k))
    return .v4 (.ofParts (byte 3) (byte 2) (byte 1) (byte 0))
  | .v6 ps =>
    let piece (k : Nat) := twoBytes (ps.getD k 0)
    return .v6 (.ofParts (piece 0) (piece 1) (piece 2) (piece 3) (piece 4) (piece 5) (piece 6)
      (piece 7))
  | host =>
    match (← DNS.getAddrInfo host.text "")[0]? with
    | some a => return a
    | none => throw (IO.userError "no address for this host")

/-- Receives an answer. -/
partial def receive (socket : TCP.Socket.Client) (method : Method) (got : List UInt8) :
    Async Answer := do
  match ← socket.recv? 65536 with
  | some bytes =>
    let got := got ++ bytes.toList
    match Answer.ofBytes? method false got with
    | some a => return a
    | none => receive socket method got
  | none =>
    match Answer.ofBytes? method true got with
    | some a => return a
    | none => throw (IO.userError "connection closed before message completed")

/-- A message without what the client says of codings. None is undone here, so none is asked for. -/
def plain (m : Message) : Message :=
  { m with headers := m.headers.filter (· != ⟨"accept-encoding", Coding.offer⟩) }

/-- Sends a message over a connection of its own and receives the answer. -/
def exchange (m : Message) : Async (Except String Answer) := do
  try
    if m.url.scheme != "http" then throw (IO.userError "no secure connections")
    let port := twoBytes (m.url.port?.getD 80)
    let socket ← TCP.Socket.Client.mk
    match ← addressOf m.url.host with
    | .v4 a => socket.connect (.v4 ⟨a, port⟩)
    | .v6 a => socket.connect (.v6 { addr := a, port })
    socket.send ⟨(plain m).bytes.toArray⟩
    return .ok (← receive socket m.method [])
  catch e => return .error (toString e)

/-- Sends a message and waits for what comes back, no longer than allowed. -/
def fetch (m : Message) (d : Duration) : IO Reply := do
  let start ← IO.monoNanosNow
  let late : Async (Except String Answer) := do
    sleep (.ofNat (d.millis + 1))
    return .error "no answer"
  let result ← (Async.race (exchange m) late).block
  let delay := (← IO.monoNanosNow) - start
  match result with
  | .ok a => return .answer delay a
  | .error words => return .lost delay words

/-- Works out what comes of something that sends messages, one after the other; `report` is given
each entry of the journal that it leaves. -/
partial def converse {α : Type} (report : Entry → IO Unit) (journal : α → Journal)
    (run : Server → α) (replies : List Reply) (reported : Nat) : IO α := do
  let a := run (replaying replies)
  let entries := settled (journal a)
  (entries.drop reported).forM report
  match (journal a).arrived[replies.length]? with
  | some m =>
    let reply ← fetch m (allowed entries)
    converse report journal run (replies ++ [reply]) entries.length
  | none => return a

/-! ## Built-in variables -/

/-- So many characters out of some. -/
def randomText (count : Nat) (characters : String) : IO String := do
  let cs ← (List.range count).mapM fun _ => do
    let i ← IO.rand 0 (characters.length - 1)
    return (characters.toList[i]?).getD '0'
  return String.ofList cs

/-- Fresh values for the built-in variables. -/
def freshBuiltins : IO Builtins := do
  let hex := "0123456789abcdef"
  let random ← randomText 8
    "ABCDEFGHIJKLMNOPQRSTUVWXYZabcdefghijklmnopqrstuvwxyz0123456789"
  let runId := "-".intercalate [← randomText 8 hex, ← randomText 4 hex,
    "4" ++ (← randomText 3 hex), (← randomText 1 "89ab") ++ (← randomText 3 hex),
    ← randomText 12 hex]
  return { random, runId }

/-! ## Running the service -/

/-- Writes an event to the log, if it is to be shown. -/
def log (s : Service) (e : Event) : IO Unit := do
  if s.shows e then IO.eprintln (e.line s.config.logFormat)

/-- Runs a monitor once. -/
def tick (s : Service) (m : Monitor) (now : Nat) : IO Tick := do
  let builtins ← freshBuiltins
  let (report, j) ← converse (fun e => log s e.event) Prod.snd
    (fun server => m.tick s.client server builtins { now }) [] 0
  return ⟨report, [], j.now - now⟩

/-- A run in which nothing happens. -/
def idle : Tick := ⟨⟨{ store := .empty }, { store := .empty }⟩, [], 0⟩

/-- Does what a worker does, each thing at its moment, until the worker is done. -/
partial def work (s : Service) (m : Monitor) (stopping : IO.Ref Bool) (w : Worker) :
    IO Worker := do
  let w := if ← stopping.get then w.signal else w
  match w.nextMoment? with
  | none => return w
  | some moment =>
    let now ← IO.monoNanosNow
    if now < moment then
      IO.sleep (UInt32.ofNat (min 20 ((moment - now) / 1000000 + 1)))
      work s m stopping w
    else
      let t ← match (w.act (fun _ => idle) now).2 with
        | .begin _ => tick s m now
        | _ => pure idle
      let (w, act) := w.act (fun _ => t) now
      (act.entries now).forM fun e => log s e.event
      work s m stopping w

/-- Waits for a signal to end. -/
def awaitSignal : IO Vigil.Signal := do
  let interrupt ← Signal.Waiter.mk .sigint false
  let terminate ← Signal.Waiter.mk .sigterm false
  (Selectable.one #[.case interrupt.selector fun _ => return .interrupt,
    .case terminate.selector fun _ => return .terminate]).block

/-- Runs the monitors until a signal comes. -/
def runUntilSignal (s : Service) : IO UInt32 := do
  let now ← IO.monoNanosNow
  match s.start now with
  | .error reason =>
    IO.eprintln (CommandLine.Ending.failureLine (.unusable reason))
    return 1
  | .ok station =>
    station.lines.forM fun l => log s l.entry.event
    let stopping ← IO.mkRef false
    let watches := station.watches.filterMap id
    let tasks ← watches.mapM fun w =>
      IO.asTask (w.worker.mapM (work s w.monitor stopping)) .dedicated
    log s (.signalReceived (← awaitSignal))
    log s .shuttingDown
    stopping.set true
    for (w, task) in watches.zip tasks do
      let worker ← IO.ofExcept task.get
      ({ w with worker }).stopEvents.forM (log s)
    log s .allStopped
    return 0

/-! ## The command line -/

/-- What keeps a file from being read. The number of an error may come negated. -/
def faultOf (e : IO.Error) : FileFault :=
  match e with
  | .noFileOrDirectory .. => .notFound
  | .inappropriateType _ code _ =>
    if min code (0 - code) = 20 then .notADirectory
    else if min code (0 - code) = 21 then .isADirectory
    else .other (toString e)
  | e => .other (toString e)

/-- The bytes of a file. -/
def contentsOf (path : String) : IO (Except FileFault (List UInt8)) := do
  try return .ok (← IO.FS.readBinFile path).toList
  catch e => return .error (faultOf e)

/-- How the program is called. -/
def usage : String := "Usage: http-monitor [--once] --config <CONFIG>"

/-- What a request says on the terminal, besides what its ending has to say. -/
def announce : Request → IO Unit
  | .help => IO.println usage
  | .version => IO.println "http-monitor 0.1.0"
  | .misuse => IO.eprintln usage
  | .run .. => return

/-- Ends as the library works out, with the replies of the servers that there are. The log is that
of `service`, if that could be loaded from the contents of its file. -/
def conclude (r : Request) (contents : Except FileFault (List UInt8)) (service : Option Service) :
    IO UInt32 := do
  let monitors := (service.map (·.config.monitors)).getD []
  let builtins ← monitors.mapM fun _ => freshBuiltins
  let now ← IO.monoNanosNow
  let e ← converse (fun e => service.forM fun s => log s e.event) CommandLine.Ending.journal
    (fun server => r.ending
      { contents := fun _ => contents, server, builtins := fun k => builtins.getD k default, now })
    [] 0
  e.failure.forM fun f => IO.eprintln (CommandLine.Ending.failureLine f)
  return e.exitCode.toUInt32

/-- Carries out what the arguments ask for. -/
def carryOut (r : Request) : IO UInt32 := do
  announce r
  match r with
  | .run path once =>
    let contents ← contentsOf path
    match once, Service.load path contents with
    | false, .ok s => runUntilSignal s
    | _, service => conclude r contents service.toOption
  | _ => conclude r (.error .notFound) none

end Vigil.Program

/-- Runs the service as the arguments ask for. -/
def main (arguments : List String) : IO UInt32 :=
  Vigil.Program.carryOut (.ofArguments arguments)

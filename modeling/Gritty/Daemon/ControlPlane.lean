import Gritty.Daemon.Dispatch
import Mathlib.Logic.Function.Basic

/-! Control connections with both their ends, from the first frame to the one that the daemon serves. -/

namespace Gritty

/-- The capability to hand on clipboard contents. -/
def capClipboard : UInt32 := 0x01

/-- What a client knows after the handshake. -/
structure HandshakeInfo where
  version : UInt16
  capabilities : UInt32
  serverId : UInt64
  deriving DecidableEq

/-- Why a client goes no further. -/
inductive HandshakeError where
  /-- The connection is gone, or nothing came in time. -/
  | lost
  | rejected (message : String)
  | unexpected (reply : Frame)
  | mismatch (remote : UInt16)
  deriving DecidableEq

/-- What a client makes of the frame that answers its greeting. -/
def handshake : Frame → Except HandshakeError HandshakeInfo
  | .helloAck version capabilities serverId =>
    .ok { version, capabilities := capClipboard &&& capabilities, serverId }
  | .error _ message => .error (.rejected message)
  | other => .error (.unexpected other)

def requireMatchedVersion (info : HandshakeInfo) : Except HandshakeError Unit :=
  if info.version ≠ protocolVersion then .error (.mismatch info.version) else .ok ()

/-- What a client of this build wants of the daemon. -/
structure ControlRequest where
  frame : Frame
  deviceId : UInt64
  /-- A daemon of another version is asked as well. -/
  anyVersion : Bool
  deriving DecidableEq

def ControlRequest.greeting (request : ControlRequest) : Frame :=
  .hello protocolVersion capClipboard request.deviceId

/-- How far a client is. -/
inductive ControlClient where
  | connected
  | greeted
  | acknowledged (info : HandshakeInfo)
  | asked (info : HandshakeInfo)
  | gaveUp (error : HandshakeError)
  deriving DecidableEq

inductive VersionCheck where
  | matched
  | mismatched (clientVersion : UInt16)
  deriving DecidableEq

/-- The version that a client has, as the check of it says. -/
def VersionCheck.version : VersionCheck → UInt16
  | matched => protocolVersion
  | mismatched clientVersion => clientVersion

/-- What is agreed on with a client that names a version and its capabilities. -/
def negotiate (version : UInt16) (capabilities : UInt32) : VersionCheck × UInt32 :=
  if version = protocolVersion then (.matched, capabilities &&& capClipboard)
  else (.mismatched version, 0)

/-- How far the daemon's task for a connection is. -/
inductive ControlTask where
  | awaitsHello
  | awaitsRequest (check : VersionCheck) (negotiated : UInt32) (deviceId : UInt64)
  | handedOn
  | closed
  deriving DecidableEq

/-- The daemon's answer to a greeting. -/
def helloAck (serverId : UInt64) : Frame := .helloAck protocolVersion capClipboard serverId

/-- The daemon's answer to anything else that comes first. -/
def expectedHello : Frame := .error .unexpectedFrame "expected Hello handshake"

/-- The first frame of a connection: how the task goes on, and what it answers. -/
def connectionHandshake (serverId : UInt64) : Frame → ControlTask × Frame
  | .hello version capabilities deviceId =>
    let (check, negotiated) := negotiate version capabilities
    (.awaitsRequest check negotiated deviceId, helloAck serverId)
  | _ => (.closed, expectedHello)

/-- A connection to the control socket. -/
structure ControlConnection where
  /-- Nothing is known of a peer that is not a client of this build. -/
  request : Option ControlRequest
  client : ControlClient
  task : ControlTask
  toDaemon : List Frame
  toClient : List Frame
  /-- All that the peer ever sent, and all that the daemon ever answered. -/
  sent : List Frame
  answers : List Frame
  deriving DecidableEq

namespace ControlConnection

def new (request : Option ControlRequest) : ControlConnection where
  request := request
  client := .connected
  task := .awaitsHello
  toDaemon := []
  toClient := []
  sent := []
  answers := []

def send (conn : ControlConnection) (frame : Frame) : ControlConnection :=
  { conn with toDaemon := conn.toDaemon ++ [frame], sent := conn.sent ++ [frame] }

def answer (conn : ControlConnection) (frames : List Frame) : ControlConnection :=
  { conn with toClient := conn.toClient ++ frames, answers := conn.answers ++ frames }

/-- What a client of this build does next. -/
def clientActs (conn : ControlConnection) : Option ControlConnection :=
  match conn.request with
  | none => none
  | some request =>
    match conn.client with
    | .connected => some { conn.send request.greeting with client := .greeted }
    | .greeted =>
      match conn.toClient with
      | [] => none
      | reply :: later =>
        match handshake reply with
        | .ok info => some { conn with client := .acknowledged info, toClient := later }
        | .error error => some { conn with client := .gaveUp error, toClient := later }
    | .acknowledged info =>
      if request.anyVersion then some { conn.send request.frame with client := .asked info }
      else match requireMatchedVersion info with
        | .ok () => some { conn.send request.frame with client := .asked info }
        | .error error => some { conn with client := .gaveUp error }
    | .asked _ | .gaveUp _ => none

end ControlConnection

/-- A request on its way to the daemon's loop. -/
structure ControlHandover where
  connection : Nat
  frame : Frame
  check : VersionCheck
  negotiated : UInt32
  deviceId : UInt64
  deriving DecidableEq

/-- The connection as the daemon serves it, in given circumstances. -/
def ControlHandover.conn (handover : ControlHandover) (circumstances : ControlConn) : ControlConn :=
  { circumstances with
    connection := handover.connection
    clientVersion := handover.check.version
    capabilities := handover.negotiated
    deviceId := handover.deviceId }

/-- How many handed-on requests may wait. -/
def handoverCapacity : Nat := 64

/-- The daemon with all its control connections. -/
structure ControlPlane where
  daemon : Daemon
  serverId : UInt64
  accepted : Nat
  connections : Nat → Option ControlConnection
  waiting : List ControlHandover
  /-- The requests that were served, with the answers to each. -/
  served : List (ControlHandover × List Frame)

inductive ControlAction where
  | accept (request : Option ControlRequest)
  /-- A peer that is no client of this build sends what it likes. -/
  | peerSends (id : Nat) (frame : Frame)
  | clientActs (id : Nat)
  | clientFails (id : Nat)
  | taskReads (id : Nat)
  /-- A frame did not come in time or cannot be read, or the connection is gone. -/
  | taskFails (id : Nat)
  | serve (circumstances : ControlConn)
  /-- Whatever else happens at the daemon. -/
  | other (action : DaemonAction)

namespace ControlPlane

/-- What becomes of one connection. -/
def update (plane : ControlPlane) (id : Nat)
    (change : ControlConnection → Option ControlConnection) : Option ControlPlane :=
  ((plane.connections id).bind change).map fun conn =>
    { plane with connections := Function.update plane.connections id (some conn) }

/-- The task of a connection takes the next frame that came on it. -/
def taskReads (plane : ControlPlane) (id : Nat) (conn : ControlConnection) : Option ControlPlane :=
  match conn.task, conn.toDaemon with
  | .awaitsHello, frame :: later =>
    let (task, answer) := connectionHandshake plane.serverId frame
    let conn := { conn.answer [answer] with task, toDaemon := later }
    some { plane with connections := Function.update plane.connections id (some conn) }
  | .awaitsRequest check negotiated deviceId, frame :: later =>
    if plane.waiting.length < handoverCapacity then
      some { plane with
        connections := Function.update plane.connections id
          (some { conn with task := .handedOn, toDaemon := later })
        waiting := plane.waiting ++ [{ connection := id, frame, check, negotiated, deviceId }] }
    else none
  | _, _ => none

/-- The daemon serves the request that has waited longest. -/
def serve (plane : ControlPlane) (circumstances : ControlConn) : Option ControlPlane :=
  match plane.waiting with
  | [] => none
  | handover :: later =>
    match plane.connections handover.connection with
    | none => none
    | some conn =>
      if plane.daemon.stopped then none
      else
        let dispatched := plane.daemon.control (handover.conn circumstances) handover.frame
        some { plane with
          daemon := dispatched.daemon
          connections := Function.update plane.connections handover.connection
            (some (conn.answer dispatched.sent))
          waiting := later
          served := plane.served ++ [(handover, dispatched.sent)] }

def step (plane : ControlPlane) : ControlAction → Option ControlPlane
  | .accept request =>
    if plane.daemon.stopped then none
    else some { plane with
      accepted := plane.accepted + 1
      connections := Function.update plane.connections plane.accepted (some (.new request)) }
  | .peerSends id frame =>
    plane.update id fun conn => if conn.request = none then some (conn.send frame) else none
  | .clientActs id => plane.update id ControlConnection.clientActs
  | .clientFails id =>
    plane.update id fun conn =>
      match conn.client with
      | .gaveUp _ => none
      | _ => some { conn with client := .gaveUp .lost }
  | .taskReads id => (plane.connections id).bind (plane.taskReads id)
  | .taskFails id =>
    plane.update id fun conn =>
      match conn.task with
      | .awaitsHello | .awaitsRequest .. => some { conn with task := .closed }
      | .handedOn | .closed => none
  | .serve circumstances => plane.serve circumstances
  | .other action =>
    match action with
    | .control .. => none
    | action => (plane.daemon.step action).map fun daemon => { plane with daemon }

end ControlPlane

/-- A daemon from its start, before anybody has connected. -/
def controlPlane (serverId : UInt64) : Machine ControlPlane ControlAction where
  init := {
    daemon := .new, serverId, accepted := 0, connections := fun _ => none, waiting := [], served := [] }
  step := ControlPlane.step

end Gritty

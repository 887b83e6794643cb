import Mathlib.Logic.Function.Basic
import Obs2Mf.Foundation.Transfer
import Obs2Mf.Pipe.Frame

set_option autoImplicit false

/- The frame server: the owner's Start and Stop, the accept loop, one serving
thread a connection and the publishers, each as a program counter that moves one
observable step at a time. The pipe itself is part of the state: its instances,
the bytes in flight on each and which ends are open. -/
namespace Obs2Mf.Pipe

open Transfer

/-- A frame handed to `Publish`, which reads `hdr.byteLength` bytes behind the pointer. -/
structure Frame where
  hdr : FrameHeader
  payload : List Byte
  sized : payload.length = hdr.byteLength.toNat

/-- The one thread that calls `Start` and `Stop`; the destructor is a `Stop`. -/
inductive OwnerPc where
  | idle
  | poke
  | hangUp (i : Nat)
  | join
  deriving DecidableEq, Repr

inductive AcceptPc where
  | absent
  | test
  | create
  | sleep
  | connect (i : Nat)
  | recheck (i : Nat) (ok : Bool)
  | exited
  deriving DecidableEq, Repr

/-- A thread in `Serve`. The two write stages carry the bytes still to be written;
the lock is held from `copyHdr` to `unlock`. -/
inductive ServePc where
  | absent
  | start
  | request (got : List Byte)
  | lock
  | copyHdr
  | copyPayload (hdr : FrameHeader)
  | unlock (hdr : FrameHeader) (data : List Byte)
  | header (rest data : List Byte)
  | payload (rest : List Byte)
  | flush
  | disconnect
  | close
  | leave
  | finished
  deriving DecidableEq, Repr

inductive PublishPc where
  | idle
  | lock (f : Frame)
  | copyHdr (f : Frame)
  | stampMagic (f : Frame)
  | stampVersion (f : Frame)
  | assign (f : Frame)
  | unlock

/-- Who opened the far end of an instance: a `FramePipeClient`, the poke `Stop`
makes, or any other process. -/
inductive Peer (C : Type) where
  | client (c : C)
  | poke
  | other
  deriving DecidableEq, Repr

/-- A pipe instance, from `CreateNamedPipeW` until its server end is closed. -/
inductive Stage where
  | absent
  | listening
  | connected
  | closed
  deriving DecidableEq, Repr

structure Conn (C : Type) where
  stage : Stage
  peer : Option (Peer C)
  peerOpen : Bool
  toServer : List Byte
  toPeer : List Byte
  serve : ServePc
  deriving DecidableEq, Repr

def Conn.absent {C : Type} : Conn C := ⟨.absent, none, false, [], [], .absent⟩

/-- An instance as `CreateNamedPipeW` leaves it. -/
def Conn.listening {C : Type} : Conn C := { Conn.absent with stage := .listening }

/-- A listening instance is opened from the other side. -/
def Conn.opened {C : Type} (conn : Conn C) (peer : Peer C) : Conn C :=
  { conn with stage := .connected, peer := some peer, peerOpen := true }

/-- The far end is closed, and with it what it had not read yet. -/
def Conn.hungUp {C : Type} (conn : Conn C) : Conn C := { conn with peerOpen := false, toPeer := [] }

/-- The server closes its end: what the peer has not read yet is gone. -/
def Conn.shut {C : Type} (conn : Conn C) : Conn C := { conn with stage := .closed, toPeer := [] }

/-- A fetch in progress: the part of the request still to be written, or what has
been read of the reply. -/
inductive FetchPc where
  | idle
  | request (rest : List Byte)
  | header (got : List Byte)
  | payload (hdr : FrameHeader) (got : List Byte)
  deriving DecidableEq, Repr

/-- What one `Fetch` that returned true handed over. `since` counts the `Publish`
calls that had returned when its request was written. -/
structure Delivery where
  hdr : FrameHeader
  payload : List Byte
  since : Nat
  deriving DecidableEq, Repr

/-- A `FramePipeClient`: its handle, where its current `Fetch` stands, and the
history of the fetches that returned true. -/
structure Client where
  pipe : Option Nat
  pc : FetchPc
  since : Nat
  log : List Delivery
  deriving DecidableEq, Repr

/-- Who holds the server's mutex. -/
inductive Holder (P : Type) where
  | publisher (p : P)
  | server (i : Nat)
  deriving DecidableEq, Repr

/-- The frame server with its publishers `P` and its clients `C`. `published` and
`completed` are history: the frames in the order their `Publish` calls took the
lock, and how many of those calls have returned. -/
structure State (P C : Type) where
  running : Bool
  owner : OwnerPc
  accept : AcceptPc
  clientCount : Int
  mtx : Option (Holder P)
  hdr : FrameHeader
  payload : List Byte
  created : Nat
  conns : Nat → Conn C
  publishers : P → PublishPc
  clients : C → Client
  published : List Frame
  completed : Nat

def State.initial (P C : Type) : State P C where
  running := false
  owner := .idle
  accept := .absent
  clientCount := 0
  mtx := none
  hdr := .zero
  payload := []
  created := 0
  conns := fun _ => .absent
  publishers := fun _ => .idle
  clients := fun _ => ⟨none, .idle, 0, []⟩
  published := []
  completed := 0

variable {P C : Type}

def State.setConn (s : State P C) (i : Nat) (conn : Conn C) : State P C :=
  { s with conns := Function.update s.conns i conn }

section Updates

variable (s : State P C) (i j : Nat) (conn : Conn C)

@[simp] theorem setConn_running : (s.setConn i conn).running = s.running := rfl
@[simp] theorem setConn_owner : (s.setConn i conn).owner = s.owner := rfl
@[simp] theorem setConn_accept : (s.setConn i conn).accept = s.accept := rfl
@[simp] theorem setConn_clientCount : (s.setConn i conn).clientCount = s.clientCount := rfl
@[simp] theorem setConn_mtx : (s.setConn i conn).mtx = s.mtx := rfl
@[simp] theorem setConn_hdr : (s.setConn i conn).hdr = s.hdr := rfl
@[simp] theorem setConn_payload : (s.setConn i conn).payload = s.payload := rfl
@[simp] theorem setConn_created : (s.setConn i conn).created = s.created := rfl
@[simp] theorem setConn_publishers : (s.setConn i conn).publishers = s.publishers := rfl
@[simp] theorem setConn_clients : (s.setConn i conn).clients = s.clients := rfl
@[simp] theorem setConn_published : (s.setConn i conn).published = s.published := rfl
@[simp] theorem setConn_completed : (s.setConn i conn).completed = s.completed := rfl

@[simp] theorem setConn_same : (s.setConn i conn).conns i = conn := by
  simp only [State.setConn, Function.update_self]

theorem setConn_other (other : j ≠ i) : (s.setConn i conn).conns j = s.conns j := by
  simp only [State.setConn, Function.update_of_ne other]

end Updates

/-- The steps of `Start` and `Stop`. A poke names the instance that `CreateFileW`
opened, or none when it failed. -/
inductive OwnerAction where
  | start
  | stop
  | poke (opened : Option Nat)
  | hangUp
  | join
  deriving DecidableEq, Repr

def ownerStep (s : State P C) : OwnerAction → Option (State P C)
  | .start =>
      if s.owner = .idle then
        if s.running then some s
        else some { s with running := true, accept := .test }
      else none
  | .stop =>
      if s.owner = .idle then
        if s.running then some { s with running := false, owner := .poke } else some s
      else none
  | .poke none =>
      if s.owner = .poke then some { s with owner := .join } else none
  | .poke (some i) =>
      -- Only a listening instance can be opened.
      if s.owner = .poke ∧ (s.conns i).stage = .listening then
        some { s.setConn i ((s.conns i).opened .poke) with owner := .hangUp i }
      else none
  | .hangUp =>
      match s.owner with
      | .hangUp i =>
          some { s.setConn i (s.conns i).hungUp with owner := .join }
      | _ => none
  | .join =>
      if s.owner = .join ∧ s.accept = .exited then
        some { s with owner := .idle, accept := .absent }
      else none

/-- The steps of `AcceptLoop`; `ok` says how the call the step makes comes out. -/
inductive AcceptAction where
  | test
  | create (ok : Bool)
  | wake
  | connected (ok : Bool)
  | recheck
  deriving DecidableEq, Repr

def acceptStep (s : State P C) : AcceptAction → Option (State P C)
  | .test =>
      if s.accept = .test then
        some { s with accept := if s.running then .create else .exited }
      else none
  | .create ok =>
      if s.accept = .create then
        if ok then
          some { s.setConn s.created .listening
            with created := s.created + 1, accept := .connect s.created }
        else some { s with accept := .sleep }
      else none
  | .wake => if s.accept = .sleep then some { s with accept := .test } else none
  | .connected ok =>
      match s.accept with
      | .connect i =>
          -- The call may fail at any time; it succeeds only once a peer is there.
          if ok = false ∨ (s.conns i).stage = .connected then
            some { s with accept := .recheck i ok }
          else none
      | _ => none
  | .recheck =>
      match s.accept with
      | .recheck i ok =>
          if s.running = false then
            some { s.setConn i (s.conns i).shut with accept := .exited }
          else if ok = false then
            some { s.setConn i (s.conns i).shut with accept := .test }
          else some { s.setConn i { s.conns i with serve := .start } with accept := .test }
      | _ => none

/-- The steps of `Serve`; a read or write carries how its call comes out. -/
inductive ServeAction where
  | enter
  | read (call : Call)
  | lock
  | copyHdr
  | copyPayload
  | unlock
  | write (call : Call)
  | flush
  | disconnect
  | close
  | leave
  deriving DecidableEq, Repr

/-- Where a serving thread goes once a request word is complete. -/
def afterRequest (got : List Byte) : ServePc :=
  if got.length < 4 then .request got
  else if requestWord got = kRequestMagic then .lock else .flush

/-- `if (!data.empty() && !WriteExact(..))`: an empty payload is not written. -/
def afterHeader (rest data : List Byte) : ServePc :=
  if rest ≠ [] then .header rest data
  else if data ≠ [] then .payload data else .request []

def afterPayload (rest : List Byte) : ServePc :=
  if rest ≠ [] then .payload rest else .request []

/-- What one step does to the thread's own connection; `hdr` and `payload` are the slot. -/
def Conn.step (hdr : FrameHeader) (payload : List Byte) (conn : Conn C) :
    ServeAction → Option (Conn C)
  | .enter => if conn.serve = .start then some { conn with serve := .request [] } else none
  | .read call =>
      match conn.serve with
      | .request got =>
          if call = .failed then some { conn with serve := .flush }
          else
            let count := call.amount (4 - got.length) conn.toServer.length
            if count = 0 then none
            else some { conn with
              toServer := conn.toServer.drop count
              serve := afterRequest (got ++ conn.toServer.take count) }
      | _ => none
  | .lock => if conn.serve = .lock then some { conn with serve := .copyHdr } else none
  | .copyHdr =>
      if conn.serve = .copyHdr then some { conn with serve := .copyPayload hdr } else none
  | .copyPayload =>
      match conn.serve with
      | .copyPayload hdr => some { conn with serve := .unlock hdr payload }
      | _ => none
  | .unlock =>
      match conn.serve with
      | .unlock hdr data =>
          let hdr := { hdr with byteLength := .ofNat 32 data.length }
          some { conn with serve := .header hdr.encode data }
      | _ => none
  | .write call =>
      match conn.serve with
      | .header rest data =>
          if call = .failed then some { conn with serve := .flush }
          else
            let count := call.amount rest.length rest.length
            if count = 0 ∨ conn.peerOpen = false then none
            else some { conn with
              toPeer := conn.toPeer ++ rest.take count
              serve := afterHeader (rest.drop count) data }
      | .payload rest =>
          if call = .failed then some { conn with serve := .flush }
          else
            let count := call.amount rest.length rest.length
            if count = 0 ∨ conn.peerOpen = false then none
            else some { conn with
              toPeer := conn.toPeer ++ rest.take count
              serve := afterPayload (rest.drop count) }
      | _ => none
  | .flush =>
      -- `FlushFileBuffers` waits until the client has read everything, or has left.
      if conn.serve = .flush ∧ (conn.toPeer = [] ∨ conn.peerOpen = false) then
        some { conn with serve := .disconnect }
      else none
  | .disconnect =>
      if conn.serve = .disconnect then some { conn.shut with serve := .close } else none
  | .close => if conn.serve = .close then some { conn with serve := .leave } else none
  | .leave => if conn.serve = .leave then some { conn with serve := .finished } else none

/-- What the step does to the server's mutex and client counter. -/
def serveShared (s : State P C) (i : Nat) : ServeAction → State P C
  | .enter => { s with clientCount := s.clientCount + 1 }
  | .lock => { s with mtx := some (.server i) }
  | .unlock => { s with mtx := none }
  | .leave => { s with clientCount := s.clientCount - 1 }
  | _ => s

section Shared

variable (s : State P C) (i : Nat) (a : ServeAction)

@[simp] theorem serveShared_running : (serveShared s i a).running = s.running := by cases a <;> rfl
@[simp] theorem serveShared_owner : (serveShared s i a).owner = s.owner := by cases a <;> rfl
@[simp] theorem serveShared_accept : (serveShared s i a).accept = s.accept := by cases a <;> rfl
@[simp] theorem serveShared_hdr : (serveShared s i a).hdr = s.hdr := by cases a <;> rfl
@[simp] theorem serveShared_payload : (serveShared s i a).payload = s.payload := by cases a <;> rfl
@[simp] theorem serveShared_created : (serveShared s i a).created = s.created := by cases a <;> rfl
@[simp] theorem serveShared_conns : (serveShared s i a).conns = s.conns := by cases a <;> rfl
@[simp] theorem serveShared_publishers : (serveShared s i a).publishers = s.publishers := by
  cases a <;> rfl
@[simp] theorem serveShared_clients : (serveShared s i a).clients = s.clients := by cases a <;> rfl
@[simp] theorem serveShared_published : (serveShared s i a).published = s.published := by
  cases a <;> rfl
@[simp] theorem serveShared_completed : (serveShared s i a).completed = s.completed := by
  cases a <;> rfl

end Shared

def serveStep (s : State P C) (i : Nat) (a : ServeAction) : Option (State P C) :=
  if a = .lock ∧ s.mtx.isSome then none
  else ((s.conns i).step s.hdr s.payload a).map fun conn => (serveShared s i a).setConn i conn

inductive PublishAction where
  | call (f : Frame)
  | lock
  | copyHdr
  | stampMagic
  | stampVersion
  | assign
  | unlock

def publishStep [DecidableEq P] (s : State P C) (p : P) : PublishAction → Option (State P C)
  | .call f =>
      match s.publishers p with
      | .idle => some { s with publishers := Function.update s.publishers p (.lock f) }
      | _ => none
  | .lock =>
      match s.publishers p with
      | .lock f =>
          if s.mtx = none then
            some { s with
              mtx := some (.publisher p)
              publishers := Function.update s.publishers p (.copyHdr f)
              published := s.published ++ [f] }
          else none
      | _ => none
  | .copyHdr =>
      match s.publishers p with
      | .copyHdr f =>
          some { s with
            hdr := f.hdr
            publishers := Function.update s.publishers p (.stampMagic f) }
      | _ => none
  | .stampMagic =>
      match s.publishers p with
      | .stampMagic f =>
          some { s with
            hdr := { s.hdr with magic := kFrameMagic }
            publishers := Function.update s.publishers p (.stampVersion f) }
      | _ => none
  | .stampVersion =>
      match s.publishers p with
      | .stampVersion f =>
          some { s with
            hdr := { s.hdr with version := kProtoVersion }
            publishers := Function.update s.publishers p (.assign f) }
      | _ => none
  | .assign =>
      match s.publishers p with
      | .assign f =>
          some { s with
            payload := f.payload
            publishers := Function.update s.publishers p .unlock }
      | _ => none
  | .unlock =>
      match s.publishers p with
      | .unlock =>
          some { s with
            mtx := none
            publishers := Function.update s.publishers p .idle
            completed := s.completed + 1 }
      | _ => none

end Obs2Mf.Pipe

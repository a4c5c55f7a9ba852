import XenNet.KernelScan
import XenNet.NetbackInterface

/-!
The xenbus side of the backend: what it reads in the store about the frontend and the interface,
how it connects, the states that it goes through, and how it is probed and removed. The patch for
3.13 shows the whole of `xenbus.c`. The store answers every read, so nothing is assumed about
what the frontend or the tools write there.
-/

namespace XenNet.NetbackXenbus

open XenNet.KernelScan
open XenNet.NetbackInterface

/-- A negative error. -/
structure Errno where
  err : Int
  neg : err < 0
  deriving Repr, DecidableEq

def enoent : Errno := ⟨-2, by decide⟩
def erange : Errno := ⟨-34, by decide⟩
def einval : Errno := ⟨-22, by decide⟩
def eopnotsupp : Errno := ⟨-95, by decide⟩
def eagain : Errno := ⟨-11, by decide⟩

/-- What `xenbus_read` answers for a node of a directory. -/
abbrev Xenstore := String → String → Except Errno (List Char)

def xenbusScanf (scan : List Char → Option UInt64) (store : Xenstore) (dir node : String) :
    Except Errno UInt64 :=
  match store dir node with
  | .error e => .error e
  | .ok text =>
      match scan text with
      | some value => .ok value
      | none => .error erange

/-- `xenbus_gather` for two nodes: a value that was read stays read when the other cannot be. -/
def xenbusGather (scan : List Char → Option UInt64) (store : Xenstore) (dir first second : String)
    (old : UInt64 × UInt64) : Option Errno × UInt64 × UInt64 :=
  let read (node : String) : Except Errno UInt64 :=
    match store dir node with
    | .error e => .error e
    | .ok text => (scan text).elim (.error einval) .ok
  match read first with
  | .error e => (some e, old)
  | .ok a =>
      match read second with
      | .error e => (some e, a, old.2)
      | .ok b => (none, a, b)

/-- A flag that is read with `%d` and is off when it cannot be read. -/
def readFlag (store : Xenstore) (dir node : String) : Bool :=
  match xenbusScanf (scanS 10) store dir node with
  | .error _ => false
  | .ok value => value.toUInt32 != 0

def ethAlen : Nat := 6

/-- The loop of `xen_net_read_mac`: bytes that were read stay in the address after an error. -/
def readMacLoop (mac : List UInt8) (i : Nat) (s : List Char) : Nat → Option Errno × List UInt8
  | 0 => (none, mac)
  | left + 1 =>
      let (value, e) := simpleStrtoul 16 s
      let mac := mac.set i value.toUInt8
      if e.length = s.length ∨ e.head? ≠ (if i = ethAlen - 1 then none else some ':') then
        (some enoent, mac)
      else readMacLoop mac (i + 1) (e.drop 1) left

def xenNetReadMac (store : Xenstore) (nodename : String) (mac : List UInt8) :
    Option Errno × List UInt8 :=
  match store nodename "mac" with
  | .error e => (some e, mac)
  | .ok macstr => readMacLoop mac 0 macstr ethAlen

/-- Bandwidth is not limited. -/
def unlimited : UInt64 × UInt64 := (~~~0, 0)

/-- `xen_net_read_rate`: the bytes and the microseconds. -/
def xenNetReadRate (store : Xenstore) (nodename : String) : UInt64 × UInt64 :=
  match store nodename "rate" with
  | .error _ => unlimited
  | .ok ratestr =>
      let (b, e) := simpleStrtoul 10 ratestr
      if e.length = ratestr.length ∨ e.head? ≠ some ',' then unlimited
      else
        let s := e.drop 1
        let (u, e) := simpleStrtoul 10 s
        if e.length = s.length ∨ e.head? ≠ none then unlimited else (b, u)

/-- `enum xenbus_state` -/
inductive XenbusState where
  | unknown
  | initialising
  | initWait
  | initialised
  | connected
  | closing
  | closed
  | reconfiguring
  | reconfigured
  deriving Repr, DecidableEq

def XenbusState.ofInt : Int → Option XenbusState
  | 0 => some .unknown
  | 1 => some .initialising
  | 2 => some .initWait
  | 3 => some .initialised
  | 4 => some .connected
  | 5 => some .closing
  | 6 => some .closed
  | 7 => some .reconfiguring
  | 8 => some .reconfigured
  | _ => none

structure XenbusDevice where
  nodename : String
  otherend : String
  otherendId : UInt16
  deriving Repr, DecidableEq

/-- `struct backend_info`, with the kernel around it, the state that the xenbus was last asked to
show, the errors that were reported, the last one first, and the states that
`backend_switch_state` logged. -/
structure Backend where
  dev : XenbusDevice
  kernel : Kernel
  vif : Option Xenvif
  state : XenbusState
  haveHotplugStatusWatch : Bool
  shown : XenbusState
  fatals : List (Int × String)
  log : List XenbusState

/-- `xenbus_switch_state` -/
def xenbusSwitchState (be : Backend) (state : XenbusState) : Backend :=
  { be with shown := state }

/-- `xenbus_dev_fatal`, which reports the error and shows the state `Closing`. -/
def xenbusDevFatal (be : Backend) (err : Int) (message : String) : Backend :=
  xenbusSwitchState { be with fatals := (err, message) :: be.fatals } .closing

def unregisterHotplugStatusWatch (be : Backend) : Backend :=
  { be with haveHotplugStatusWatch := false }

/-- What is answered while the backend handles a change: the store, what the stack holds in the
variables of the ring references, `xenvif_connect`'s answers, and `xenbus_watch_pathfmt`'s. -/
structure ConnectCall where
  store : Xenstore
  stack : UInt64 × UInt64
  connect : ConnectAnswers
  watch : Option Errno

/-- The event channels of the frontend: split ones if it has them. -/
def readEvtchns (store : Xenstore) (otherend : String) : Except Errno (UInt32 × UInt32) :=
  match xenbusGather (scanU 10) store otherend "event-channel-tx" "event-channel-rx" (0, 0) with
  | (none, tx, rx) => .ok (tx.toUInt32, rx.toUInt32)
  | (some _, _) =>
      match xenbusScanf (scanU 10) store otherend "event-channel" with
      | .ok tx => .ok (tx.toUInt32, tx.toUInt32)
      | .error e => .error e

def intersects (a b : GsoMask) : Bool :=
  a.tcpv4 && b.tcpv4 || a.tcpv6 && b.tcpv6

/-- The queue of a frontend that does not tell when it takes packets holds one packet. -/
def readQueue (store : Xenstore) (otherend : String) (vif : Xenvif) : Xenvif :=
  if vif.dev.txQueueLen ≠ 0 then
    if readFlag store otherend "feature-rx-notify" then { vif with canQueue := true }
    else { vif with dev := { vif.dev with txQueueLen := 1 } }
  else vif

/-- The features that `connect_rings` reads up to its check of them. -/
def readGso (store : Xenstore) (otherend : String) (vif : Xenvif) : Xenvif :=
  let flag := readFlag store otherend
  { vif with
    canSg := flag "feature-sg"
    gsoMask := ⟨flag "feature-gso-tcpv4", flag "feature-gso-tcpv6"⟩
    gsoPrefixMask := ⟨flag "feature-gso-tcpv4-prefix", flag "feature-gso-tcpv6-prefix"⟩ }

def readCsum (store : Xenstore) (otherend : String) (vif : Xenvif) : Xenvif :=
  { vif with
    ipCsum := !readFlag store otherend "feature-no-csum-offload"
    ipv6Csum := readFlag store otherend "feature-ipv6-csum-offload" }

/-- `request-rx-copy`, which is off when the node is missing. -/
def readRxCopy (store : Xenstore) (otherend : String) : Except Errno Bool :=
  match xenbusScanf (scanU 10) store otherend "request-rx-copy" with
  | .ok value => .ok (value.toUInt32 != 0)
  | .error e => if e = enoent then .ok false else .error e

/-- The part of `connect_rings` that netmap mode skips: the vif with its features, whether an
error is reported, and the error. The check of the masks reports what the last read returned. -/
def readFeatures (store : Xenstore) (otherend : String) (vif : Xenvif) :
    Xenvif × Option (Option (Int × String) × Int) :=
  match readRxCopy store otherend with
  | .error e =>
      (vif, some (some (e.err, "reading " ++ otherend ++ "/request-rx-copy"), e.err))
  | .ok false => (vif, some (none, eopnotsupp.err))
  | .ok true =>
      let vif := readGso store otherend (readQueue store otherend vif)
      if intersects vif.gsoMask vif.gsoPrefixMask then
        (vif, some (some (1, otherend ++ ": gso and gso prefix flags are not mutually exclusive"),
          eopnotsupp.err))
      else (readCsum store otherend vif, none)

def withVif (be : Backend) (vif : Xenvif) : Backend :=
  { be with vif := some vif }

def withInterface (be : Backend) (s : Interface) : Backend :=
  { be with kernel := s.kernel, vif := some s.vif }

def report (be : Backend) : Option (Int × String) → Backend
  | some (err, message) => xenbusDevFatal be err message
  | none => be

/-- What `connect_rings` calls `xenvif_connect` with. -/
structure RingSetup where
  vif : Xenvif
  refs : UInt64 × UInt64
  evtchns : UInt32 × UInt32

/-- `connect_rings` up to its call of `xenvif_connect`: the vif that it leaves, an error that it
reports, and the value that it returns, when it does not get there. In netmap mode it goes on
without the ring references and skips the features. -/
def prepareRings (dev : XenbusDevice) (vif : Xenvif) (call : ConnectCall) :
    Except (Xenvif × Option (Int × String) × Int) RingSetup :=
  let vif := { vif with netmap := readFlag call.store dev.nodename "feature-netmap" }
  match xenbusGather (scanU 10) call.store dev.otherend "tx-ring-ref" "rx-ring-ref" call.stack with
  | (err, refs) =>
      match vif.netmap, err with
      | false, some e =>
          .error (vif, some (e.err, "reading " ++ dev.otherend ++ "/ring-ref"), e.err)
      | _, _ =>
          match readEvtchns call.store dev.otherend with
          | .error e =>
              .error (vif,
                some (e.err, "reading " ++ dev.otherend ++ "/event-channel(-tx/rx)"), e.err)
          | .ok evtchns =>
              if vif.netmap then .ok ⟨vif, refs, evtchns⟩
              else
                match readFeatures call.store dev.otherend vif with
                | (vif, some (fatal, err)) => .error (vif, fatal, err)
                | (vif, none) => .ok ⟨vif, refs, evtchns⟩

def sharedFramesMessage (setup : RingSetup) : String :=
  "mapping shared-frames " ++ toString setup.refs.1 ++ "/" ++ toString setup.refs.2 ++
    " port tx " ++ toString setup.evtchns.1 ++ " rx " ++ toString setup.evtchns.2

/-- `connect_rings`, with the value that it returns. -/
def connectRings (be : Backend) (vif : Xenvif) (call : ConnectCall) :
    Except Fault (Backend × Int) :=
  match prepareRings be.dev vif call with
  | .error (vif, fatal, err) => .ok (report (withVif be vif) fatal, err)
  | .ok setup =>
      match xenvifConnect ⟨be.kernel, setup.vif⟩ setup.evtchns.1 setup.evtchns.2 call.connect with
      | .error fault => .error fault
      | .ok (s, ret) =>
          let be := withInterface be s
          if ret ≠ 0 then .ok (xenbusDevFatal be ret (sharedFramesMessage setup), ret)
          else .ok (be, 0)

/-- `xenbus_watch_pathfmt` on `hotplug-status`; it reports its own errors. -/
def watchHotplugStatus (be : Backend) (watch : Option Errno) : Backend :=
  match watch with
  | none => { be with haveHotplugStatusWatch := true }
  | some e =>
      xenbusDevFatal be e.err ("adding watch on " ++ be.dev.nodename ++ "/hotplug-status")

/-- `connect` -/
def connect (be : Backend) (vif : Xenvif) (call : ConnectCall) : Except Fault Backend :=
  match connectRings be vif call with
  | .error fault => .error fault
  | .ok (be, err) =>
      if err ≠ 0 then .ok be
      else
        match be.vif with
        | none => .ok be
        | some vif =>
            match xenNetReadMac call.store be.dev.nodename vif.feDevAddr with
            | (some e, mac) =>
                .ok (xenbusDevFatal (withVif be { vif with feDevAddr := mac }) e.err
                  ("parsing " ++ be.dev.nodename ++ "/mac"))
            | (none, mac) =>
                let (bytes, usec) := xenNetReadRate call.store be.dev.nodename
                let vif :=
                  { vif with
                    feDevAddr := mac
                    creditBytes := bytes
                    creditUsec := usec
                    remainingCredit := bytes }
                .ok (watchHotplugStatus (unregisterHotplugStatusWatch (withVif be vif)) call.watch)

def backendDisconnect (be : Backend) : Backend :=
  match be.vif with
  | some vif => withInterface be (xenvifDisconnect ⟨be.kernel, vif⟩)
  | none => be

def backendConnect (be : Backend) (call : ConnectCall) : Except Fault Backend :=
  match be.vif with
  | some vif => connect be vif call
  | none => .ok be

/-- `backend_switch_state`: the change is deferred while a hotplug script is waited for. -/
def backendSwitchState (be : Backend) (state : XenbusState) : Backend :=
  let be := { be with state := state, log := be.log ++ [state] }
  if be.haveHotplugStatusWatch then be else xenbusSwitchState be state

/-- One round of the loop of `set_backend_state`. -/
def backendRound (be : Backend) (state : XenbusState) (call : ConnectCall) :
    Except Fault Backend :=
  match be.state, state with
  | .closed, .initWait => .ok (backendSwitchState be .initWait)
  | .closed, .connected => .ok (backendSwitchState be .initWait)
  | .closed, .closing => .ok (backendSwitchState be .closing)
  | .initWait, .connected =>
      match backendConnect be call with
      | .error fault => .error fault
      | .ok be => .ok (backendSwitchState be .connected)
  | .initWait, .closing => .ok (backendSwitchState be .closing)
  | .initWait, .closed => .ok (backendSwitchState be .closing)
  | .connected, .initWait => .ok (backendSwitchState (backendDisconnect be) .closing)
  | .connected, .closing => .ok (backendSwitchState (backendDisconnect be) .closing)
  | .connected, .closed => .ok (backendSwitchState (backendDisconnect be) .closing)
  | .closing, .initWait => .ok (backendSwitchState be .closed)
  | .closing, .connected => .ok (backendSwitchState be .closed)
  | .closing, .closed => .ok (backendSwitchState be .closed)
  | _, _ => .error .bug

/-- The loop of `set_backend_state`, for `fuel` rounds at most. -/
def backendLoop (state : XenbusState) (call : ConnectCall) : Nat → Backend → Except Fault Backend
  | 0, be => if be.state = state then .ok be else .error .outOfFuel
  | fuel + 1, be =>
      if be.state = state then .ok be
      else
        match backendRound be state call with
        | .error fault => .error fault
        | .ok be => backendLoop state call fuel be

/-- No state is further than three rounds away. -/
def maxRounds : Nat := 3

def setBackendState (be : Backend) (state : XenbusState) (call : ConnectCall) :
    Except Fault Backend :=
  backendLoop state call maxRounds be

/-- What becomes of a device: a backend is bound to it, it has none, or the kernel has stopped. -/
inductive System where
  | bound (be : Backend)
  | free (kernel : Kernel)
  | halted (fault : Fault)

/-- `netback_remove` -/
def netbackRemove (be : Backend) (call : ConnectCall) : System :=
  match setBackendState be .closed call with
  | .error fault => .halted fault
  | .ok be =>
      let be := unregisterHotplugStatusWatch be
      match be.vif with
      | some vif => .free (xenvifFree ⟨be.kernel, vif⟩)
      | none => .free be.kernel

/-- The nodes that a probe writes in one transaction, in this order. -/
def probeFeatures : List (String × String) :=
  [("feature-netmap", "0"), ("feature-sg", "1"), ("feature-gso-tcpv4", "1"),
    ("feature-gso-tcpv6", "1"), ("feature-ipv6-csum-offload", "1"), ("feature-rx-copy", "1"),
    ("feature-rx-flip", "0")]

/-- What is answered in one attempt of the transaction: at its start, to the writes, and at its
end. -/
structure Attempt where
  start : Int
  printf : String → Int
  finish : Int

/-- The attempts of the transaction: the nodes that they leave in the store, and the error with
its message. There is no result as long as the transaction has to be tried again. -/
def probeTransaction : List Attempt → Option (List (String × String) × Option (Int × String))
  | [] => none
  | attempt :: attempts =>
      if attempt.start ≠ 0 then some ([], some (attempt.start, "starting transaction"))
      else
        match probeFeatures.find? fun node => attempt.printf node.1 != 0 with
        | some node => some ([], some (attempt.printf node.1, "writing " ++ node.1))
        | none =>
            if attempt.finish = eagain.err then probeTransaction attempts
            else if attempt.finish ≠ 0 then
              some ([], some (attempt.finish, "completing transaction"))
            else some (probeFeatures, none)

/-- What is answered to a probe: whether there is memory for the backend, the attempts of the
transaction, what the write of the optional feature and the first change of the state return, the
store, and what `xenvif_alloc` gets. -/
structure ProbeCall where
  kzalloc : Bool
  attempts : List Attempt
  splitPrintf : Int
  switchState : Int
  store : Xenstore
  alloc : AllocAnswers

/-- `backend_create_xenvif`: the handle is a `long` and becomes an `unsigned int`. -/
def backendCreateXenvif (be : Backend) (store : Xenstore) (alloc : AllocAnswers) : Backend :=
  match xenbusScanf (scanS 0) store be.dev.nodename "handle" with
  | .error e => xenbusDevFatal be e.err "reading handle"
  | .ok handle =>
      match xenvifAlloc be.kernel be.dev.otherendId handle.toUInt32 alloc with
      | (kernel, .ok vif) => { be with kernel := kernel, vif := some vif }
      | (kernel, .error err) => xenbusDevFatal { be with kernel := kernel } err "creating interface"

/-- `struct backend_info` as `kzalloc` leaves it. -/
def newBackend (dev : XenbusDevice) (kernel : Kernel) : Backend where
  dev := dev
  kernel := kernel
  vif := none
  state := .unknown
  haveHotplugStatusWatch := false
  shown := .initialising
  fatals := []
  log := []

/-- What a probe leaves: the device, the nodes that it wrote, and the value that it returns. -/
structure ProbeResult where
  system : System
  nodes : List (String × String)
  ret : Int

/-- `netback_probe`. A failed probe removes the backend. -/
def netbackProbe (dev : XenbusDevice) (kernel : Kernel) (separateTxRxIrq : Bool)
    (call : ProbeCall) (remove : ConnectCall) : Option ProbeResult :=
  if !call.kzalloc then some ⟨.free kernel, [], enomem⟩
  else
    let be := newBackend dev kernel
    match probeTransaction call.attempts with
    | none => none
    | some (nodes, some (err, message)) =>
        some ⟨netbackRemove (xenbusDevFatal be err message) remove, nodes, err⟩
    | some (nodes, none) =>
        let nodes :=
          if call.splitPrintf = 0 then
            nodes ++ [("feature-split-event-channels", if separateTxRxIrq then "1" else "0")]
          else nodes
        if call.switchState ≠ 0 then some ⟨netbackRemove be remove, nodes, call.switchState⟩
        else
          let be := { xenbusSwitchState be .initWait with state := .initWait }
          some ⟨.bound (backendCreateXenvif be call.store call.alloc), nodes, 0⟩

/-- The state is settled and `next` is done. -/
def settleThen (be : Backend) (state : XenbusState) (call : ConnectCall)
    (next : Backend → System) : System :=
  match setBackendState be state call with
  | .error fault => .halted fault
  | .ok be => next be

/-- The end of `frontend_changed` for a frontend that is gone: unregistering the device removes
the backend. -/
def frontendGone (be : Backend) (call : ConnectCall) : System :=
  settleThen be .closed call fun be => netbackRemove be call

/-- `frontend_changed`, for what the store says the frontend's state is and whether the device is
online. -/
def frontendChanged (be : Backend) (frontendState : Int) (online : Bool) (call : ConnectCall) :
    System :=
  match XenbusState.ofInt frontendState with
  | some .initialising => settleThen be .initWait call .bound
  | some .initialised => .bound be
  | some .connected => settleThen be .connected call .bound
  | some .closing => settleThen be .closing call .bound
  | some .closed =>
      settleThen be .closed call fun be => if online then .bound be else frontendGone be call
  | some .unknown => frontendGone be call
  | _ =>
      .bound
        (xenbusDevFatal be einval.err ("saw state " ++ toString frontendState ++ " at frontend"))

/-- `hotplug_status_changed`, for what `hotplug-status` says. -/
def hotplugStatusChanged (be : Backend) (status : Except Errno (List Char)) : Backend :=
  match status with
  | .error _ => be
  | .ok text =>
      if text = "connected".toList then
        unregisterHotplugStatusWatch (xenbusSwitchState be be.state)
      else be

end XenNet.NetbackXenbus

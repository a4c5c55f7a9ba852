import XenNet.InterruptLines
import XenNet.NetbackConnect
import XenNet.NumberedName

/-!
The network device of a backend: how an interface is allocated, connected to its frontend,
brought up and down, disconnected and freed, and what it holds of the kernel meanwhile
(interrupt lines, a thread, references on the module). The patch for 3.13 shows the whole of
`interface.c`; with the netmap hunks one function brings an interface up in either mode.
-/

namespace XenNet.NetbackInterface

open XenNet.InterruptLines
open XenNet.NetbackConnect (HandlerFn BindAnswer KthreadAnswer)
open XenNet.NumberedName

def ethDataLen : Nat := 1500
def vlanEthHlen : Nat := 18
def xenvifQueueLength : Nat := 32
def ifnamsiz : Nat := 16

inductive ThreadFn where
  | xenvifKthread
  | xenvifNetmapKthread
  deriving Repr, DecidableEq

/-- The offloads that `xenvif_fix_features` decides on. -/
structure Features where
  sg : Bool
  tso : Bool
  tso6 : Bool
  ipCsum : Bool
  ipv6Csum : Bool
  deriving Repr, DecidableEq

/-- `GSO_BIT(TCPV4)` and `GSO_BIT(TCPV6)` of a mask. -/
structure GsoMask where
  tcpv4 : Bool
  tcpv6 : Bool
  deriving Repr, DecidableEq

structure NetDevice where
  name : List Char
  running : Bool
  carrierOk : Bool
  mtu : Nat
  txQueueLen : Nat
  features : Features
  deriving Repr, DecidableEq

/-- `struct xenvif`, and whether its rings are mapped. -/
structure Xenvif where
  domid : UInt16
  handle : UInt32
  dev : NetDevice
  netmap : Bool
  napiEnabled : Bool
  nkrStopped : Bool
  txIrq : Nat
  rxIrq : Nat
  task : Option ThreadFn
  ringsMapped : Bool
  canSg : Bool
  canQueue : Bool
  gsoMask : GsoMask
  gsoPrefixMask : GsoMask
  ipCsum : Bool
  ipv6Csum : Bool
  feDevAddr : List UInt8
  creditBytes : UInt64
  creditUsec : UInt64
  remainingCredit : UInt64
  deriving Repr, DecidableEq

/-- What the backend holds of the kernel, and how often it asked for something that makes no
sense for the line or the poller that it named. -/
structure Kernel where
  lines : Lines HandlerFn
  threads : List ThreadFn
  moduleRefs : Int
  copyOps : Int
  misuses : Nat

/-- An interface and the kernel around it. -/
structure Interface where
  kernel : Kernel
  vif : Xenvif

def Kernel.request (kernel : Kernel) (answer : Option (Lines HandlerFn)) : Kernel :=
  match answer with
  | some lines => { kernel with lines := lines }
  | none => { kernel with misuses := kernel.misuses + 1 }

def Kernel.bind (kernel : Kernel) (irq : Nat) (fn : HandlerFn) : Kernel :=
  kernel.request (InterruptLines.bind kernel.lines irq fn)

def Kernel.enableIrq (kernel : Kernel) (irq : Nat) : Kernel :=
  kernel.request (enable kernel.lines irq)

def Kernel.disableIrq (kernel : Kernel) (irq : Nat) : Kernel :=
  kernel.request (disable kernel.lines irq)

def Kernel.unbindFromIrqhandler (kernel : Kernel) (irq : Nat) : Kernel :=
  kernel.request (unbind kernel.lines irq)

def Kernel.notifyRemoteViaIrq (kernel : Kernel) (irq : Nat) : Kernel :=
  kernel.request (notify kernel.lines irq)

def enableIrqs (kernel : Kernel) (vif : Xenvif) : Kernel :=
  let kernel := kernel.enableIrq vif.txIrq
  if vif.txIrq ≠ vif.rxIrq then kernel.enableIrq vif.rxIrq else kernel

def disableIrqs (kernel : Kernel) (vif : Xenvif) : Kernel :=
  let kernel := kernel.disableIrq vif.txIrq
  if vif.txIrq ≠ vif.rxIrq then kernel.disableIrq vif.rxIrq else kernel

/-- A poller that is enabled must not be enabled again, nor a disabled one disabled. -/
def napiSet (s : Interface) (enabled : Bool) : Interface :=
  if s.vif.napiEnabled = enabled then
    { s with kernel := { s.kernel with misuses := s.kernel.misuses + 1 } }
  else { s with vif := { s.vif with napiEnabled := enabled } }

def xenvifNetmapUp (s : Interface) : Interface :=
  ⟨enableIrqs s.kernel s.vif, { s.vif with nkrStopped := false }⟩

def xenvifNetmapDown (s : Interface) : Interface :=
  ⟨disableIrqs s.kernel s.vif, { s.vif with nkrStopped := true }⟩

def xenvifUp (s : Interface) : Interface :=
  if s.vif.netmap then xenvifNetmapUp s
  else
    let s := napiSet s true
    { s with kernel := enableIrqs s.kernel s.vif }

def xenvifDown (s : Interface) : Interface :=
  if s.vif.netmap then xenvifNetmapDown s
  else
    let s := napiSet s false
    { s with kernel := disableIrqs s.kernel s.vif }

def setRunning (s : Interface) (running : Bool) : Interface :=
  { s with vif := { s.vif with dev := { s.vif.dev with running := running } } }

def setCarrier (s : Interface) (carrierOk : Bool) : Interface :=
  { s with vif := { s.vif with dev := { s.vif.dev with carrierOk := carrierOk } } }

/-- The device is marked as running before `xenvif_open` is called. -/
def xenvifOpen (s : Interface) : Interface :=
  let s := setRunning s true
  if s.vif.dev.carrierOk then xenvifUp s else s

/-- The device is marked as stopped before `xenvif_close` is called. -/
def xenvifClose (s : Interface) : Interface :=
  let s := setRunning s false
  if s.vif.dev.carrierOk then xenvifDown s else s

def xenvifCarrierOff (s : Interface) : Interface :=
  let s := setCarrier s false
  if s.vif.dev.running then xenvifDown s else s

def maxMtu (vif : Xenvif) : Nat :=
  if vif.canSg then 65535 - vlanEthHlen else ethDataLen

/-- `xenvif_change_mtu`; `none` for `-EINVAL`. -/
def xenvifChangeMtu (vif : Xenvif) (mtu : Nat) : Option Xenvif :=
  if maxMtu vif < mtu then none
  else some { vif with dev := { vif.dev with mtu := mtu } }

def xenvifFixFeatures (vif : Xenvif) (features : Features) : Features where
  sg := features.sg && vif.canSg
  tso := features.tso && (vif.gsoMask.tcpv4 || vif.gsoPrefixMask.tcpv4)
  tso6 := features.tso6 && (vif.gsoMask.tcpv6 || vif.gsoPrefixMask.tcpv6)
  ipCsum := features.ipCsum && vif.ipCsum
  ipv6Csum := features.ipv6Csum && vif.ipv6Csum

/-- `netdev_update_features` for the features that are `wanted` of the device. -/
def netdevUpdateFeatures (vif : Xenvif) (wanted : Features) : Xenvif :=
  { vif with dev := { vif.dev with features := xenvifFixFeatures vif wanted } }

/-- What is answered to a call of `xenvif_connect`: every binding has an interrupt of its own,
and `wanted` are the features that the administrator wants of the device. -/
structure ConnectAnswers where
  map : Int
  txBind : BindAnswer
  rxBind : BindAnswer
  kthread : KthreadAnswer
  wanted : Features
  ne_irq : rxBind.err ≠ txBind.err ∨ rxBind.err < 0

/-- The `BUG_ON` and `BUG` of the backend, and a loop that was not given enough rounds. -/
inductive Fault where
  | bugOnTxIrq
  | bugOnTask
  | bug
  | outOfFuel
  deriving Repr, DecidableEq

def errConnect (s : Interface) : Interface :=
  { s with kernel := { s.kernel with moduleRefs := s.kernel.moduleRefs - 1 } }

def errUnmap (s : Interface) : Interface :=
  errConnect { s with vif := { s.vif with ringsMapped := false } }

def errTxUnbind (s : Interface) : Interface :=
  errUnmap ⟨s.kernel.unbindFromIrqhandler s.vif.txIrq, { s.vif with txIrq := 0 }⟩

def errRxUnbind (s : Interface) : Interface :=
  errTxUnbind ⟨s.kernel.unbindFromIrqhandler s.vif.rxIrq, { s.vif with rxIrq := 0 }⟩

/-- A handler is bound and its line disabled. -/
def bindDisabled (kernel : Kernel) (irq : Nat) (fn : HandlerFn) : Kernel :=
  (kernel.bind irq fn).disableIrq irq

/-- The part of `xenvif_connect` that binds the event channels: on an error the state that the
labels leave and the error, otherwise the interface with its interrupts. -/
def bindEvtchns (s : Interface) (txEvtchn rxEvtchn : UInt32) (call : ConnectAnswers) :
    Except (Interface × Int) Interface :=
  let txIrq := call.txBind.err.toNat
  let rxIrq := call.rxBind.err.toNat
  if txEvtchn = rxEvtchn then
    if call.txBind.err < 0 then .error (errUnmap s, call.txBind.err)
    else
      .ok ⟨bindDisabled s.kernel txIrq .xenvifInterrupt,
        { s.vif with txIrq := txIrq, rxIrq := txIrq }⟩
  else if call.txBind.err < 0 then .error (errUnmap s, call.txBind.err)
  else
    let s : Interface :=
      ⟨bindDisabled s.kernel txIrq .xenvifTxInterrupt, { s.vif with txIrq := txIrq }⟩
    if call.rxBind.err < 0 then .error (errTxUnbind s, call.rxBind.err)
    else
      .ok ⟨bindDisabled s.kernel rxIrq .xenvifRxInterrupt, { s.vif with rxIrq := rxIrq }⟩

def threadFn (vif : Xenvif) : ThreadFn :=
  if vif.netmap then .xenvifNetmapKthread else .xenvifKthread

/-- A frontend that takes no fragments gets packets of the usual size. -/
def capMtu (vif : Xenvif) : Xenvif :=
  if !vif.canSg && decide (ethDataLen < vif.dev.mtu) then
    (xenvifChangeMtu vif ethDataLen).getD vif
  else vif

/-- The part of `xenvif_connect` under the lock of the network devices. -/
def carrierOn (s : Interface) (wanted : Features) : Interface :=
  let s := setCarrier { s with vif := netdevUpdateFeatures (capMtu s.vif) wanted } true
  if s.vif.dev.running then xenvifUp s else s

/-- `xenvif_connect`, with the value that it returns. -/
def xenvifConnect (s : Interface) (txEvtchn rxEvtchn : UInt32) (call : ConnectAnswers) :
    Except Fault (Interface × Int) :=
  if s.vif.txIrq ≠ 0 then .error .bugOnTxIrq
  else if s.vif.task.isSome then .error .bugOnTask
  else if !s.vif.netmap && call.map < 0 then .ok (errConnect s, call.map)
  else
    let s := if s.vif.netmap then s else { s with vif := { s.vif with ringsMapped := true } }
    match bindEvtchns s txEvtchn rxEvtchn call with
    | .error failed => .ok failed
    | .ok s =>
        match call.kthread with
        | .errPtr errno => .ok (errRxUnbind s, -(errno + 1 : Int))
        | .thread =>
            let fn := threadFn s.vif
            let kernel := { s.kernel with threads := fn :: s.kernel.threads }
            .ok (carrierOn ⟨kernel, { s.vif with task := some fn }⟩ call.wanted, 0)

/-- The thread of `xenvif_disconnect`. -/
def stopTask (s : Interface) : Interface :=
  match s.vif.task with
  | some fn =>
      ⟨{ s.kernel with threads := s.kernel.threads.erase fn }, { s.vif with task := none }⟩
  | none => s

/-- The interrupts of `xenvif_disconnect`: `rx_irq` keeps its value. -/
def unbindIrqs (s : Interface) : Interface :=
  if s.vif.txIrq ≠ 0 then
    let kernel := s.kernel.unbindFromIrqhandler s.vif.txIrq
    ⟨if s.vif.txIrq = s.vif.rxIrq then kernel else kernel.unbindFromIrqhandler s.vif.rxIrq,
      { s.vif with txIrq := 0 }⟩
  else s

def xenvifDisconnect (s : Interface) : Interface :=
  let s := if s.vif.dev.carrierOk then xenvifCarrierOff s else s
  let s := unbindIrqs (stopTask s)
  { s with vif := { s.vif with ringsMapped := false } }

/-- The notification of `xenvif_notify`, which it leaves out when the carrier is off. -/
def notifyRx (s : Interface) : Interface :=
  if s.vif.dev.carrierOk ∧ s.vif.rxIrq ≠ 0 then
    { s with kernel := s.kernel.notifyRemoteViaIrq s.vif.rxIrq }
  else s

/-- The notification that the thread of netmap mode sends in `xenvif_netmap_irq`. -/
def notifyTx (s : Interface) : Interface :=
  if s.vif.txIrq ≠ 0 then { s with kernel := s.kernel.notifyRemoteViaIrq s.vif.txIrq } else s

/-- What the kernel answers to `xenvif_alloc`: whether there is memory for the device and for
the array of copy operations, and what `register_netdev` returns. -/
structure AllocAnswers where
  netdev : Bool
  copyOps : Bool
  register : Int

def enomem : Int := -12

/-- `"vif%u.%u"` in the buffer of the name. -/
def vifName (domid : UInt16) (handle : UInt32) : List Char :=
  snprintf (ifnamsiz - 1) ("vif".toList ++ decimal domid.toNat ++ '.' :: decimal handle.toNat)

/-- `hw_features`, which all the device's offloads are set to at first. -/
def hwFeatures : Features := ⟨true, true, true, true, true⟩

def newXenvif (domid : UInt16) (handle : UInt32) : Xenvif where
  domid := domid
  handle := handle
  dev :=
    { name := vifName domid handle
      running := false
      carrierOk := false
      mtu := ethDataLen
      txQueueLen := xenvifQueueLength
      features := hwFeatures }
  netmap := false
  napiEnabled := false
  nkrStopped := false
  txIrq := 0
  rxIrq := 0
  task := none
  ringsMapped := false
  canSg := true
  canQueue := false
  gsoMask := ⟨false, false⟩
  gsoPrefixMask := ⟨false, false⟩
  ipCsum := true
  ipv6Csum := false
  feDevAddr := List.replicate 6 0
  creditBytes := ~~~0
  creditUsec := 0
  remainingCredit := ~~~0

/-- `xenvif_alloc`: the array of copy operations stays allocated when the device cannot be
registered. A registration brings the features up to date. -/
def xenvifAlloc (kernel : Kernel) (domid : UInt16) (handle : UInt32) (call : AllocAnswers) :
    Kernel × Except Int Xenvif :=
  if !call.netdev then (kernel, .error enomem)
  else if !call.copyOps then (kernel, .error enomem)
  else
    let kernel := { kernel with copyOps := kernel.copyOps + 1 }
    if call.register ≠ 0 then (kernel, .error call.register)
    else
      ({ kernel with moduleRefs := kernel.moduleRefs + 1 },
        .ok (netdevUpdateFeatures (newXenvif domid handle) hwFeatures))

/-- `xenvif_free`: unregistering closes a device that is running. -/
def xenvifFree (s : Interface) : Kernel :=
  let s := if s.vif.dev.running then xenvifClose s else s
  { s.kernel with
    copyOps := s.kernel.copyOps - 1
    moduleRefs := s.kernel.moduleRefs - 1 }

end XenNet.NetbackInterface

import XenNet.NetmapReference
import XenNet.TransitionSystem
import XenNet.NetfrontTransmit
import XenNet.ReceiveSystem
import XenNet.NetbackModel

/-!
The two halves of the driver together. The rings and buffers are the memory that they
share, so the host looks at the guest's rings. Notifications travel on one event channel
for each direction and kind, and everything may happen in any order.
-/

namespace XenNet.SplitDriver

open XenNet.CyclicIndex
open XenNet.NetmapKernel
open XenNet.NetfrontModel
open XenNet.NetfrontTransmit
open XenNet.NetfrontReceive
open XenNet.ReceiveSystem
open XenNet.NetbackModel

/-- `attached` tells that `netfront_netmap_attach` has handed the device to netmap;
`rxUser` is the user's receive ring, and `mem` the memory of its buffers. The last three
fields are a record for the transmit kicks that no step looks at: whether the
notification of `netfront_netmap_attach` is still under way, how often the guest has
published, and how many of these publications the last sync of the host came after. -/
structure Driver where
  np : NetfrontInfo
  attached : Bool
  rxUser : NetmapKring
  mem : Nat → UInt8
  vif : Xenvif
  pc : Kthread
  startup : Bool
  published : Nat
  seen : Nat

inductive DriverEvent where
  | attach
  | xmit (mem : Nat → UInt8) (buf len : Nat)
  | txInterrupt
  | rxInterrupt
  | rxsync (head cur : Nat) (flags : UInt32)
  | txKick
  | rxKick
  | deliver (k : Nat) (slot : Nat → NetmapSlot) (bufs : Nat → UInt8) (tryget : Bool)
  | kthread
  | bridge (naBdg : Bool)

namespace Driver

def stat (s : Driver) : NetfrontCsb :=
  s.np.naPriv.stat

def hostView (s : Driver) : Xenvif :=
  { s.vif with
    txKring := { s.vif.txKring with ring := s.np.naPriv.txRings }
    rxKring := { s.vif.rxKring with ring := s.np.naPriv.rxRings } }

def afterHost (s : Driver) (vif : Xenvif) : Driver :=
  { s with
    vif := vif
    np := { s.np with naPriv := { s.np.naPriv with
      txRings := vif.txKring.ring, rxRings := vif.rxKring.ring } } }

end Driver

/-- The notifications that `netfront_netmap_attach` sends before it calls netmap. -/
def netfrontNetmapAttach (ni : NetmapInfo) : NetmapInfo :=
  { ni with
    rxIrq := ni.rxIrq.notifyRemoteViaIrq
    txIrq := ni.txIrq.notifyRemoteViaIrq }

/-- The host after it put packets into the next `k` slots of the receive ring. -/
def deliverPackets (vif : Xenvif) (k : Nat) (slot : Nat → NetmapSlot) : Xenvif :=
  { vif with rxKring := { vif.rxKring with
    nrHwtail := advance vif.rxKring.nkrNumSlots vif.rxKring.nrHwtail k
    ring := { vif.rxKring.ring with slot := slot } } }

def driverStep (nm : NetmapApi) (s : Driver) : DriverEvent → Option Driver
  | .attach =>
      if s.attached then none
      else
        some
          { s with
            np := { s.np with naPriv := netfrontNetmapAttach s.np.naPriv }
            attached := true
            startup := true }
  | .xmit mem buf len =>
      if s.attached then
        let sent := netfrontNetmapXmit nm s.np.naPriv mem buf len
        some
          { s with
            np := { s.np with naPriv := sent.1 }
            startup := s.startup && !(sent.2 && s.stat.hostNeedTxkick)
            published := if sent.2 && s.stat.hostNeedTxkick then s.published + 1
              else s.published }
      else none
  | .txInterrupt =>
      if s.vif.txEvtchn.pending then
        some
          { s with
            vif := { s.vif with txEvtchn := s.vif.txEvtchn.deliver }
            np := netfrontTxInterrupt s.np
            startup := false }
      else none
  | .rxInterrupt =>
      if s.vif.rxEvtchn.pending then
        some
          { s with
            vif := { s.vif with rxEvtchn := s.vif.rxEvtchn.deliver }
            np := netfrontRxInterrupt s.np }
      else none
  | .rxsync head cur flags =>
      match netfrontNetmapRxsync nm s.np s.mem (releaseTo s.rxUser head cur) flags with
      | some call => some { s with np := call.np, rxUser := call.kring, mem := call.mem }
      | none => none
  | .txKick =>
      if s.np.naPriv.txIrq.pending then
        let scheduled := xenvifNetmapIrqsched s.vif s.pc true
        some
          { s with
            np := { s.np with naPriv := { s.np.naPriv with
              txIrq := s.np.naPriv.txIrq.deliver } }
            vif := scheduled.1
            pc := scheduled.2.1
            startup := s.startup && scheduled.2.2 == 0 }
      else none
  | .rxKick =>
      if s.np.naPriv.rxIrq.pending then
        let scheduled := xenvifNetmapIrqsched s.vif s.pc false
        some
          { s with
            np := { s.np with naPriv := { s.np.naPriv with
              rxIrq := s.np.naPriv.rxIrq.deliver } }
            vif := scheduled.1
            pc := scheduled.2.1 }
      else none
  | .deliver k slot bufs tryget =>
      if distance s.vif.rxKring.nkrNumSlots s.vif.rxKring.nrHwcur s.vif.rxKring.nrHwtail +
          k < s.vif.rxKring.nkrNumSlots then
        match xenvifNotify nm (deliverPackets s.hostView k slot) 0 .nrRx tryget with
        | some (vif, _) =>
            some (Driver.afterHost
              { s with np := { s.np with naPriv := { s.np.naPriv with bufs := bufs } } } vif)
        | none => none
      else none
  | .kthread =>
      match kthreadStep nm s.hostView s.pc with
      | some (vif, pc, _) =>
          some
            { s.afterHost vif with
              pc := pc
              seen := if s.pc = .txBranch ∧ txWorkTodo s.vif = true then s.published
                else s.seen }
      | none => none
  | .bridge naBdg => some { s with vif := { s.vif with naBdg := naBdg } }

theorem driverStep_deliver_cases {nm : NetmapApi} {s t : Driver} {k : Nat}
    {slot : Nat → NetmapSlot} {bufs : Nat → UInt8} {tryget : Bool}
    (hstep : driverStep nm s (.deliver k slot bufs tryget) = some t) :
    ∃ vif, t = Driver.afterHost
        { s with np := { s.np with naPriv := { s.np.naPriv with bufs := bufs } } } vif ∧
      (vif = deliverPackets s.hostView k slot ∨ ∃ kring,
        vif = notifyGuestRx { deliverPackets s.hostView k slot with rxKring := kring }) := by
  simp only [driverStep, Option.ite_none_right_eq_some] at hstep
  obtain ⟨_, hstep⟩ := hstep
  split at hstep
  · rename_i vif error hnotify
    exact ⟨vif, (Option.some.inj hstep).symm, xenvifNotify_cases hnotify⟩
  · contradiction

/-- The state after both sides are set up: the carriers are up, the interrupts bound,
nothing is in flight and nothing was delivered. -/
structure DriverStart (s : Driver) : Prop where
  carrierOk : s.np.carrierOk = true
  hostCarrierOk : s.vif.carrierOk = true
  txIrq_ne : s.vif.txIrq ≠ 0
  rxIrq_ne : s.vif.rxIrq ≠ 0
  stat_eq : s.stat = setupNetfrontCsb s.np.naPriv.txRings
  reg_eq : xenvifNetmapReg s.vif = s.vif
  quiet : s.np.naPriv.txIrq.pending = false ∧ s.np.naPriv.rxIrq.pending = false ∧
    s.vif.txEvtchn.pending = false ∧ s.vif.rxEvtchn.pending = false
  idle : s.pc = .checking ∨ s.pc = .asleep
  empty : s.np.naPriv.rxRings.cur = s.np.naPriv.rxRings.tail
  attached_eq : s.attached = false
  record_eq : s.startup = false ∧ s.published = s.seen

def freshDriver (n : Nat) : Driver where
  np := { (freshRx n n).np with naPriv := { (freshRx n n).np.naPriv with
    txRings := { (freshRx n n).np.naPriv.txRings with tail := n - 1 } } }
  attached := false
  rxUser := (freshRx n n).kring
  mem := fun _ => 0
  vif := freshXenvif n
  pc := .checking
  startup := false
  published := 0
  seen := 0

theorem freshDriver_start (n : Nat) : DriverStart (freshDriver n) :=
  ⟨rfl, rfl, Nat.succ_ne_zero 0, Nat.succ_ne_zero 1, rfl, rfl, ⟨rfl, rfl, rfl, rfl⟩,
    Or.inl rfl, rfl, rfl, rfl, rfl⟩

end XenNet.SplitDriver

import XenNet.NetfrontModel
import XenNet.ReleasedSlots

namespace XenNet.NetfrontReceive

open XenNet.ByteMemory
open XenNet.NetmapKernel
open XenNet.NetfrontModel
open XenNet.ReleasedSlots

/-- The variables of the import loop of `netfront_netmap_rxsync`, with the user's ring
and the memory of the netmap buffers that the loop writes. -/
structure RxImport where
  nmI : Nat
  n : Nat
  cur : Nat
  j : Nat
  ring : NetmapRing
  mem : Nat → UInt8

/-- One packet is copied to the user. The counter `n` goes up in the body and again in
the header of the loop. -/
def importSlot (nm : NetmapApi) (ni : NetmapInfo) (slotFlags : UInt16) (lim : Nat)
    (st : RxImport) : RxImport :=
  let slot := st.ring.slot st.nmI
  let len := (ni.rxRings.slot st.cur).len
  { nmI := nm.nmNext st.nmI lim
    n := st.n + 2
    cur := netmapRingNext ni.rxRings st.cur
    j := st.j - 1
    ring := st.ring.setSlot st.nmI { slot with len := len, flags := slotFlags }
    mem := memcpy st.mem (nm.nmb slot.bufIdx) ni.bufs
      (netfrontBuf ni.rxdBufsBase st.cur) len.toNat }

/-- The import loop of `netfront_netmap_rxsync`. It stops at `stop`, at a bad buffer,
which the flag reports, without a kick and at the end of the shared ring. Without fuel
left it does not return. -/
def importLoop (nm : NetmapApi) (ni : NetmapInfo) (slotFlags : UInt16) (stop lim : Nat) :
    Nat → RxImport → Option (Bool × RxImport)
  | 0, _ => none
  | fuel + 1, st =>
      if st.nmI = stop then some (false, st)
      else if nm.nmb (st.ring.slot st.nmI).bufIdx = nm.netmapBufferBase then some (true, st)
      else if !ni.stat.hostNeedRxkick || st.j = 0 then some (false, st)
      else importLoop nm ni slotFlags stop lim fuel (importSlot nm ni slotFlags lim st)

/-- The imported slots are given back to the host and the host is notified, if it asked
for that. -/
def publishRx (ni : NetmapInfo) (n cur : Nat) : NetmapInfo :=
  if ni.stat.hostNeedRxkick then
    { ni with
      rxRings := if n ≠ 0 then { ni.rxRings with head := cur, cur := cur } else ni.rxRings
      stat := { ni.stat with hostNeedRxkick := false }
      rxIrq := ni.rxIrq.notifyRemoteViaIrq }
  else ni

/-- What a call of `netfront_netmap_rxsync` leaves behind. -/
structure RxCall where
  np : NetfrontInfo
  kring : NetmapKring
  mem : Nat → UInt8
  ret : Int

/-- The second part of `netfront_netmap_rxsync`: skip past released packets. -/
def skipReleased (nm : NetmapApi) (np : NetfrontInfo) (mem : Nat → UInt8)
    (kring : NetmapKring) (head : Nat) : Option RxCall :=
  match releaseLoop nm head (kring.nkrNumSlots - 1) kring.nkrNumSlots kring.nrHwcur
      kring.ring with
  | none => none
  | some ring =>
      some ⟨np, nm.nmRxsyncFinalize { kring with nrHwcur := head, ring := ring }, mem, 0⟩

def forceUpdate (nm : NetmapApi) (kring : NetmapKring) (flags : UInt32) : Bool :=
  flags &&& nm.nafForceRead ≠ 0 || kring.nrKflags &&& nm.nkrPendintr ≠ 0

/-- The condition under which the import part of `netfront_netmap_rxsync` runs. -/
def importEnabled (nm : NetmapApi) (kring : NetmapKring) (flags : UInt32) : Bool :=
  nm.netmapNoPendintr || forceUpdate nm kring flags

/-- The variables with which the import loop starts. -/
def rxImportStart (ni : NetmapInfo) (mem : Nat → UInt8) (kring : NetmapKring) : RxImport where
  nmI := kring.nrHwtail
  n := 0
  cur := ni.rxRings.cur
  j := nmRingSpace ni.rxRings
  ring := kring.ring
  mem := mem

/-- The first part of `netfront_netmap_rxsync`, and the second part after it. -/
def importReceived (nm : NetmapApi) (np : NetfrontInfo) (mem : Nat → UInt8)
    (kring : NetmapKring) (head : Nat) : Option RxCall :=
  match importLoop nm np.naPriv kring.nkrSlotFlags
      (nm.nmPrev kring.nrHwcur (kring.nkrNumSlots - 1)) (kring.nkrNumSlots - 1)
      kring.nkrNumSlots (rxImportStart np.naPriv mem kring) with
  | none => none
  | some (true, st) =>
      let bad := nm.netmapRingReinit { kring with ring := st.ring }
      some ⟨np, bad.1, st.mem, bad.2⟩
  | some (false, st) =>
      skipReleased nm { np with naPriv := publishRx np.naPriv st.n st.cur } st.mem
        { kring with
          nrHwtail := if st.n ≠ 0 then st.nmI else kring.nrHwtail
          nrKflags := kring.nrKflags &&& ~~~nm.nkrPendintr
          ring := st.ring } head

def netfrontNetmapRxsync (nm : NetmapApi) (np : NetfrontInfo) (mem : Nat → UInt8)
    (kring : NetmapKring) (flags : UInt32) : Option RxCall :=
  let prologue := nm.nmRxsyncPrologue kring
  if prologue.1.nkrNumSlots - 1 < prologue.2 then
    let bad := nm.netmapRingReinit prologue.1
    some ⟨np, bad.1, mem, bad.2⟩
  else if importEnabled nm prologue.1 flags then
    importReceived nm np mem prologue.1 prologue.2
  else skipReleased nm np mem prologue.1 prologue.2

/-- `netfront_rx_interrupt`; waking the netmap user leaves this state as it is. -/
def netfrontRxInterrupt (np : NetfrontInfo) : NetfrontInfo :=
  if np.carrierOk then
    { np with naPriv := { np.naPriv with
        stat := { np.naPriv.stat with hostNeedRxkick := true, guestNeedRxkick := false } } }
  else np

end XenNet.NetfrontReceive

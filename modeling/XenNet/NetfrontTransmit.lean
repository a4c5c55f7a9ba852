import XenNet.NetfrontModel

namespace XenNet.NetfrontTransmit

open XenNet.ByteMemory
open XenNet.NetmapKernel
open XenNet.NetfrontModel

/-- The part of `netfront_netmap_xmit` that copies the packet and moves the counters.
The copy goes to the buffer of `ring->cur`, the length to the slot of `txcur`. -/
def fillTxSlot (ni : NetmapInfo) (mem : Nat → UInt8) (buf len : Nat) : NetmapInfo :=
  let cur := ni.stat.txcur.toNat
  let next := UInt16.ofNat (netmapRingNext ni.txRings cur)
  { ni with
    bufs := memcpy ni.bufs (netfrontBuf ni.txdBufsBase ni.txRings.cur) mem buf len
    txRings := ni.txRings.setSlot cur
      { ni.txRings.slot cur with len := UInt16.ofNat len }
    stat := { ni.stat with txcur := next, txhead := next } }

/-- The part of `netfront_netmap_xmit` under `stat->host_need_txkick`. -/
def kickTx (ni : NetmapInfo) : NetmapInfo :=
  { ni with
    txRings := { ni.txRings with
      head := ni.stat.txcur.toNat, cur := ni.stat.txcur.toNat }
    stat := { ni.stat with guestNeedTxkick := true, hostNeedTxkick := false }
    txIrq := ni.txIrq.notifyRemoteViaIrq }

/-- What `netfront_netmap_xmit` does with a packet that it accepts. -/
def acceptTx (ni : NetmapInfo) (mem : Nat → UInt8) (buf len : Nat) : NetmapInfo :=
  if (fillTxSlot ni mem buf len).stat.hostNeedTxkick then
    kickTx (fillTxSlot ni mem buf len)
  else fillTxSlot ni mem buf len

/-- `mem` is the memory of the netmap buffers, from which the packet is copied. -/
def netfrontNetmapXmit (nm : NetmapApi) (ni : NetmapInfo) (mem : Nat → UInt8)
    (buf len : Nat) : NetmapInfo × Bool :=
  if nm.nmRingEmpty ni.txRings then (ni, false)
  else (acceptTx ni mem buf len, true)

/-- The user's ring after the packet in slot `nmI` was taken. -/
def markSent (nm : NetmapApi) (ring : NetmapRing) (nmI : Nat) : NetmapRing :=
  ring.setSlot nmI { ring.slot nmI with
    flags := (ring.slot nmI).flags &&& ~~~(nm.nsReport ||| nm.nsBufChanged) }

/-- The loop of `netfront_netmap_txsync` over the slots from `nmI` to `head`. Without
fuel left it does not return; one round more than there are slots is enough. -/
def txsyncLoop (nm : NetmapApi) (mem : Nat → UInt8) (head lim : Nat) :
    Nat → Nat → NetmapInfo → NetmapRing → Option (Nat × NetmapInfo × NetmapRing)
  | 0, _, _, _ => none
  | fuel + 1, nmI, ni, ring =>
      if nmI = head then some (nmI, ni, ring)
      else
        let slot := ring.slot nmI
        match netfrontNetmapXmit nm ni mem (nm.nmb slot.bufIdx) slot.len.toNat with
        | (ni', false) => some (nmI, ni', ring)
        | (ni', true) =>
            txsyncLoop nm mem head lim fuel (nm.nmNext nmI lim) ni' (markSent nm ring nmI)

def reclaimTx (nm : NetmapApi) (stat : NetfrontCsb) (kring : NetmapKring)
    (flags : UInt32) : Bool :=
  if stat.guestNeedTxkick then false
  else if flags &&& nm.nafForceReclaim ≠ 0 then true
  else if !nm.nmKrTxempty kring then false
  else true

/-- The slot before the one that `stat->txhead` designates. -/
def reclaimedHwtail (nm : NetmapApi) (stat : NetfrontCsb) (kring : NetmapKring) : Nat :=
  let nicI := stat.txhead.toNat
  let nicI := if kring.nkrNumSlots ≤ nicI then nicI - kring.nkrNumSlots else nicI
  nm.nmPrev (nm.netmapIdxN2k kring nicI) (kring.nkrNumSlots - 1)

/-- `netfront_netmap_txsync`. The ring index `nic_i` that it also computes for the first
packet is never read. -/
def netfrontNetmapTxsync (nm : NetmapApi) (np : NetfrontInfo) (mem : Nat → UInt8)
    (kring : NetmapKring) (flags : UInt32) : Option (NetfrontInfo × NetmapKring) :=
  if !np.carrierOk then some (np, nm.nmTxsyncFinalize kring)
  else
    match txsyncLoop nm mem kring.rhead (kring.nkrNumSlots - 1) kring.nkrNumSlots
        kring.nrHwcur np.naPriv kring.ring with
    | none => none
    | some (nmI, ni, ring) =>
        let kring' := { kring with nrHwcur := nmI, ring := ring }
        let kring'' :=
          if reclaimTx nm ni.stat kring' flags then
            { kring' with nrHwtail := reclaimedHwtail nm ni.stat kring' }
          else kring'
        some ({ np with naPriv := ni }, nm.nmTxsyncFinalize kring'')

/-- `netfront_tx_interrupt`; waking the netmap user leaves this state as it is. -/
def netfrontTxInterrupt (np : NetfrontInfo) : NetfrontInfo :=
  if np.carrierOk then
    { np with naPriv := { np.naPriv with
        stat := { np.naPriv.stat with hostNeedTxkick := true, guestNeedTxkick := false } } }
  else np

theorem netfrontTxInterrupt_of_carrier {np : NetfrontInfo} (hcarrier : np.carrierOk = true) :
    netfrontTxInterrupt np = { np with naPriv := { np.naPriv with
      stat := { np.naPriv.stat with hostNeedTxkick := true, guestNeedTxkick := false } } } :=
  if_pos hcarrier

/-- One call of `netfront_netmap_xmit`: the state it finds, the slot of the user's ring
that holds the packet, and its arguments. -/
structure XmitCall where
  ni : NetmapInfo
  nmI : Nat
  buf : Nat
  len : Nat

namespace XmitCall

variable (nm : NetmapApi) (mem : Nat → UInt8) (call : XmitCall)

def result : NetmapInfo × Bool :=
  netfrontNetmapXmit nm call.ni mem call.buf call.len

def accepted : Bool :=
  (call.result nm mem).2

/-- The bytes that the call is asked to send. -/
def packet : List UInt8 :=
  bytes mem call.buf call.len

end XmitCall

/-- The calls of `netfront_netmap_xmit` that `txsyncLoop` makes, in order. -/
def xmitCalls (nm : NetmapApi) (mem : Nat → UInt8) (head lim : Nat) :
    Nat → Nat → NetmapInfo → NetmapRing → List XmitCall
  | 0, _, _, _ => []
  | fuel + 1, nmI, ni, ring =>
      if nmI = head then []
      else
        let slot := ring.slot nmI
        let call : XmitCall := ⟨ni, nmI, nm.nmb slot.bufIdx, slot.len.toNat⟩
        match netfrontNetmapXmit nm ni mem (nm.nmb slot.bufIdx) slot.len.toNat with
        | (_, false) => [call]
        | (ni', true) =>
            call :: xmitCalls nm mem head lim fuel (nm.nmNext nmI lim) ni'
              (markSent nm ring nmI)

/-- The calls of `netfront_netmap_xmit` that one `netfront_netmap_txsync` makes. -/
def txsyncCalls (nm : NetmapApi) (np : NetfrontInfo) (mem : Nat → UInt8)
    (kring : NetmapKring) : List XmitCall :=
  if !np.carrierOk then []
  else xmitCalls nm mem kring.rhead (kring.nkrNumSlots - 1) kring.nkrNumSlots
    kring.nrHwcur np.naPriv kring.ring

/-- The packets that were accepted, each with the slot of the shared ring it was
accepted for. -/
def acceptedPackets (nm : NetmapApi) (mem : Nat → UInt8) (calls : List XmitCall) :
    List (Nat × List UInt8) :=
  calls.filterMap fun call =>
    if call.accepted nm mem then some (call.ni.stat.txcur.toNat, call.packet mem)
    else none

theorem acceptedPackets_cons (nm : NetmapApi) (mem : Nat → UInt8) {call : XmitCall}
    (calls : List XmitCall) (haccepted : call.accepted nm mem = true) :
    acceptedPackets nm mem (call :: calls) =
      (call.ni.stat.txcur.toNat, call.packet mem) :: acceptedPackets nm mem calls := by
  simp [acceptedPackets, haccepted]

theorem acceptedPackets_singleton (nm : NetmapApi) (mem : Nat → UInt8) {call : XmitCall}
    (hrefused : call.accepted nm mem = false) : acceptedPackets nm mem [call] = [] := by
  simp [acceptedPackets, hrefused]

section Accept

variable (ni : NetmapInfo) (mem : Nat → UInt8) (buf len : Nat)

@[simp] theorem acceptTx_numSlots :
    (acceptTx ni mem buf len).txRings.numSlots = ni.txRings.numSlots := by
  unfold acceptTx
  split <;> rfl

@[simp] theorem acceptTx_tail :
    (acceptTx ni mem buf len).txRings.tail = ni.txRings.tail := by
  unfold acceptTx
  split <;> rfl

@[simp] theorem acceptTx_txdBufsBase :
    (acceptTx ni mem buf len).txdBufsBase = ni.txdBufsBase := by
  unfold acceptTx
  split <;> rfl

@[simp] theorem acceptTx_bufs :
    (acceptTx ni mem buf len).bufs =
      memcpy ni.bufs (netfrontBuf ni.txdBufsBase ni.txRings.cur) mem buf len := by
  unfold acceptTx
  split <;> rfl

theorem acceptTx_txcur :
    (acceptTx ni mem buf len).stat.txcur =
      UInt16.ofNat (netmapRingNext ni.txRings ni.stat.txcur.toNat) := by
  unfold acceptTx
  split <;> rfl

theorem acceptTx_txhead :
    (acceptTx ni mem buf len).stat.txhead = (acceptTx ni mem buf len).stat.txcur := by
  unfold acceptTx
  split <;> rfl

@[simp] theorem acceptTx_hostNeedTxkick :
    (acceptTx ni mem buf len).stat.hostNeedTxkick = false := by
  unfold acceptTx
  split
  · rfl
  · rename_i hflag
    simpa using hflag

theorem acceptTx_slot_self :
    (acceptTx ni mem buf len).txRings.slot ni.stat.txcur.toNat =
      { ni.txRings.slot ni.stat.txcur.toNat with len := UInt16.ofNat len } := by
  unfold acceptTx
  split <;> simp [kickTx, fillTxSlot]

theorem acceptTx_slot_of_ne {i : Nat} (hne : i ≠ ni.stat.txcur.toNat) :
    (acceptTx ni mem buf len).txRings.slot i = ni.txRings.slot i := by
  unfold acceptTx
  split <;> simp [kickTx, fillTxSlot, NetmapRing.setSlot_slot_of_ne _ _ _ hne]

theorem acceptTx_of_kick (hkick : ni.stat.hostNeedTxkick = true) :
    (acceptTx ni mem buf len).txRings.cur = (acceptTx ni mem buf len).stat.txcur.toNat ∧
      (acceptTx ni mem buf len).txRings.head =
        (acceptTx ni mem buf len).stat.txcur.toNat := by
  have hfilled : (fillTxSlot ni mem buf len).stat.hostNeedTxkick = true := hkick
  simp only [acceptTx, hfilled, if_true]
  exact ⟨rfl, rfl⟩

theorem acceptTx_of_no_kick (hkick : ni.stat.hostNeedTxkick = false) :
    (acceptTx ni mem buf len).txRings.cur = ni.txRings.cur ∧
      (acceptTx ni mem buf len).txRings.head = ni.txRings.head := by
  have hfilled : (fillTxSlot ni mem buf len).stat.hostNeedTxkick = false := hkick
  simp only [acceptTx, hfilled]
  exact ⟨rfl, rfl⟩

@[simp] theorem acceptTx_txIrq_pending :
    (acceptTx ni mem buf len).txIrq.pending =
      (ni.stat.hostNeedTxkick || ni.txIrq.pending) := by
  unfold acceptTx
  cases hkick : ni.stat.hostNeedTxkick with
  | true => simp [kickTx, fillTxSlot, hkick]
  | false => simp [fillTxSlot, hkick]

theorem acceptTx_rx :
    (acceptTx ni mem buf len).rxRings = ni.rxRings ∧
      (acceptTx ni mem buf len).rxIrq = ni.rxIrq ∧
      (acceptTx ni mem buf len).stat.hostNeedRxkick = ni.stat.hostNeedRxkick := by
  unfold acceptTx
  split <;> exact ⟨rfl, rfl, rfl⟩

theorem xmit_cases (nm : NetmapApi) :
    netfrontNetmapXmit nm ni mem buf len = (ni, false) ∨
      netfrontNetmapXmit nm ni mem buf len = (acceptTx ni mem buf len, true) := by
  unfold netfrontNetmapXmit
  split
  · exact Or.inl rfl
  · exact Or.inr rfl

theorem xmit_of_empty (nm : NetmapApi) (hempty : ni.txRings.cur = ni.txRings.tail) :
    netfrontNetmapXmit nm ni mem buf len = (ni, false) := by
  unfold netfrontNetmapXmit
  rw [if_pos ((nm.nmRingEmpty_iff ni.txRings).mpr hempty)]

theorem xmit_of_not_empty (nm : NetmapApi) (hne : ni.txRings.cur ≠ ni.txRings.tail) :
    netfrontNetmapXmit nm ni mem buf len = (acceptTx ni mem buf len, true) := by
  unfold netfrontNetmapXmit
  rw [if_neg (fun hempty => hne ((nm.nmRingEmpty_iff ni.txRings).mp hempty))]

end Accept

theorem XmitCall.accepted_iff (nm : NetmapApi) (mem : Nat → UInt8) (call : XmitCall) :
    call.accepted nm mem = true ↔ call.ni.txRings.cur ≠ call.ni.txRings.tail := by
  unfold XmitCall.accepted XmitCall.result
  by_cases hempty : call.ni.txRings.cur = call.ni.txRings.tail
  · simp [xmit_of_empty _ _ _ _ nm hempty, hempty]
  · simp [xmit_of_not_empty _ _ _ _ nm hempty, hempty]

/-- The call that the loop makes for the packet in slot `nmI` of the user's ring. -/
def loopCall (nm : NetmapApi) (ni : NetmapInfo) (ring : NetmapRing) (nmI : Nat) :
    XmitCall :=
  ⟨ni, nmI, nm.nmb (ring.slot nmI).bufIdx, (ring.slot nmI).len.toNat⟩

section Loop

variable (nm : NetmapApi) (mem : Nat → UInt8) {head : Nat} (lim fuel : Nat) {nmI : Nat}
  {ni : NetmapInfo} (ring : NetmapRing)

theorem txsyncLoop_of_empty (hne : nmI ≠ head) (hempty : ni.txRings.cur = ni.txRings.tail) :
    txsyncLoop nm mem head lim (fuel + 1) nmI ni ring = some (nmI, ni, ring) ∧
      xmitCalls nm mem head lim (fuel + 1) nmI ni ring = [loopCall nm ni ring nmI] := by
  simp [txsyncLoop, xmitCalls, loopCall, hne, xmit_of_empty _ _ _ _ nm hempty]

theorem txsyncLoop_of_not_empty (hne : nmI ≠ head)
    (hroom : ni.txRings.cur ≠ ni.txRings.tail) :
    txsyncLoop nm mem head lim (fuel + 1) nmI ni ring =
        txsyncLoop nm mem head lim fuel (nm.nmNext nmI lim)
          (acceptTx ni mem (nm.nmb (ring.slot nmI).bufIdx) (ring.slot nmI).len.toNat)
          (markSent nm ring nmI) ∧
      xmitCalls nm mem head lim (fuel + 1) nmI ni ring =
        loopCall nm ni ring nmI :: xmitCalls nm mem head lim fuel (nm.nmNext nmI lim)
          (acceptTx ni mem (nm.nmb (ring.slot nmI).bufIdx) (ring.slot nmI).len.toNat)
          (markSent nm ring nmI) := by
  simp [txsyncLoop, xmitCalls, loopCall, hne, xmit_of_not_empty _ _ _ _ nm hroom]

end Loop

theorem markSent_len (nm : NetmapApi) (ring : NetmapRing) (nmI i : Nat) :
    ((markSent nm ring nmI).slot i).len = (ring.slot i).len := by
  unfold markSent
  by_cases hsame : i = nmI
  · subst hsame
    simp
  · rw [NetmapRing.setSlot_slot_of_ne _ _ _ hsame]

theorem XmitCall.result_of_refused (nm : NetmapApi) (mem : Nat → UInt8) (call : XmitCall)
    (hrefused : call.accepted nm mem = false) : (call.result nm mem).1 = call.ni := by
  have hempty : call.ni.txRings.cur = call.ni.txRings.tail := by
    by_contra hne
    rw [(call.accepted_iff nm mem).mpr hne] at hrefused
    contradiction
  simp [XmitCall.result, xmit_of_empty _ _ _ _ nm hempty]

end XenNet.NetfrontTransmit

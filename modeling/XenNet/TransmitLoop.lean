import XenNet.NetfrontTransmit

namespace XenNet.TransmitLoop

open XenNet.ByteMemory
open XenNet.CyclicIndex
open XenNet.NetmapKernel
open XenNet.NetfrontModel
open XenNet.NetfrontTransmit

/-- How the loop of `netfront_netmap_txsync` ends. `Q p ni acc` speaks about `p` packets
still to send, the driver's state and the packets accepted so far. -/
structure LoopOutcome (nm : NetmapApi) (mem : Nat → UInt8) (n head : Nat)
    (Q : Nat → NetmapInfo → List (Nat × List UInt8) → Prop)
    (acc : List (Nat × List UInt8)) (calls : List XmitCall)
    (nmI : Nat) (ni : NetmapInfo) : Prop where
  nmI_lt : nmI < n
  holds : Q (distance n nmI head) ni (acc ++ acceptedPackets nm mem calls)
  stopped : nmI ≠ head → ni.txRings.cur = ni.txRings.tail
  called : ∀ call ∈ calls, ∃ p acc', Q (p + 1) call.ni acc'
  refused : ∀ call ∈ calls, call.accepted nm mem = false →
    call.nmI = nmI ∧ call.ni = ni ∧ nmI ≠ head

/-- The loop comes to its end, and keeps every property of the state and the accepted
packets that accepting one more packet keeps. -/
theorem txsyncLoop_spec (nm : NetmapApi) (mem : Nat → UInt8) {n head : Nat}
    (hhead : head < n) {L : Nat → Prop}
    {Q : Nat → NetmapInfo → List (Nat × List UInt8) → Prop}
    (hstep : ∀ p ni acc buf len, L len → Q (p + 1) ni acc →
      ni.txRings.cur ≠ ni.txRings.tail →
      Q p (acceptTx ni mem buf len)
        (acc ++ [(ni.stat.txcur.toNat, bytes mem buf len)]))
    (fuel nmI : Nat) (ni : NetmapInfo) (ring : NetmapRing)
    (acc : List (Nat × List UInt8)) (hnmI : nmI < n)
    (hfuel : distance n nmI head < fuel)
    (hlen : ∀ i, i < n → L (ring.slot i).len.toNat)
    (hQ : Q (distance n nmI head) ni acc) :
    ∃ nmI' ni' ring',
      txsyncLoop nm mem head (n - 1) fuel nmI ni ring = some (nmI', ni', ring') ∧
        LoopOutcome nm mem n head Q acc
          (xmitCalls nm mem head (n - 1) fuel nmI ni ring) nmI' ni' := by
  induction fuel generalizing nmI ni ring acc with
  | zero => omega
  | succ fuel ih =>
      by_cases hdone : nmI = head
      · subst hdone
        refine ⟨nmI, ni, ring, by simp [txsyncLoop], ?_⟩
        simp only [xmitCalls, if_true]
        exact ⟨hnmI, by simpa [acceptedPackets] using hQ, by simp, by simp, by simp⟩
      · have hpos : 0 < distance n nmI head := distance_pos_of_ne hnmI hhead hdone
        obtain ⟨p, hp⟩ : ∃ p, distance n nmI head = p + 1 :=
          Nat.exists_eq_add_one.mpr hpos
        by_cases hempty : ni.txRings.cur = ni.txRings.tail
        · obtain ⟨hloop, hcalls⟩ := txsyncLoop_of_empty nm mem (n - 1) fuel ring hdone hempty
          have hrefused : (loopCall nm ni ring nmI).accepted nm mem = false := by
            rw [← Bool.not_eq_true, XmitCall.accepted_iff]
            exact not_not_intro hempty
          refine ⟨nmI, ni, ring, hloop, ?_⟩
          rw [hcalls]
          refine ⟨hnmI, ?_, fun _ => hempty, ?_, ?_⟩
          · rw [acceptedPackets_singleton nm mem hrefused, List.append_nil]
            exact hQ
          · intro call hcall
            rw [List.mem_singleton.mp hcall]
            exact ⟨p, acc, hp ▸ hQ⟩
          · intro call hcall _
            rw [List.mem_singleton.mp hcall]
            exact ⟨rfl, rfl, hdone⟩
        · obtain ⟨hloop, hcalls⟩ :=
            txsyncLoop_of_not_empty nm mem (n - 1) fuel ring hdone hempty
          have haccepted : (loopCall nm ni ring nmI).accepted nm mem = true :=
            ((loopCall nm ni ring nmI).accepted_iff nm mem).mpr hempty
          have hdist : distance n (nm.nmNext nmI (n - 1)) head = p := by
            rw [nm.nmNext_eq_advance hnmI, distance_advance_left hnmI hhead (by omega), hp]
            rfl
          have hQ' := hstep p ni acc (nm.nmb (ring.slot nmI).bufIdx)
            (ring.slot nmI).len.toNat (hlen nmI hnmI) (hp ▸ hQ) hempty
          obtain ⟨nmI', ni', ring', hrest, houtcome⟩ :=
            ih _ _ (markSent nm ring nmI) _ (nm.nmNext_lt hnmI) (by omega)
              (fun i hi => by rw [markSent_len]; exact hlen i hi) (by rw [hdist]; exact hQ')
          refine ⟨nmI', ni', ring', hloop.trans hrest, ?_⟩
          rw [hcalls]
          refine ⟨houtcome.nmI_lt, ?_, houtcome.stopped, ?_, ?_⟩
          · have hpackets := houtcome.holds
            rw [List.append_assoc] at hpackets
            rw [acceptedPackets_cons nm mem _ haccepted]
            exact hpackets
          · intro call hcall
            rcases List.mem_cons.mp hcall with rfl | hcall
            · exact ⟨p, acc, hp ▸ hQ⟩
            · exact houtcome.called call hcall
          · intro call hcall hrefused
            rcases List.mem_cons.mp hcall with rfl | hcall
            · rw [haccepted] at hrefused
              contradiction
            · exact houtcome.refused call hcall hrefused

theorem txsync_spec (nm : NetmapApi) (np : NetfrontInfo) (mem : Nat → UInt8)
    (kring : NetmapKring) (flags : UInt32) (hcarrier : np.carrierOk = true)
    (hcur : kring.nrHwcur < kring.nkrNumSlots) (hhead : kring.rhead < kring.nkrNumSlots)
    {L : Nat → Prop} {Q : Nat → NetmapInfo → List (Nat × List UInt8) → Prop}
    (hstep : ∀ p ni acc buf len, L len → Q (p + 1) ni acc →
      ni.txRings.cur ≠ ni.txRings.tail →
      Q p (acceptTx ni mem buf len)
        (acc ++ [(ni.stat.txcur.toNat, bytes mem buf len)]))
    (acc : List (Nat × List UInt8))
    (hlen : ∀ i, i < kring.nkrNumSlots → L (kring.ring.slot i).len.toNat)
    (hQ : Q (distance kring.nkrNumSlots kring.nrHwcur kring.rhead) np.naPriv acc) :
    ∃ np' kring', netfrontNetmapTxsync nm np mem kring flags = some (np', kring') ∧
      np'.carrierOk = true ∧ kring'.nkrNumSlots = kring.nkrNumSlots ∧
      LoopOutcome nm mem kring.nkrNumSlots kring.rhead Q acc
        (txsyncCalls nm np mem kring) kring'.nrHwcur np'.naPriv := by
  have hfuel : distance kring.nkrNumSlots kring.nrHwcur kring.rhead < kring.nkrNumSlots :=
    distance_lt (by omega) _ _
  obtain ⟨nmI, ni, ring, hloop, houtcome⟩ :=
    txsyncLoop_spec nm mem hhead hstep kring.nkrNumSlots kring.nrHwcur np.naPriv
      kring.ring acc hcur hfuel hlen hQ
  let kring' := { kring with nrHwcur := nmI, ring := ring }
  let kring'' :=
    if reclaimTx nm ni.stat kring' flags then
      { kring' with nrHwtail := reclaimedHwtail nm ni.stat kring' }
    else kring'
  have hkeeps := nm.nmTxsyncFinalize_keeps kring''
  have hslots : kring''.nkrNumSlots = kring.nkrNumSlots := by
    simp only [kring'']
    split <;> rfl
  have hhwcur : kring''.nrHwcur = nmI := by
    simp only [kring'']
    split <;> rfl
  refine ⟨{ np with naPriv := ni }, nm.nmTxsyncFinalize kring'', ?_, hcarrier,
    hkeeps.nkrNumSlots.trans hslots, ?_⟩
  · simp only [netfrontNetmapTxsync, hcarrier, hloop]
    rfl
  · have hcalls : txsyncCalls nm np mem kring =
        xmitCalls nm mem kring.rhead (kring.nkrNumSlots - 1) kring.nkrNumSlots
          kring.nrHwcur np.naPriv kring.ring := by
      simp [txsyncCalls, hcarrier]
    rw [hcalls, hkeeps.nrHwcur.trans hhwcur]
    exact houtcome

theorem txsync_of_no_carrier (nm : NetmapApi) (np : NetfrontInfo) (mem : Nat → UInt8)
    (kring : NetmapKring) (flags : UInt32) (hcarrier : np.carrierOk = false) :
    netfrontNetmapTxsync nm np mem kring flags = some (np, nm.nmTxsyncFinalize kring) ∧
      txsyncCalls nm np mem kring = [] := by
  simp [netfrontNetmapTxsync, txsyncCalls, hcarrier]

end XenNet.TransmitLoop

import XenNet.NetmapKernel

namespace XenNet.NetmapReference

open XenNet.CyclicIndex
open XenNet.NetmapKernel

def nmRxsyncPrologue (k : NetmapKring) : NetmapKring × Nat :=
  if RxHeadValid k ∧ RxCurValid k then
    ({ k with rhead := k.ring.head, rcur := k.ring.cur,
              ring := { k.ring with tail := k.rtail } }, k.ring.head)
  else (k, k.nkrNumSlots)

/-- The transmit head moves forward over the slots that the user owns. -/
def TxHeadValid (k : NetmapKring) : Prop :=
  k.rhead < k.nkrNumSlots ∧ k.rtail < k.nkrNumSlots ∧ k.ring.head < k.nkrNumSlots ∧
    distance k.nkrNumSlots k.rhead k.ring.head ≤ distance k.nkrNumSlots k.rhead k.rtail

instance (k : NetmapKring) : Decidable (TxHeadValid k) :=
  inferInstanceAs (Decidable (_ ∧ _ ∧ _ ∧ _))

def nmTxsyncPrologue (k : NetmapKring) : NetmapKring × Nat :=
  if TxHeadValid k then
    ({ k with rhead := k.ring.head, rcur := k.ring.cur,
              ring := { k.ring with tail := k.rtail } }, k.ring.head)
  else (k, k.nkrNumSlots)

def nmTxsyncFinalize (k : NetmapKring) : NetmapKring :=
  { k with rtail := k.nrHwtail, ring := { k.ring with tail := k.nrHwtail } }

def nmRxsyncFinalize (k : NetmapKring) : NetmapKring :=
  { k with rtail := k.nrHwtail, rhead := k.ring.head, rcur := k.ring.cur,
           ring := { k.ring with tail := k.nrHwtail } }

def nmb (i : UInt32) : Nat :=
  i.toNat * 2048

def repairSlot (s : NetmapSlot) : NetmapSlot :=
  if nmb s.bufIdx = 0 then { s with bufIdx := 0, len := 0 }
  else if 2048 < s.len.toNat then { s with len := 0 }
  else s

def netmapRingReinit (k : NetmapKring) : NetmapKring × Int :=
  let ring := { k.ring with slot := fun i => repairSlot (k.ring.slot i) }
  if k.ring.head < k.nkrNumSlots ∧ k.ring.cur < k.nkrNumSlots ∧
      k.ring.tail < k.nkrNumSlots then
    ({ k with rhead := k.ring.head, rcur := k.ring.cur, rtail := k.ring.tail,
              ring := ring }, 0)
  else
    ({ k with rhead := k.nrHwcur, rcur := k.nrHwcur, rtail := k.nrHwtail,
              ring := { ring with head := k.nrHwcur, cur := k.nrHwcur,
                                  tail := k.nrHwtail } }, 1)

def netmapVpTxsync (k : NetmapKring) : NetmapKring × List Nat :=
  let sent := distance k.nkrNumSlots k.nrHwcur k.rhead
  let done := advance k.nkrNumSlots k.nrHwcur sent
  let tail := if done = 0 then k.nkrNumSlots - 1 else done - 1
  (nmTxsyncFinalize { k with nrHwcur := done, nrHwtail := tail },
    span k.nkrNumSlots k.nrHwcur sent)

def netmapVpRxsync (k : NetmapKring) : NetmapKring :=
  if (nmRxsyncPrologue k).2 < k.nkrNumSlots then
    nmRxsyncFinalize { (nmRxsyncPrologue k).1 with nrHwcur := (nmRxsyncPrologue k).2 }
  else (netmapRingReinit k).1

theorem nmRxsyncPrologue_keeps (k : NetmapKring) :
    KeepsDriverState k (nmRxsyncPrologue k).1 := by
  unfold nmRxsyncPrologue
  split <;> exact ⟨rfl, rfl, rfl, rfl, rfl, rfl, rfl, rfl, rfl, rfl⟩

theorem nmTxsyncPrologue_keeps (k : NetmapKring) :
    KeepsDriverState k (nmTxsyncPrologue k).1 := by
  unfold nmTxsyncPrologue
  split <;> exact ⟨rfl, rfl, rfl, rfl, rfl, rfl, rfl, rfl, rfl, rfl⟩

theorem nmRxsyncPrologue_sound (k : NetmapKring)
    (hlt : (nmRxsyncPrologue k).2 < k.nkrNumSlots) :
    (nmRxsyncPrologue k).2 = k.ring.head ∧ RxHeadValid k := by
  unfold nmRxsyncPrologue at hlt ⊢
  split
  · rename_i hvalid
    exact ⟨rfl, hvalid.1⟩
  · rename_i hinvalid
    simp [hinvalid] at hlt

theorem nmTxsyncPrologue_rhead (k : NetmapKring) :
    ((nmTxsyncPrologue k).2 < k.nkrNumSlots ∧ (nmTxsyncPrologue k).2 = k.ring.head ∧
        (nmTxsyncPrologue k).1.rhead = k.ring.head) ∨
      (k.nkrNumSlots ≤ (nmTxsyncPrologue k).2 ∧
        (nmTxsyncPrologue k).1.rhead = k.rhead) := by
  unfold nmTxsyncPrologue
  split
  · rename_i hvalid
    exact Or.inl ⟨hvalid.2.2.1, rfl, rfl⟩
  · exact Or.inr ⟨Nat.le_refl _, rfl⟩

theorem netmapRingReinit_rhead_lt {k : NetmapKring} (hcur : k.nrHwcur < k.nkrNumSlots) :
    (netmapRingReinit k).1.rhead < k.nkrNumSlots := by
  unfold netmapRingReinit
  split
  · rename_i hvalid
    exact hvalid.1
  · exact hcur

theorem netmapVpRxsync_rhead_lt (k : NetmapKring) (hcur : k.nrHwcur < k.nkrNumSlots) :
    (netmapVpRxsync k).rhead < k.nkrNumSlots := by
  unfold netmapVpRxsync
  split
  · rename_i haccepted
    change (nmRxsyncPrologue k).1.ring.head < k.nkrNumSlots
    rw [(nmRxsyncPrologue_keeps k).head]
    exact (nmRxsyncPrologue_sound k haccepted).2.2.2.1
  · exact netmapRingReinit_rhead_lt hcur

theorem netmapRingReinit_slot (k : NetmapKring) (i : Nat)
    (hbuf : nmb (k.ring.slot i).bufIdx ≠ 0) (hlen : (k.ring.slot i).len.toNat ≤ 2048) :
    (netmapRingReinit k).1.ring.slot i = k.ring.slot i := by
  have hrepair : repairSlot (k.ring.slot i) = k.ring.slot i := by
    unfold repairSlot
    rw [if_neg hbuf, if_neg (by omega)]
  unfold netmapRingReinit
  split <;> exact hrepair

/-- The interface as netmap implements it. -/
def netmapHeaders : NetmapApi where
  nmNext i lim := if i = lim then 0 else i + 1
  nmPrev i lim := if i = 0 then lim else i - 1
  nmRingEmpty ring := decide (ring.cur = ring.tail)
  nmKrTxempty k := decide (k.rcur = k.nrHwtail)
  netmapIdxN2k k i := (i + k.nkrHwofs) % k.nkrNumSlots
  netmapIdxK2n k i := (i + k.nkrNumSlots - k.nkrHwofs) % k.nkrNumSlots
  nmb := nmb
  netmapBufferBase := 0
  netmapBufSize := 2048
  netmapNoPendintr := true
  nsBufChanged := 0x0001
  nsReport := 0x0002
  nafForceRead := 1
  nafForceReclaim := 2
  nkrPendintr := 0x1
  nmTxsyncPrologue := nmTxsyncPrologue
  nmRxsyncPrologue := nmRxsyncPrologue
  nmTxsyncFinalize := nmTxsyncFinalize
  nmRxsyncFinalize := nmRxsyncFinalize
  netmapRingReinit := netmapRingReinit
  netmapVpTxsync := netmapVpTxsync
  netmapVpRxsync := netmapVpRxsync
  nmNext_eq _ := rfl
  nmPrev_eq _ := rfl
  nmRingEmpty_eq _ := rfl
  nmKrTxempty_eq _ := rfl
  netmapIdxN2k_eq _ _ := rfl
  netmapIdxK2n_eq _ _ := rfl
  nmTxsyncPrologue_keeps := nmTxsyncPrologue_keeps
  nmTxsyncPrologue_rhead := nmTxsyncPrologue_rhead
  nmRxsyncPrologue_keeps := nmRxsyncPrologue_keeps
  nmRxsyncPrologue_accepts k hhead hcur := by
    simp [nmRxsyncPrologue, hhead, hcur]
  nmRxsyncPrologue_sound := nmRxsyncPrologue_sound
  nmTxsyncFinalize_keeps _ := ⟨rfl, rfl, rfl, rfl, rfl, rfl, rfl, rfl, rfl, rfl⟩
  nmTxsyncFinalize_tail _ := rfl
  nmRxsyncFinalize_keeps _ := ⟨rfl, rfl, rfl, rfl, rfl, rfl, rfl, rfl, rfl, rfl⟩
  nmRxsyncFinalize_tail _ := rfl
  netmapRingReinit_nkrNumSlots k := by unfold netmapRingReinit; split <;> rfl
  netmapRingReinit_nrHwcur k := by unfold netmapRingReinit; split <;> rfl
  netmapRingReinit_nrHwtail k := by unfold netmapRingReinit; split <;> rfl
  netmapRingReinit_nrKflags k := by unfold netmapRingReinit; split <;> rfl
  netmapRingReinit_slot := netmapRingReinit_slot
  netmapVpTxsync_nkrNumSlots _ := rfl
  netmapVpTxsync_forwards k _ _ := ⟨_, Nat.le_refl _, rfl, rfl, rfl⟩
  netmapVpRxsync_nkrNumSlots k := by
    unfold netmapVpRxsync
    split
    · exact (nmRxsyncPrologue_keeps k).nkrNumSlots
    · unfold netmapRingReinit
      split <;> rfl
  netmapVpRxsync_nrHwcur k := by
    unfold netmapVpRxsync
    split
    · rfl
    · unfold netmapRingReinit
      split <;> rfl
  netmapVpRxsync_rhead_lt k hcur _ := netmapVpRxsync_rhead_lt k hcur

end XenNet.NetmapReference

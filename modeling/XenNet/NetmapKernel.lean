import XenNet.CyclicIndex

/-!
The netmap kernel interface that the two drivers are written against. Netmap is a
separate tree, so its functions are parameters here, and the fields after them
state the behaviour the drivers rely on. Indices are plain numbers: a ring has an
`int` number of slots, so none of them comes near the end of `u_int`.
-/

namespace XenNet.NetmapKernel

open XenNet.CyclicIndex

structure NetmapSlot where
  bufIdx : UInt32
  len : UInt16
  flags : UInt16
  ptr : UInt64
deriving DecidableEq, Repr

/-- `struct netmap_ring`. The slots follow the header; `slot i` is read for
`i < numSlots` only. -/
structure NetmapRing where
  numSlots : Nat
  head : Nat
  cur : Nat
  tail : Nat
  slot : Nat → NetmapSlot

namespace NetmapRing

def setSlot (ring : NetmapRing) (i : Nat) (s : NetmapSlot) : NetmapRing :=
  { ring with slot := fun j => if j = i then s else ring.slot j }

variable (ring : NetmapRing) (i : Nat) (s : NetmapSlot)

@[simp] theorem setSlot_numSlots : (ring.setSlot i s).numSlots = ring.numSlots := rfl
@[simp] theorem setSlot_head : (ring.setSlot i s).head = ring.head := rfl
@[simp] theorem setSlot_cur : (ring.setSlot i s).cur = ring.cur := rfl
@[simp] theorem setSlot_tail : (ring.setSlot i s).tail = ring.tail := rfl

@[simp] theorem setSlot_slot_self : (ring.setSlot i s).slot i = s := by
  simp [setSlot]

theorem setSlot_slot_of_ne {j : Nat} (hne : j ≠ i) :
    (ring.setSlot i s).slot j = ring.slot j := by
  simp [setSlot, hne]

end NetmapRing

/-- `struct netmap_kring`, with the ring it controls. `rhead`, `rcur` and `rtail` are
netmap's copies of the ring's indices. -/
structure NetmapKring where
  nkrNumSlots : Nat
  nrHwcur : Nat
  nrHwtail : Nat
  nkrHwofs : Nat
  nrKflags : UInt32
  nkrSlotFlags : UInt16
  rhead : Nat
  rcur : Nat
  rtail : Nat
  ring : NetmapRing

/-- Netmap's prologues and finalizers refresh `rhead`, `rcur`, `rtail` and the `tail`
shown to the user. Everything else of a kring stays. -/
structure KeepsDriverState (k k' : NetmapKring) : Prop where
  nkrNumSlots : k'.nkrNumSlots = k.nkrNumSlots
  nrHwcur : k'.nrHwcur = k.nrHwcur
  nrHwtail : k'.nrHwtail = k.nrHwtail
  nkrHwofs : k'.nkrHwofs = k.nkrHwofs
  nrKflags : k'.nrKflags = k.nrKflags
  nkrSlotFlags : k'.nkrSlotFlags = k.nkrSlotFlags
  numSlots : k'.ring.numSlots = k.ring.numSlots
  head : k'.ring.head = k.ring.head
  cur : k'.ring.cur = k.ring.cur
  slot : k'.ring.slot = k.ring.slot

theorem KeepsDriverState.refl (k : NetmapKring) : KeepsDriverState k k :=
  ⟨rfl, rfl, rfl, rfl, rfl, rfl, rfl, rfl, rfl, rfl⟩

theorem KeepsDriverState.trans {k k' k'' : NetmapKring}
    (h : KeepsDriverState k k') (h' : KeepsDriverState k' k'') : KeepsDriverState k k'' where
  nkrNumSlots := h'.nkrNumSlots.trans h.nkrNumSlots
  nrHwcur := h'.nrHwcur.trans h.nrHwcur
  nrHwtail := h'.nrHwtail.trans h.nrHwtail
  nkrHwofs := h'.nkrHwofs.trans h.nkrHwofs
  nrKflags := h'.nrKflags.trans h.nrKflags
  nkrSlotFlags := h'.nkrSlotFlags.trans h.nkrSlotFlags
  numSlots := h'.numSlots.trans h.numSlots
  head := h'.head.trans h.head
  cur := h'.cur.trans h.cur
  slot := h'.slot.trans h.slot

/-- The user of a receive ring has released slots up to `head` only, and none beyond
those that netmap has given out. -/
def RxHeadValid (k : NetmapKring) : Prop :=
  k.nrHwcur < k.nkrNumSlots ∧ k.nrHwtail < k.nkrNumSlots ∧ k.ring.head < k.nkrNumSlots ∧
    distance k.nkrNumSlots k.nrHwcur k.ring.head ≤
      distance k.nkrNumSlots k.nrHwcur k.nrHwtail

/-- The user's `cur` lies between its `head` and the slots given out. -/
def RxCurValid (k : NetmapKring) : Prop :=
  k.ring.cur < k.nkrNumSlots ∧
    distance k.nkrNumSlots k.ring.head k.ring.cur ≤
      distance k.nkrNumSlots k.ring.head k.nrHwtail

instance (k : NetmapKring) : Decidable (RxHeadValid k) :=
  inferInstanceAs (Decidable (_ ∧ _ ∧ _ ∧ _))

instance (k : NetmapKring) : Decidable (RxCurValid k) :=
  inferInstanceAs (Decidable (_ ∧ _))

/-- The functions and constants of the netmap kernel module that the drivers use, and
what the drivers expect of them. -/
structure NetmapApi where
  nmNext : Nat → Nat → Nat
  nmPrev : Nat → Nat → Nat
  nmRingEmpty : NetmapRing → Bool
  nmKrTxempty : NetmapKring → Bool
  netmapIdxN2k : NetmapKring → Nat → Nat
  netmapIdxK2n : NetmapKring → Nat → Nat
  /-- `NMB`: the address of a packet buffer, looked up by its index. -/
  nmb : UInt32 → Nat
  netmapBufferBase : Nat
  netmapBufSize : Nat
  netmapNoPendintr : Bool
  nsBufChanged : UInt16
  nsReport : UInt16
  nafForceRead : UInt32
  nafForceReclaim : UInt32
  nkrPendintr : UInt32
  nmTxsyncPrologue : NetmapKring → NetmapKring × Nat
  nmRxsyncPrologue : NetmapKring → NetmapKring × Nat
  nmTxsyncFinalize : NetmapKring → NetmapKring
  nmRxsyncFinalize : NetmapKring → NetmapKring
  netmapRingReinit : NetmapKring → NetmapKring × Int
  /-- The bridge port's transmit function, with the slots it handed to the bridge. -/
  netmapVpTxsync : NetmapKring → NetmapKring × List Nat
  netmapVpRxsync : NetmapKring → NetmapKring
  nmNext_eq : ∀ {i lim : Nat}, i ≤ lim → nmNext i lim = if i = lim then 0 else i + 1
  nmPrev_eq : ∀ {i lim : Nat}, i ≤ lim → nmPrev i lim = if i = 0 then lim else i - 1
  nmRingEmpty_eq : ∀ ring, nmRingEmpty ring = decide (ring.cur = ring.tail)
  nmKrTxempty_eq : ∀ k, nmKrTxempty k = decide (k.rcur = k.nrHwtail)
  netmapIdxN2k_eq : ∀ {k i}, i < k.nkrNumSlots → k.nkrHwofs < k.nkrNumSlots →
    netmapIdxN2k k i = (i + k.nkrHwofs) % k.nkrNumSlots
  netmapIdxK2n_eq : ∀ {k i}, i < k.nkrNumSlots → k.nkrHwofs < k.nkrNumSlots →
    netmapIdxK2n k i = (i + k.nkrNumSlots - k.nkrHwofs) % k.nkrNumSlots
  nmTxsyncPrologue_keeps : ∀ k, KeepsDriverState k (nmTxsyncPrologue k).1
  /-- A head that the transmit prologue does not reject becomes `rhead`. -/
  nmTxsyncPrologue_rhead : ∀ k,
    ((nmTxsyncPrologue k).2 < k.nkrNumSlots ∧ (nmTxsyncPrologue k).2 = k.ring.head ∧
        (nmTxsyncPrologue k).1.rhead = k.ring.head) ∨
      (k.nkrNumSlots ≤ (nmTxsyncPrologue k).2 ∧ (nmTxsyncPrologue k).1.rhead = k.rhead)
  nmRxsyncPrologue_keeps : ∀ k, KeepsDriverState k (nmRxsyncPrologue k).1
  nmRxsyncPrologue_accepts : ∀ k, RxHeadValid k → RxCurValid k →
    (nmRxsyncPrologue k).2 = k.ring.head
  nmRxsyncPrologue_sound : ∀ k, (nmRxsyncPrologue k).2 < k.nkrNumSlots →
    (nmRxsyncPrologue k).2 = k.ring.head ∧ RxHeadValid k
  nmTxsyncFinalize_keeps : ∀ k, KeepsDriverState k (nmTxsyncFinalize k)
  nmTxsyncFinalize_tail : ∀ k, (nmTxsyncFinalize k).ring.tail = k.nrHwtail
  nmRxsyncFinalize_keeps : ∀ k, KeepsDriverState k (nmRxsyncFinalize k)
  nmRxsyncFinalize_tail : ∀ k, (nmRxsyncFinalize k).ring.tail = k.nrHwtail
  netmapRingReinit_nkrNumSlots : ∀ k, (netmapRingReinit k).1.nkrNumSlots = k.nkrNumSlots
  netmapRingReinit_nrHwcur : ∀ k, (netmapRingReinit k).1.nrHwcur = k.nrHwcur
  netmapRingReinit_nrHwtail : ∀ k, (netmapRingReinit k).1.nrHwtail = k.nrHwtail
  netmapRingReinit_nrKflags : ∀ k, (netmapRingReinit k).1.nrKflags = k.nrKflags
  /-- Only slots with a bad buffer or a bad length are repaired. -/
  netmapRingReinit_slot : ∀ k i, nmb (k.ring.slot i).bufIdx ≠ netmapBufferBase →
    (k.ring.slot i).len.toNat ≤ netmapBufSize →
    (netmapRingReinit k).1.ring.slot i = k.ring.slot i
  netmapVpTxsync_nkrNumSlots : ∀ k, (netmapVpTxsync k).1.nkrNumSlots = k.nkrNumSlots
  /-- The slots from `nr_hwcur` on are handed over, up to `rhead` at most, and
  `nr_hwcur` is left at the slot where that stopped. -/
  netmapVpTxsync_forwards : ∀ k, k.nrHwcur < k.nkrNumSlots → k.rhead < k.nkrNumSlots →
    ∃ sent, sent ≤ distance k.nkrNumSlots k.nrHwcur k.rhead ∧
      (netmapVpTxsync k).2 = span k.nkrNumSlots k.nrHwcur sent ∧
      (netmapVpTxsync k).1.nrHwcur = advance k.nkrNumSlots k.nrHwcur sent ∧
      (netmapVpTxsync k).1.rhead = k.rhead
  netmapVpRxsync_nkrNumSlots : ∀ k, (netmapVpRxsync k).nkrNumSlots = k.nkrNumSlots
  /-- The bridge port's receive function takes over the head that the receive prologue
  accepts, and forwards nothing. -/
  netmapVpRxsync_nrHwcur : ∀ k, (netmapVpRxsync k).nrHwcur =
    if (nmRxsyncPrologue k).2 < k.nkrNumSlots then (nmRxsyncPrologue k).2 else k.nrHwcur
  netmapVpRxsync_rhead_lt : ∀ k, k.nrHwcur < k.nkrNumSlots → k.rhead < k.nkrNumSlots →
    (netmapVpRxsync k).rhead < k.nkrNumSlots

namespace NetmapApi

variable (nm : NetmapApi)

theorem nmNext_eq_advance {n i : Nat} (hi : i < n) : nm.nmNext i (n - 1) = advance n i 1 := by
  rw [nm.nmNext_eq (by omega), advance_one hi]
  split_ifs <;> omega

theorem nmNext_lt {n i : Nat} (hi : i < n) : nm.nmNext i (n - 1) < n := by
  rw [nm.nmNext_eq_advance hi]
  exact advance_lt (by omega) i 1

theorem nmPrev_lt {n i : Nat} (hi : i < n) : nm.nmPrev i (n - 1) < n := by
  rw [nm.nmPrev_eq (by omega)]
  split_ifs <;> omega

theorem distance_nmPrev_eq_emod {n a b : Nat} (ha : a < n) (hb : b < n) :
    (((a : Int) - 1 - b) % n).toNat = distance n b (nm.nmPrev a (n - 1)) := by
  rw [← distance_eq_emod (Nat.le_of_lt hb), nm.nmPrev_eq (by omega)]
  split
  · rename_i hzero
    rw [← Int.add_emod_right]
    congr 2
    omega
  · congr 2
    omega

theorem distance_add_room {n a b : Nat} (ha : a < n) (hb : b < n) :
    distance n a b + distance n b (nm.nmPrev a (n - 1)) + 1 = n := by
  have hprev := nm.nmPrev_lt ha
  rw [distance_eq_ite ha hb, distance_eq_ite hb hprev, nm.nmPrev_eq (by omega)]
  split_ifs <;> omega

theorem within_nmPrev_iff {n c h i : Nat} (hc : c < n) (hh : h < n) (hi : i < n) :
    Within n h (nm.nmPrev c (n - 1)) i ↔
      ¬ Within n c h i ∧ i ≠ nm.nmPrev c (n - 1) := by
  have hprev := nm.nmPrev_lt hc
  unfold Within
  rw [distance_eq_ite hh hi, distance_eq_ite hh hprev, distance_eq_ite hc hi,
    distance_eq_ite hc hh, nm.nmPrev_eq (by omega)]
  split_ifs <;> omega

theorem nmRingEmpty_iff (ring : NetmapRing) :
    nm.nmRingEmpty ring = true ↔ ring.cur = ring.tail := by
  rw [nm.nmRingEmpty_eq]
  exact decide_eq_true_iff

end NetmapApi

def iffUp : UInt32 := 1

/-- `!(ifp)->flags & IFF_UP`, where the negation comes first. Both drivers look at this when
netmap turns them on or off. -/
def downCheck (flags : UInt32) : Bool :=
  (if flags = 0 then 1 else 0) &&& iffUp ≠ 0

theorem downCheck_iff {flags : UInt32} : downCheck flags = true ↔ flags = 0 := by
  unfold downCheck
  split
  · rename_i hzero
    simp [hzero, iffUp]
  · rename_i hflags
    simp [hflags]

def einval : Int := 22

end XenNet.NetmapKernel

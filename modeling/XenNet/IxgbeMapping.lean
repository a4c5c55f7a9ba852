import XenNet.NetmapReference
import XenNet.TransitionSystem
import XenNet.NetbackModel
import Mathlib.Data.Multiset.Filter
import Mathlib.Data.Multiset.Range

/-!
The patch for ixgbe, which gives every buffer of a ring a DMA mapping. The table of the
mappings is filled by the index that the NIC uses for a slot, and read by the index that
netmap uses. What the functions do outside the hunks of the patch is not part of this tree:
the rounds of their loops may come in any order.
-/

namespace XenNet.IxgbeMapping

open XenNet.TransitionSystem
open XenNet.NetmapKernel
open XenNet.NetmapReference
open XenNet.NetbackModel

/-- A mapping that `dma_map_single` created for the buffer at an address, and the value that
it returned. -/
structure DmaMapping where
  addr : Nat
  dma : UInt64
deriving DecidableEq, Repr

/-- A ring of the NIC. `bufferInfo` are the fields `dma` of `tx_buffer_info` or
`rx_buffer_info`, with the mappings that they were stored for, and `mapped` the mappings
that exist. -/
structure IxgbeRing where
  kring : NetmapKring
  bufferInfo : Nat → DmaMapping
  mapped : Multiset DmaMapping

namespace IxgbeRing

/-- `num_tx_desc` or `num_rx_desc`, with which netmap makes the kring. -/
def numDesc (ring : IxgbeRing) : Nat :=
  ring.kring.nkrNumSlots

def slot (ring : IxgbeRing) : Nat → NetmapSlot :=
  ring.kring.ring.slot

def setSlot (ring : IxgbeRing) (i : Nat) (slot : NetmapSlot) : IxgbeRing :=
  { ring with kring := { ring.kring with ring := ring.kring.ring.setSlot i slot } }

def setFlags (ring : IxgbeRing) (i : Nat) (flags : UInt16) : IxgbeRing :=
  ring.setSlot i { ring.slot i with flags := flags }

/-- `PNMB` of a slot. -/
def slotAddr (nm : NetmapApi) (ring : IxgbeRing) (i : Nat) : Nat :=
  nm.nmb (ring.slot i).bufIdx

@[simp] theorem setSlot_slot (ring : IxgbeRing) (i k : Nat) (slot : NetmapSlot) :
    (ring.setSlot i slot).slot k = if k = i then slot else ring.slot k := rfl

@[simp] theorem setSlot_bufferInfo (ring : IxgbeRing) (i : Nat) (slot : NetmapSlot) :
    (ring.setSlot i slot).bufferInfo = ring.bufferInfo := rfl

@[simp] theorem setFlags_slot (ring : IxgbeRing) (i k : Nat) (flags : UInt16) :
    (ring.setFlags i flags).slot k =
      if k = i then { ring.slot i with flags := flags } else ring.slot k := rfl

@[simp] theorem setFlags_bufferInfo (ring : IxgbeRing) (i : Nat) (flags : UInt16) :
    (ring.setFlags i flags).bufferInfo = ring.bufferInfo := rfl

@[simp] theorem slotAddr_setFlags (nm : NetmapApi) (ring : IxgbeRing) (i k : Nat)
    (flags : UInt16) : (ring.setFlags i flags).slotAddr nm k = ring.slotAddr nm k := by
  unfold slotAddr
  rw [setFlags_slot]
  split
  · rename_i hk
    rw [hk]
  · rfl

theorem setFlags_self (ring : IxgbeRing) (i : Nat) :
    ring.setFlags i (ring.slot i).flags = ring := by
  have hring : ring.kring.ring.setSlot i (ring.kring.ring.slot i) = ring.kring.ring := by
    unfold NetmapRing.setSlot
    congr 1
    funext k
    split
    · rename_i hk
      rw [hk]
    · rfl
  change { ring with kring := { ring.kring with
    ring := ring.kring.ring.setSlot i (ring.kring.ring.slot i) } } = ring
  rw [hring]

end IxgbeRing

/-- `netmap_load_map`, where `dma_map_single` returns `dma`. -/
def netmapLoadMap (ring : IxgbeRing) (i addr : Nat) (dma : UInt64) : IxgbeRing :=
  { ring with
    bufferInfo := fun k => if k = i then ⟨addr, dma⟩ else ring.bufferInfo k
    mapped := ⟨addr, dma⟩ ::ₘ ring.mapped }

def dmaUnmapSingle (ring : IxgbeRing) (m : DmaMapping) : IxgbeRing :=
  { ring with mapped := ring.mapped.erase m }

def netmapReloadMap (ring : IxgbeRing) (i addr : Nat) (dma : UInt64) : IxgbeRing :=
  let m := ring.bufferInfo i
  netmapLoadMap (if m.dma ≠ 0 then dmaUnmapSingle ring m else ring) i addr dma

theorem netmapReloadMap_eq (ring : IxgbeRing) (i addr : Nat) (dma : UInt64) :
    netmapReloadMap ring i addr dma =
      { netmapLoadMap ring i addr dma with
        mapped := ⟨addr, dma⟩ ::ₘ
          if (ring.bufferInfo i).dma ≠ 0 then ring.mapped.erase (ring.bufferInfo i)
          else ring.mapped } := by
  unfold netmapReloadMap
  dsimp only
  split <;> rfl

section Functions

variable (nm : NetmapApi)

/-- The body of the loops that configure a ring. -/
def configureStep (dma : Nat → UInt64) (ring : IxgbeRing) (i : Nat) : IxgbeRing :=
  netmapLoadMap ring i (ring.slotAddr nm (nm.netmapIdxN2k ring.kring i)) (dma i)

/-- `ixgbe_netmap_configure_tx_ring`, with the value that it returns. -/
def ixgbeNetmapConfigureTxRing (nativeOn reset : Bool) (dma : Nat → UInt64)
    (ring : IxgbeRing) : IxgbeRing × Int :=
  if !nativeOn then (ring, 0)
  else if !reset then (ring, 0)
  else ((List.range ring.numDesc).foldl (configureStep nm dma) ring, 1)

/-- The patched loop of `ixgbe_netmap_configure_rx_ring`. -/
def ixgbeNetmapConfigureRxRing (dma : Nat → UInt64) (ring : IxgbeRing) : IxgbeRing :=
  (List.range ring.numDesc).foldl (configureStep nm dma) ring

/-- What `ixgbe_netmap_txsync` does with slot `nmI`, and `paddr`, unless it leaves the loop.
`checkAddrLen` tells whether `NM_CHECK_ADDR_LEN` leaves it. -/
def ixgbeNetmapTxsync (checkAddrLen : Nat → UInt16 → Bool) (ring : IxgbeRing) (nmI : Nat)
    (dma : UInt64) : IxgbeRing × Option DmaMapping :=
  let slot := ring.slot nmI
  let addr := ring.slotAddr nm nmI
  let paddr := ring.bufferInfo nmI
  if checkAddrLen addr slot.len then (ring, none)
  else
    let reloaded :=
      if slot.flags &&& nm.nsBufChanged ≠ 0 then
        let ring := netmapReloadMap ring nmI addr dma
        (ring, ring.bufferInfo nmI)
      else (ring, paddr)
    (reloaded.1.setFlags nmI (slot.flags &&& ~~~(nm.nsReport ||| nm.nsBufChanged)),
      some reloaded.2)

/-- What `ixgbe_netmap_rxsync` does with slot `nmI`, and `paddr`, unless the buffer is bad. -/
def ixgbeNetmapRxsync (ring : IxgbeRing) (nmI : Nat) (dma : UInt64) :
    IxgbeRing × Option DmaMapping :=
  let slot := ring.slot nmI
  let addr := ring.slotAddr nm nmI
  let paddr := ring.bufferInfo nmI
  if addr = nm.netmapBufferBase then (ring, none)
  else if slot.flags &&& nm.nsBufChanged ≠ 0 then
    let ring := netmapReloadMap ring nmI addr dma
    (ring.setFlags nmI (slot.flags &&& ~~~nm.nsBufChanged), some (ring.bufferInfo nmI))
  else (ring, some paddr)

variable (checkAddrLen : Nat → UInt16 → Bool)

def syncSlot : Txrx → IxgbeRing → Nat → UInt64 → IxgbeRing × Option DmaMapping
  | .nrTx => ixgbeNetmapTxsync nm checkAddrLen
  | .nrRx => ixgbeNetmapRxsync nm

/-- The ring that a call of the configuring function leaves behind. -/
def Configured (dma : Nat → UInt64) (ring : IxgbeRing) : Txrx → IxgbeRing → Prop
  | .nrTx, ring' => ∃ nativeOn reset,
      ixgbeNetmapConfigureTxRing nm nativeOn reset dma ring = (ring', 1)
  | .nrRx, ring' => ring' = ixgbeNetmapConfigureRxRing nm dma ring

/-- The user puts another buffer or a packet into a slot, or a sync handles a slot. -/
inductive RingEvent where
  | swap (i : Nat) (bufIdx : UInt32) (flags : UInt16)
  | fill (i : Nat) (len : UInt16)
  | round (nmI : Nat) (dma : UInt64)

def ringStep (dir : Txrx) (ring : IxgbeRing) : RingEvent → Option IxgbeRing
  | .swap i bufIdx flags =>
      if i < ring.numDesc then
        some (ring.setSlot i { ring.slot i with
          bufIdx := bufIdx
          flags := flags ||| nm.nsBufChanged })
      else none
  | .fill i len =>
      if i < ring.numDesc then some (ring.setSlot i { ring.slot i with len := len }) else none
  | .round nmI dma =>
      if nmI < ring.numDesc then some (syncSlot nm checkAddrLen dir ring nmI dma).1 else none

end Functions

/-- What a sync does with slot `nmI`: it leaves the slot, it maps the buffer again, or it takes
the mapping that the table has at `nmI`. -/
inductive SlotRound (nm : NetmapApi) (ring : IxgbeRing) (nmI : Nat) (dma : UInt64) :
    IxgbeRing × Option DmaMapping → Prop
  | left : SlotRound nm ring nmI dma (ring, none)
  | reloaded (flags : UInt16) (hchanged : (ring.slot nmI).flags &&& nm.nsBufChanged ≠ 0) :
      SlotRound nm ring nmI dma
        ((netmapReloadMap ring nmI (ring.slotAddr nm nmI) dma).setFlags nmI flags,
          some ⟨ring.slotAddr nm nmI, dma⟩)
  | kept (flags : UInt16) (hsame : (ring.slot nmI).flags &&& nm.nsBufChanged = 0)
      (hclear : flags &&& nm.nsBufChanged = 0) :
      SlotRound nm ring nmI dma (ring.setFlags nmI flags, some (ring.bufferInfo nmI))

section Rounds

variable (nm : NetmapApi) (checkAddrLen : Nat → UInt16 → Bool) (ring : IxgbeRing) (nmI : Nat)
  (dma : UInt64)

@[simp] theorem netmapReloadMap_slot (i addr : Nat) :
    (netmapReloadMap ring i addr dma).slot = ring.slot := by
  rw [netmapReloadMap_eq]
  rfl

@[simp] theorem netmapReloadMap_bufferInfo (i addr k : Nat) :
    (netmapReloadMap ring i addr dma).bufferInfo k =
      if k = i then ⟨addr, dma⟩ else ring.bufferInfo k := by
  rw [netmapReloadMap_eq]
  rfl

theorem and_compl_or_and (flags report changed : UInt16) :
    flags &&& ~~~(report ||| changed) &&& changed = 0 := by
  apply UInt16.toBitVec_inj.mp
  apply BitVec.eq_of_getLsbD_eq
  intro i hi
  simp [hi]

theorem syncSlot_round (dir : Txrx) :
    SlotRound nm ring nmI dma (syncSlot nm checkAddrLen dir ring nmI dma) := by
  cases dir with
  | nrTx =>
      simp only [syncSlot, ixgbeNetmapTxsync]
      split
      · exact .left
      · split
        · rename_i hchanged
          simp only [netmapReloadMap_bufferInfo, if_true]
          exact .reloaded _ hchanged
        · rename_i hsame
          exact .kept _ (not_not.mp hsame) (and_compl_or_and _ _ _)
  | nrRx =>
      simp only [syncSlot, ixgbeNetmapRxsync]
      split
      · exact .left
      · split
        · rename_i hchanged
          simp only [netmapReloadMap_bufferInfo, if_true]
          exact .reloaded _ hchanged
        · rename_i hsame
          have hkept : SlotRound nm ring nmI dma
              (ring.setFlags nmI (ring.slot nmI).flags, some (ring.bufferInfo nmI)) :=
            .kept _ (not_not.mp hsame) (not_not.mp hsame)
          rwa [ring.setFlags_self] at hkept

end Rounds

/-- Every entry of the table stands for a mapping that exists. -/
def EntriesMapped (ring : IxgbeRing) (n : Nat) : Prop :=
  (Multiset.range n).map ring.bufferInfo ≤ ring.mapped

theorem EntriesMapped.mem {ring : IxgbeRing} {n i : Nat} (hentries : EntriesMapped ring n)
    (hi : i < n) : ring.bufferInfo i ∈ ring.mapped :=
  Multiset.mem_of_le hentries (Multiset.mem_map_of_mem _ (Multiset.mem_range.mpr hi))

theorem EntriesMapped.load {ring : IxgbeRing} {i : Nat} (hentries : EntriesMapped ring i)
    (addr : Nat) (dma : UInt64) : EntriesMapped (netmapLoadMap ring i addr dma) (i + 1) := by
  have hothers : (Multiset.range i).map (netmapLoadMap ring i addr dma).bufferInfo =
      (Multiset.range i).map ring.bufferInfo := by
    apply Multiset.map_congr rfl
    intro k hk
    exact if_neg (Nat.ne_of_lt (Multiset.mem_range.mp hk))
  have hnew : (netmapLoadMap ring i addr dma).bufferInfo i = ⟨addr, dma⟩ := if_pos rfl
  unfold EntriesMapped
  rw [Multiset.range_succ, Multiset.map_cons, hothers, hnew]
  exact Multiset.cons_le_cons _ hentries

theorem EntriesMapped.reload {ring : IxgbeRing} {n i : Nat} (hentries : EntriesMapped ring n)
    (hi : i < n) (addr : Nat) (dma : UInt64) :
    EntriesMapped (netmapReloadMap ring i addr dma) n := by
  have hmem : i ∈ Multiset.range n := Multiset.mem_range.mpr hi
  have hothers : ((Multiset.range n).erase i).map (netmapReloadMap ring i addr dma).bufferInfo =
      ((Multiset.range n).map ring.bufferInfo).erase (ring.bufferInfo i) := by
    rw [← Multiset.map_erase_of_mem ring.bufferInfo _ hmem]
    apply Multiset.map_congr rfl
    intro k hk
    have hne : k ≠ i := ((Multiset.nodup_range n).mem_erase_iff.mp hk).1
    rw [netmapReloadMap_bufferInfo, if_neg hne]
  unfold EntriesMapped
  rw [← Multiset.cons_erase hmem, Multiset.map_cons, hothers, netmapReloadMap_bufferInfo,
    if_pos rfl, netmapReloadMap_eq]
  apply Multiset.cons_le_cons
  split
  · exact Multiset.erase_le_erase _ hentries
  · exact (Multiset.erase_le _ _).trans hentries

section Configuration

variable {nm : NetmapApi} {dma : Nat → UInt64} {ring : IxgbeRing}

/-- The ring after `i` rounds of the loop that configures it. -/
structure ConfiguredAfter (nm : NetmapApi) (dma : Nat → UInt64) (ring : IxgbeRing) (i : Nat)
    (s : IxgbeRing) : Prop where
  kring : s.kring = ring.kring
  entry : ∀ k, k < i →
    s.bufferInfo k = ⟨ring.slotAddr nm (nm.netmapIdxN2k ring.kring k), dma k⟩
  entries : EntriesMapped s i

theorem configuredAfter_succ {i : Nat} {s : IxgbeRing}
    (h : ConfiguredAfter nm dma ring i s) :
    ConfiguredAfter nm dma ring (i + 1) (configureStep nm dma s i) := by
  refine ⟨h.kring, fun k hk => ?_, h.entries.load _ _⟩
  rcases Nat.lt_succ_iff_lt_or_eq.mp hk with hlt | rfl
  · exact (if_neg (Nat.ne_of_lt hlt)).trans (h.entry k hlt)
  · refine (if_pos rfl).trans ?_
    rw [IxgbeRing.slotAddr, IxgbeRing.slotAddr, IxgbeRing.slot, IxgbeRing.slot, h.kring]

theorem configuredAfter_loop (nm : NetmapApi) (dma : Nat → UInt64) (ring : IxgbeRing) :
    ConfiguredAfter nm dma ring ring.numDesc
      ((List.range ring.numDesc).foldl (configureStep nm dma) ring) :=
  foldl_range_invariant (I := ConfiguredAfter nm dma ring)
    ⟨rfl, fun _ hk => absurd hk (Nat.not_lt_zero _), Multiset.zero_le _⟩
    (fun _ _ _ h => configuredAfter_succ h)

theorem Configured.after {dir : Txrx} {ring' : IxgbeRing}
    (hconf : Configured nm dma ring dir ring') :
    ConfiguredAfter nm dma ring ring.numDesc ring' := by
  cases dir with
  | nrTx =>
      obtain ⟨nativeOn, reset, hcall⟩ := hconf
      unfold ixgbeNetmapConfigureTxRing at hcall
      split_ifs at hcall
      · exact absurd (Prod.mk.inj hcall).2 (by decide)
      · exact absurd (Prod.mk.inj hcall).2 (by decide)
      · rw [← (Prod.mk.inj hcall).1]
        exact configuredAfter_loop nm dma ring
  | nrRx =>
      obtain rfl : ring' = ixgbeNetmapConfigureRxRing nm dma ring := hconf
      exact configuredAfter_loop nm dma ring

theorem ConfiguredAfter.numDesc {i : Nat} {s : IxgbeRing} (h : ConfiguredAfter nm dma ring i s) :
    s.numDesc = ring.numDesc :=
  congrArg NetmapKring.nkrNumSlots h.kring

theorem ConfiguredAfter.entry_addr {s : IxgbeRing} (h : ConfiguredAfter nm dma ring ring.numDesc s)
    {k : Nat} (hk : k < s.numDesc) :
    (s.bufferInfo k).addr = s.slotAddr nm (nm.netmapIdxN2k s.kring k) := by
  rw [h.entry k (h.numDesc ▸ hk), h.kring]
  simp only [IxgbeRing.slotAddr, IxgbeRing.slot, h.kring]

end Configuration

/-- The slot is marked as one whose buffer changed. -/
def Changed (nm : NetmapApi) (ring : IxgbeRing) (i : Nat) : Prop :=
  (ring.slot i).flags &&& nm.nsBufChanged ≠ 0

instance (nm : NetmapApi) (ring : IxgbeRing) (i : Nat) : Decidable (Changed nm ring i) :=
  inferInstanceAs (Decidable (_ ≠ _))

def RingEvent.Swaps (e : RingEvent) (i : Nat) : Prop :=
  ∃ bufIdx flags, e = .swap i bufIdx flags

/-- What holds of a ring that was configured as `start`, when the slots that were marked
since are those of `F`: the others are as they were, and of these each one is still marked
or has a mapping of its own buffer in its own entry. -/
structure TableKept (nm : NetmapApi) (start : IxgbeRing) (F : Nat → Prop) (s : IxgbeRing) :
    Prop where
  numDesc : s.numDesc = start.numDesc
  unmarked : ∀ i, ¬ F i →
    s.slotAddr nm i = start.slotAddr nm i ∧ ¬ Changed nm s i ∧ s.bufferInfo i = start.bufferInfo i
  marked : ∀ i, F i → Changed nm s i ∨ (s.bufferInfo i).addr = s.slotAddr nm i
  entries : EntriesMapped s start.numDesc

section Runs

variable {nm : NetmapApi} {checkAddrLen : Nat → UInt16 → Bool} {dir : Txrx}
  {start s t : IxgbeRing} {F : Nat → Prop}

theorem or_and_self_eq (flags changed : UInt16) : (flags ||| changed) &&& changed = changed := by
  apply UInt16.toBitVec_inj.mp
  apply BitVec.eq_of_getLsbD_eq
  intro i hi
  simp only [UInt16.toBitVec_and, UInt16.toBitVec_or, BitVec.getLsbD_and, BitVec.getLsbD_or]
  cases changed.toBitVec.getLsbD i <;> simp

theorem changed_setFlags {i j : Nat} {flags : UInt16} :
    Changed nm (s.setFlags j flags) i ↔
      if i = j then flags &&& nm.nsBufChanged ≠ 0 else Changed nm s i := by
  unfold Changed
  rw [IxgbeRing.setFlags_slot]
  split <;> rfl

theorem TableKept.swap (hchanged : nm.nsBufChanged ≠ 0) (hkept : TableKept nm start F s)
    (j : Nat) (bufIdx : UInt32) (flags : UInt16) :
    TableKept nm start (fun i => F i ∨ i = j) (s.setSlot j { s.slot j with
      bufIdx := bufIdx
      flags := flags ||| nm.nsBufChanged }) := by
  refine ⟨hkept.numDesc, fun i hi => ?_, fun i hi => ?_, hkept.entries⟩
  · rw [not_or] at hi
    simpa [IxgbeRing.slotAddr, Changed, hi.2] using hkept.unmarked i hi.1
  · by_cases hij : i = j
    · subst hij
      refine Or.inl ?_
      simpa [Changed, or_and_self_eq] using hchanged
    · simpa [IxgbeRing.slotAddr, Changed, hij] using hkept.marked i (hi.resolve_right hij)

theorem TableKept.fill (hkept : TableKept nm start F s) (j : Nat) (len : UInt16) :
    TableKept nm start F (s.setSlot j { s.slot j with len := len }) := by
  have haddr : ∀ i, (s.setSlot j { s.slot j with len := len }).slotAddr nm i =
      s.slotAddr nm i := by
    intro i
    by_cases hij : i = j <;> simp [IxgbeRing.slotAddr, hij]
  have hflag : ∀ i, Changed nm (s.setSlot j { s.slot j with len := len }) i ↔
      Changed nm s i := by
    intro i
    by_cases hij : i = j <;> simp [Changed, hij]
  refine ⟨hkept.numDesc, fun i hi => ?_, fun i hi => ?_, hkept.entries⟩
  · rw [haddr, hflag]
    exact hkept.unmarked i hi
  · rw [haddr, hflag]
    exact hkept.marked i hi

theorem TableKept.round (hkept : TableKept nm start F s) {nmI : Nat}
    (hnmI : nmI < start.numDesc) {dma : UInt64} {result : IxgbeRing × Option DmaMapping}
    (hround : SlotRound nm s nmI dma result) : TableKept nm start F result.1 := by
  cases hround with
  | left => exact hkept
  | reloaded flags hchanged =>
      refine ⟨?_, fun i hi => ?_, fun i hi => ?_, hkept.entries.reload hnmI _ _⟩
      · rw [netmapReloadMap_eq]
        exact hkept.numDesc
      · have hunmarked := hkept.unmarked i hi
        have hne : i ≠ nmI := fun heq => hunmarked.2.1 (heq ▸ hchanged)
        simpa [changed_setFlags, hne, IxgbeRing.slotAddr, Changed] using hunmarked
      · by_cases hij : i = nmI
        · subst hij
          refine Or.inr ?_
          simp [IxgbeRing.slotAddr]
        · simpa [changed_setFlags, hij, IxgbeRing.slotAddr, Changed] using hkept.marked i hi
  | kept flags hsame hclear =>
      refine ⟨hkept.numDesc, fun i hi => ?_, fun i hi => ?_, hkept.entries⟩
      · obtain ⟨haddr, hflag, hentry⟩ := hkept.unmarked i hi
        refine ⟨by rw [IxgbeRing.slotAddr_setFlags, haddr], ?_, hentry⟩
        rw [changed_setFlags]
        split
        · exact not_not_intro hclear
        · exact hflag
      · rw [changed_setFlags, IxgbeRing.slotAddr_setFlags, IxgbeRing.setFlags_bufferInfo]
        split
        · rename_i hij
          refine Or.inr ((hkept.marked i hi).resolve_left ?_)
          rw [hij]
          exact not_not_intro hsame
        · exact hkept.marked i hi

theorem TableKept.step (hchanged : nm.nsBufChanged ≠ 0) (hkept : TableKept nm start F s)
    {e : RingEvent} (hstep : ringStep nm checkAddrLen dir s e = some t) :
    TableKept nm start (fun i => F i ∨ e.Swaps i) t := by
  cases e with
  | swap j bufIdx flags =>
      simp only [ringStep, Option.ite_none_right_eq_some, Option.some.injEq] at hstep
      obtain ⟨_, rfl⟩ := hstep
      have hswaps : ∀ i, RingEvent.Swaps (.swap j bufIdx flags) i ↔ i = j := fun i =>
        ⟨fun ⟨_, _, heq⟩ => (RingEvent.swap.inj heq).1.symm,
          fun heq => ⟨bufIdx, flags, by rw [heq]⟩⟩
      simp only [hswaps]
      exact hkept.swap hchanged j bufIdx flags
  | fill j len =>
      simp only [ringStep, Option.ite_none_right_eq_some, Option.some.injEq] at hstep
      obtain ⟨_, rfl⟩ := hstep
      have hswaps : ∀ i, ¬ RingEvent.Swaps (.fill j len) i := fun i ⟨_, _, heq⟩ => nomatch heq
      simp only [hswaps, or_false]
      exact hkept.fill j len
  | round nmI dma =>
      simp only [ringStep, Option.ite_none_right_eq_some, Option.some.injEq] at hstep
      obtain ⟨hnmI, rfl⟩ := hstep
      have hswaps : ∀ i, ¬ RingEvent.Swaps (.round nmI dma) i := fun i ⟨_, _, heq⟩ => nomatch heq
      rw [hkept.numDesc] at hnmI
      simp only [hswaps, or_false]
      exact hkept.round hnmI (syncSlot_round nm checkAddrLen s nmI dma dir)

theorem TableKept.run (hchanged : nm.nsBufChanged ≠ 0) (hkept : TableKept nm start F s)
    {es : List RingEvent} (hrun : run (ringStep nm checkAddrLen dir) s es = some t) :
    TableKept nm start (fun i => F i ∨ ∃ e ∈ es, e.Swaps i) t := by
  induction es generalizing s F with
  | nil =>
      obtain rfl : s = t := by simpa using hrun
      simpa using hkept
  | cons e es ih =>
      obtain ⟨u, hstep, hrest⟩ := run_cons_eq_some.mp hrun
      have htail := ih (hkept.step hchanged hstep) hrest
      simp only [List.exists_mem_cons_iff, ← or_assoc]
      exact htail

theorem Configured.kept {ring : IxgbeRing} {dma : Nat → UInt64}
    (hconf : Configured nm dma ring dir start) :
    TableKept nm start (Changed nm start) start := by
  have hafter := hconf.after
  refine ⟨rfl, fun i hi => ⟨rfl, hi, rfl⟩, fun i hi => Or.inl hi, ?_⟩
  rw [hafter.numDesc]
  exact hafter.entries

end Runs

/-- The slot was marked when the ring was configured, or the user put another buffer into it
since. -/
def Marked (nm : NetmapApi) (ring : IxgbeRing) (es : List RingEvent) (i : Nat) : Prop :=
  Changed nm ring i ∨ ∃ e ∈ es, e.Swaps i

/-- `paddr` is a mapping that exists after the round, and was created for the buffer that the
slot holds. -/
def RightMapping (nm : NetmapApi) (ring : IxgbeRing) (nmI : Nat) (after : IxgbeRing)
    (paddr : DmaMapping) : Prop :=
  paddr ∈ after.mapped ∧ paddr.addr = ring.slotAddr nm nmI

theorem netmapIdxN2k_eq_self_iff (nm : NetmapApi) {kring : NetmapKring} {i : Nat}
    (hi : i < kring.nkrNumSlots) (hofs : kring.nkrHwofs < kring.nkrNumSlots) :
    nm.netmapIdxN2k kring i = i ↔ kring.nkrHwofs = 0 := by
  rw [nm.netmapIdxN2k_eq hi hofs]
  constructor
  · intro hself
    rcases Nat.lt_or_ge (i + kring.nkrHwofs) kring.nkrNumSlots with hlt | hge
    · rw [Nat.mod_eq_of_lt hlt] at hself
      omega
    · rw [Nat.mod_eq_sub_mod hge, Nat.mod_eq_of_lt (by omega)] at hself
      omega
  · intro hzero
    rw [hzero, Nat.add_zero, Nat.mod_eq_of_lt hi]

/-- Every slot of the ring has a buffer of its own. -/
def OwnBuffer (nm : NetmapApi) (ring : IxgbeRing) : Prop :=
  ∀ i, i < ring.numDesc → ∀ j, j < ring.numDesc →
    ring.slotAddr nm i = ring.slotAddr nm j → i = j

theorem slotAddr_n2k_eq_iff {nm : NetmapApi} {ring : IxgbeRing} (hown : OwnBuffer nm ring)
    (hofs : ring.kring.nkrHwofs < ring.numDesc) {i : Nat} (hi : i < ring.numDesc) :
    ring.slotAddr nm (nm.netmapIdxN2k ring.kring i) = ring.slotAddr nm i ↔
      ring.kring.nkrHwofs = 0 := by
  have hlt : nm.netmapIdxN2k ring.kring i < ring.numDesc := by
    rw [nm.netmapIdxN2k_eq hi hofs]
    exact Nat.mod_lt _ (Nat.zero_lt_of_lt hi)
  rw [← netmapIdxN2k_eq_self_iff nm hi hofs]
  exact ⟨fun heq => hown _ hlt i hi heq, fun heq => by rw [heq]⟩

/-- A sync takes the mapping of the slot's own buffer exactly when the slot was marked before,
or the offset of the ring does not lead to the buffer of another slot. -/
theorem rightMapping_iff (nm : NetmapApi) (hchanged : nm.nsBufChanged ≠ 0)
    (checkAddrLen : Nat → UInt16 → Bool) (dir : Txrx) {dma : Nat → UInt64}
    {ring start s : IxgbeRing} (hconf : Configured nm dma ring dir start)
    {es : List RingEvent} (hrun : run (ringStep nm checkAddrLen dir) start es = some s)
    {nmI : Nat} (hnmI : nmI < start.numDesc) (dma' : UInt64) {paddr : DmaMapping}
    (hpaddr : (syncSlot nm checkAddrLen dir s nmI dma').2 = some paddr) :
    (RightMapping nm s nmI (syncSlot nm checkAddrLen dir s nmI dma').1 paddr ↔
      Marked nm start es nmI ∨
        start.slotAddr nm (nm.netmapIdxN2k start.kring nmI) = start.slotAddr nm nmI) ∧
    (OwnBuffer nm start → start.kring.nkrHwofs < start.numDesc →
      (start.slotAddr nm (nm.netmapIdxN2k start.kring nmI) = start.slotAddr nm nmI ↔
        start.kring.nkrHwofs = 0)) := by
  have hkept := hconf.kept.run hchanged hrun
  have hafter := hconf.after
  refine ⟨?_, fun hown hofs => slotAddr_n2k_eq_iff hown hofs hnmI⟩
  have hround := syncSlot_round nm checkAddrLen s nmI dma' dir
  have hentries := (hkept.round hnmI hround).entries
  generalize syncSlot nm checkAddrLen dir s nmI dma' = result at hround hpaddr hentries ⊢
  unfold Marked
  cases hround with
  | left => contradiction
  | reloaded flags hflag =>
      obtain rfl := Option.some.inj hpaddr
      have hmarked : Changed nm start nmI ∨ ∃ e ∈ es, e.Swaps nmI :=
        by_contra fun hnone => (hkept.unmarked nmI hnone).2.1 hflag
      refine iff_of_true ⟨?_, rfl⟩ (Or.inl hmarked)
      have hmem := hentries.mem hnmI
      simpa using hmem
  | kept flags hsame hclear =>
      obtain rfl := Option.some.inj hpaddr
      have hmem : s.bufferInfo nmI ∈ s.mapped := hkept.entries.mem hnmI
      by_cases hmarked : Changed nm start nmI ∨ ∃ e ∈ es, e.Swaps nmI
      · have haddr := (hkept.marked nmI hmarked).resolve_left (not_not_intro hsame)
        exact iff_of_true ⟨hmem, haddr⟩ (Or.inl hmarked)
      · obtain ⟨haddr, _, hentry⟩ := hkept.unmarked nmI hmarked
        have hstored : (s.bufferInfo nmI).addr =
            start.slotAddr nm (nm.netmapIdxN2k start.kring nmI) := by
          rw [hentry, hafter.entry_addr hnmI]
        rw [or_iff_right hmarked, RightMapping, hstored, haddr]
        exact and_iff_right hmem

/-- A ring of two slots with the buffers 5 and 6. -/
def twoSlots (ofs : Nat) : IxgbeRing where
  kring :=
    { nkrNumSlots := 2
      nrHwcur := 0
      nrHwtail := 1
      nkrHwofs := ofs
      nrKflags := 0
      nkrSlotFlags := 0
      rhead := 0
      rcur := 0
      rtail := 1
      ring := ⟨2, 0, 0, 1, fun i => ⟨UInt32.ofNat (5 + i), 60, 0, 0⟩⟩ }
  bufferInfo := fun _ => ⟨0, 0⟩
  mapped := 0

def configuredTwoSlots (ofs : Nat) : IxgbeRing :=
  (ixgbeNetmapConfigureTxRing netmapHeaders true true (fun i => UInt64.ofNat (100 + i))
    (twoSlots ofs)).1

theorem rightMapping_iff_two_slots :
    ∃ s, run (ringStep netmapHeaders (fun _ _ => false) .nrTx) (configuredTwoSlots 1)
        [.swap 0 9 0] = some s ∧
      RightMapping netmapHeaders s 0
        (syncSlot netmapHeaders (fun _ _ => false) .nrTx s 0 77).1 ⟨18432, 77⟩ := by
  have hconf : Configured netmapHeaders (fun i => UInt64.ofNat (100 + i)) (twoSlots 1) .nrTx
      (configuredTwoSlots 1) := ⟨true, true, rfl⟩
  have hrun : run (ringStep netmapHeaders (fun _ _ => false) .nrTx) (configuredTwoSlots 1)
      [.swap 0 9 0] = some ((configuredTwoSlots 1).setSlot 0 ⟨9, 60, 1, 0⟩) := rfl
  have hiff := (rightMapping_iff netmapHeaders (by decide) (fun _ _ => false) .nrTx hconf hrun
    (show 0 < 2 by decide) 77 rfl).1
  exact ⟨_, hrun, hiff.mpr (Or.inl (Or.inr ⟨_, List.mem_singleton_self _, 9, 0, rfl⟩))⟩

/-- With an offset of one, slot 0 is sent with the mapping that was created for the buffer of
slot 1. -/
theorem rightMapping_fails :
    (syncSlot netmapHeaders (fun _ _ => false) .nrTx (configuredTwoSlots 1) 0 77).2 =
        some ⟨12288, 100⟩ ∧
      (configuredTwoSlots 1).slotAddr netmapHeaders 0 = 10240 ∧
      ¬ ∀ (nm : NetmapApi) (checkAddrLen : Nat → UInt16 → Bool) (dir : Txrx)
        (dma : Nat → UInt64) (ring start s : IxgbeRing) (es : List RingEvent) (nmI : Nat)
        (dma' : UInt64) (paddr : DmaMapping), nm.nsBufChanged ≠ 0 →
        ring.kring.nkrHwofs < ring.numDesc → OwnBuffer nm ring →
        Configured nm dma ring dir start →
        run (ringStep nm checkAddrLen dir) start es = some s → nmI < start.numDesc →
        (syncSlot nm checkAddrLen dir s nmI dma').2 = some paddr →
        RightMapping nm s nmI (syncSlot nm checkAddrLen dir s nmI dma').1 paddr := by
  have hpaddr : (syncSlot netmapHeaders (fun _ _ => false) .nrTx (configuredTwoSlots 1) 0 77).2 =
      some ⟨12288, 100⟩ := by
    decide
  refine ⟨hpaddr, by decide, fun halways => ?_⟩
  have hown : OwnBuffer netmapHeaders (twoSlots 1) := by
    unfold OwnBuffer
    decide
  have hright := halways netmapHeaders (fun _ _ => false) .nrTx (fun i => UInt64.ofNat (100 + i))
    (twoSlots 1) (configuredTwoSlots 1) (configuredTwoSlots 1) [] 0 77 _ (by decide)
    (by decide) hown ⟨true, true, rfl⟩ rfl (by decide) hpaddr
  exact absurd hright.2 (by decide)

end XenNet.IxgbeMapping

import XenNet.ReceiveSync
import XenNet.TransmitSystem

namespace XenNet.PacketBounds

open XenNet.ByteMemory
open XenNet.CopySequence
open XenNet.NetmapKernel
open XenNet.NetfrontModel
open XenNet.NetfrontTransmit
open XenNet.TransmitSystem
open XenNet.NetfrontReceive
open XenNet.ReceiveImport
open XenNet.ReceiveLoop
open XenNet.ReceiveSync

def InBuffer (p a : Nat) : Prop :=
  p ≤ a ∧ a < p + netfrontBufSize

/-- From `ni` to `ni'` nothing changes but the buffer of `ring->cur`. -/
structure StaysInBuffer (ni ni' : NetmapInfo) : Prop where
  inside : ∀ a, ni'.bufs a ≠ ni.bufs a →
    InBuffer (netfrontBuf ni.txdBufsBase ni.txRings.cur) a
  others : ∀ i, i ≠ ni.txRings.cur →
    bytes ni'.bufs (netfrontBuf ni.txdBufsBase i) netfrontBufSize =
      bytes ni.bufs (netfrontBuf ni.txdBufsBase i) netfrontBufSize

/-- There is no room in the ring, or what the packet has past a buffer's size is already
there, behind the buffer of `ring->cur`. -/
def XmitFits (mem : Nat → UInt8) (call : XmitCall) : Prop :=
  call.ni.txRings.cur = call.ni.txRings.tail ∨
    ∀ o, netfrontBufSize ≤ o → o < call.len →
      mem (call.buf + o) =
        call.ni.bufs (netfrontBuf call.ni.txdBufsBase call.ni.txRings.cur + o)

/-- The same for one packet of the import loop. -/
def ImportFits (nm : NetmapApi) (ni : NetmapInfo) (st : RxImport) : Prop :=
  ∀ o, netfrontBufSize ≤ o → o < (ni.rxRings.slot st.cur).len.toNat →
    ni.bufs (netfrontBuf ni.rxdBufsBase st.cur + o) =
      st.mem (nm.nmb (st.ring.slot st.nmI).bufIdx + o)

/-- Call `netfront_netmap_rxsync` copies `p` packets: its import part runs and stops there,
or does not run. -/
def RxPackets (nm : NetmapApi) (np : NetfrontInfo) (mem : Nat → UInt8) (kring : NetmapKring)
    (flags : UInt32) (p : Nat) : Prop :=
  if (nm.nmRxsyncPrologue kring).2 < kring.nkrNumSlots ∧ importEnabled nm kring flags = true
  then RxStopsAt nm np mem kring p
  else p = 0

abbrev rxCallCopy (nm : NetmapApi) (np : NetfrontInfo) (mem : Nat → UInt8)
    (kring : NetmapKring) : Nat → Copy :=
  importCopy nm np.naPriv kring.nkrNumSlots (rxImportStart np.naPriv mem kring)

/-- Address `a` is in the buffer that one of the first `p` packets of a call goes to. -/
def InDestination (nm : NetmapApi) (np : NetfrontInfo) (mem : Nat → UInt8)
    (kring : NetmapKring) (p a : Nat) : Prop :=
  ∃ t, t < p ∧ InBuffer (rxCallCopy nm np mem kring t).dst a

/-- What a packet of the call brings to an address outside the buffers that the call fills,
and no later packet overwrites, is already there. -/
def RxFits (nm : NetmapApi) (np : NetfrontInfo) (mem : Nat → UInt8) (kring : NetmapKring)
    (p : Nat) : Prop :=
  ∀ t, t < p → ∀ a, ¬InDestination nm np mem kring p a →
    (rxCallCopy nm np mem kring t).Covers a →
    (∀ s, t < s → s < p → ¬(rxCallCopy nm np mem kring s).Covers a) →
    np.naPriv.bufs ((rxCallCopy nm np mem kring t).src +
      (a - (rxCallCopy nm np mem kring t).dst)) = mem a

section Transmit

variable (nm : NetmapApi) (mem : Nat → UInt8)

theorem xmitFits_of_short {call : XmitCall} (hshort : call.len ≤ netfrontBufSize) :
    XmitFits mem call :=
  Or.inr fun o hsize hlen => by omega

theorem staysInBuffer_iff_inside {ni ni' : NetmapInfo} :
    StaysInBuffer ni ni' ↔ ∀ a, ni'.bufs a ≠ ni.bufs a →
      InBuffer (netfrontBuf ni.txdBufsBase ni.txRings.cur) a := by
  refine ⟨StaysInBuffer.inside, fun hinside => ⟨hinside, fun i hi => ?_⟩⟩
  have hapart := netfrontBuf_disjoint (t := ni.txdBufsBase) hi
  refine bytes_congr fun k hk => ?_
  by_contra hne
  obtain ⟨hlow, hhigh⟩ := hinside _ hne
  omega

theorem xmit_staysInBuffer_iff (call : XmitCall) :
    StaysInBuffer call.ni (call.result nm mem).1 ↔ XmitFits mem call := by
  rw [staysInBuffer_iff_inside, XmitFits]
  by_cases hempty : call.ni.txRings.cur = call.ni.txRings.tail
  · rw [XmitCall.result, xmit_of_empty _ _ _ _ nm hempty]
    constructor
    · intro _
      exact Or.inl hempty
    · intro _ a hne
      contradiction
  · rw [XmitCall.result, xmit_of_not_empty _ _ _ _ nm hempty, acceptTx_bufs]
    exact (memcpy_changes_iff call.ni.bufs mem _ call.buf call.len netfrontBufSize).trans
      (or_iff_right hempty).symm

theorem xmitCalls_len (head lim : Nat) {fuel nmI : Nat} {ni : NetmapInfo} {ring : NetmapRing}
    {call : XmitCall} (hcall : call ∈ xmitCalls nm mem head lim fuel nmI ni ring) :
    ∃ i, call.len = (ring.slot i).len.toNat := by
  induction fuel generalizing nmI ni ring with
  | zero => simp [xmitCalls] at hcall
  | succ fuel ih =>
      by_cases hdone : nmI = head
      · simp [xmitCalls, hdone] at hcall
      · by_cases hempty : ni.txRings.cur = ni.txRings.tail
        · rw [(txsyncLoop_of_empty nm mem lim fuel ring hdone hempty).2] at hcall
          exact ⟨nmI, congrArg XmitCall.len (List.mem_singleton.mp hcall)⟩
        · rw [(txsyncLoop_of_not_empty nm mem lim fuel ring hdone hempty).2] at hcall
          rcases List.mem_cons.mp hcall with rfl | hcall
          · exact ⟨nmI, rfl⟩
          · obtain ⟨i, hi⟩ := ih hcall
            exact ⟨i, hi.trans (congrArg UInt16.toNat (markSent_len nm ring nmI i))⟩

theorem txsyncCalls_len {np : NetfrontInfo} {kring : NetmapKring} {call : XmitCall}
    (hcall : call ∈ txsyncCalls nm np mem kring) :
    ∃ i, call.len = (kring.ring.slot i).len.toNat := by
  unfold txsyncCalls at hcall
  split at hcall
  · contradiction
  · exact xmitCalls_len nm mem _ _ hcall

theorem txsyncLoop_bufs (head lim : Nat) {fuel nmI nmI' : Nat} {ni ni' : NetmapInfo}
    {ring ring' : NetmapRing}
    (hloop : txsyncLoop nm mem head lim fuel nmI ni ring = some (nmI', ni', ring')) {a : Nat}
    (hsame : ∀ call ∈ xmitCalls nm mem head lim fuel nmI ni ring,
      (call.result nm mem).1.bufs a = call.ni.bufs a) : ni'.bufs a = ni.bufs a := by
  induction fuel generalizing nmI ni ring with
  | zero => simp [txsyncLoop] at hloop
  | succ fuel ih =>
      by_cases hdone : nmI = head
      · simp only [txsyncLoop, if_pos hdone, Option.some.injEq, Prod.mk.injEq] at hloop
        rw [hloop.2.1]
      · by_cases hempty : ni.txRings.cur = ni.txRings.tail
        · rw [(txsyncLoop_of_empty nm mem lim fuel ring hdone hempty).1] at hloop
          simp only [Option.some.injEq, Prod.mk.injEq] at hloop
          rw [hloop.2.1]
        · obtain ⟨hrest, hcalls⟩ :=
            txsyncLoop_of_not_empty nm mem lim fuel ring hdone hempty
          rw [hrest] at hloop
          rw [hcalls] at hsame
          have hfirst := hsame _ List.mem_cons_self
          rw [XmitCall.result, loopCall, xmit_of_not_empty _ _ _ _ nm hempty] at hfirst
          exact (ih hloop fun call hcall => hsame call (List.mem_cons_of_mem _ hcall)).trans
            hfirst

theorem txsync_bufs {np np' : NetfrontInfo} {kring kring' : NetmapKring} {flags : UInt32}
    (hcall : netfrontNetmapTxsync nm np mem kring flags = some (np', kring')) {a : Nat}
    (hsame : ∀ call ∈ txsyncCalls nm np mem kring,
      (call.result nm mem).1.bufs a = call.ni.bufs a) :
    np'.naPriv.bufs a = np.naPriv.bufs a := by
  unfold netfrontNetmapTxsync at hcall
  unfold txsyncCalls at hsame
  cases hcarrier : np.carrierOk with
  | true =>
      simp only [hcarrier, Bool.not_true, if_neg Bool.false_ne_true] at hcall hsame
      split at hcall
      · contradiction
      · rename_i nmI ni ring hloop
        simp only [Option.some.injEq, Prod.mk.injEq] at hcall
        rw [← hcall.1]
        exact txsyncLoop_bufs nm mem _ _ hloop hsame
  | false =>
      simp only [hcarrier, Bool.not_false, if_true, Option.some.injEq, Prod.mk.injEq] at hcall
      rw [← hcall.1]

end Transmit

section Receive

variable (nm : NetmapApi) (np : NetfrontInfo) (mem : Nat → UInt8) (kring : NetmapKring)
  (flags : UInt32)

theorem importSlot_changes_iff (slotFlags : UInt16) (lim : Nat) (ni : NetmapInfo)
    (st : RxImport) :
    (∀ a, (importSlot nm ni slotFlags lim st).mem a ≠ st.mem a →
      InBuffer (nm.nmb (st.ring.slot st.nmI).bufIdx) a) ↔ ImportFits nm ni st :=
  memcpy_changes_iff st.mem ni.bufs _ _ _ netfrontBufSize

theorem rxFits_of_short {p : Nat}
    (hshort : ∀ i, (np.naPriv.rxRings.slot i).len.toNat ≤ netfrontBufSize) :
    RxFits nm np mem kring p := by
  intro t ht a houtside hcovers _
  obtain ⟨hlow, hhigh⟩ := hcovers
  have hlen : (rxCallCopy nm np mem kring t).len ≤ netfrontBufSize := hshort _
  exact absurd ⟨t, ht, hlow, by omega⟩ houtside

theorem exists_rxPackets : ∃ p, RxPackets nm np mem kring flags p := by
  unfold RxPackets
  split
  · exact exists_stopsAt nm np.naPriv _ _ _
  · exact ⟨0, rfl⟩

theorem skipReleased_mem {head : Nat} {call : RxCall}
    (hcall : skipReleased nm np mem kring head = some call) : call.mem = mem := by
  unfold skipReleased at hcall
  split at hcall
  · contradiction
  · rw [← Option.some.inj hcall]

variable {kring flags}

theorem rxCopies_of_keeps {kring' : NetmapKring} (hkeeps : KeepsDriverState kring kring')
    (p : Nat) : rxCopies nm np mem kring' p = rxCopies nm np mem kring p := by
  rw [rxCopies, importCopy_of_keeps nm np mem hkeeps]

theorem rxsync_mem_of_reject {call : RxCall}
    (hreject : ¬(nm.nmRxsyncPrologue kring).2 < kring.nkrNumSlots)
    (hcall : netfrontNetmapRxsync nm np mem kring flags = some call) : call.mem = mem := by
  have hkeeps := nm.nmRxsyncPrologue_keeps kring
  unfold netfrontNetmapRxsync at hcall
  dsimp only at hcall
  split at hcall
  · rw [← Option.some.inj hcall]
  · -- only a ring without slots gets here
    rename_i hin
    have hnone : (nm.nmRxsyncPrologue kring).1.nkrNumSlots = 0 := by
      rw [hkeeps.nkrNumSlots] at hin ⊢
      omega
    split at hcall
    · simp [importReceived, hnone, importLoop] at hcall
    · exact skipReleased_mem nm np mem _ hcall

theorem rxsync_mem {call : RxCall} {p : Nat} (hpackets : RxPackets nm np mem kring flags p)
    (hcall : netfrontNetmapRxsync nm np mem kring flags = some call) :
    call.mem = rxCopies nm np mem kring p := by
  have hkeeps := nm.nmRxsyncPrologue_keeps kring
  by_cases haccept : (nm.nmRxsyncPrologue kring).2 < kring.nkrNumSlots
  · obtain ⟨_, hhwcur, hhwtail, hhead, _⟩ := nm.nmRxsyncPrologue_sound kring haccept
    rw [rxsync_of_accept nm np mem flags haccept] at hcall
    unfold RxPackets at hpackets
    rw [importEnabled_of_keeps nm flags hkeeps] at hcall
    by_cases henabled : importEnabled nm kring flags = true
    · rw [if_pos ⟨haccept, henabled⟩] at hpackets
      rw [if_pos henabled] at hcall
      have hstops := rxStopsAt_of_keeps nm np mem hkeeps hpackets
      rw [← hkeeps.nrHwcur, ← hkeeps.nkrNumSlots] at hhwcur
      rw [← hkeeps.nrHwtail, ← hkeeps.nkrNumSlots] at hhwtail
      rw [← hkeeps.nkrNumSlots] at hhead
      by_cases hbad : RxBadAt nm np mem (nm.nmRxsyncPrologue kring).1 p
      · rw [importReceived_of_bad nm np mem hhwcur hhwtail hstops hbad] at hcall
        rw [← Option.some.inj hcall]
        exact rxCopies_of_keeps nm np mem hkeeps p
      · rw [importReceived_of_good nm np mem hhwcur hhwtail hhead hstops hbad] at hcall
        rw [← Option.some.inj hcall]
        exact rxCopies_of_keeps nm np mem hkeeps p
    · rw [if_neg fun hboth => henabled hboth.2] at hpackets
      rw [if_neg henabled] at hcall
      rw [hpackets]
      exact skipReleased_mem nm np mem _ hcall
  · unfold RxPackets at hpackets
    rw [if_neg fun hboth => haccept hboth.1] at hpackets
    rw [hpackets]
    exact rxsync_mem_of_reject nm np mem haccept hcall

theorem rxsync_returns (flags : UInt32) (hslots : 0 < kring.nkrNumSlots) :
    ∃ call, netfrontNetmapRxsync nm np mem kring flags = some call := by
  have hkeeps := nm.nmRxsyncPrologue_keeps kring
  by_cases haccept : (nm.nmRxsyncPrologue kring).2 < kring.nkrNumSlots
  · obtain ⟨_, hhwcur, hhwtail, hhead, _⟩ := nm.nmRxsyncPrologue_sound kring haccept
    rw [rxsync_of_accept nm np mem flags haccept]
    rw [← hkeeps.nrHwcur, ← hkeeps.nkrNumSlots] at hhwcur
    rw [← hkeeps.nrHwtail, ← hkeeps.nkrNumSlots] at hhwtail
    rw [← hkeeps.nkrNumSlots] at hhead
    split
    · obtain ⟨p, hstops⟩ : ∃ p, RxStopsAt nm np mem (nm.nmRxsyncPrologue kring).1 p :=
        exists_stopsAt nm np.naPriv _ _ _
      by_cases hbad : RxBadAt nm np mem (nm.nmRxsyncPrologue kring).1 p
      · exact ⟨_, importReceived_of_bad nm np mem hhwcur hhwtail hstops hbad⟩
      · exact ⟨_, importReceived_of_good nm np mem hhwcur hhwtail hhead hstops hbad⟩
    · obtain ⟨kring', hskip, _⟩ := skipReleased_spec nm np mem _ hhead hhwcur
      exact ⟨_, hskip⟩
  · refine ⟨_, if_pos ?_⟩
    rw [hkeeps.nkrNumSlots]
    omega

theorem rxsync_changes_iff {call : RxCall} {p : Nat}
    (hpackets : RxPackets nm np mem kring flags p)
    (hcall : netfrontNetmapRxsync nm np mem kring flags = some call) :
    (∀ a, call.mem a ≠ mem a → InDestination nm np mem kring p a) ↔
      RxFits nm np mem kring p := by
  rw [rxsync_mem nm np mem hpackets hcall, RxFits,
    ← copies_keep_iff np.naPriv.bufs mem (rxCallCopy nm np mem kring) p
      fun a => ¬InDestination nm np mem kring p a]
  exact forall_congr' fun a => not_imp_comm

end Receive

/-- A packet that goes out changes its own buffer alone exactly when it finds what it has past
the buffer's size already there, and likewise for a packet that comes in and for all packets
of a call. Packets of at most `NETFRONT_BUF_SIZE` bytes always do. -/
theorem packet_copies_iff (nm : NetmapApi) :
    (∀ mem call, StaysInBuffer call.ni (call.result nm mem).1 ↔ XmitFits mem call) ∧
      (∀ np mem kring flags np' kring',
        netfrontNetmapTxsync nm np mem kring flags = some (np', kring') →
        ((∀ call ∈ txsyncCalls nm np mem kring, XmitFits mem call) →
          ∀ a, np'.naPriv.bufs a ≠ np.naPriv.bufs a → ∃ call ∈ txsyncCalls nm np mem kring,
            InBuffer (netfrontBuf call.ni.txdBufsBase call.ni.txRings.cur) a) ∧
        ((∀ i, (kring.ring.slot i).len.toNat ≤ netfrontBufSize) →
          ∀ call ∈ txsyncCalls nm np mem kring, XmitFits mem call)) ∧
      (∀ ni slotFlags lim st, (∀ a, (importSlot nm ni slotFlags lim st).mem a ≠ st.mem a →
        InBuffer (nm.nmb (st.ring.slot st.nmI).bufIdx) a) ↔ ImportFits nm ni st) ∧
      ∀ np mem kring flags, 0 < kring.nkrNumSlots →
        ∃ call p, netfrontNetmapRxsync nm np mem kring flags = some call ∧
          RxPackets nm np mem kring flags p ∧
          ((∀ a, call.mem a ≠ mem a → InDestination nm np mem kring p a) ↔
            RxFits nm np mem kring p) ∧
          ((∀ i, (np.naPriv.rxRings.slot i).len.toNat ≤ netfrontBufSize) →
            RxFits nm np mem kring p) := by
  refine ⟨fun mem call => xmit_staysInBuffer_iff nm mem call, ?_, ?_, ?_⟩
  · intro np mem kring flags np' kring' hsync
    refine ⟨fun hfits a hchanged => ?_, fun hshort call hcall => ?_⟩
    · by_contra houtside
      refine hchanged (txsync_bufs nm mem hsync fun call hcall => ?_)
      by_contra hne
      have hstays := (xmit_staysInBuffer_iff nm mem call).mpr (hfits call hcall)
      exact houtside ⟨call, hcall, hstays.inside a hne⟩
    · obtain ⟨i, hi⟩ := txsyncCalls_len nm mem hcall
      exact xmitFits_of_short mem (hi ▸ hshort i)
  · intro ni slotFlags lim st
    exact importSlot_changes_iff nm slotFlags lim ni st
  · intro np mem kring flags hslots
    obtain ⟨call, hcall⟩ := rxsync_returns nm np mem flags hslots
    obtain ⟨p, hpackets⟩ := exists_rxPackets nm np mem kring flags
    exact ⟨call, p, hcall, hpackets, rxsync_changes_iff nm np mem hpackets hcall,
      fun hshort => rxFits_of_short nm np mem kring hshort⟩

/-- The user's ring with one packet to send, a byte longer than a buffer. -/
def longPacket : NetmapKring where
  nkrNumSlots := 4
  nrHwcur := 0
  nrHwtail := 3
  nkrHwofs := 0
  nrKflags := 0
  nkrSlotFlags := 0
  rhead := 1
  rcur := 1
  rtail := 3
  ring := { numSlots := 4, head := 1, cur := 1, tail := 3, slot := fun _ => ⟨1, 2049, 0, 0⟩ }

/-- Its last byte goes to the buffer of the next slot. -/
theorem packet_copies_overrun :
    ¬ ∀ (nm : NetmapApi) (np : NetfrontInfo) (mem : Nat → UInt8) (kring : NetmapKring),
      ∀ call ∈ txsyncCalls nm np mem kring, StaysInBuffer call.ni (call.result nm mem).1 := by
  intro halways
  have hwrong : (txsyncCalls NetmapReference.netmapHeaders (freshTx 4).np (fun _ => 1)
      longPacket).any (fun call =>
        (call.result NetmapReference.netmapHeaders fun _ => 1).1.bufs 2048 != call.ni.bufs 2048 &&
          decide (netfrontBuf call.ni.txdBufsBase call.ni.txRings.cur = 0)) = true := by
    decide
  obtain ⟨call, hcall, hboth⟩ := List.any_eq_true.mp hwrong
  rw [Bool.and_eq_true, bne_iff_ne, decide_eq_true_eq] at hboth
  obtain ⟨_, hbehind⟩ := (halways _ _ _ _ call hcall).inside 2048 hboth.1
  rw [hboth.2] at hbehind
  exact absurd hbehind (by decide)

end XenNet.PacketBounds

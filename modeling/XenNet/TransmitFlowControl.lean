import XenNet.NetmapReference
import XenNet.TransmitSystem

namespace XenNet.TransmitFlowControl

open XenNet.CyclicIndex
open XenNet.TransitionSystem
open XenNet.NetmapKernel
open XenNet.NetmapReference
open XenNet.NetfrontModel
open XenNet.NetfrontTransmit
open XenNet.TransmitLoop
open XenNet.TransmitSystem

/-- There is room for the next `p` packets: the ring is found empty and none is taken, or
the free slots from `txcur` on suffice, or the last free slot is taken by a packet that is
published at once, after which the ring is found empty. -/
def TxRoom (ni : NetmapInfo) (p : Nat) : Prop :=
  p = 0 ∨ ni.txRings.cur = ni.txRings.tail ∨
    TxIndexFits ni p ∧
      (p ≤ distance ni.txRings.numSlots ni.stat.txcur.toNat ni.txRings.tail ∨
        ni.stat.hostNeedTxkick = true ∧
          distance ni.txRings.numSlots ni.stat.txcur.toNat ni.txRings.tail = 1)

def RoomForBatch (s : TxSystem) : TxEvent → Prop
  | .txsync user _ =>
      s.np.carrierOk = true → user.rhead < s.kring.nkrNumSlots →
        TxRoom s.np.naPriv (s.pending user)
  | _ => True

instance (ni : NetmapInfo) (p : Nat) : Decidable (TxRoom ni p) :=
  inferInstanceAs (Decidable (_ ∨ _ ∨ _ ∧ _))

instance (s : TxSystem) : (e : TxEvent) → Decidable (RoomForBatch s e)
  | .txsync _ _ => inferInstanceAs (Decidable (_ → _ → _))
  | .txInterrupt => isTrue trivial
  | .host _ _ => isTrue trivial
  | .carrier _ => isTrue trivial

/-- A packet is accepted only into a free slot of the shared ring. -/
def XmitCall.IntoFreeSlot (nm : NetmapApi) (mem : Nat → UInt8) (call : XmitCall) : Prop :=
  call.accepted nm mem = true →
    Within call.ni.txRings.numSlots call.ni.txRings.cur call.ni.txRings.tail
      call.ni.stat.txcur.toNat

instance (nm : NetmapApi) (mem : Nat → UInt8) (call : XmitCall) :
    Decidable (XmitCall.IntoFreeSlot nm mem call) :=
  inferInstanceAs (Decidable (_ → _))

/-- What flow control asks of a step. -/
def FlowControlled (nm : NetmapApi) (s : TxSystem) : TxEvent → Prop
  | .txsync user flags =>
      user.rhead < s.kring.nkrNumSlots →
        (∀ call ∈ txsyncCalls nm s.np user.mem (user.load s.kring),
          XmitCall.IntoFreeSlot nm user.mem call) ∧
        ∃ t, txStep nm s (.txsync user flags) = some t ∧
          (∀ call ∈ txsyncCalls nm s.np user.mem (user.load s.kring),
            call.accepted nm user.mem = false →
              (call.result nm user.mem).1 = call.ni ∧
                call.nmI = t.kring.nrHwcur ∧ t.kring.nrHwcur ≠ user.rhead) ∧
          (∀ i, i < s.ring.numSlots →
            Within s.ring.numSlots s.hostCur s.stat.txcur.toNat i ∨
              Within s.ring.numSlots s.ring.tail s.hostCur i →
            t.ring.slot i = s.ring.slot i)
  | _ => True

/-- While a batch with room is sent: the indices stay in order, there is room for the
rest, and the slots that were filled or belong to the host are as they were. -/
structure RoomKept (ni₀ : NetmapInfo) (hostCur p : Nat) (ni : NetmapInfo) : Prop where
  indices : TxIndices ni hostCur
  room : TxRoom ni p
  numSlots : ni.txRings.numSlots = ni₀.txRings.numSlots
  tail : ni.txRings.tail = ni₀.txRings.tail
  txcur_ge : distance ni₀.txRings.numSlots hostCur ni₀.stat.txcur.toNat ≤
    distance ni₀.txRings.numSlots hostCur ni.stat.txcur.toNat
  slot : ∀ i, i < ni₀.txRings.numSlots →
    Within ni₀.txRings.numSlots hostCur ni₀.stat.txcur.toNat i ∨
      Within ni₀.txRings.numSlots ni₀.txRings.tail hostCur i →
    ni.txRings.slot i = ni₀.txRings.slot i

theorem TxRoom.txcur_ne_tail {ni : NetmapInfo} {hostCur p : Nat}
    (hidx : TxIndices ni hostCur) (hroom : TxRoom ni (p + 1))
    (hne : ni.txRings.cur ≠ ni.txRings.tail) :
    TxIndexFits ni (p + 1) ∧ ni.stat.txcur.toNat ≠ ni.txRings.tail := by
  rcases hroom with hzero | hempty | ⟨hfits, hfree⟩
  · omega
  · exact absurd hempty hne
  · refine ⟨hfits, fun heq => ?_⟩
    rw [heq, distance_self hidx.tail_lt] at hfree
    omega

theorem TxRoom.acceptTx {ni : NetmapInfo} {hostCur p : Nat} (mem : Nat → UInt8)
    (buf len : Nat) (hidx : TxIndices ni hostCur) (hroom : TxRoom ni (p + 1))
    (hne : ni.txRings.cur ≠ ni.txRings.tail) :
    TxRoom (acceptTx ni mem buf len) p := by
  obtain ⟨hfits, hfree⟩ := hroom.txcur_ne_tail hidx hne
  have hnext := acceptTx_txcur_toNat mem buf len hidx.txcur_lt hfits
  have hpos := distance_pos_of_ne hidx.txcur_lt hidx.tail_lt hfree
  have hleft := distance_advance_left hidx.txcur_lt hidx.tail_lt (k := 1) hpos
  rcases hroom with hzero | hempty | ⟨_, henough | ⟨hkick, hlast⟩⟩
  · omega
  · exact absurd hempty hne
  · refine Or.inr (Or.inr ⟨acceptTx_indexFits mem buf len hidx.txcur_lt hfits,
      Or.inl ?_⟩)
    rw [acceptTx_numSlots, acceptTx_tail, hnext, hleft]
    omega
  · refine Or.inr (Or.inl ?_)
    rw [(acceptTx_of_kick ni mem buf len hkick).1, acceptTx_tail, hnext, ← hlast,
      advance_distance hidx.txcur_lt hidx.tail_lt]

theorem RoomKept.acceptTx {ni₀ ni : NetmapInfo} {hostCur p : Nat} (mem : Nat → UInt8)
    (buf len : Nat) (hkept : RoomKept ni₀ hostCur (p + 1) ni)
    (hne : ni.txRings.cur ≠ ni.txRings.tail) :
    RoomKept ni₀ hostCur p (acceptTx ni mem buf len) := by
  obtain ⟨hidx, hroom, hnum, htail, hge, hslot⟩ := hkept
  obtain ⟨hfits, hfree⟩ := hroom.txcur_ne_tail hidx hne
  have hnext := acceptTx_txcur_toNat mem buf len hidx.txcur_lt hfits
  have hstrict := hidx.txcur_lt_tail hfree
  have hgrow := hidx.distance_txcur_succ hfree
  refine ⟨hidx.acceptTx mem buf len hfits hfree, hroom.acceptTx mem buf len hidx hne,
    by simpa using hnum, by simpa using htail, ?_, ?_⟩
  · rw [hnext, ← hnum]
    rw [← hnum] at hge
    omega
  · intro i hi hkept
    rw [acceptTx_slot_of_ne]
    · exact hslot i hi hkept
    · -- the slot written lies between the filled slots and the tail
      rintro rfl
      rw [← hnum, ← htail] at hkept
      rw [← hnum] at hge
      rcases hkept with hfilled | howned
      · exact absurd hfilled (Nat.not_lt.mpr hge)
      · exact Within.not_swap hidx.hostCur_lt hidx.tail_lt hidx.txcur_lt hstrict howned

theorem RoomKept.start {ni : NetmapInfo} {hostCur p : Nat} (hidx : TxIndices ni hostCur)
    (hroom : TxRoom ni p) : RoomKept ni hostCur p ni :=
  ⟨hidx, hroom, rfl, rfl, Nat.le_refl _, fun _ _ _ => rfl⟩

theorem txStep_txsync_of_room (nm : NetmapApi) {s : TxSystem} {user : TxUser}
    (flags : UInt32) (hwf : TxWellFormed s) (hcarrier : s.np.carrierOk = true)
    (hhead : user.rhead < s.kring.nkrNumSlots)
    (hroom : TxRoom s.np.naPriv (s.pending user)) :
    ∃ t, txStep nm s (.txsync user flags) = some t ∧ TxWellFormed t ∧
      LoopOutcome nm user.mem s.kring.nkrNumSlots user.rhead
        (fun p ni _ => RoomKept s.np.naPriv s.hostCur p ni) s.accepted
        (txsyncCalls nm s.np user.mem (user.load s.kring)) t.kring.nrHwcur
        t.np.naPriv := by
  obtain ⟨t, ht, hhost, _, _, hslots, _, houtcome⟩ :=
    txStep_txsync nm flags hcarrier hwf.hwcur_lt hhead (L := fun _ => True)
      (Q := fun p ni _ => RoomKept s.np.naPriv s.hostCur p ni)
      (fun _ _ _ buf len _ hkept hne => hkept.acceptTx user.mem buf len hne) (fun _ _ => trivial)
      (RoomKept.start hwf.indices hroom)
  refine ⟨t, ht, ⟨?_, ?_⟩, houtcome⟩
  · rw [hhost]
    exact houtcome.holds.indices
  · rw [hslots]
    exact houtcome.nmI_lt

theorem txWellFormed_step (nm : NetmapApi) (s : TxSystem) (e : TxEvent) (t : TxSystem)
    (hwf : TxWellFormed s) (hroom : RoomForBatch s e) (hstep : txStep nm s e = some t) :
    TxWellFormed t := by
  cases e with
  | txsync user flags =>
      have hhead := txStep_txsync_eq_some hstep
      cases hcarrier : s.np.carrierOk with
      | true =>
          obtain ⟨t', ht', hwf', _⟩ :=
            txStep_txsync_of_room nm flags hwf hcarrier hhead (hroom hcarrier hhead)
          rw [hstep] at ht'
          exact Option.some.inj ht' ▸ hwf'
      | false =>
          refine ⟨?_, txStep_hwcur_lt hwf.hwcur_lt hstep⟩
          rw [txStep_txsync_of_no_carrier nm flags hcarrier hhead] at hstep
          exact Option.some.inj hstep ▸ hwf.indices
  | txInterrupt => exact Option.some.inj hstep ▸ hwf.txInterrupt
  | host consume free => exact hwf.hostAdvance hstep
  | carrier up => exact Option.some.inj hstep ▸ ⟨hwf.indices, hwf.hwcur_lt⟩

theorem flowControlled_of_room (nm : NetmapApi) (s : TxSystem) (e : TxEvent)
    (hwf : TxWellFormed s) (hroom : RoomForBatch s e) : FlowControlled nm s e := by
  cases e with
  | txsync user flags =>
      intro hhead
      cases hcarrier : s.np.carrierOk with
      | true =>
          obtain ⟨t, ht, _, houtcome⟩ :=
            txStep_txsync_of_room nm flags hwf hcarrier hhead (hroom hcarrier hhead)
          refine ⟨?_, t, ht, ?_, houtcome.holds.slot⟩
          · intro call hcall haccepted
            obtain ⟨p, _, hkept⟩ := houtcome.called call hcall
            have hne := (call.accepted_iff nm user.mem).mp haccepted
            exact hkept.indices.within_free (hkept.room.txcur_ne_tail hkept.indices hne).2
          · intro call hcall hrefused
            obtain ⟨hnmI, _, hpending⟩ := houtcome.refused call hcall hrefused
            exact ⟨call.result_of_refused nm user.mem hrefused, hnmI, hpending⟩
      | false =>
          have ht := txStep_txsync_of_no_carrier nm flags hcarrier hhead
          have hcalls := (txsync_of_no_carrier nm s.np user.mem (user.load s.kring) flags
            hcarrier).2
          rw [hcalls]
          exact ⟨by simp, _, ht, by simp, fun _ _ _ => rfl⟩
  | txInterrupt => trivial
  | host consume free => trivial
  | carrier up => trivial

theorem exists_overrun (nm : NetmapApi) (mem : Nat → UInt8) {m head hostCur : Nat}
    (hhead : head < m) (fuel nmI : Nat) (ni : NetmapInfo) (ring : NetmapRing)
    (hnmI : nmI < m) (hfuel : distance m nmI head < fuel) (hidx : TxIndices ni hostCur)
    (hsize : ni.txRings.numSlots ≤ 65536) (hne : ni.txRings.cur ≠ ni.txRings.tail)
    (hover : distance ni.txRings.numSlots ni.stat.txcur.toNat ni.txRings.tail <
      distance m nmI head)
    (hkick : ¬ (ni.stat.hostNeedTxkick = true ∧
      distance ni.txRings.numSlots ni.stat.txcur.toNat ni.txRings.tail = 1)) :
    ∃ call ∈ xmitCalls nm mem head (m - 1) fuel nmI ni ring,
      ¬ XmitCall.IntoFreeSlot nm mem call := by
  induction fuel generalizing nmI ni ring with
  | zero => omega
  | succ fuel ih =>
      have hdone : nmI ≠ head := by
        rintro rfl
        rw [distance_self hnmI] at hover
        omega
      obtain ⟨_, hcalls⟩ := txsyncLoop_of_not_empty nm mem (m - 1) fuel ring hdone hne
      rw [hcalls]
      by_cases hfull : ni.stat.txcur.toNat = ni.txRings.tail
      · refine ⟨_, List.mem_cons_self, fun hfree => ?_⟩
        have hwithin := hfree (((loopCall nm ni ring nmI).accepted_iff nm mem).mpr hne)
        simp only [loopCall, Within, hfull] at hwithin
        omega
      · have hfits : TxIndexFits ni (0 + 1) := Or.inl hsize
        have hnext := acceptTx_txcur_toNat mem (nm.nmb (ring.slot nmI).bufIdx)
          (ring.slot nmI).len.toNat hidx.txcur_lt hfits
        have hpos := distance_pos_of_ne hidx.txcur_lt hidx.tail_lt hfull
        have hleft := distance_advance_left hidx.txcur_lt hidx.tail_lt (k := 1) hpos
        have hdist := distance_advance_left hnmI hhead (k := 1) (by omega)
        rw [← nm.nmNext_eq_advance hnmI] at hdist
        obtain ⟨call, hcall, hnot⟩ :=
          ih (nm.nmNext nmI (m - 1)) _ (markSent nm ring nmI) (nm.nmNext_lt hnmI)
            (by omega) (hidx.acceptTx mem _ _ hfits hfull) (by simpa using hsize)
            (by
              rw [acceptTx_tail]
              cases hflag : ni.stat.hostNeedTxkick with
              | true =>
                  rw [(acceptTx_of_kick ni mem _ _ hflag).1, hnext]
                  intro heq
                  rw [heq, distance_self hidx.tail_lt] at hleft
                  exact hkick ⟨hflag, by omega⟩
              | false => rwa [(acceptTx_of_no_kick ni mem _ _ hflag).1])
            (by rw [acceptTx_numSlots, acceptTx_tail, hnext, hleft]; omega)
            (by simp)
        exact ⟨call, List.mem_cons_of_mem _ hcall, hnot⟩

theorem room_of_flowControlled (nm : NetmapApi) (s : TxSystem) (e : TxEvent)
    (hwf : TxWellFormed s) (hsize : s.ring.numSlots ≤ 65536)
    (hflow : FlowControlled nm s e) : RoomForBatch s e := by
  cases e with
  | txsync user flags =>
      intro hcarrier hhead
      obtain ⟨hcalls, _⟩ := hflow hhead
      by_contra hroom
      simp only [TxRoom, TxIndexFits, not_or, not_and] at hroom
      obtain ⟨_, hne, hover⟩ := hroom
      obtain ⟨hover, hkick⟩ := hover (Or.inl hsize)
      have hcallsEq : txsyncCalls nm s.np user.mem (user.load s.kring) =
          xmitCalls nm user.mem user.rhead (s.kring.nkrNumSlots - 1) s.kring.nkrNumSlots
            s.kring.nrHwcur s.np.naPriv (user.load s.kring).ring := by
        simp [txsyncCalls, hcarrier, TxUser.load]
      obtain ⟨call, hcall, hnot⟩ :=
        exists_overrun nm user.mem hhead s.kring.nkrNumSlots s.kring.nrHwcur s.np.naPriv
          (user.load s.kring).ring hwf.hwcur_lt
          (distance_lt (Nat.zero_lt_of_lt hhead) _ _) hwf.indices hsize hne
          (Nat.not_le.mp hover) (fun hlast => hkick hlast.1 hlast.2)
      exact hnot (hcalls call (hcallsEq ▸ hcall))
  | txInterrupt => trivial
  | host consume free => trivial
  | carrier up => trivial

/-- Runs whose batches find room respect flow control, and on rings that a 16-bit index
can address no others do. -/
theorem tx_flow_control (nm : NetmapApi) {s : TxSystem} (hstart : TxStart s)
    (es : List TxEvent) :
    (Along (txStep nm) RoomForBatch s es →
      Along (txStep nm) (FlowControlled nm) s es ∧
        ∀ t, run (txStep nm) s es = some t →
          distance t.ring.numSlots t.ring.cur t.stat.txcur.toNat ≤
            distance t.ring.numSlots t.ring.cur t.ring.tail) ∧
    (s.ring.numSlots ≤ 65536 →
      Along (txStep nm) (FlowControlled nm) s es → Along (txStep nm) RoomForBatch s es) := by
  constructor
  · intro hroom
    refine ⟨Along.mono (txWellFormed_step nm) (flowControlled_of_room nm) hstart.wellFormed
      hroom, ?_⟩
    intro t hrun
    exact (invariant_of_along (txWellFormed_step nm) hstart.wellFormed hroom
      hrun).indices.txcur_le_tail
  · intro hsize
    refine (along_iff (I := fun t => TxWellFormed t ∧ t.ring.numSlots ≤ 65536)
      ?_ ?_ ⟨hstart.wellFormed, hsize⟩).mpr
    · rintro t e u ⟨hwf, hle⟩ hroom hstep
      exact ⟨txWellFormed_step nm t e u hwf hroom hstep,
        (txStep_numSlots hwf.hwcur_lt hstep).trans_le hle⟩
    · rintro t e ⟨hwf, hle⟩
      exact ⟨flowControlled_of_room nm t e hwf, room_of_flowControlled nm t e hwf hle⟩

theorem tx_flow_control_two_packets :
    Along (txStep netmapHeaders) (FlowControlled netmapHeaders) (freshTx 4)
      [.txsync (sampleUser 1 2) 0, .host 1 1] :=
  ((tx_flow_control netmapHeaders (freshTx_start (by decide)) _).1 (by decide)).1

/-- Two packets, the completion of the first, and three more: the last is accepted
although its slot is not free. -/
def overrunPrefix : List TxEvent :=
  [.txsync (sampleUser 1 2) 0, .host 1 1, .txInterrupt, .txsync (sampleUser 1 2) 2]

theorem tx_flow_control_fails :
    ¬ ∀ s, TxStart s → ∀ es,
      Along (txStep netmapHeaders) (FlowControlled netmapHeaders) s es := by
  intro halways
  have hover : (run (txStep netmapHeaders) (freshTx 4) overrunPrefix).any (fun t : TxSystem =>
      decide (∃ call ∈ txsyncCalls netmapHeaders t.np (sampleUser 1 1).mem
        ((sampleUser 1 1).load t.kring),
        ¬ XmitCall.IntoFreeSlot netmapHeaders (sampleUser 1 1).mem call)
      && decide ((sampleUser 1 1).rhead < t.kring.nkrNumSlots)) = true := by
    decide
  obtain ⟨t, hrun, hbad⟩ := (Option.any_eq_true _ _).mp hover
  simp only [Bool.and_eq_true, decide_eq_true_eq] at hbad
  obtain ⟨⟨call, hcall, hnot⟩, hhead⟩ := hbad
  have hflow := halways (freshTx 4) (freshTx_start (by decide))
    (overrunPrefix ++ [.txsync (sampleUser 1 1) 0])
  exact hnot ((hflow.last hrun hhead).1 call hcall)

end XenNet.TransmitFlowControl

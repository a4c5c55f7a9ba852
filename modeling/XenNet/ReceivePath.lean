import XenNet.FifoChannel
import XenNet.NetbackReceive
import XenNet.SplitDriver

namespace XenNet.ReceivePath

open XenNet.ByteMemory
open XenNet.CyclicIndex
open XenNet.RingSegment
open XenNet.TransitionSystem
open XenNet.FifoChannel
open XenNet.NetmapKernel
open XenNet.NetmapReference
open XenNet.NetfrontModel
open XenNet.NetfrontTransmit
open XenNet.NetfrontReceive
open XenNet.ReceiveLoop
open XenNet.ReceiveSystem
open XenNet.ReleasedSlots
open XenNet.NetbackModel
open XenNet.NetbackReceive
open XenNet.SplitDriver

variable {nm : NetmapApi}

section Ring

variable {ni ni' : NetmapInfo} {host host' user user' : NetmapKring}

/-- The packets that the bridge delivered and the guest did not take yet. -/
def waiting (ni : NetmapInfo) (host : NetmapKring) : List (List UInt8) :=
  contents ni.rxRings.numSlots ni.rxPacket ni.rxRings.cur
    (distance ni.rxRings.numSlots ni.rxRings.cur host.nrHwtail)

/-- The shared ring as both sides agree on it. From `nr_hwcur` on there are first the slots that the
guest has released, then those whose packets it is shown, and then those that it is not shown
yet. -/
structure ReceiveOk (nm : NetmapApi) (ni : NetmapInfo) (host user : NetmapKring) : Prop where
  cur_lt : ni.rxRings.cur < ni.rxRings.numSlots
  tail_lt : ni.rxRings.tail < ni.rxRings.numSlots
  head : ni.rxRings.head = ni.rxRings.cur
  nkrNumSlots : host.nkrNumSlots = ni.rxRings.numSlots
  hwcur_lt : host.nrHwcur < ni.rxRings.numSlots
  hwtail_lt : host.nrHwtail < ni.rxRings.numSlots
  cur_le : distance ni.rxRings.numSlots host.nrHwcur ni.rxRings.cur ≤
    distance ni.rxRings.numSlots host.nrHwcur ni.rxRings.tail
  tail_le : distance ni.rxRings.numSlots host.nrHwcur ni.rxRings.tail ≤
    distance ni.rxRings.numSlots host.nrHwcur host.nrHwtail
  short : ∀ i, i < ni.rxRings.numSlots →
    Within ni.rxRings.numSlots ni.rxRings.cur host.nrHwtail i →
      (ni.rxRings.slot i).len.toNat ≤ netfrontBufSize
  own : OwnBuffers nm user.nkrNumSlots user.ring

theorem ReceiveOk.shown_le (hok : ReceiveOk nm ni host user) :
    distance ni.rxRings.numSlots ni.rxRings.cur ni.rxRings.tail ≤
      distance ni.rxRings.numSlots ni.rxRings.cur host.nrHwtail := by
  have hshown := distance_add_distance hok.hwcur_lt hok.cur_lt hok.tail_lt hok.cur_le
  have hall := distance_add_distance hok.hwcur_lt hok.cur_lt hok.hwtail_lt
    (hok.cur_le.trans hok.tail_le)
  have hle := hok.tail_le
  omega

/-- Writes to the buffers that leave those of the receive ring alone. -/
def SparesBuffers (ni : NetmapInfo) (bufs : Nat → UInt8) : Prop :=
  ∀ i, i < ni.rxRings.numSlots → ∀ k, k < netfrontBufSize →
    bufs (netfrontBuf ni.rxdBufsBase i + k) = ni.bufs (netfrontBuf ni.rxdBufsBase i + k)

/-- The receive ring and what both sides keep for it are as before. -/
structure SameReceive (ni ni' : NetmapInfo) (host host' : NetmapKring) : Prop where
  ring : ni'.rxRings = ni.rxRings
  base : ni'.rxdBufsBase = ni.rxdBufsBase
  bufs : SparesBuffers ni ni'.bufs
  nkrNumSlots : host'.nkrNumSlots = host.nkrNumSlots
  nrHwcur : host'.nrHwcur = host.nrHwcur
  nrHwtail : host'.nrHwtail = host.nrHwtail

theorem rxPacket_of_spares {i : Nat}
    (hlen : (ni'.rxRings.slot i).len = (ni.rxRings.slot i).len)
    (hbase : ni'.rxdBufsBase = ni.rxdBufsBase)
    (hshort : (ni.rxRings.slot i).len.toNat ≤ netfrontBufSize)
    (hbufs : ∀ k, k < netfrontBufSize →
      ni'.bufs (netfrontBuf ni.rxdBufsBase i + k) = ni.bufs (netfrontBuf ni.rxdBufsBase i + k)) :
    ni'.rxPacket i = ni.rxPacket i := by
  unfold NetmapInfo.rxPacket
  rw [hlen, hbase]
  exact bytes_congr fun k hk => hbufs k (Nat.lt_of_lt_of_le hk hshort)

theorem ReceiveOk.of_same (hok : ReceiveOk nm ni host user)
    (hsame : SameReceive ni ni' host host') :
    ReceiveOk nm ni' host' user ∧ waiting ni' host' = waiting ni host := by
  have hn := Nat.zero_lt_of_lt hok.cur_lt
  refine ⟨?_, ?_⟩
  · obtain ⟨hcur, htail, hhead, hslots, hhwcur, hhwtail, hcurLe, htailLe, hshort, hown⟩ := hok
    refine ⟨?_, ?_, ?_, ?_, ?_, ?_, ?_, ?_, ?_, hown⟩ <;>
      simpa only [hsame.ring, hsame.nkrNumSlots, hsame.nrHwcur, hsame.nrHwtail]
  · unfold waiting
    rw [hsame.ring, hsame.nrHwtail]
    refine contents_congr fun k hk => ?_
    have hkn := Nat.lt_trans hk (distance_lt hn _ _)
    have hlt := advance_lt hn ni.rxRings.cur k
    exact rxPacket_of_spares (by rw [hsame.ring]) hsame.base
      (hok.short _ hlt ((within_advance_iff hok.cur_lt hkn).mpr hk)) (hsame.bufs _ hlt)

theorem ReceiveOk.imported (hok : ReceiveOk nm ni host user) {k : Nat}
    (hshared : SharedAdvanced ni ni' k)
    (hk : k ≤ distance ni.rxRings.numSlots ni.rxRings.cur ni.rxRings.tail)
    (hown : OwnBuffers nm user'.nkrNumSlots user'.ring) :
    ReceiveOk nm ni' host user' ∧
      waiting ni host =
        contents ni.rxRings.numSlots ni.rxPacket ni.rxRings.cur k ++ waiting ni' host := by
  have hn := Nat.zero_lt_of_lt hok.cur_lt
  have hle := hk.trans hok.shown_le
  have hleft := distance_advance_left hok.cur_lt hok.hwtail_lt hle
  have hshown := distance_add_distance hok.hwcur_lt hok.cur_lt hok.tail_lt hok.cur_le
  have hright := distance_advance_right (k := k) hok.hwcur_lt hok.cur_lt (by
    have hlt := distance_lt hn host.nrHwcur ni.rxRings.tail
    omega)
  refine ⟨?_, ?_⟩
  · exact
      { cur_lt := by rw [hshared.cur, hshared.numSlots]; exact advance_lt hn _ _
        tail_lt := by rw [hshared.tail, hshared.numSlots]; exact hok.tail_lt
        head := hshared.head hok.head
        nkrNumSlots := by rw [hshared.numSlots]; exact hok.nkrNumSlots
        hwcur_lt := by rw [hshared.numSlots]; exact hok.hwcur_lt
        hwtail_lt := by rw [hshared.numSlots]; exact hok.hwtail_lt
        cur_le := by
          rw [hshared.numSlots, hshared.cur, hshared.tail, hright]
          omega
        tail_le := by rw [hshared.numSlots, hshared.tail]; exact hok.tail_le
        short := by
          intro i hi hwithin
          rw [hshared.numSlots] at hi
          unfold Within at hwithin
          rw [hshared.numSlots, hshared.cur] at hwithin
          obtain ⟨t, ht, rfl⟩ := Within.exists_advance (advance_lt hn _ _) hi hwithin
          rw [hleft] at ht
          have hbound := distance_lt hn ni.rxRings.cur host.nrHwtail
          rw [hshared.slot, advance_advance]
          refine hok.short _ (advance_lt hn _ _) ?_
          exact (within_advance_iff hok.cur_lt (by omega)).mpr (by omega)
        own := hown }
  · unfold waiting
    rw [hshared.numSlots, hshared.packet, hshared.cur, hleft, ← contents_add,
      Nat.add_sub_cancel' hle]

/-- The ring after the bridge wrote packets into it. -/
def bridgeWrites (ni : NetmapInfo) (slot : Nat → NetmapSlot) (bufs : Nat → UInt8) : NetmapInfo :=
  { ni with bufs := bufs, rxRings := { ni.rxRings with slot := slot } }

/-- The bridge puts `k` packets behind those that wait, and does not touch these. -/
structure DeliversBehind (ni : NetmapInfo) (host : NetmapKring) (k : Nat)
    (slot : Nat → NetmapSlot) (bufs : Nat → UInt8) : Prop where
  short : ∀ t, t < k →
    (slot (advance ni.rxRings.numSlots host.nrHwtail t)).len.toNat ≤ netfrontBufSize
  len : ∀ i, i < ni.rxRings.numSlots →
    Within ni.rxRings.numSlots ni.rxRings.cur host.nrHwtail i →
      (slot i).len = (ni.rxRings.slot i).len
  bufs : ∀ i, i < ni.rxRings.numSlots →
    Within ni.rxRings.numSlots ni.rxRings.cur host.nrHwtail i → ∀ j, j < netfrontBufSize →
      bufs (netfrontBuf ni.rxdBufsBase i + j) = ni.bufs (netfrontBuf ni.rxdBufsBase i + j)

/-- What a notification makes of the host's `kring`: nothing, or the slots up to the shared head are
taken back and all packets are shown. -/
structure Notified (kring kring' : NetmapKring) : Prop where
  numSlots : kring'.ring.numSlots = kring.ring.numSlots
  head : kring'.ring.head = kring.ring.head
  cur : kring'.ring.cur = kring.ring.cur
  len : ∀ i, (kring'.ring.slot i).len = (kring.ring.slot i).len
  nkrNumSlots : kring'.nkrNumSlots = kring.nkrNumSlots
  nrHwtail : kring'.nrHwtail = kring.nrHwtail
  positions : kring'.nrHwcur = kring.nrHwcur ∧ kring'.ring.tail = kring.ring.tail ∨
    kring'.nrHwcur = kring.ring.head ∧ kring'.ring.tail = kring.nrHwtail

theorem Notified.refl (kring : NetmapKring) : Notified kring kring :=
  ⟨rfl, rfl, rfl, fun _ => rfl, rfl, rfl, Or.inl ⟨rfl, rfl⟩⟩

theorem notified_xenvifNetmapRxsync {carrierOk : Bool} {kring kring' : NetmapKring} {error : Int}
    (hhwcur : kring.nrHwcur < kring.nkrNumSlots) (hhead : kring.ring.head < kring.nkrNumSlots)
    (hsync : xenvifNetmapRxsync nm carrierOk kring = some (kring', error)) :
    Notified kring kring' := by
  cases carrierOk with
  | false =>
      have hnone : xenvifNetmapRxsync nm false kring = some (kring, 0) := rfl
      rw [hnone] at hsync
      obtain ⟨rfl, -⟩ := Prod.mk.inj (Option.some.inj hsync)
      exact Notified.refl kring
  | true =>
      rw [xenvifNetmapRxsync_of_lt nm hhwcur hhead] at hsync
      obtain ⟨rfl, -⟩ := Prod.mk.inj (Option.some.inj hsync)
      have hreleased := samePackets_releasedRing nm kring.nkrNumSlots kring.nrHwcur
        kring.ring.head kring.ring
      generalize hafter : ({ kring with
        nrHwcur := kring.ring.head
        ring := releasedRing nm kring.nkrNumSlots kring.nrHwcur kring.ring.head kring.ring } :
          NetmapKring) = after
      have hkeeps := nm.nmRxsyncFinalize_keeps after
      have htail := nm.nmRxsyncFinalize_tail after
      subst hafter
      exact
        { numSlots := hkeeps.numSlots
          head := hkeeps.head
          cur := hkeeps.cur
          len := fun i => by
            rw [hkeeps.slot]
            exact hreleased.len i
          nkrNumSlots := hkeeps.nkrNumSlots
          nrHwtail := hkeeps.nrHwtail
          positions := Or.inr ⟨hkeeps.nrHwcur, htail⟩ }

theorem notified_xenvifNotify {vif vif' : Xenvif} {ringNr : Nat} {tx : Txrx} {tryget : Bool}
    {error : Int} (hhwcur : vif.rxKring.nrHwcur < vif.rxKring.nkrNumSlots)
    (hhead : vif.rxKring.ring.head < vif.rxKring.nkrNumSlots)
    (hnotify : xenvifNotify nm vif ringNr tx tryget = some (vif', error)) :
    Notified vif.rxKring vif'.rxKring := by
  unfold xenvifNotify at hnotify
  split at hnotify
  · obtain ⟨rfl, -⟩ := Prod.mk.inj (Option.some.inj hnotify)
    exact Notified.refl _
  · split at hnotify
    · contradiction
    · rename_i kring err hsync
      obtain ⟨rfl, -⟩ := Prod.mk.inj (Option.some.inj hnotify)
      rw [notifyGuestRx_rxKring]
      exact notified_xenvifNetmapRxsync hhwcur hhead hsync

theorem ReceiveOk.delivered (hok : ReceiveOk nm ni host user) {k : Nat}
    {slot : Nat → NetmapSlot} {bufs : Nat → UInt8}
    (hroom : distance ni.rxRings.numSlots host.nrHwcur host.nrHwtail + k < ni.rxRings.numSlots)
    (hbehind : DeliversBehind ni host k slot bufs)
    (hnotified : Notified
      { host with
        nrHwtail := advance ni.rxRings.numSlots host.nrHwtail k
        ring := { ni.rxRings with slot := slot } } host') :
    ReceiveOk nm { ni with bufs := bufs, rxRings := host'.ring } host' user ∧
      waiting { ni with bufs := bufs, rxRings := host'.ring } host' =
        waiting ni host ++
          contents ni.rxRings.numSlots (bridgeWrites ni slot bufs).rxPacket host.nrHwtail k := by
  have hn := Nat.zero_lt_of_lt hok.cur_lt
  have hnum : host'.ring.numSlots = ni.rxRings.numSlots := hnotified.numSlots
  have hcur : host'.ring.cur = ni.rxRings.cur := hnotified.cur
  have hhead : host'.ring.head = ni.rxRings.head := hnotified.head
  have hlen : ∀ i, (host'.ring.slot i).len = (slot i).len := hnotified.len
  have hhwtail : host'.nrHwtail = advance ni.rxRings.numSlots host.nrHwtail k :=
    hnotified.nrHwtail
  have hpositions : host'.nrHwcur = host.nrHwcur ∧ host'.ring.tail = ni.rxRings.tail ∨
      host'.nrHwcur = ni.rxRings.cur ∧
        host'.ring.tail = advance ni.rxRings.numSlots host.nrHwtail k := by
    rcases hnotified.positions with hsame | ⟨hnew, htail⟩
    · exact Or.inl hsame
    · exact Or.inr ⟨hnew.trans hok.head, htail⟩
  have hsplit := distance_add_distance hok.hwcur_lt hok.cur_lt hok.hwtail_lt
    (hok.cur_le.trans hok.tail_le)
  have hgrow := distance_advance_right (k := k) hok.cur_lt hok.hwtail_lt (by omega)
  have hgrow' := distance_advance_right (k := k) hok.hwcur_lt hok.hwtail_lt hroom
  have hwtail_lt := advance_lt hn host.nrHwtail k
  have hjoin := advance_distance hok.cur_lt hok.hwtail_lt
  refine ⟨?_, ?_⟩
  · exact
      { cur_lt := by
          change host'.ring.cur < host'.ring.numSlots
          rw [hcur, hnum]
          exact hok.cur_lt
        tail_lt := by
          change host'.ring.tail < host'.ring.numSlots
          rw [hnum]
          rcases hpositions with ⟨-, htail⟩ | ⟨-, htail⟩ <;> rw [htail]
          · exact hok.tail_lt
          · exact hwtail_lt
        head := by
          change host'.ring.head = host'.ring.cur
          rw [hhead, hcur]
          exact hok.head
        nkrNumSlots := by
          change host'.nkrNumSlots = host'.ring.numSlots
          rw [hnum]
          exact hnotified.nkrNumSlots.trans hok.nkrNumSlots
        hwcur_lt := by
          change host'.nrHwcur < host'.ring.numSlots
          rw [hnum]
          rcases hpositions with ⟨hhwcur, -⟩ | ⟨hhwcur, -⟩ <;> rw [hhwcur]
          · exact hok.hwcur_lt
          · exact hok.cur_lt
        hwtail_lt := by
          change host'.nrHwtail < host'.ring.numSlots
          rw [hnum, hhwtail]
          exact hwtail_lt
        cur_le := by
          change distance host'.ring.numSlots host'.nrHwcur host'.ring.cur ≤
            distance host'.ring.numSlots host'.nrHwcur host'.ring.tail
          rw [hnum, hcur]
          rcases hpositions with ⟨hhwcur, htail⟩ | ⟨hhwcur, htail⟩ <;> rw [hhwcur, htail]
          · exact hok.cur_le
          · rw [distance_self hok.cur_lt]
            exact Nat.zero_le _
        tail_le := by
          change distance host'.ring.numSlots host'.nrHwcur host'.ring.tail ≤
            distance host'.ring.numSlots host'.nrHwcur host'.nrHwtail
          rw [hnum, hhwtail]
          rcases hpositions with ⟨hhwcur, htail⟩ | ⟨hhwcur, htail⟩ <;> rw [hhwcur, htail]
          rw [hgrow']
          exact hok.tail_le.trans (Nat.le_add_right _ _)
        short := by
          intro i hi hwithin
          change i < host'.ring.numSlots at hi
          rw [hnum] at hi
          change Within host'.ring.numSlots host'.ring.cur host'.nrHwtail i at hwithin
          rw [hnum, hcur, hhwtail] at hwithin
          change (host'.ring.slot i).len.toNat ≤ _
          rw [hlen]
          obtain ⟨t, ht, rfl⟩ := hwithin.exists_advance hok.cur_lt hi
          rw [hgrow] at ht
          by_cases hold : t < distance ni.rxRings.numSlots ni.rxRings.cur host.nrHwtail
          · have hold' : Within ni.rxRings.numSlots ni.rxRings.cur host.nrHwtail
                (advance ni.rxRings.numSlots ni.rxRings.cur t) :=
              (within_advance_iff hok.cur_lt (by omega)).mpr hold
            rw [hbehind.len _ hi hold']
            exact hok.short _ hi hold'
          · obtain ⟨j, rfl⟩ := Nat.exists_eq_add_of_le (Nat.le_of_not_lt hold)
            rw [← advance_advance, hjoin]
            exact hbehind.short j (by omega)
        own := hok.own }
  · unfold waiting
    change contents host'.ring.numSlots _ host'.ring.cur
      (distance host'.ring.numSlots host'.ring.cur host'.nrHwtail) = _
    rw [hnum, hcur, hhwtail, hgrow, contents_add, hjoin]
    refine congrArg₂ (· ++ ·) (contents_congr fun t ht => ?_) (contents_congr fun t _ => ?_)
    · have htn := Nat.lt_trans ht (distance_lt hn _ _)
      have hlt := advance_lt hn ni.rxRings.cur t
      have hwithin : Within ni.rxRings.numSlots ni.rxRings.cur host.nrHwtail
          (advance ni.rxRings.numSlots ni.rxRings.cur t) :=
        (within_advance_iff hok.cur_lt htn).mpr ht
      exact rxPacket_of_spares ((hlen _).trans (hbehind.len _ hlt hwithin)) rfl
        (hok.short _ hlt hwithin) (hbehind.bufs _ hlt hwithin)
    · change bytes _ _ (host'.ring.slot _).len.toNat = bytes _ _ (slot _).len.toNat
      rw [hlen]
      rfl

end Ring

section Path

variable {s t : Driver}

def PathKept (nm : NetmapApi) (s : Driver) : Prop :=
  ReceiveOk nm s.np.naPriv s.vif.rxKring s.rxUser

def queue (s : Driver) : List (List UInt8) :=
  waiting s.np.naPriv s.vif.rxKring

/-- What a step puts into the shared ring, and what it shows to the netmap user. -/
def act (nm : NetmapApi) (s : Driver) : DriverEvent → Transfer (List UInt8)
  | .deliver k slot bufs _ =>
      Transfer.send (contents s.np.naPriv.rxRings.numSlots
        (bridgeWrites s.np.naPriv slot bufs).rxPacket s.vif.rxKring.nrHwtail k)
  | .rxsync head cur flags =>
      match netfrontNetmapRxsync nm s.np s.mem (releaseTo s.rxUser head cur) flags with
      | some call =>
          Transfer.take (contents s.rxUser.nkrNumSlots (userPacket nm call.kring.ring call.mem)
            s.rxUser.nrHwtail
            (distance s.rxUser.nkrNumSlots s.rxUser.nrHwtail call.kring.nrHwtail))
      | none => Transfer.idle
  | _ => Transfer.idle

/-- The conditions on a step: the bridge delivers behind the packets that wait, the user releases
slots that it was given, and packets that the guest sends are not copied over those it receives. -/
def Careful (nm : NetmapApi) (s : Driver) : DriverEvent → Prop
  | .deliver k slot bufs _ => DeliversBehind s.np.naPriv s.vif.rxKring k slot bufs
  | .rxsync head cur _ =>
      RxHeadValid (releaseTo s.rxUser head cur) ∧ RxCurValid (releaseTo s.rxUser head cur)
  | .xmit mem buf len =>
      SparesBuffers s.np.naPriv (netfrontNetmapXmit nm s.np.naPriv mem buf len).1.bufs
  | _ => True

/-- A step that has nothing to do with the receive path. -/
structure SameDriver (s t : Driver) : Prop where
  receive : SameReceive s.np.naPriv t.np.naPriv s.vif.rxKring t.vif.rxKring
  rxUser : t.rxUser = s.rxUser

theorem SameDriver.passes (hsame : SameDriver s t) (hkept : PathKept nm s) :
    PathKept nm t ∧ Passes (queue s) Transfer.idle (queue t) := by
  have hok : ReceiveOk nm s.np.naPriv s.vif.rxKring s.rxUser := hkept
  obtain ⟨hok', hqueue⟩ := hok.of_same hsame.receive
  refine ⟨?_, ?_⟩
  · unfold PathKept
    rw [hsame.rxUser]
    exact hok'
  · unfold queue
    rw [hqueue]
    exact passes_idle _

theorem SameDriver.of_ring (hring : t.np.naPriv.rxRings = s.np.naPriv.rxRings)
    (hbase : t.np.naPriv.rxdBufsBase = s.np.naPriv.rxdBufsBase)
    (hbufs : t.np.naPriv.bufs = s.np.naPriv.bufs) (huser : t.rxUser = s.rxUser)
    (hslots : t.vif.rxKring.nkrNumSlots = s.vif.rxKring.nkrNumSlots)
    (hhwcur : t.vif.rxKring.nrHwcur = s.vif.rxKring.nrHwcur)
    (hhwtail : t.vif.rxKring.nrHwtail = s.vif.rxKring.nrHwtail) : SameDriver s t :=
  ⟨⟨hring, hbase, fun _ _ _ _ => by rw [hbufs], hslots, hhwcur, hhwtail⟩, huser⟩

theorem kthreadStep_rxKring {vif vif' : Xenvif} {pc pc' : Kthread} {slots : List Nat}
    (hthread : kthreadStep nm vif pc = some (vif', pc', slots)) : vif'.rxKring = vif.rxKring := by
  cases kthreadStep_cases hthread with
  | notifyTx _ =>
      unfold irqNotifyTx
      split <;> rfl
  | _ => rfl

theorem sameDriver_of_other {e : DriverEvent} (hstep : driverStep nm s e = some t)
    (he : match e with
      | .xmit _ _ _ | .deliver _ _ _ _ | .rxsync _ _ _ => False
      | _ => True) : SameDriver s t := by
  cases e with
  | attach =>
      simp only [driverStep] at hstep
      split at hstep
      · contradiction
      · obtain rfl := Option.some.inj hstep
        exact SameDriver.of_ring rfl rfl rfl rfl rfl rfl rfl
  | txInterrupt =>
      simp only [driverStep, Option.ite_none_right_eq_some, Option.some.injEq] at hstep
      obtain ⟨-, rfl⟩ := hstep
      unfold netfrontTxInterrupt
      split <;> exact SameDriver.of_ring rfl rfl rfl rfl rfl rfl rfl
  | rxInterrupt =>
      simp only [driverStep, Option.ite_none_right_eq_some, Option.some.injEq] at hstep
      obtain ⟨-, rfl⟩ := hstep
      unfold netfrontRxInterrupt
      split <;> exact SameDriver.of_ring rfl rfl rfl rfl rfl rfl rfl
  | txKick =>
      simp only [driverStep, Option.ite_none_right_eq_some, Option.some.injEq] at hstep
      obtain ⟨-, rfl⟩ := hstep
      unfold xenvifNetmapIrqsched
      split_ifs <;> exact SameDriver.of_ring rfl rfl rfl rfl rfl rfl rfl
  | rxKick =>
      simp only [driverStep, Option.ite_none_right_eq_some, Option.some.injEq] at hstep
      obtain ⟨-, rfl⟩ := hstep
      unfold xenvifNetmapIrqsched
      split_ifs <;> exact SameDriver.of_ring rfl rfl rfl rfl rfl rfl rfl
  | kthread =>
      simp only [driverStep] at hstep
      split at hstep
      · rename_i vif pc slots hthread
        obtain rfl := Option.some.inj hstep
        have hkring : vif.rxKring = s.hostView.rxKring := kthreadStep_rxKring hthread
        refine SameDriver.of_ring ?_ rfl rfl rfl ?_ ?_ ?_
        · exact congrArg NetmapKring.ring hkring
        · exact (congrArg NetmapKring.nkrNumSlots hkring :)
        · exact (congrArg NetmapKring.nrHwcur hkring :)
        · exact (congrArg NetmapKring.nrHwtail hkring :)
      · contradiction
  | bridge naBdg =>
      obtain rfl := Option.some.inj hstep
      exact SameDriver.of_ring rfl rfl rfl rfl rfl rfl rfl
  | _ => exact absurd he id

theorem sameDriver_of_xmit {mem : Nat → UInt8} {buf len : Nat}
    (hcareful : Careful nm s (.xmit mem buf len))
    (hstep : driverStep nm s (.xmit mem buf len) = some t) : SameDriver s t := by
  simp only [driverStep, Option.ite_none_right_eq_some, Option.some.injEq] at hstep
  obtain ⟨-, rfl⟩ := hstep
  have hrings : (netfrontNetmapXmit nm s.np.naPriv mem buf len).1.rxRings = s.np.naPriv.rxRings ∧
      (netfrontNetmapXmit nm s.np.naPriv mem buf len).1.rxdBufsBase =
        s.np.naPriv.rxdBufsBase := by
    rcases xmit_cases s.np.naPriv mem buf len nm with hxmit | hxmit <;> rw [hxmit]
    · exact ⟨rfl, rfl⟩
    · refine ⟨(acceptTx_rx s.np.naPriv mem buf len).1, ?_⟩
      unfold acceptTx
      split <;> rfl
  exact ⟨⟨hrings.1, hrings.2, hcareful, rfl, rfl, rfl⟩, rfl⟩

theorem passes_deliver (hkept : PathKept nm s) {k : Nat} {slot : Nat → NetmapSlot}
    {bufs : Nat → UInt8} {tryget : Bool}
    (hcareful : Careful nm s (.deliver k slot bufs tryget))
    (hstep : driverStep nm s (.deliver k slot bufs tryget) = some t) :
    PathKept nm t ∧
      Passes (queue s) (act nm s (.deliver k slot bufs tryget)) (queue t) := by
  have hok : ReceiveOk nm s.np.naPriv s.vif.rxKring s.rxUser := hkept
  simp only [driverStep, Option.ite_none_right_eq_some] at hstep
  obtain ⟨hroom, hstep⟩ := hstep
  rw [hok.nkrNumSlots] at hroom
  split at hstep
  · rename_i vif error hnotify
    obtain rfl := Option.some.inj hstep
    have hnotified : Notified (deliverPackets s.hostView k slot).rxKring vif.rxKring := by
      refine notified_xenvifNotify ?_ ?_ hnotify
      · change s.vif.rxKring.nrHwcur < s.vif.rxKring.nkrNumSlots
        rw [hok.nkrNumSlots]
        exact hok.hwcur_lt
      · change s.np.naPriv.rxRings.head < s.vif.rxKring.nkrNumSlots
        rw [hok.nkrNumSlots, hok.head]
        exact hok.cur_lt
    have hkring : (deliverPackets s.hostView k slot).rxKring =
        { s.vif.rxKring with
          nrHwtail := advance s.np.naPriv.rxRings.numSlots s.vif.rxKring.nrHwtail k
          ring := { s.np.naPriv.rxRings with slot := slot } } := by
      rw [← hok.nkrNumSlots]
      rfl
    rw [hkring] at hnotified
    obtain ⟨hok', hqueue⟩ := hok.delivered hroom hcareful hnotified
    refine ⟨?_, ?_⟩
    · exact
        { cur_lt := hok'.cur_lt
          tail_lt := hok'.tail_lt
          head := hok'.head
          nkrNumSlots := hok'.nkrNumSlots
          hwcur_lt := hok'.hwcur_lt
          hwtail_lt := hok'.hwtail_lt
          cur_le := hok'.cur_le
          tail_le := hok'.tail_le
          short := hok'.short
          own := hok'.own }
    · exact hqueue.symm
  · contradiction

theorem passes_rxsync (hkept : PathKept nm s) {head cur : Nat} {flags : UInt32}
    (hcareful : Careful nm s (.rxsync head cur flags))
    (hstep : driverStep nm s (.rxsync head cur flags) = some t) :
    PathKept nm t ∧ Passes (queue s) (act nm s (.rxsync head cur flags)) (queue t) := by
  have hok : ReceiveOk nm s.np.naPriv s.vif.rxKring s.rxUser := hkept
  obtain ⟨hvalid, hvalidCur⟩ := hcareful
  have hown : OwnBuffers nm (releaseTo s.rxUser head cur).nkrNumSlots
      (releaseTo s.rxUser head cur).ring := hok.own.congr fun _ => rfl
  have hn := Nat.zero_lt_of_lt hok.cur_lt
  have hshort : ∀ i, i < s.np.naPriv.rxRings.numSlots →
      Within s.np.naPriv.rxRings.numSlots s.np.naPriv.rxRings.cur s.np.naPriv.rxRings.tail i →
        (s.np.naPriv.rxRings.slot i).len.toNat ≤ netfrontBufSize := fun i hi hwithin =>
    hok.short i hi (Nat.lt_of_lt_of_le hwithin hok.shown_le)
  obtain ⟨call, hcall, houtcome⟩ := rxsync_spec nm s.np s.mem flags hvalid hvalidCur hok.cur_lt
    hok.tail_lt hown hshort
  have hshared := RxOutcome.shared hok.cur_lt houtcome
  have hle := rxImported_le_pending nm s.np.naPriv (releaseTo s.rxUser head cur) flags
  have hroom := rxImported_add_lt nm s.np.naPriv flags hvalid.1 hvalid.2.1
  simp only [driverStep, hcall, Option.some.injEq] at hstep
  obtain rfl := hstep
  have hown' : OwnBuffers nm call.kring.nkrNumSlots call.kring.ring := by
    rw [houtcome.nkrNumSlots]
    exact hown.congr houtcome.bufIdx
  obtain ⟨hok', hqueue⟩ := hok.imported hshared hle hown'
  refine ⟨hok', ?_⟩
  have hdistance : distance s.rxUser.nkrNumSlots s.rxUser.nrHwtail call.kring.nrHwtail =
      rxImported nm s.np.naPriv (releaseTo s.rxUser head cur) flags := by
    rw [houtcome.nrHwtail]
    exact distance_advance hvalid.2.1 (by
      change distance s.rxUser.nkrNumSlots s.rxUser.nrHwcur s.rxUser.nrHwtail + _ <
        s.rxUser.nkrNumSlots at hroom
      omega)
  have hpackets := houtcome.packets
  change contents s.rxUser.nkrNumSlots _ s.rxUser.nrHwtail _ = _ at hpackets
  simp only [act, hcall]
  rw [hdistance, hpackets]
  exact passes_take hqueue

theorem isChannel_driver :
    IsChannel (driverStep nm) (Careful nm) (PathKept nm) queue (act nm) := by
  have hsteps : ∀ s e t, PathKept nm s → Careful nm s e → driverStep nm s e = some t →
      PathKept nm t ∧ Passes (queue s) (act nm s e) (queue t) := by
    intro s e t hkept hcareful hstep
    cases e with
    | deliver k slot bufs tryget => exact passes_deliver hkept hcareful hstep
    | rxsync head cur flags => exact passes_rxsync hkept hcareful hstep
    | xmit mem buf len => exact (sameDriver_of_xmit hcareful hstep).passes hkept
    | attach => exact (sameDriver_of_other hstep trivial).passes hkept
    | txInterrupt => exact (sameDriver_of_other hstep trivial).passes hkept
    | rxInterrupt => exact (sameDriver_of_other hstep trivial).passes hkept
    | txKick => exact (sameDriver_of_other hstep trivial).passes hkept
    | rxKick => exact (sameDriver_of_other hstep trivial).passes hkept
    | kthread => exact (sameDriver_of_other hstep trivial).passes hkept
    | bridge naBdg => exact (sameDriver_of_other hstep trivial).passes hkept
  exact ⟨fun s e t hs he hstep => (hsteps s e t hs he hstep).1,
    fun s e t hs he hstep => (hsteps s e t hs he hstep).2⟩

/-- Both sides are set up, the rings are as netmap creates them and nothing was delivered; the slots
of the netmap user have buffers of their own. -/
structure PathStart (nm : NetmapApi) (s : Driver) : Prop where
  start : DriverStart s
  cur_lt : s.np.naPriv.rxRings.cur < s.np.naPriv.rxRings.numSlots
  head : s.np.naPriv.rxRings.head = s.np.naPriv.rxRings.cur
  nkrNumSlots : s.vif.rxKring.nkrNumSlots = s.np.naPriv.rxRings.numSlots
  hwcur : s.vif.rxKring.nrHwcur = s.np.naPriv.rxRings.cur
  hwtail : s.vif.rxKring.nrHwtail = s.np.naPriv.rxRings.cur
  own : OwnBuffers nm s.rxUser.nkrNumSlots s.rxUser.ring

theorem PathStart.kept (hstart : PathStart nm s) : PathKept nm s ∧ queue s = [] := by
  have hcur := hstart.cur_lt
  have hself := distance_self hcur
  have hempty : s.np.naPriv.rxRings.cur = s.np.naPriv.rxRings.tail := hstart.start.empty
  have hok : ReceiveOk nm s.np.naPriv s.vif.rxKring s.rxUser :=
    { cur_lt := hcur
      tail_lt := by
        rw [← hempty]
        exact hcur
      head := hstart.head
      nkrNumSlots := hstart.nkrNumSlots
      hwcur_lt := by
        rw [hstart.hwcur]
        exact hcur
      hwtail_lt := by
        rw [hstart.hwtail]
        exact hcur
      cur_le := by rw [← hempty]
      tail_le := by rw [← hempty, hstart.hwtail]
      short := fun i _ hwithin => by
        unfold Within at hwithin
        rw [hstart.hwtail, hself] at hwithin
        exact absurd hwithin (Nat.not_lt_zero _)
      own := hstart.own }
  refine ⟨hok, ?_⟩
  unfold queue waiting
  rw [hstart.hwtail, hself]
  rfl

/-- The netmap user of the guest is shown the packets that the bridge delivered, in their order and
whole, and those that it was not shown yet are whole in the shared ring. -/
theorem packets_in_order (hstart : PathStart nm s) {es : List DriverEvent}
    (hcareful : Along (driverStep nm) (Careful nm) s es)
    (hrun : run (driverStep nm) s es = some t) :
    (transferred (driverStep nm) (act nm) s es).sent =
      (transferred (driverStep nm) (act nm) s es).taken ++ queue t := by
  obtain ⟨hkept, hempty⟩ := hstart.kept
  have hpasses := isChannel_driver.run hkept hcareful hrun
  rw [hempty] at hpasses
  exact hpasses

end Path

instance (ni : NetmapInfo) (host : NetmapKring) (k : Nat) (slot : Nat → NetmapSlot)
    (bufs : Nat → UInt8) : Decidable (DeliversBehind ni host k slot bufs) :=
  decidable_of_iff
    ((∀ t, t < k →
        (slot (advance ni.rxRings.numSlots host.nrHwtail t)).len.toNat ≤ netfrontBufSize) ∧
      (∀ i, i < ni.rxRings.numSlots →
        Within ni.rxRings.numSlots ni.rxRings.cur host.nrHwtail i →
          (slot i).len = (ni.rxRings.slot i).len) ∧
      ∀ i, i < ni.rxRings.numSlots →
        Within ni.rxRings.numSlots ni.rxRings.cur host.nrHwtail i → ∀ j, j < netfrontBufSize →
          bufs (netfrontBuf ni.rxdBufsBase i + j) = ni.bufs (netfrontBuf ni.rxdBufsBase i + j))
    ⟨fun ⟨hshort, hlen, hbufs⟩ => ⟨hshort, hlen, hbufs⟩,
      fun hbehind => ⟨hbehind.short, hbehind.len, hbehind.bufs⟩⟩

instance (nm : NetmapApi) (s : Driver) : (e : DriverEvent) → Decidable (Careful nm s e)
  | .deliver k slot bufs _ =>
      inferInstanceAs (Decidable (DeliversBehind s.np.naPriv s.vif.rxKring k slot bufs))
  | .rxsync _ _ _ => inferInstanceAs (Decidable (_ ∧ _))
  | .xmit _ _ _ => inferInstanceAs (Decidable (∀ i, i < _ → ∀ k, k < _ → _ = _))
  | .attach | .txInterrupt | .rxInterrupt | .txKick | .rxKick | .kthread
  | .bridge _ => isTrue trivial

theorem freshDriver_pathStart {n : Nat} (hn : 0 < n) (hle : n ≤ 65536) :
    PathStart netmapHeaders (freshDriver n) where
  start := freshDriver_start n
  cur_lt := hn
  head := rfl
  nkrNumSlots := rfl
  hwcur := rfl
  hwtail := rfl
  own := (freshRx_start hn hle hn).wellFormed.own

/-- The bridge delivers two packets, and the guest takes them. -/
def sampleRun : List DriverEvent :=
  [.deliver 2 (fun i => ⟨0, UInt16.ofNat (i + 1), 0, 0⟩) (fun a => UInt8.ofNat (a / 2048)) false,
    .rxInterrupt, .rxsync 0 0 1]

theorem packets_in_order_sample :
    ∃ t, run (driverStep netmapHeaders) (freshDriver 4) sampleRun = some t ∧
      (transferred (driverStep netmapHeaders) (act netmapHeaders) (freshDriver 4) sampleRun).sent =
        (transferred (driverStep netmapHeaders) (act netmapHeaders) (freshDriver 4)
          sampleRun).taken ++ queue t := by
  obtain ⟨t, hrun⟩ := Option.isSome_iff_exists.mp
    (show (run (driverStep netmapHeaders) (freshDriver 4) sampleRun).isSome = true by decide)
  exact ⟨t, hrun, packets_in_order (freshDriver_pathStart (by decide) (by decide)) (by decide) hrun⟩

example : (transferred (driverStep netmapHeaders) (act netmapHeaders) (freshDriver 4)
    sampleRun).taken = [[0], [1, 1]] := by
  decide

end XenNet.ReceivePath

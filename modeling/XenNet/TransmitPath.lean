import XenNet.FifoChannel
import XenNet.TransmitIntegrity
import XenNet.SplitDriver

/-!
The transmit path through both halves of the driver: the guest puts a packet into the shared
ring, the host's thread syncs the ring and hands packets to the bridge. In between anything may
happen on either side. What is looked at of a packet is a parameter, for the ring keeps the
lengths under weaker conditions than the bytes.
-/

namespace XenNet.TransmitPath

open XenNet.ByteMemory
open XenNet.CyclicIndex
open XenNet.RingSegment
open XenNet.TransitionSystem
open XenNet.FifoChannel
open XenNet.NetmapKernel
open XenNet.NetmapReference
open XenNet.NetfrontModel
open XenNet.NetfrontTransmit
open XenNet.NetfrontReceive
open XenNet.ReceiveLoop
open XenNet.TransmitSystem
open XenNet.TransmitIntegrity
open XenNet.NetbackModel
open XenNet.SplitDriver

/-- The transmit rings of both show the same lengths and buffers. -/
structure SameSlots (ni ni' : NetmapInfo) : Prop where
  len : ∀ i, (ni'.txRings.slot i).len = (ni.txRings.slot i).len
  base : ni'.txdBufsBase = ni.txdBufsBase
  bufs : ni'.bufs = ni.bufs

/-- `ofPacket` in the packet that the guest sends, `ofSlot` in the slot that the host reads. A slot
that is `ok` shows the packet when the packet `fits`, and as long as the host `spares` the
buffer. -/
structure PacketView (α : Type*) where
  ofPacket : (Nat → UInt8) → Nat → Nat → α
  ofSlot : NetmapInfo → Nat → α
  ok : NetmapInfo → Nat → Prop
  fits : NetmapInfo → Nat → Prop
  spares : NetmapInfo → (Nat → UInt8) → Prop
  accept_self : ∀ ni mem buf len, fits ni len →
    ok (acceptTx ni mem buf len) ni.stat.txcur.toNat ∧
      ofSlot (acceptTx ni mem buf len) ni.stat.txcur.toNat = ofPacket mem buf len
  accept_ne : ∀ ni mem buf len i, fits ni len → i ≠ ni.stat.txcur.toNat → ok ni i →
    ok (acceptTx ni mem buf len) i ∧ ofSlot (acceptTx ni mem buf len) i = ofSlot ni i
  spare : ∀ ni bufs i, spares ni bufs → i < ni.txRings.numSlots → ok ni i →
    ok { ni with bufs := bufs } i ∧ ofSlot { ni with bufs := bufs } i = ofSlot ni i
  same : ∀ ni ni' i, SameSlots ni ni' →
    (ok ni i → ok ni' i) ∧ ofSlot ni' i = ofSlot ni i

/-- The lengths of the packets, as the 16 bits of a slot hold them. -/
def lengths : PacketView UInt16 where
  ofPacket _ _ len := UInt16.ofNat len
  ofSlot ni i := (ni.txRings.slot i).len
  ok _ _ := True
  fits _ _ := True
  spares _ _ := True
  accept_self ni mem buf len _ := ⟨trivial, by rw [acceptTx_slot_self]⟩
  accept_ne ni mem buf len i _ hne _ := ⟨trivial, by rw [acceptTx_slot_of_ne ni mem buf len hne]⟩
  spare _ _ _ _ _ _ := ⟨trivial, rfl⟩
  same _ _ i hsame := ⟨id, hsame.len i⟩

/-- The bytes of the packets. They are copied to the buffer of `ring->cur` and read in that of the
slot. -/
def payloads : PacketView (List UInt8) where
  ofPacket mem buf len := bytes mem buf len
  ofSlot ni i := ni.txPacket i
  ok ni i := (ni.txRings.slot i).len.toNat ≤ netfrontBufSize
  fits ni len := len ≤ netfrontBufSize ∧ ni.txRings.cur = ni.stat.txcur.toNat
  spares ni bufs := ∀ i, i < ni.txRings.numSlots → ∀ k, k < netfrontBufSize →
    bufs (netfrontBuf ni.txdBufsBase i + k) = ni.bufs (netfrontBuf ni.txdBufsBase i + k)
  accept_self := by
    rintro ni mem buf len ⟨hlen, hcur⟩
    refine ⟨?_, acceptTx_txPacket_self mem buf hcur hlen⟩
    rw [acceptTx_slot_self]
    exact Nat.le_trans (by simpa using Nat.mod_le len 65536) hlen
  accept_ne := by
    rintro ni mem buf len i ⟨hlen, hcur⟩ hne hok
    refine ⟨?_, acceptTx_txPacket_of_ne mem buf hcur hlen hne hok⟩
    rw [acceptTx_slot_of_ne ni mem buf len hne]
    exact hok
  spare := by
    intro ni bufs i hspares hi hok
    refine ⟨hok, bytes_congr fun k hk => ?_⟩
    exact hspares i hi k (Nat.lt_of_lt_of_le hk hok)
  same := by
    intro ni ni' i hsame
    refine ⟨fun hok => by rw [hsame.len]; exact hok, ?_⟩
    rw [NetmapInfo.txPacket, NetmapInfo.txPacket, hsame.len, hsame.base, hsame.bufs]

/-- A sync function may show another tail and other flags, but leaves the packets. -/
structure KeepsPackets (ring ring' : NetmapRing) : Prop where
  numSlots : ring'.numSlots = ring.numSlots
  head : ring'.head = ring.head
  cur : ring'.cur = ring.cur
  len : ∀ i, (ring'.slot i).len = (ring.slot i).len

/-- What the sync functions of a bridge port do to the ring: the transmit function offers all slots
but one from `nr_hwcur` on, and both show the user how far it may go. -/
structure SyncsShow (nm : NetmapApi) : Prop where
  txsync_keeps : ∀ k, KeepsPackets k.ring (nm.netmapVpTxsync k).1.ring
  txsync_hwtail : ∀ k, k.nrHwcur < k.nkrNumSlots → k.rhead < k.nkrNumSlots →
    (nm.netmapVpTxsync k).1.nrHwtail =
      nm.nmPrev (nm.netmapVpTxsync k).1.nrHwcur (k.nkrNumSlots - 1)
  txsync_tail : ∀ k, (nm.netmapVpTxsync k).1.ring.tail = (nm.netmapVpTxsync k).1.nrHwtail
  rxsync_keeps : ∀ k, (nm.nmRxsyncPrologue k).2 < k.nkrNumSlots →
    KeepsPackets k.ring (nm.netmapVpRxsync k).ring
  rxsync_rhead : ∀ k, (nm.nmRxsyncPrologue k).2 < k.nkrNumSlots →
    (nm.netmapVpRxsync k).rhead = k.ring.head
  rxsync_hwtail : ∀ k, (nm.nmRxsyncPrologue k).2 < k.nkrNumSlots →
    (nm.netmapVpRxsync k).nrHwtail = k.nrHwtail
  rxsync_tail : ∀ k, (nm.nmRxsyncPrologue k).2 < k.nkrNumSlots →
    (nm.netmapVpRxsync k).ring.tail = k.nrHwtail

theorem netmapVpRxsync_of_accept {k : NetmapKring}
    (haccept : (netmapHeaders.nmRxsyncPrologue k).2 < k.nkrNumSlots) :
    netmapHeaders.netmapVpRxsync k =
      NetmapReference.nmRxsyncFinalize { (NetmapReference.nmRxsyncPrologue k).1 with
        nrHwcur := (NetmapReference.nmRxsyncPrologue k).2 } :=
  if_pos haccept

theorem syncsShow_netmapHeaders : SyncsShow netmapHeaders where
  txsync_keeps _ := ⟨rfl, rfl, rfl, fun _ => rfl⟩
  txsync_hwtail _ _ _ := rfl
  txsync_tail _ := rfl
  rxsync_keeps k haccept := by
    have hkeeps := NetmapReference.nmRxsyncPrologue_keeps k
    rw [netmapVpRxsync_of_accept haccept]
    refine ⟨hkeeps.numSlots, hkeeps.head, hkeeps.cur, fun i => ?_⟩
    exact congrArg NetmapSlot.len (congrFun hkeeps.slot i)
  rxsync_rhead k haccept := by
    rw [netmapVpRxsync_of_accept haccept]
    exact (NetmapReference.nmRxsyncPrologue_keeps k).head
  rxsync_hwtail k haccept := by
    rw [netmapVpRxsync_of_accept haccept]
    exact (NetmapReference.nmRxsyncPrologue_keeps k).nrHwtail
  rxsync_tail k haccept := by
    rw [netmapVpRxsync_of_accept haccept]
    exact (NetmapReference.nmRxsyncPrologue_keeps k).nrHwtail

section Ring

variable {α : Type*} {nm : NetmapApi} {view : PacketView α} {ni ni' : NetmapInfo}
  {kring kring' : NetmapKring}

/-- The packets that were accepted and not yet handed to the bridge. -/
def waiting (view : PacketView α) (ni : NetmapInfo) (kring : NetmapKring) : List α :=
  contents ni.txRings.numSlots (view.ofSlot ni) kring.nrHwcur
    (distance ni.txRings.numSlots kring.nrHwcur ni.stat.txcur.toNat)

/-- The shared ring as the guest and the host's `kring` for it agree on it. -/
structure PathOk (nm : NetmapApi) (view : PacketView α) (ni : NetmapInfo)
    (kring : NetmapKring) : Prop where
  indices : TxIndices ni kring.nrHwcur
  nkrNumSlots : kring.nkrNumSlots = ni.txRings.numSlots
  head : ni.txRings.head = ni.txRings.cur
  rhead_lt : kring.rhead < ni.txRings.numSlots
  rhead_le : distance ni.txRings.numSlots kring.nrHwcur kring.rhead ≤
    distance ni.txRings.numSlots kring.nrHwcur ni.txRings.cur
  hwtail : kring.nrHwtail = nm.nmPrev kring.nrHwcur (ni.txRings.numSlots - 1)
  tail : ni.txRings.tail = kring.nrHwtail
  ok : ∀ i, i < ni.txRings.numSlots →
    Within ni.txRings.numSlots kring.nrHwcur ni.stat.txcur.toNat i → view.ok ni i

/-- The transmit side of the shared ring and of the host's `kring` is as before. -/
structure SamePath (view : PacketView α) (ni ni' : NetmapInfo) (kring kring' : NetmapKring) :
    Prop where
  numSlots : ni'.txRings.numSlots = ni.txRings.numSlots
  head : ni'.txRings.head = ni.txRings.head
  cur : ni'.txRings.cur = ni.txRings.cur
  tail : ni'.txRings.tail = ni.txRings.tail
  txcur : ni'.stat.txcur = ni.stat.txcur
  nkrNumSlots : kring'.nkrNumSlots = kring.nkrNumSlots
  nrHwcur : kring'.nrHwcur = kring.nrHwcur
  nrHwtail : kring'.nrHwtail = kring.nrHwtail
  slot : ∀ i, i < ni.txRings.numSlots → view.ok ni i →
    view.ok ni' i ∧ view.ofSlot ni' i = view.ofSlot ni i

theorem PathOk.waiting_eq_of_same (hok : PathOk nm view ni kring)
    (hsame : SamePath view ni ni' kring kring') :
    waiting view ni' kring' = waiting view ni kring := by
  have hhost := hok.indices.hostCur_lt
  unfold waiting
  rw [hsame.numSlots, hsame.nrHwcur, hsame.txcur]
  refine contents_congr fun k hk => ?_
  have hkn := Nat.lt_trans hk (distance_lt (Nat.zero_lt_of_lt hhost) _ _)
  have hlt := advance_lt (Nat.zero_lt_of_lt hhost) kring.nrHwcur k
  exact (hsame.slot _ hlt (hok.ok _ hlt ((within_advance_iff hhost hkn).mpr hk))).2

theorem PathOk.of_same (hok : PathOk nm view ni kring)
    (hsame : SamePath view ni ni' kring kring')
    (hrhead_lt : kring'.rhead < ni.txRings.numSlots)
    (hrhead_le : distance ni.txRings.numSlots kring.nrHwcur kring'.rhead ≤
      distance ni.txRings.numSlots kring.nrHwcur ni.txRings.cur) :
    PathOk nm view ni' kring' where
  indices := by
    obtain ⟨hcur, htail, htxcur, hhost, hcurLe, htxcurLe⟩ := hok.indices
    refine ⟨?_, ?_, ?_, ?_, ?_, ?_⟩ <;>
      simpa only [hsame.numSlots, hsame.cur, hsame.tail, hsame.txcur, hsame.nrHwcur]
  nkrNumSlots := by rw [hsame.nkrNumSlots, hok.nkrNumSlots, hsame.numSlots]
  head := by rw [hsame.head, hok.head, hsame.cur]
  rhead_lt := by rw [hsame.numSlots]; exact hrhead_lt
  rhead_le := by rw [hsame.numSlots, hsame.nrHwcur, hsame.cur]; exact hrhead_le
  hwtail := by rw [hsame.nrHwtail, hok.hwtail, hsame.nrHwcur, hsame.numSlots]
  tail := by rw [hsame.tail, hok.tail, hsame.nrHwtail]
  ok := by
    intro i hi hwithin
    rw [hsame.numSlots] at hi
    rw [hsame.numSlots, hsame.nrHwcur, hsame.txcur] at hwithin
    exact (hsame.slot i hi (hok.ok i hi hwithin)).1

theorem distance_nmPrev_self (nm : NetmapApi) {n a : Nat} (ha : a < n) :
    distance n a (nm.nmPrev a (n - 1)) + 1 = n := by
  have hroom := nm.distance_add_room ha ha
  rw [distance_self ha] at hroom
  omega

theorem PathOk.acceptTx (hok : PathOk nm view ni kring) (mem : Nat → UInt8) (buf : Nat) {len : Nat}
    (hfree : ni.stat.txcur.toNat ≠ ni.txRings.tail) (hindex : TxIndexFits ni 1)
    (hfits : view.fits ni len) :
    PathOk nm view (acceptTx ni mem buf len) kring ∧
      waiting view (acceptTx ni mem buf len) kring =
        waiting view ni kring ++ [view.ofPacket mem buf len] := by
  have hhost := hok.indices.hostCur_lt
  have htxcur := hok.indices.txcur_lt
  have hnext := acceptTx_txcur_toNat (p := 0) mem buf len htxcur hindex
  have hgrow := hok.indices.distance_txcur_succ hfree
  have hindices := hok.indices.acceptTx (p := 0) mem buf len hindex hfree
  have hne : ∀ k, k < distance ni.txRings.numSlots kring.nrHwcur ni.stat.txcur.toNat →
      advance ni.txRings.numSlots kring.nrHwcur k ≠ ni.stat.txcur.toNat := by
    rintro k hk heq
    rw [← heq, distance_advance hhost
      (Nat.lt_trans hk (distance_lt (Nat.zero_lt_of_lt hhost) _ _))] at hk
    exact Nat.lt_irrefl k hk
  have hkeeps : ∀ i, i < ni.txRings.numSlots → i ≠ ni.stat.txcur.toNat →
      Within ni.txRings.numSlots kring.nrHwcur ni.stat.txcur.toNat i →
        view.ok (NetfrontTransmit.acceptTx ni mem buf len) i ∧
          view.ofSlot (NetfrontTransmit.acceptTx ni mem buf len) i = view.ofSlot ni i :=
    fun i hi hsame hwithin => view.accept_ne ni mem buf len i hfits hsame (hok.ok i hi hwithin)
  have hcurCases : (NetfrontTransmit.acceptTx ni mem buf len).txRings.head =
        (NetfrontTransmit.acceptTx ni mem buf len).txRings.cur ∧
      distance ni.txRings.numSlots kring.nrHwcur ni.txRings.cur ≤
        distance ni.txRings.numSlots kring.nrHwcur
          (NetfrontTransmit.acceptTx ni mem buf len).txRings.cur := by
    cases hkick : ni.stat.hostNeedTxkick with
    | true =>
        obtain ⟨hcur, hhead⟩ := acceptTx_of_kick ni mem buf len hkick
        refine ⟨hhead.trans hcur.symm, ?_⟩
        rw [hcur, hnext, hgrow]
        exact Nat.le_succ_of_le hok.indices.cur_le
    | false =>
        obtain ⟨hcur, hhead⟩ := acceptTx_of_no_kick ni mem buf len hkick
        exact ⟨hhead.trans (hok.head.trans hcur.symm), Nat.le_of_eq (congrArg _ hcur.symm)⟩
  refine ⟨?_, ?_⟩
  · exact
      { indices := hindices
        nkrNumSlots := by rw [acceptTx_numSlots]; exact hok.nkrNumSlots
        head := hcurCases.1
        rhead_lt := by rw [acceptTx_numSlots]; exact hok.rhead_lt
        rhead_le := by rw [acceptTx_numSlots]; exact hok.rhead_le.trans hcurCases.2
        hwtail := by rw [acceptTx_numSlots]; exact hok.hwtail
        tail := by rw [acceptTx_tail]; exact hok.tail
        ok := by
          intro i hi hwithin
          rw [acceptTx_numSlots] at hi
          rw [acceptTx_numSlots, hnext] at hwithin
          unfold Within at hwithin
          rw [hgrow] at hwithin
          by_cases hsame : i = ni.stat.txcur.toNat
          · rw [hsame]
            exact (view.accept_self ni mem buf len hfits).1
          · refine (hkeeps i hi hsame ?_).1
            refine Nat.lt_of_le_of_ne (Nat.le_of_lt_succ hwithin) fun heq => hsame ?_
            rw [← advance_distance hhost hi, heq, advance_distance hhost htxcur] }
  · unfold waiting
    rw [acceptTx_numSlots, hnext, hgrow, contents_push (view.ofSlot ni),
      advance_distance hhost htxcur, (view.accept_self ni mem buf len hfits).2]
    intro k hk
    have hkn := Nat.lt_trans hk (distance_lt (Nat.zero_lt_of_lt hhost) _ _)
    exact (hkeeps _ (advance_lt (Nat.zero_lt_of_lt hhost) _ _) (hne k hk)
      ((within_advance_iff hhost hkn).mpr hk)).2

/-- The shared ring as the host's thread finds it in its `kring`. -/
def hostKring (ni : NetmapInfo) (kring : NetmapKring) : NetmapKring :=
  { kring with ring := ni.txRings }

def afterSync (ni : NetmapInfo) (kring : NetmapKring) : NetmapInfo :=
  { ni with txRings := kring.ring }

theorem SameSlots.of_keeps {ring : NetmapRing} (hkeeps : KeepsPackets ni.txRings ring) :
    SameSlots ni { ni with txRings := ring } :=
  ⟨hkeeps.len, rfl, rfl⟩

theorem PathOk.prologue (hok : PathOk nm view ni kring) :
    (nm.nmTxsyncPrologue (hostKring ni kring)).1.rhead < ni.txRings.numSlots ∧
      distance ni.txRings.numSlots kring.nrHwcur
          (nm.nmTxsyncPrologue (hostKring ni kring)).1.rhead ≤
        distance ni.txRings.numSlots kring.nrHwcur ni.txRings.cur := by
  rcases nm.nmTxsyncPrologue_rhead (hostKring ni kring) with ⟨-, -, hnew⟩ | ⟨-, hold⟩
  · have hhead : (nm.nmTxsyncPrologue (hostKring ni kring)).1.rhead = ni.txRings.cur :=
      hnew.trans hok.head
    rw [hhead]
    exact ⟨hok.indices.cur_lt, Nat.le_refl _⟩
  · have hhead : (nm.nmTxsyncPrologue (hostKring ni kring)).1.rhead = kring.rhead := hold
    rw [hhead]
    exact ⟨hok.rhead_lt, hok.rhead_le⟩

/-- The host syncs the ring: what goes to the bridge waited first. -/
theorem PathOk.txsync (hsyncs : SyncsShow nm) (hok : PathOk nm view ni kring)
    {synced : NetmapKring × List Nat}
    (hsynced : nm.netmapVpTxsync (nm.nmTxsyncPrologue (hostKring ni kring)).1 = synced) :
    PathOk nm view (afterSync ni synced.1) synced.1 ∧
      waiting view ni kring =
        synced.2.map (view.ofSlot ni) ++ waiting view (afterSync ni synced.1) synced.1 := by
  have hkeeps : KeepsDriverState (hostKring ni kring) _ :=
    nm.nmTxsyncPrologue_keeps (hostKring ni kring)
  obtain ⟨hrhead_lt, hrhead_le⟩ := hok.prologue
  generalize (nm.nmTxsyncPrologue (hostKring ni kring)).1 = k at hsynced hkeeps hrhead_lt hrhead_le
  obtain ⟨hcur, htail, htxcur, hhost, hcurLe, htxcurLe⟩ := hok.indices
  have hn : 0 < ni.txRings.numSlots := Nat.zero_lt_of_lt hcur
  have hslots : k.nkrNumSlots = ni.txRings.numSlots := hkeeps.nkrNumSlots.trans hok.nkrNumSlots
  have hhwcur : k.nrHwcur = kring.nrHwcur := hkeeps.nrHwcur
  have hhwcurLt : k.nrHwcur < k.nkrNumSlots := by rw [hslots, hhwcur]; exact hhost
  have hrheadLt : k.rhead < k.nkrNumSlots := by rw [hslots]; exact hrhead_lt
  obtain ⟨sent, hsent, hsentSlots, hadvanced, hrhead⟩ :=
    nm.netmapVpTxsync_forwards k hhwcurLt hrheadLt
  have hring := hsyncs.txsync_keeps k
  have hhwtail := hsyncs.txsync_hwtail k hhwcurLt hrheadLt
  have htail' := hsyncs.txsync_tail k
  have hslots' := nm.netmapVpTxsync_nkrNumSlots k
  rw [hsynced] at hsentSlots hadvanced hrhead hring hhwtail htail' hslots'
  rw [hslots, hhwcur] at hsent hsentSlots hadvanced
  rw [hslots] at hhwtail hslots'
  have hring' : KeepsPackets ni.txRings synced.1.ring :=
    { numSlots := hring.numSlots.trans hkeeps.numSlots
      head := hring.head.trans hkeeps.head
      cur := hring.cur.trans hkeeps.cur
      len := fun i => (hring.len i).trans (congrArg NetmapSlot.len (congrFun hkeeps.slot i)) }
  have hsame := SameSlots.of_keeps hring'
  have hsentLe : sent ≤ distance ni.txRings.numSlots kring.nrHwcur ni.txRings.cur :=
    hsent.trans hrhead_le
  have hsentLe' := hsentLe.trans hcurLe
  have hhost' : synced.1.nrHwcur < ni.txRings.numSlots := by
    rw [hadvanced]
    exact advance_lt hn _ _
  have hleft : ∀ {b}, b < ni.txRings.numSlots →
      sent ≤ distance ni.txRings.numSlots kring.nrHwcur b →
        distance ni.txRings.numSlots synced.1.nrHwcur b =
          distance ni.txRings.numSlots kring.nrHwcur b - sent := fun hb hle => by
    rw [hadvanced]
    exact distance_advance_left hhost hb hle
  have hprev := distance_nmPrev_self nm hhost'
  have htailEq : synced.1.ring.tail = nm.nmPrev synced.1.nrHwcur (ni.txRings.numSlots - 1) :=
    htail'.trans hhwtail
  have hn' : (afterSync ni synced.1).txRings.numSlots = ni.txRings.numSlots := hring'.numSlots
  have hcur' : (afterSync ni synced.1).txRings.cur = ni.txRings.cur := hring'.cur
  have hindices : TxIndices (afterSync ni synced.1) synced.1.nrHwcur := by
    refine ⟨?_, ?_, ?_, ?_, ?_, ?_⟩
    · rw [hn', hcur']
      exact hcur
    · rw [hn']
      change synced.1.ring.tail < _
      rw [htailEq]
      exact nm.nmPrev_lt hhost'
    · rw [hn']
      exact htxcur
    · rw [hn']
      exact hhost'
    · rw [hn', hcur']
      change _ ≤ distance _ _ ni.stat.txcur.toNat
      rw [hleft hcur hsentLe, hleft htxcur hsentLe']
      omega
    · rw [hn']
      change distance _ _ ni.stat.txcur.toNat ≤ distance _ _ synced.1.ring.tail
      rw [htailEq]
      have hlt := distance_lt hn synced.1.nrHwcur ni.stat.txcur.toNat
      omega
  have hwithin : ∀ i, i < ni.txRings.numSlots →
      Within ni.txRings.numSlots synced.1.nrHwcur ni.stat.txcur.toNat i →
        Within ni.txRings.numSlots kring.nrHwcur ni.stat.txcur.toNat i := by
    intro i hi hin
    obtain ⟨k, hk, rfl⟩ := hin.exists_advance hhost' hi
    rw [hleft htxcur hsentLe'] at hk
    have hbound := distance_lt hn kring.nrHwcur ni.stat.txcur.toNat
    rw [hadvanced, advance_advance]
    exact (within_advance_iff hhost (by omega)).mpr (by omega)
  refine ⟨?_, ?_⟩
  · exact
      { indices := hindices
        nkrNumSlots := hslots'.trans hn'.symm
        head := hring'.head.trans (hok.head.trans hring'.cur.symm)
        rhead_lt := by rw [hn', hrhead]; exact hrhead_lt
        rhead_le := by
          rw [hn', hcur', hrhead, hleft hcur hsentLe, hleft hrhead_lt hsent]
          omega
        hwtail := by rw [hn']; exact hhwtail
        tail := htail'
        ok := fun i hi hin => by
          rw [hn'] at hi hin
          exact (view.same ni (afterSync ni synced.1) i hsame).1 (hok.ok i hi (hwithin i hi hin)) }
  · have hrest : waiting view (afterSync ni synced.1) synced.1 =
        contents ni.txRings.numSlots (view.ofSlot ni)
          (advance ni.txRings.numSlots kring.nrHwcur sent)
          (distance ni.txRings.numSlots kring.nrHwcur ni.stat.txcur.toNat - sent) := by
      unfold waiting
      rw [hn']
      change contents _ _ _ (distance _ _ ni.stat.txcur.toNat) = _
      rw [hleft htxcur hsentLe', hadvanced]
      exact contents_congr fun k _ => (view.same ni (afterSync ni synced.1) _ hsame).2
    rw [hrest, hsentSlots]
    change _ = contents _ _ _ sent ++ _
    rw [← contents_add, Nat.add_sub_cancel' hsentLe']
    rfl

theorem PathOk.rxsync (hsyncs : SyncsShow nm) (hok : PathOk nm view ni kring)
    (hnone : ni.txRings.head = kring.nrHwcur) {synced : NetmapKring}
    (hsynced : nm.netmapVpRxsync (hostKring ni kring) = synced) :
    PathOk nm view (afterSync ni synced) synced ∧
      waiting view (afterSync ni synced) synced = waiting view ni kring := by
  obtain ⟨hcur, htail, htxcur, hhost, hcurLe, htxcurLe⟩ := hok.indices
  have hhwtail : kring.nrHwtail < ni.txRings.numSlots := by
    rw [← hok.tail]
    exact htail
  have hvalid : RxHeadValid (hostKring ni kring) := by
    unfold RxHeadValid
    change kring.nrHwcur < kring.nkrNumSlots ∧ kring.nrHwtail < kring.nkrNumSlots ∧
      ni.txRings.head < kring.nkrNumSlots ∧
      distance kring.nkrNumSlots kring.nrHwcur ni.txRings.head ≤
        distance kring.nkrNumSlots kring.nrHwcur kring.nrHwtail
    rw [hok.nkrNumSlots, hnone, distance_self hhost]
    exact ⟨hhost, hhwtail, hhost, Nat.zero_le _⟩
  have hvalidCur : RxCurValid (hostKring ni kring) := by
    unfold RxCurValid
    change ni.txRings.cur < kring.nkrNumSlots ∧
      distance kring.nkrNumSlots ni.txRings.head ni.txRings.cur ≤
        distance kring.nkrNumSlots ni.txRings.head kring.nrHwtail
    rw [hok.nkrNumSlots, hok.head, distance_self hcur]
    exact ⟨hcur, Nat.zero_le _⟩
  have hprologue := nm.nmRxsyncPrologue_accepts _ hvalid hvalidCur
  have haccept : (nm.nmRxsyncPrologue (hostKring ni kring)).2 <
      (hostKring ni kring).nkrNumSlots := by
    rw [hprologue]
    exact hvalid.2.2.1
  have hring : KeepsPackets ni.txRings synced.ring := by
    rw [← hsynced]
    exact hsyncs.rxsync_keeps _ haccept
  have hrhead : synced.rhead = kring.nrHwcur := by
    rw [← hsynced, hsyncs.rxsync_rhead _ haccept]
    exact hnone
  have hsame : SamePath view ni (afterSync ni synced) kring synced :=
    { numSlots := hring.numSlots
      head := hring.head
      cur := hring.cur
      tail := by
        rw [hok.tail, ← hsynced]
        exact hsyncs.rxsync_tail _ haccept
      txcur := rfl
      nkrNumSlots := by
        rw [← hsynced]
        exact nm.netmapVpRxsync_nkrNumSlots _
      nrHwcur := by
        rw [← hsynced, nm.netmapVpRxsync_nrHwcur, if_pos haccept, hprologue]
        exact hnone
      nrHwtail := by
        rw [← hsynced]
        exact hsyncs.rxsync_hwtail _ haccept
      slot := fun i _ hi =>
        have hview := view.same ni (afterSync ni synced) i (SameSlots.of_keeps hring)
        ⟨hview.1 hi, hview.2⟩ }
  refine ⟨hok.of_same hsame ?_ ?_, hok.waiting_eq_of_same hsame⟩
  · rw [hrhead]
    exact hhost
  · rw [hrhead, distance_self hhost]
    exact Nat.zero_le _

end Ring

section Path

variable {α : Type*} {nm : NetmapApi} {view : PacketView α} {s t : Driver}

def PathKept (nm : NetmapApi) (view : PacketView α) (s : Driver) : Prop :=
  PathOk nm view s.np.naPriv s.vif.txKring

def queue (view : PacketView α) (s : Driver) : List α :=
  waiting view s.np.naPriv s.vif.txKring

/-- What a step puts into the shared ring and what it hands to the bridge. -/
def act (nm : NetmapApi) (view : PacketView α) (s : Driver) : DriverEvent → Transfer α
  | .xmit mem buf len =>
      if (netfrontNetmapXmit nm s.np.naPriv mem buf len).2 then
        Transfer.send [view.ofPacket mem buf len]
      else Transfer.idle
  | .kthread =>
      match kthreadStep nm s.hostView s.pc with
      | some (_, _, slots) => Transfer.take (slots.map (view.ofSlot s.np.naPriv))
      | none => Transfer.idle
  | _ => Transfer.idle

/-- The conditions on a step: a packet that is accepted finds a free slot, not only room at the
published position, and it fits; packets for the guest leave the transmit buffers alone; the receive
branch of the host's thread finds nothing published. -/
def Careful (view : PacketView α) (s : Driver) : DriverEvent → Prop
  | .xmit _ _ len =>
      s.np.naPriv.txRings.cur ≠ s.np.naPriv.txRings.tail →
        s.stat.txcur.toNat ≠ s.np.naPriv.txRings.tail ∧ TxIndexFits s.np.naPriv 1 ∧
          view.fits s.np.naPriv len
  | .deliver _ _ bufs _ => view.spares s.np.naPriv bufs
  | .kthread =>
      s.pc = .rxBranch → rxWorkTodo s.vif = true →
        s.np.naPriv.txRings.head = s.vif.txKring.nrHwcur
  | _ => True

/-- A step of the guest or of the host that has nothing to do with the transmit path. -/
structure SameDriver (view : PacketView α) (s t : Driver) : Prop where
  path : SamePath view s.np.naPriv t.np.naPriv s.vif.txKring t.vif.txKring
  rhead : t.vif.txKring.rhead = s.vif.txKring.rhead

theorem SameDriver.kept (hsame : SameDriver view s t) (hkept : PathKept nm view s) :
    PathKept nm view t ∧ queue view t = queue view s := by
  have hok : PathOk nm view s.np.naPriv s.vif.txKring := hkept
  refine ⟨hok.of_same hsame.path ?_ ?_, hok.waiting_eq_of_same hsame.path⟩
  · rw [hsame.rhead]
    exact hok.rhead_lt
  · rw [hsame.rhead]
    exact hok.rhead_le

theorem SameDriver.of_ring (hring : t.np.naPriv.txRings = s.np.naPriv.txRings)
    (hbase : t.np.naPriv.txdBufsBase = s.np.naPriv.txdBufsBase)
    (hbufs : t.np.naPriv.bufs = s.np.naPriv.bufs)
    (htxcur : t.np.naPriv.stat.txcur = s.np.naPriv.stat.txcur)
    (hkring : hostKring t.np.naPriv t.vif.txKring = hostKring s.np.naPriv s.vif.txKring) :
    SameDriver view s t where
  path :=
    { numSlots := congrArg NetmapRing.numSlots hring
      head := congrArg NetmapRing.head hring
      cur := congrArg NetmapRing.cur hring
      tail := congrArg NetmapRing.tail hring
      txcur := htxcur
      nkrNumSlots := (congrArg NetmapKring.nkrNumSlots hkring :)
      nrHwcur := (congrArg NetmapKring.nrHwcur hkring :)
      nrHwtail := (congrArg NetmapKring.nrHwtail hkring :)
      slot := fun i _ hi =>
        have hsame : SameSlots s.np.naPriv t.np.naPriv := ⟨fun i => by rw [hring], hbase, hbufs⟩
        ⟨(view.same _ _ i hsame).1 hi, (view.same _ _ i hsame).2⟩ }
  rhead := (congrArg NetmapKring.rhead hkring :)

theorem sameDriver_afterHost {vif : Xenvif} (hkring : vif.txKring = s.hostView.txKring) :
    SameDriver view s (s.afterHost vif) := by
  refine SameDriver.of_ring ?_ rfl rfl rfl ?_
  · exact congrArg NetmapKring.ring hkring
  · change hostKring _ vif.txKring = _
    rw [hkring]
    change ({ s.vif.txKring with ring := vif.txKring.ring } : NetmapKring) = _
    rw [hkring]
    rfl

theorem passes_afterHost {vif : Xenvif} (hkring : vif.txKring = s.hostView.txKring)
    (hkept : PathKept nm view s) (pc : Kthread) (seen : Nat) :
    PathKept nm view { s.afterHost vif with pc := pc, seen := seen } ∧
      Passes (queue view s) (Transfer.take [])
        (queue view { s.afterHost vif with pc := pc, seen := seen }) := by
  obtain ⟨hkept', hqueue⟩ := (sameDriver_afterHost hkring).kept hkept
  refine ⟨hkept', passes_take ?_⟩
  exact hqueue.symm

theorem passes_kthread (hsyncs : SyncsShow nm) (hkept : PathKept nm view s)
    (hcareful : Careful view s .kthread) (hstep : driverStep nm s .kthread = some t) :
    PathKept nm view t ∧ Passes (queue view s) (act nm view s .kthread) (queue view t) := by
  have hok : PathOk nm view s.np.naPriv s.vif.txKring := hkept
  simp only [driverStep] at hstep
  split at hstep
  · rename_i vif pc slots hthread
    obtain rfl := Option.some.inj hstep
    have hact : act nm view s .kthread =
        Transfer.take (slots.map (view.ofSlot s.np.naPriv)) := by
      simp only [act, hthread]
    rw [hact]
    cases kthreadStep_cases hthread with
    | work _ _ => exact passes_afterHost rfl hkept _ _
    | sleep _ _ _ => exact passes_afterHost rfl hkept _ _
    | txsync _ _ =>
        obtain ⟨hok', hqueue⟩ := hok.txsync hsyncs rfl
        exact ⟨hok', passes_take hqueue⟩
    | skipTx _ _ => exact passes_afterHost rfl hkept _ _
    | clearTx _ =>
        have hkring : (irqClearTxkick s.hostView).txKring = s.hostView.txKring := rfl
        exact passes_afterHost hkring hkept _ _
    | notifyTx _ => exact passes_afterHost (irqNotifyTx_txKring _) hkept _ _
    | rxsync hpc htodo =>
        obtain ⟨hok', hqueue⟩ := hok.rxsync hsyncs (hcareful hpc htodo) rfl
        exact ⟨hok', passes_take hqueue.symm⟩
    | skipRx _ _ => exact passes_afterHost rfl hkept _ _
    | armRx _ =>
        have hkring : (irqArmRxkick s.hostView).txKring = s.hostView.txKring := rfl
        exact passes_afterHost hkring hkept _ _
  · contradiction

theorem passes_xmit (hkept : PathKept nm view s) {mem : Nat → UInt8} {buf len : Nat}
    (hcareful : Careful view s (.xmit mem buf len))
    (hstep : driverStep nm s (.xmit mem buf len) = some t) :
    PathKept nm view t ∧
      Passes (queue view s) (act nm view s (.xmit mem buf len)) (queue view t) := by
  have hok : PathOk nm view s.np.naPriv s.vif.txKring := hkept
  simp only [driverStep, Option.ite_none_right_eq_some, Option.some.injEq] at hstep
  obtain ⟨-, rfl⟩ := hstep
  by_cases hroom : s.np.naPriv.txRings.cur = s.np.naPriv.txRings.tail
  · have hrefused := xmit_of_empty s.np.naPriv mem buf len nm hroom
    simp only [act, hrefused]
    exact ⟨hkept, passes_idle _⟩
  · have haccepted := xmit_of_not_empty s.np.naPriv mem buf len nm hroom
    obtain ⟨hfree, hindex, hfits⟩ := hcareful hroom
    obtain ⟨hok', hqueue⟩ := hok.acceptTx mem buf hfree hindex hfits
    simp only [act, haccepted, if_true]
    refine ⟨hok', ?_⟩
    change Passes _ _ (waiting view (acceptTx s.np.naPriv mem buf len) s.vif.txKring)
    rw [hqueue]
    exact passes_send _ _

theorem passes_deliver (hkept : PathKept nm view s) {k : Nat} {slot : Nat → NetmapSlot}
    {bufs : Nat → UInt8} {tryget : Bool} (hspares : view.spares s.np.naPriv bufs)
    (hstep : driverStep nm s (.deliver k slot bufs tryget) = some t) :
    PathKept nm view t ∧ queue view t = queue view s := by
  obtain ⟨vif, rfl, hvif⟩ := driverStep_deliver_cases hstep
  have hkring : vif.txKring = s.hostView.txKring := by
    rcases hvif with rfl | ⟨kring, rfl⟩
    · rfl
    · exact notifyGuestRx_txKring _
  have hbufs : SameDriver view s
      { s with np := { s.np with naPriv := { s.np.naPriv with bufs := bufs } } } :=
    { path :=
        { numSlots := rfl
          head := rfl
          cur := rfl
          tail := rfl
          txcur := rfl
          nkrNumSlots := rfl
          nrHwcur := rfl
          nrHwtail := rfl
          slot := fun i hi hok => view.spare s.np.naPriv bufs i hspares hi hok }
      rhead := rfl }
  have hhost : SameDriver view
      { s with np := { s.np with naPriv := { s.np.naPriv with bufs := bufs } } }
      (Driver.afterHost
        { s with np := { s.np with naPriv := { s.np.naPriv with bufs := bufs } } } vif) :=
    sameDriver_afterHost hkring
  obtain ⟨hkept', hqueue'⟩ := hbufs.kept hkept
  obtain ⟨hkept'', hqueue''⟩ := hhost.kept hkept'
  exact ⟨hkept'', hqueue''.trans hqueue'⟩

theorem sameDriver_of_other {e : DriverEvent} (hstep : driverStep nm s e = some t)
    (he : match e with
      | .xmit _ _ _ | .deliver _ _ _ _ | .kthread => False
      | _ => True) : SameDriver view s t := by
  cases e with
  | attach =>
      simp only [driverStep] at hstep
      split at hstep
      · contradiction
      · obtain rfl := Option.some.inj hstep
        exact SameDriver.of_ring rfl rfl rfl rfl rfl
  | txInterrupt =>
      simp only [driverStep, Option.ite_none_right_eq_some, Option.some.injEq] at hstep
      obtain ⟨-, rfl⟩ := hstep
      unfold netfrontTxInterrupt
      split <;> exact SameDriver.of_ring rfl rfl rfl rfl rfl
  | rxInterrupt =>
      simp only [driverStep, Option.ite_none_right_eq_some, Option.some.injEq] at hstep
      obtain ⟨-, rfl⟩ := hstep
      unfold netfrontRxInterrupt
      split <;> exact SameDriver.of_ring rfl rfl rfl rfl rfl
  | rxsync head cur flags =>
      simp only [driverStep] at hstep
      split at hstep
      · rename_i call hcall
        obtain rfl := Option.some.inj hstep
        rcases rxsync_np_cases nm s.np s.mem flags hcall with hnp | ⟨st, -, hnp⟩
        · rw [hnp]
          exact SameDriver.of_ring rfl rfl rfl rfl rfl
        · rw [hnp]
          unfold publishRx
          split <;> exact SameDriver.of_ring rfl rfl rfl rfl rfl
      · contradiction
  | txKick =>
      simp only [driverStep, Option.ite_none_right_eq_some, Option.some.injEq] at hstep
      obtain ⟨-, rfl⟩ := hstep
      unfold xenvifNetmapIrqsched
      split_ifs <;> exact SameDriver.of_ring rfl rfl rfl rfl rfl
  | rxKick =>
      simp only [driverStep, Option.ite_none_right_eq_some, Option.some.injEq] at hstep
      obtain ⟨-, rfl⟩ := hstep
      unfold xenvifNetmapIrqsched
      split_ifs <;> exact SameDriver.of_ring rfl rfl rfl rfl rfl
  | bridge naBdg =>
      obtain rfl := Option.some.inj hstep
      exact SameDriver.of_ring rfl rfl rfl rfl rfl
  | _ => exact absurd he id

theorem isChannel_driver (hsyncs : SyncsShow nm) :
    IsChannel (driverStep nm) (Careful view) (PathKept nm view) (queue view) (act nm view) := by
  have hsteps : ∀ s e t, PathKept nm view s → Careful view s e → driverStep nm s e = some t →
      PathKept nm view t ∧ Passes (queue view s) (act nm view s e) (queue view t) := by
    intro s e t hkept hcareful hstep
    have hsame : SameDriver view s t → PathKept nm view t ∧
        Passes (queue view s) Transfer.idle (queue view t) := by
      intro hsame
      obtain ⟨hkept', hqueue⟩ := hsame.kept hkept
      refine ⟨hkept', ?_⟩
      rw [hqueue]
      exact passes_idle _
    cases e with
    | xmit mem buf len => exact passes_xmit hkept hcareful hstep
    | kthread => exact passes_kthread hsyncs hkept hcareful hstep
    | deliver k slot bufs tryget =>
        obtain ⟨hkept', hqueue⟩ := passes_deliver hkept hcareful hstep
        refine ⟨hkept', ?_⟩
        rw [hqueue]
        exact passes_idle _
    | attach => exact hsame (sameDriver_of_other hstep trivial)
    | txInterrupt => exact hsame (sameDriver_of_other hstep trivial)
    | rxInterrupt => exact hsame (sameDriver_of_other hstep trivial)
    | rxsync head cur flags => exact hsame (sameDriver_of_other hstep trivial)
    | txKick => exact hsame (sameDriver_of_other hstep trivial)
    | rxKick => exact hsame (sameDriver_of_other hstep trivial)
    | bridge naBdg => exact hsame (sameDriver_of_other hstep trivial)
  exact ⟨fun s e t hs he hstep => (hsteps s e t hs he hstep).1,
    fun s e t hs he hstep => (hsteps s e t hs he hstep).2⟩

/-- Both sides are set up, and the host's `kring` and the shared ring are as netmap creates
them. -/
structure PathStart (nm : NetmapApi) (s : Driver) : Prop where
  start : DriverStart s
  cur_lt : s.np.naPriv.txRings.cur < s.np.naPriv.txRings.numSlots
  cur_fits : s.np.naPriv.txRings.cur < 65536
  head : s.np.naPriv.txRings.head = s.np.naPriv.txRings.cur
  nkrNumSlots : s.vif.txKring.nkrNumSlots = s.np.naPriv.txRings.numSlots
  hwcur : s.vif.txKring.nrHwcur = s.np.naPriv.txRings.cur
  rhead : s.vif.txKring.rhead = s.np.naPriv.txRings.cur
  hwtail : s.vif.txKring.nrHwtail =
    nm.nmPrev s.vif.txKring.nrHwcur (s.np.naPriv.txRings.numSlots - 1)
  tail : s.np.naPriv.txRings.tail = s.vif.txKring.nrHwtail

theorem PathStart.txcur (hstart : PathStart nm s) :
    s.np.naPriv.stat.txcur.toNat = s.np.naPriv.txRings.cur := by
  have hstat : s.np.naPriv.stat = setupNetfrontCsb s.np.naPriv.txRings := hstart.start.stat_eq
  have hfits := hstart.cur_fits
  rw [hstat]
  simpa [setupNetfrontCsb] using hfits

theorem PathStart.kept (hstart : PathStart nm s) (view : PacketView α) :
    PathKept nm view s ∧ queue view s = [] := by
  have hcur := hstart.cur_lt
  have hself := distance_self hcur
  have htail : s.np.naPriv.txRings.tail < s.np.naPriv.txRings.numSlots := by
    rw [hstart.tail, hstart.hwtail, hstart.hwcur]
    exact nm.nmPrev_lt hcur
  have hok : PathOk nm view s.np.naPriv s.vif.txKring :=
    { indices := by
        refine ⟨hcur, htail, ?_, ?_, ?_, ?_⟩
        · rw [hstart.txcur]
          exact hcur
        · rw [hstart.hwcur]
          exact hcur
        · rw [hstart.txcur]
        · rw [hstart.txcur, hstart.hwcur, hself]
          exact Nat.zero_le _
      nkrNumSlots := hstart.nkrNumSlots
      head := hstart.head
      rhead_lt := by
        rw [hstart.rhead]
        exact hcur
      rhead_le := by rw [hstart.rhead]
      hwtail := hstart.hwtail
      tail := hstart.tail
      ok := fun i _ hwithin => by
        unfold Within at hwithin
        rw [hstart.txcur, hstart.hwcur, hself] at hwithin
        exact absurd hwithin (Nat.not_lt_zero _) }
  refine ⟨hok, ?_⟩
  unfold queue waiting
  rw [hstart.txcur, hstart.hwcur, hself]
  rfl

theorem sent_eq_taken_append (hsyncs : SyncsShow nm) (hstart : PathStart nm s)
    {es : List DriverEvent} (hcareful : Along (driverStep nm) (Careful view) s es)
    (hrun : run (driverStep nm) s es = some t) :
    (transferred (driverStep nm) (act nm view) s es).sent =
      (transferred (driverStep nm) (act nm view) s es).taken ++ queue view t := by
  obtain ⟨hkept, hempty⟩ := hstart.kept view
  have hpasses := (isChannel_driver hsyncs).run hkept hcareful hrun
  rw [hempty] at hpasses
  exact hpasses

end Path

section Results

variable {nm : NetmapApi} {s t : Driver} {es : List DriverEvent}

/-- The bridge gets the bytes of the packets that the guest sent, in their order, and the packets
that it did not get yet are whole in the ring, as long as every packet finds `ring->cur` at
`stat->txcur`. -/
theorem payloads_in_order (hsyncs : SyncsShow nm) (hstart : PathStart nm s)
    (hcareful : Along (driverStep nm) (Careful payloads) s es)
    (hrun : run (driverStep nm) s es = some t) :
    (transferred (driverStep nm) (act nm payloads) s es).sent =
      (transferred (driverStep nm) (act nm payloads) s es).taken ++ queue payloads t :=
  sent_eq_taken_append hsyncs hstart hcareful hrun

/-- The bridge gets as many packets as it should, in their order and with their lengths, also where
`ring->cur` and `stat->txcur` are apart. -/
theorem lengths_in_order (hsyncs : SyncsShow nm) (hstart : PathStart nm s)
    (hcareful : Along (driverStep nm) (Careful lengths) s es)
    (hrun : run (driverStep nm) s es = some t) :
    (transferred (driverStep nm) (act nm lengths) s es).sent =
      (transferred (driverStep nm) (act nm lengths) s es).taken ++ queue lengths t :=
  sent_eq_taken_append hsyncs hstart hcareful hrun

end Results

instance (s : Driver) : (e : DriverEvent) → Decidable (Careful payloads s e)
  | .xmit _ _ _ => inferInstanceAs (Decidable (_ → _ ∧ _ ∧ _ ∧ _))
  | .deliver _ _ _ _ => inferInstanceAs (Decidable (∀ i, i < _ → ∀ k, k < _ → _ = _))
  | .kthread => inferInstanceAs (Decidable (_ → _ → _))
  | .attach | .txInterrupt | .rxInterrupt | .rxsync _ _ _ | .txKick | .rxKick
  | .bridge _ => isTrue trivial

instance (s : Driver) : (e : DriverEvent) → Decidable (Careful lengths s e)
  | .xmit _ _ _ => inferInstanceAs (Decidable (_ → _ ∧ _ ∧ True))
  | .deliver _ _ _ _ => isTrue trivial
  | .kthread => inferInstanceAs (Decidable (_ → _ → _))
  | .attach | .txInterrupt | .rxInterrupt | .rxsync _ _ _ | .txKick | .rxKick
  | .bridge _ => isTrue trivial

theorem freshDriver_pathStart {n : Nat} (hn : 0 < n) : PathStart netmapHeaders (freshDriver n) where
  start := freshDriver_start n
  cur_lt := hn
  cur_fits := show 0 < 65536 by decide
  head := rfl
  nkrNumSlots := rfl
  hwcur := rfl
  rhead := rfl
  hwtail := rfl
  tail := rfl

/-- The guest sends a packet, the host serves the kick, and the guest hears of it. -/
def servedPacket (mem : Nat → UInt8) (len : Nat) : List DriverEvent :=
  [.xmit mem 0 len, .txKick, .kthread, .kthread, .kthread, .kthread, .kthread, .txInterrupt]

/-- Two packets that the host serves, and one that waits. -/
def sampleRun : List DriverEvent :=
  .attach :: (servedPacket (fun _ => 7) 3 ++ servedPacket (fun _ => 8) 2 ++
    [.xmit (fun _ => 9) 0 4])

theorem payloads_in_order_sample :
    ∃ t, run (driverStep netmapHeaders) (freshDriver 4) sampleRun = some t ∧
      (transferred (driverStep netmapHeaders) (act netmapHeaders payloads) (freshDriver 4)
          sampleRun).sent =
        (transferred (driverStep netmapHeaders) (act netmapHeaders payloads) (freshDriver 4)
          sampleRun).taken ++ queue payloads t := by
  obtain ⟨t, hrun⟩ := Option.isSome_iff_exists.mp
    (show (run (driverStep netmapHeaders) (freshDriver 4) sampleRun).isSome = true by decide)
  exact ⟨t, hrun, payloads_in_order syncsShow_netmapHeaders (freshDriver_pathStart (by decide))
    (by decide) hrun⟩

example : (transferred (driverStep netmapHeaders) (act netmapHeaders payloads) (freshDriver 4)
    sampleRun).taken = [[7, 7, 7], [8, 8]] := by
  decide

example : (run (driverStep netmapHeaders) (freshDriver 4) sampleRun).map (queue payloads) =
    some [[9, 9, 9, 9]] := by
  decide

/-- Three packets, of which one is published. -/
def batchRun : List DriverEvent :=
  [.attach, .xmit (fun _ => 1) 0 1, .xmit (fun _ => 2) 0 2, .xmit (fun _ => 3) 0 3, .txKick,
    .kthread, .kthread]

theorem lengths_in_order_batch :
    ∃ t, run (driverStep netmapHeaders) (freshDriver 8) batchRun = some t ∧
      (transferred (driverStep netmapHeaders) (act netmapHeaders lengths) (freshDriver 8)
          batchRun).sent =
        (transferred (driverStep netmapHeaders) (act netmapHeaders lengths) (freshDriver 8)
          batchRun).taken ++ queue lengths t := by
  obtain ⟨t, hrun⟩ := Option.isSome_iff_exists.mp
    (show (run (driverStep netmapHeaders) (freshDriver 8) batchRun).isSome = true by decide)
  exact ⟨t, hrun, lengths_in_order syncsShow_netmapHeaders (freshDriver_pathStart (by decide))
    (by decide) hrun⟩

end XenNet.TransmitPath

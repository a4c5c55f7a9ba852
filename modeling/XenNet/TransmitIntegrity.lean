import XenNet.NetmapReference
import XenNet.TransmitSystem

namespace XenNet.TransmitIntegrity

open XenNet.ByteMemory
open XenNet.CyclicIndex
open XenNet.RingSegment
open XenNet.TransitionSystem
open XenNet.NetmapKernel
open XenNet.NetmapReference
open XenNet.NetfrontModel
open XenNet.NetfrontTransmit
open XenNet.TransmitLoop
open XenNet.TransmitSystem

/-- Every published slot that the host has not read holds the packet accepted for it,
and the host gets the accepted packets in their order. -/
structure PublishedIntact (s : TxSystem) : Prop where
  slots : ∀ i, i < s.ring.numSlots → Within s.ring.numSlots s.hostCur s.ring.cur i →
    ∃ p, s.accepted.reverse.lookup i = some p ∧ (s.ring.slot i).len.toNat = p.length ∧
      bytes s.np.naPriv.bufs (netfrontBuf s.np.naPriv.txdBufsBase i) p.length = p
  order : s.received ++ contents s.ring.numSlots s.np.naPriv.txPacket s.hostCur
    (distance s.ring.numSlots s.hostCur s.ring.cur) <+: s.accepted.map Prod.snd

/-- The user's packets fit into the buffers of the shared ring. -/
def ShortPackets (s : TxSystem) : TxEvent → Prop
  | .txsync user _ =>
      ∀ i, i < s.kring.nkrNumSlots → (user.slot i).len.toNat ≤ netfrontBufSize
  | _ => True

/-- The next `p` packets all find `ring->cur` at `stat->txcur`: there is no packet or no
room, or they start together and no third packet follows the one that is published. -/
def TxMatch (ni : NetmapInfo) (p : Nat) : Prop :=
  p = 0 ∨ ni.txRings.cur = ni.txRings.tail ∨
    TxIndexFits ni p ∧ ni.txRings.cur = ni.stat.txcur.toNat ∧
      (p = 1 ∨ ni.stat.hostNeedTxkick = true ∧
        (p = 2 ∨ distance ni.txRings.numSlots ni.stat.txcur.toNat ni.txRings.tail = 1))

def CursorsTogether (s : TxSystem) : TxEvent → Prop
  | .txsync user _ =>
      s.np.carrierOk = true → user.rhead < s.kring.nkrNumSlots →
        TxMatch s.np.naPriv (s.pending user)
  | _ => True

/-- Each packet that a step accepts is copied to the buffer of its own slot. -/
def CopiedToOwnSlot (nm : NetmapApi) (s : TxSystem) : TxEvent → Prop
  | .txsync user _ =>
      user.rhead < s.kring.nkrNumSlots →
        ∀ call ∈ txsyncCalls nm s.np user.mem (user.load s.kring),
          call.accepted nm user.mem = true →
            call.ni.txRings.cur = call.ni.stat.txcur.toNat
  | _ => True

instance (ni : NetmapInfo) (p : Nat) : Decidable (TxMatch ni p) :=
  inferInstanceAs (Decidable (_ ∨ _ ∨ _ ∧ _ ∧ _))

instance (s : TxSystem) : (e : TxEvent) → Decidable (ShortPackets s e)
  | .txsync _ _ => inferInstanceAs (Decidable (∀ i, i < _ → _))
  | .txInterrupt => isTrue trivial
  | .host _ _ => isTrue trivial
  | .carrier _ => isTrue trivial

instance (s : TxSystem) : (e : TxEvent) → Decidable (CursorsTogether s e)
  | .txsync _ _ => inferInstanceAs (Decidable (_ → _ → _))
  | .txInterrupt => isTrue trivial
  | .host _ _ => isTrue trivial
  | .carrier _ => isTrue trivial

theorem TxMatch.cur_eq_txcur {ni : NetmapInfo} {p : Nat} (hmatch : TxMatch ni (p + 1))
    (hne : ni.txRings.cur ≠ ni.txRings.tail) :
    TxIndexFits ni (p + 1) ∧ ni.txRings.cur = ni.stat.txcur.toNat := by
  rcases hmatch with hzero | hempty | ⟨hfits, hcur, _⟩
  · omega
  · exact absurd hempty hne
  · exact ⟨hfits, hcur⟩

theorem TxMatch.acceptTx {ni : NetmapInfo} {p : Nat} (mem : Nat → UInt8) (buf len : Nat)
    (htxcur : ni.stat.txcur.toNat < ni.txRings.numSlots)
    (htail : ni.txRings.tail < ni.txRings.numSlots) (hmatch : TxMatch ni (p + 1))
    (hne : ni.txRings.cur ≠ ni.txRings.tail) : TxMatch (acceptTx ni mem buf len) p := by
  rcases hmatch with hzero | hempty | ⟨hfits, _, hone | ⟨hkick, htwo | hlast⟩⟩
  · omega
  · exact absurd hempty hne
  · exact Or.inl (by omega)
  · refine Or.inr (Or.inr ⟨acceptTx_indexFits mem buf len htxcur hfits, ?_,
      Or.inl (by omega)⟩)
    exact (acceptTx_of_kick ni mem buf len hkick).1
  · refine Or.inr (Or.inl ?_)
    rw [(acceptTx_of_kick ni mem buf len hkick).1, acceptTx_tail,
      acceptTx_txcur_toNat mem buf len htxcur hfits, ← hlast,
      advance_distance htxcur htail]

/-- Each accepted packet that the host has not read sits whole in its slot, and the host
has read the ones before. -/
structure PacketsHeld (ni : NetmapInfo) (hostCur : Nat) (received : List (List UInt8))
    (accepted : List (Nat × List UInt8)) : Prop where
  held : ∃ done, done.map Prod.snd = received ∧
    accepted = done ++ contents ni.txRings.numSlots (fun i => (i, ni.txPacket i)) hostCur
      (distance ni.txRings.numSlots hostCur ni.stat.txcur.toNat)
  short : ∀ i, i < ni.txRings.numSlots →
    Within ni.txRings.numSlots hostCur ni.stat.txcur.toNat i →
      (ni.txRings.slot i).len.toNat ≤ netfrontBufSize

theorem acceptTx_txPacket_self {ni : NetmapInfo} (mem : Nat → UInt8) (buf : Nat)
    {len : Nat} (hcur : ni.txRings.cur = ni.stat.txcur.toNat)
    (hlen : len ≤ netfrontBufSize) :
    (acceptTx ni mem buf len).txPacket ni.stat.txcur.toNat = bytes mem buf len := by
  have hsmall : (UInt16.ofNat len).toNat = len := by
    have hbound : len < 65536 := Nat.lt_of_le_of_lt hlen (by decide)
    simpa using hbound
  unfold NetmapInfo.txPacket
  rw [acceptTx_slot_self, acceptTx_bufs, acceptTx_txdBufsBase, hcur]
  change bytes _ _ (UInt16.ofNat len).toNat = _
  rw [hsmall]
  exact bytes_memcpy ni.bufs mem _ buf len

theorem acceptTx_txPacket_of_ne {ni : NetmapInfo} (mem : Nat → UInt8) (buf : Nat)
    {len i : Nat} (hcur : ni.txRings.cur = ni.stat.txcur.toNat)
    (hlen : len ≤ netfrontBufSize) (hne : i ≠ ni.stat.txcur.toNat)
    (hshort : (ni.txRings.slot i).len.toNat ≤ netfrontBufSize) :
    (acceptTx ni mem buf len).txPacket i = ni.txPacket i := by
  have hdisjoint := netfrontBuf_disjoint (t := ni.txdBufsBase) hne
  unfold NetmapInfo.txPacket
  rw [acceptTx_slot_of_ne ni mem buf len hne, acceptTx_bufs, acceptTx_txdBufsBase, hcur]
  refine bytes_memcpy_disjoint ni.bufs mem buf ?_
  omega

theorem PacketsHeld.acceptTx {ni : NetmapInfo} {hostCur p : Nat}
    {received : List (List UInt8)} {accepted : List (Nat × List UInt8)}
    (mem : Nat → UInt8) (buf : Nat) {len : Nat}
    (hheld : PacketsHeld ni hostCur received accepted) (hidx : TxIndices ni hostCur)
    (hfits : TxIndexFits ni (p + 1)) (hcur : ni.txRings.cur = ni.stat.txcur.toNat)
    (hne : ni.txRings.cur ≠ ni.txRings.tail) (hlen : len ≤ netfrontBufSize) :
    PacketsHeld (acceptTx ni mem buf len) hostCur received
      (accepted ++ [(ni.stat.txcur.toNat, bytes mem buf len)]) := by
  obtain ⟨⟨done, hdone, haccepted⟩, hshort⟩ := hheld
  have hhost := hidx.hostCur_lt
  have htxcur := hidx.txcur_lt
  have hnext := acceptTx_txcur_toNat mem buf len htxcur hfits
  have hgrow := hidx.distance_txcur_succ (hcur ▸ hne)
  have hwithin : ∀ k, k < distance ni.txRings.numSlots hostCur ni.stat.txcur.toNat →
      advance ni.txRings.numSlots hostCur k ≠ ni.stat.txcur.toNat := by
    rintro k hk heq
    rw [← heq, distance_advance hhost
      (Nat.lt_trans hk (distance_lt (Nat.zero_lt_of_lt hhost) _ _))] at hk
    exact Nat.lt_irrefl k hk
  refine ⟨⟨done, hdone, ?_⟩, ?_⟩
  · rw [acceptTx_numSlots, hnext, hgrow, contents_push fun i => (i, ni.txPacket i),
      advance_distance hhost htxcur, acceptTx_txPacket_self mem buf hcur hlen, haccepted,
      List.append_assoc]
    intro k hk
    have hkn := Nat.lt_trans hk (distance_lt (Nat.zero_lt_of_lt hhost) _ _)
    rw [acceptTx_txPacket_of_ne mem buf hcur hlen (hwithin k hk)]
    exact hshort _ (advance_lt (Nat.zero_lt_of_lt hhost) _ _)
      ((within_advance_iff hhost hkn).mpr hk)
  · intro i hi hiWithin
    rw [acceptTx_numSlots] at hi
    rw [acceptTx_numSlots, hnext] at hiWithin
    unfold Within at hiWithin
    rw [hgrow] at hiWithin
    by_cases hsame : i = ni.stat.txcur.toNat
    · rw [hsame, acceptTx_slot_self]
      change (UInt16.ofNat len).toNat ≤ netfrontBufSize
      exact Nat.le_trans (by simpa using Nat.mod_le len 65536) hlen
    · rw [acceptTx_slot_of_ne ni mem buf len hsame]
      refine hshort i hi (Nat.lt_of_le_of_ne (Nat.le_of_lt_succ hiWithin) fun heq => hsame ?_)
      rw [← advance_distance hhost hi, heq, advance_distance hhost htxcur]

structure TxIntact (s : TxSystem) : Prop where
  wellFormed : TxWellFormed s
  held : PacketsHeld s.np.naPriv s.hostCur s.received s.accepted

theorem txIntact_start {s : TxSystem} (hstart : TxStart s) : TxIntact s := by
  have hempty : distance s.np.naPriv.txRings.numSlots s.hostCur
      s.np.naPriv.stat.txcur.toNat = 0 := by
    have htxcur : s.np.naPriv.stat.txcur.toNat = s.hostCur :=
      hstart.txcur_eq.trans hstart.hostCur_eq.symm
    rw [htxcur]
    exact distance_self hstart.indices.hostCur_lt
  refine ⟨hstart.wellFormed, ⟨[], ?_, ?_⟩, ?_⟩
  · rw [hstart.received_eq]
    rfl
  · rw [hstart.accepted_eq, hempty]
    rfl
  · intro i _ hwithin
    unfold Within at hwithin
    omega

structure MatchKept (hostCur : Nat) (received : List (List UInt8)) (p : Nat)
    (ni : NetmapInfo) (accepted : List (Nat × List UInt8)) : Prop where
  indices : TxIndices ni hostCur
  matching : TxMatch ni p
  held : PacketsHeld ni hostCur received accepted

theorem MatchKept.acceptTx {hostCur p : Nat} {received : List (List UInt8)}
    {ni : NetmapInfo} {accepted : List (Nat × List UInt8)} (mem : Nat → UInt8) (buf : Nat)
    {len : Nat} (hkept : MatchKept hostCur received (p + 1) ni accepted)
    (hlen : len ≤ netfrontBufSize) (hne : ni.txRings.cur ≠ ni.txRings.tail) :
    MatchKept hostCur received p (acceptTx ni mem buf len)
      (accepted ++ [(ni.stat.txcur.toNat, bytes mem buf len)]) := by
  obtain ⟨hidx, hmatch, hheld⟩ := hkept
  obtain ⟨hfits, hcur⟩ := hmatch.cur_eq_txcur hne
  exact ⟨hidx.acceptTx mem buf len hfits (hcur ▸ hne),
    hmatch.acceptTx mem buf len hidx.txcur_lt hidx.tail_lt hne,
    hheld.acceptTx mem buf hidx hfits hcur hne hlen⟩

theorem txIntact_txsync (nm : NetmapApi) {s : TxSystem} {user : TxUser} (flags : UInt32)
    (hintact : TxIntact s) (hcarrier : s.np.carrierOk = true)
    (hhead : user.rhead < s.kring.nkrNumSlots)
    (hlen : ∀ i, i < s.kring.nkrNumSlots → (user.slot i).len.toNat ≤ netfrontBufSize)
    (hmatch : TxMatch s.np.naPriv (s.pending user)) :
    ∃ t, txStep nm s (.txsync user flags) = some t ∧ TxIntact t ∧
      LoopOutcome nm user.mem s.kring.nkrNumSlots user.rhead
        (MatchKept s.hostCur s.received) s.accepted
        (txsyncCalls nm s.np user.mem (user.load s.kring)) t.kring.nrHwcur
        t.np.naPriv := by
  obtain ⟨hwf, hheld⟩ := hintact
  obtain ⟨t, ht, hhost, hreceived, _, hslots, haccepted, houtcome⟩ :=
    txStep_txsync nm flags hcarrier hwf.hwcur_lt hhead
      (L := fun len => len ≤ netfrontBufSize) (Q := MatchKept s.hostCur s.received)
      (fun _ _ _ buf len hlen hkept hne => hkept.acceptTx user.mem buf hlen hne) hlen
      ⟨hwf.indices, hmatch, hheld⟩
  refine ⟨t, ht, ⟨⟨?_, ?_⟩, ?_⟩, houtcome⟩
  · rw [hhost]
    exact houtcome.holds.indices
  · rw [hslots]
    exact houtcome.nmI_lt
  · rw [hhost, hreceived, haccepted]
    exact houtcome.holds.held

theorem TxIntact.hostAdvance {s t : TxSystem} {consume free : Nat} (hintact : TxIntact s)
    (hstep : hostAdvance s consume free = some t) : TxIntact t := by
  obtain ⟨hwf, ⟨done, hdone, haccepted⟩, hshort⟩ := hintact
  refine ⟨hwf.hostAdvance hstep, ?_⟩
  obtain ⟨⟨hconsume, _⟩, rfl⟩ := hostAdvance_eq_some hstep
  have hidx := hwf.indices
  have hhost := hidx.hostCur_lt
  have htxcur := hidx.txcur_lt
  have hle : consume ≤ distance s.np.naPriv.txRings.numSlots s.hostCur
      s.np.naPriv.stat.txcur.toNat := Nat.le_trans hconsume hidx.cur_le
  have hleft := distance_advance_left hhost htxcur hle
  refine ⟨⟨done ++ contents s.np.naPriv.txRings.numSlots
    (fun i => (i, s.np.naPriv.txPacket i)) s.hostCur consume, ?_, ?_⟩, ?_⟩
  · rw [List.map_append, hdone, contents_map]
    rfl
  · change s.accepted = _ ++ contents s.np.naPriv.txRings.numSlots
      (fun i => (i, s.np.naPriv.txPacket i))
      (advance s.np.naPriv.txRings.numSlots s.hostCur consume)
      (distance s.np.naPriv.txRings.numSlots
        (advance s.np.naPriv.txRings.numSlots s.hostCur consume)
        s.np.naPriv.stat.txcur.toNat)
    rw [hleft, haccepted, List.append_assoc, ← contents_add, Nat.add_sub_cancel' hle]
  · intro i hi hwithin
    refine hshort i hi ?_
    have hhost' := advance_lt (Nat.zero_lt_of_lt hhost) s.hostCur consume
    change Within s.np.naPriv.txRings.numSlots
      (advance s.np.naPriv.txRings.numSlots s.hostCur consume)
      s.np.naPriv.stat.txcur.toNat i at hwithin
    obtain ⟨k, hk, rfl⟩ := hwithin.exists_advance hhost' hi
    rw [hleft] at hk
    rw [advance_advance]
    have hbound := distance_lt (Nat.zero_lt_of_lt hhost) s.hostCur
      s.np.naPriv.stat.txcur.toNat
    exact (within_advance_iff hhost (by omega)).mpr (by omega)

theorem txIntact_step (nm : NetmapApi) (s : TxSystem) (e : TxEvent) (t : TxSystem)
    (hintact : TxIntact s) (hcond : ShortPackets s e ∧ CursorsTogether s e)
    (hstep : txStep nm s e = some t) : TxIntact t := by
  cases e with
  | txsync user flags =>
      have hhead := txStep_txsync_eq_some hstep
      cases hcarrier : s.np.carrierOk with
      | true =>
          obtain ⟨t', ht', hintact', _⟩ :=
            txIntact_txsync nm flags hintact hcarrier hhead hcond.1
              (hcond.2 hcarrier hhead)
          rw [hstep] at ht'
          exact Option.some.inj ht' ▸ hintact'
      | false =>
          refine ⟨⟨?_, txStep_hwcur_lt hintact.wellFormed.hwcur_lt hstep⟩, ?_⟩ <;>
            rw [txStep_txsync_of_no_carrier nm flags hcarrier hhead] at hstep
          · exact Option.some.inj hstep ▸ hintact.wellFormed.indices
          · exact Option.some.inj hstep ▸ hintact.held
  | txInterrupt =>
      rw [← Option.some.inj hstep]
      refine ⟨hintact.wellFormed.txInterrupt, ?_⟩
      unfold netfrontTxInterrupt
      split
      · exact ⟨hintact.held.held, hintact.held.short⟩
      · exact hintact.held
  | host consume free => exact hintact.hostAdvance hstep
  | carrier up =>
      exact Option.some.inj hstep ▸
        ⟨⟨hintact.wellFormed.indices, hintact.wellFormed.hwcur_lt⟩, hintact.held⟩

theorem lookup_map_graph {α : Type*} (f : Nat → α) {i : Nat} {keys : List Nat}
    (hmem : i ∈ keys) : (keys.map fun j => (j, f j)).lookup i = some (f i) := by
  induction keys with
  | nil => simp at hmem
  | cons j keys ih =>
      by_cases hsame : i = j
      · subst hsame
        simp
      · rw [List.map_cons, List.lookup_cons, beq_eq_false_iff_ne.mpr hsame]
        exact ih ((List.mem_cons.mp hmem).resolve_left hsame)

theorem TxIntact.published {s : TxSystem} (hintact : TxIntact s) : PublishedIntact s := by
  obtain ⟨hwf, ⟨done, hdone, haccepted⟩, _⟩ := hintact
  have hidx := hwf.indices
  constructor
  · intro i hi hwithin
    refine ⟨s.np.naPriv.txPacket i, ?_, ?_, ?_⟩
    · have hspan : i ∈ span s.np.naPriv.txRings.numSlots s.hostCur
          (distance s.np.naPriv.txRings.numSlots s.hostCur
            s.np.naPriv.stat.txcur.toNat) :=
        (mem_span_distance_iff hidx.hostCur_lt).mpr
          ⟨hi, Nat.lt_of_lt_of_le hwithin hidx.cur_le⟩
      have hfound := lookup_map_graph s.np.naPriv.txPacket (List.mem_reverse.mpr hspan)
      rw [haccepted, List.reverse_append, List.lookup_append, contents, ← List.map_reverse,
        hfound]
      rfl
    · simp [NetmapInfo.txPacket, TxSystem.ring]
    · simp [NetmapInfo.txPacket]
  · rw [haccepted, List.map_append, hdone, contents_map]
    exact (List.prefix_append_right_inj _).mpr
      (contents_prefix_of_le _ s.np.naPriv.txPacket s.hostCur hidx.cur_le)

theorem copiedToOwnSlot_of_together (nm : NetmapApi) (s : TxSystem) (e : TxEvent)
    (hwf : TxWellFormed s) (hcond : CursorsTogether s e) : CopiedToOwnSlot nm s e := by
  cases e with
  | txsync user flags =>
      intro hhead call hcall haccepted
      cases hcarrier : s.np.carrierOk with
      | true =>
          obtain ⟨_, _, _, _, _, _, _, houtcome⟩ :=
            txStep_txsync nm flags hcarrier hwf.hwcur_lt hhead (L := fun _ => True)
              (Q := fun p ni _ => TxIndices ni s.hostCur ∧ TxMatch ni p)
              (fun _ _ _ buf len _ hkept hne => by
                obtain ⟨hidx, hmatch⟩ := hkept
                obtain ⟨hfits, hcur⟩ := hmatch.cur_eq_txcur hne
                exact ⟨hidx.acceptTx user.mem buf len hfits (hcur ▸ hne),
                  hmatch.acceptTx user.mem buf len hidx.txcur_lt hidx.tail_lt hne⟩)
              (fun _ _ => trivial) ⟨hwf.indices, hcond hcarrier hhead⟩
          obtain ⟨p, _, _, hmatch⟩ := houtcome.called call hcall
          exact (hmatch.cur_eq_txcur ((call.accepted_iff nm user.mem).mp haccepted)).2
      | false =>
          rw [(txsync_of_no_carrier nm s.np user.mem (user.load s.kring) flags
            hcarrier).2] at hcall
          simp at hcall
  | txInterrupt => trivial
  | host consume free => trivial
  | carrier up => trivial

theorem TxMatch.of_acceptTx {ni : NetmapInfo} {p : Nat} (mem : Nat → UInt8)
    (buf len : Nat) (htwo : 2 ≤ ni.txRings.numSlots) (hsize : ni.txRings.numSlots ≤ 65536)
    (htxcur : ni.stat.txcur.toNat < ni.txRings.numSlots)
    (hcur : ni.txRings.cur = ni.stat.txcur.toNat) (hne : ni.txRings.cur ≠ ni.txRings.tail)
    (hmatch : TxMatch (NetfrontTransmit.acceptTx ni mem buf len) p) :
    TxMatch ni (p + 1) := by
  have hfits : TxIndexFits ni (p + 1) := Or.inl hsize
  have hnext := acceptTx_txcur_toNat mem buf len htxcur hfits
  refine Or.inr (Or.inr ⟨hfits, hcur, ?_⟩)
  cases hkick : ni.stat.hostNeedTxkick with
  | true =>
      rcases hmatch with hzero | hempty | ⟨_, _, hone | ⟨hflag, _⟩⟩
      · exact Or.inl (by omega)
      · rw [(acceptTx_of_kick ni mem buf len hkick).1, acceptTx_tail, hnext] at hempty
        refine Or.inr ⟨rfl, Or.inr ?_⟩
        rw [← hempty]
        exact distance_advance htxcur htwo
      · exact Or.inr ⟨rfl, Or.inl (by omega)⟩
      · rw [acceptTx_hostNeedTxkick] at hflag
        contradiction
  | false =>
      rcases hmatch with hzero | hempty | ⟨_, happart, _⟩
      · exact Or.inl (by omega)
      · rw [(acceptTx_of_no_kick ni mem buf len hkick).1, acceptTx_tail] at hempty
        exact absurd hempty hne
      · rw [(acceptTx_of_no_kick ni mem buf len hkick).1, hcur, hnext,
          advance_one htxcur] at happart
        split_ifs at happart <;> omega

theorem exists_apart (nm : NetmapApi) (mem : Nat → UInt8) {m head : Nat} (hhead : head < m)
    (fuel nmI : Nat) (ni : NetmapInfo) (ring : NetmapRing) (hnmI : nmI < m)
    (hfuel : distance m nmI head < fuel) (htwo : 2 ≤ ni.txRings.numSlots)
    (hsize : ni.txRings.numSlots ≤ 65536)
    (htxcur : ni.stat.txcur.toNat < ni.txRings.numSlots)
    (hnot : ¬ TxMatch ni (distance m nmI head)) :
    ∃ call ∈ xmitCalls nm mem head (m - 1) fuel nmI ni ring,
      call.accepted nm mem = true ∧ call.ni.txRings.cur ≠ call.ni.stat.txcur.toNat := by
  induction fuel generalizing nmI ni ring with
  | zero => omega
  | succ fuel ih =>
      have hdone : nmI ≠ head := by
        rintro rfl
        exact hnot (Or.inl (distance_self hnmI))
      have hne : ni.txRings.cur ≠ ni.txRings.tail := fun hempty =>
        hnot (Or.inr (Or.inl hempty))
      obtain ⟨_, hcalls⟩ := txsyncLoop_of_not_empty nm mem (m - 1) fuel ring hdone hne
      rw [hcalls]
      by_cases hcur : ni.txRings.cur = ni.stat.txcur.toNat
      · have hpos := distance_pos_of_ne hnmI hhead hdone
        have hdist := distance_advance_left hnmI hhead (k := 1) hpos
        rw [← nm.nmNext_eq_advance hnmI] at hdist
        have hnext := acceptTx_txcur_toNat mem (nm.nmb (ring.slot nmI).bufIdx)
          (ring.slot nmI).len.toNat htxcur (p := 0) (Or.inl hsize)
        obtain ⟨call, hcall, hbad⟩ :=
          ih (nm.nmNext nmI (m - 1))
            (acceptTx ni mem (nm.nmb (ring.slot nmI).bufIdx) (ring.slot nmI).len.toNat)
            (markSent nm ring nmI) (nm.nmNext_lt hnmI) (by omega) (by simpa using htwo)
            (by simpa using hsize)
            (by
              rw [acceptTx_numSlots, hnext]
              exact advance_lt (Nat.zero_lt_of_lt htxcur) _ _)
            (fun hrest => hnot (by
              have hwhole := hrest.of_acceptTx mem _ _ htwo hsize htxcur hcur hne
              rwa [hdist, Nat.sub_add_cancel hpos] at hwhole))
        exact ⟨call, List.mem_cons_of_mem _ hcall, hbad⟩
      · exact ⟨_, List.mem_cons_self, ((loopCall nm ni ring nmI).accepted_iff nm mem).mpr hne,
          hcur⟩

theorem together_of_copiedToOwnSlot (nm : NetmapApi) (s : TxSystem) (e : TxEvent)
    (hwf : TxWellFormed s) (htwo : 2 ≤ s.ring.numSlots) (hsize : s.ring.numSlots ≤ 65536)
    (hcopied : CopiedToOwnSlot nm s e) : CursorsTogether s e := by
  cases e with
  | txsync user flags =>
      intro hcarrier hhead
      by_contra hnot
      have hcalls : txsyncCalls nm s.np user.mem (user.load s.kring) =
          xmitCalls nm user.mem user.rhead (s.kring.nkrNumSlots - 1) s.kring.nkrNumSlots
            s.kring.nrHwcur s.np.naPriv (user.load s.kring).ring := by
        simp [txsyncCalls, hcarrier, TxUser.load]
      obtain ⟨call, hcall, haccepted, happart⟩ :=
        exists_apart nm user.mem hhead s.kring.nkrNumSlots s.kring.nrHwcur s.np.naPriv
          (user.load s.kring).ring hwf.hwcur_lt (distance_lt (Nat.zero_lt_of_lt hhead) _ _)
          htwo hsize hwf.indices.txcur_lt hnot
      exact happart (hcopied hhead call (hcalls ▸ hcall) haccepted)
  | txInterrupt => trivial
  | host consume free => trivial
  | carrier up => trivial

/-- Runs in which every packet finds the two indices together publish whole packets in
order. On rings that a 16-bit index can address, these are the runs that copy every
packet to the buffer of its own slot. -/
theorem tx_payload_integrity (nm : NetmapApi) {s : TxSystem} (hstart : TxStart s)
    (es : List TxEvent) (hshort : Along (txStep nm) ShortPackets s es) :
    (Along (txStep nm) CursorsTogether s es →
      ∀ t, run (txStep nm) s es = some t → PublishedIntact t) ∧
    (Along (txStep nm) CursorsTogether s es →
      Along (txStep nm) (CopiedToOwnSlot nm) s es) ∧
    (s.ring.numSlots ≤ 65536 → Along (txStep nm) (CopiedToOwnSlot nm) s es →
      Along (txStep nm) CursorsTogether s es) := by
  have hand : ∀ {G : TxSystem → TxEvent → Prop}, Along (txStep nm) G s es →
      Along (txStep nm) (fun t e => ShortPackets t e ∧ G t e) s es := fun hG => hshort.and hG
  refine ⟨fun htogether t hrun => ?_, fun htogether => ?_, fun hsize hcopied => ?_⟩
  · exact (invariant_of_along (txIntact_step nm) (txIntact_start hstart)
      (hand htogether) hrun).published
  · exact Along.mono (txIntact_step nm)
      (fun t e hintact hcond =>
        copiedToOwnSlot_of_together nm t e hintact.wellFormed hcond.2)
      (txIntact_start hstart) (hand htogether)
  · have htogether : ∀ t e,
        (TxIntact t ∧ 2 ≤ t.ring.numSlots ∧ t.ring.numSlots ≤ 65536) →
          ShortPackets t e ∧ CopiedToOwnSlot nm t e → CursorsTogether t e :=
      fun t e hI hcond => together_of_copiedToOwnSlot nm t e hI.1.wellFormed hI.2.1 hI.2.2
        hcond.2
    refine Along.mono (I := fun t => TxIntact t ∧ 2 ≤ t.ring.numSlots ∧
      t.ring.numSlots ≤ 65536) ?_ htogether ⟨(txIntact_start hstart), hstart.two_le, hsize⟩
      (hand hcopied)
    intro t e u hI hcond hstep
    rw [txStep_numSlots hI.1.wellFormed.hwcur_lt hstep]
    exact ⟨txIntact_step nm t e u hI.1 ⟨hcond.1, htogether t e hI hcond⟩ hstep, hI.2⟩

theorem tx_payload_integrity_two_packets :
    ∃ t, run (txStep netmapHeaders) (freshTx 4) [.txsync (sampleUser 1 2) 0, .host 1 1] =
      some t ∧ PublishedIntact t := by
  obtain ⟨t, hrun⟩ := Option.isSome_iff_exists.mp
    (show (run (txStep netmapHeaders) (freshTx 4)
      [.txsync (sampleUser 1 2) 0, .host 1 1]).isSome = true by decide)
  exact ⟨t, hrun, (tx_payload_integrity netmapHeaders (freshTx_start (by decide)) _
    (by decide)).1 (by decide) t hrun⟩

/-- Three packets, of which one is published, and after its completion a fourth. It is
copied over the second one, which is published together with it. -/
def overwritingRun : List TxEvent :=
  [.txsync (sampleUser 1 3) 0, .host 1 1, .txInterrupt, .txsync (sampleUser 1 3) 2,
    .txsync (sampleUser 1 0) 0]

theorem tx_payload_integrity_fails :
    ¬ ∀ s, TxStart s → ∀ es, Along (txStep netmapHeaders) ShortPackets s es →
      ∀ t, run (txStep netmapHeaders) s es = some t → PublishedIntact t := by
  intro halways
  have hbroken : (run (txStep netmapHeaders) (freshTx 4) overwritingRun).any
      (fun t : TxSystem => decide (1 < t.ring.numSlots) &&
        decide (Within t.ring.numSlots t.hostCur t.ring.cur 1) &&
        decide (t.accepted.reverse.lookup 1 = some [2]) &&
        decide (bytes t.np.naPriv.bufs (netfrontBuf t.np.naPriv.txdBufsBase 1) 1 = [4]))
      = true := by
    decide
  obtain ⟨t, hrun, hbad⟩ := (Option.any_eq_true _ _).mp hbroken
  simp only [Bool.and_eq_true, decide_eq_true_eq] at hbad
  obtain ⟨⟨⟨hlt, hwithin⟩, haccepted⟩, hbytes⟩ := hbad
  have hintact := halways (freshTx 4) (freshTx_start (by decide)) overwritingRun
    (by decide) t hrun
  obtain ⟨p, hp, _, hpacket⟩ := hintact.slots 1 hlt hwithin
  obtain rfl : [2] = p := Option.some.inj (haccepted.symm.trans hp)
  have hcontra := hbytes.symm.trans hpacket
  simp at hcontra

end XenNet.TransmitIntegrity

import XenNet.NetfrontGrant

namespace XenNet.BufferAddressing

open XenNet.NetmapKernel
open XenNet.NetfrontModel
open XenNet.RunHeads
open XenNet.GrantRing
open XenNet.NetfrontGrant

/-- The host's buffer part of `xenvif_grant_ring`, on an array that holds no page. -/
def hostBufs (lut : UInt32 → Nat) (gref : Nat → Int32) (domid : UInt16) (ring : NetmapRing)
    (bufRef : Nat → Int32) : BufGrants :=
  let bufPages := (nmBufPages lut ring ring.numSlots (vmallocPages fun _ => none)).1
  grantBufs gref domid bufPages.pages ring.numSlots bufPages.ring bufRef

/-- The guest's address `a` designates the host's address `h`: the guest has mapped, at the
page of `a`, a page that was granted, and `h` is at the same place of that page. -/
def Designates (rdesc : NetmapGnt) (grants : List Grant) (a h : Nat) : Prop :=
  ∃ i, i < rdesc.nrBufsGrefs ∧ (rdesc.bufsMap i).status = gntstOkay ∧
    (rdesc.bufsMap i).hostAddr ≤ a ∧ a < (rdesc.bufsMap i).hostAddr + pageSize ∧
    ∃ g, g ∈ grants ∧ g.ref.toUInt32 = (rdesc.bufsMap i).ref ∧
      g.entry.page = some (virtToPage h) ∧ h % pageSize = a - (rdesc.bufsMap i).hostAddr

def DistinctBufs (lut : UInt32 → Nat) (ring : NetmapRing) : Prop :=
  ∀ i j, i < ring.numSlots → j < ring.numSlots → bufAddr lut ring i = bufAddr lut ring j →
    i = j

/-- The references that the host got are distinct and none is zero. -/
structure GoodRefs (grants : List Grant) : Prop where
  nonzero : ∀ g, g ∈ grants → g.ref ≠ 0
  distinct : (grants.map Grant.ref).Nodup

/-- Slots `2 * k` and `2 * k + 1` use the two halves of one page, in this order. -/
def PairedInOrder (lut : UInt32 → Nat) (ring : NetmapRing) : Prop :=
  ∀ k, 2 * k < ring.numSlots → bufAddr lut ring (2 * k) % pageSize = 0 ∧
    (2 * k + 1 < ring.numSlots →
      bufAddr lut ring (2 * k + 1) = bufAddr lut ring (2 * k) + netfrontBufSize)

variable {lut : UInt32 → Nat} {gref : Nat → Int32} {domid : UInt16} {ring : NetmapRing}

/-- `xenvif_grant_ring` leaves the ring as the buffer part does and grants its pages first. -/
theorem xenvifGrantRing_hostBufs {layout : RingLayout} {ringAddr : Nat}
    {stale : VmallocContents} {granted : GrantedRing} (hnull : stale.bufPg = fun _ => none)
    (hcall : xenvifGrantRing layout lut gref ringAddr ring ring.numSlots domid stale =
      some granted) :
    granted.ring = (hostBufs lut gref domid ring stale.bufRef).ring ∧
      (hostBufs lut gref domid ring stale.bufRef).grants <+: granted.grants := by
  unfold xenvifGrantRing at hcall
  rw [nmRingPages_eq, hnull] at hcall
  obtain rfl := Option.some.inj hcall
  refine ⟨rfl, ?_⟩
  dsimp only
  rw [grantRingPages_grants]
  exact List.prefix_append _ _

/-- What the guest finds of the buffers: each slot at which a page starts has a reference, and
the references stand for these pages, in order. -/
structure HeadsGranted (lut : UInt32 → Nat) (gref : Nat → Int32) (domid : UInt16)
    (ring : NetmapRing) (pages : Nat → PageEntry) (host : NetmapRing) (grants : List Grant) :
    Prop where
  numSlots : host.numSlots = ring.numSlots
  vifgref : ∀ i, i < ring.numSlots → vifgref host i =
    if IsHead (bufPage lut ring) i then
      refPtr (gref (Nat.count (IsHead (bufPage lut ring)) i)) else 0
  page : ∀ i, i < ring.numSlots → IsHead (bufPage lut ring) i →
    (pages (Nat.count (IsHead (bufPage lut ring)) i)).page = some (bufPage lut ring i)
  grants : grants = (List.range (Nat.count (IsHead (bufPage lut ring)) ring.numSlots)).map
    fun k => ⟨domid, pages k, gref k⟩

theorem headsGranted_grantBufs (gref : Nat → Int32) (domid : UInt16) {stale : Nat → Option Nat}
    (hfresh : stale 0 ≠ some (bufPage lut ring 0)) (bufRef : Nat → Int32) :
    let bufPages := (nmBufPages lut ring ring.numSlots (vmallocPages stale)).1
    let bufs := grantBufs gref domid bufPages.pages ring.numSlots bufPages.ring bufRef
    HeadsGranted lut gref domid ring bufPages.pages bufs.ring bufs.grants := by
  intro bufPages bufs
  have hpages := nmBufPages_spec lut ring ring.numSlots stale
  have hbufs := hpages.grantBufs gref domid bufRef
  have hcount := count_marks_eq hfresh
  refine ⟨hbufs.numSlots.trans hpages.numSlots, ?_, ?_, ?_⟩
  · intro i hi
    rw [hbufs.granted i hi, if_congr (marks_iff_isHead hfresh i) rfl rfl, hcount]
  · intro i hi hhead
    rw [hpages.entry i hi hhead]
  · exact hbufs.grants.trans (by rw [hcount])

theorem xenvifGrantRing_heads {layout : RingLayout} {ringAddr : Nat} {stale : VmallocContents}
    {granted : GrantedRing} (hfresh : stale.bufPg 0 ≠ some (bufPage lut ring 0))
    (hcall : xenvifGrantRing layout lut gref ringAddr ring ring.numSlots domid stale =
      some granted) :
    ∃ pages bufs, HeadsGranted lut gref domid ring pages granted.ring bufs ∧
      bufs <+: granted.grants := by
  unfold xenvifGrantRing at hcall
  rw [nmRingPages_eq] at hcall
  obtain rfl := Option.some.inj hcall
  refine ⟨_, _, headsGranted_grantBufs gref domid hfresh stale.bufRef, ?_⟩
  dsimp only
  rw [grantRingPages_grants]
  exact List.prefix_append _ _

/-- The guest's block of pages: page `k` of the block is the page of grant `k`. -/
structure MappedInOrder (guest : NetmapGnt) (grants : List Grant) (gref : Nat → Int32)
    (pages : Nat → PageEntry) (m : Nat) : Prop where
  nrBufsGrefs : guest.nrBufsGrefs = m
  ref : ∀ k, k < m → (guest.bufsMap k).ref = (gref k).toUInt32
  hostAddr : ∀ k, k < m → (guest.bufsMap k).hostAddr = guest.bufsBase + pageSize * k
  status : ∀ k, k < m → (guest.bufsMap k).status = gntstOkay
  grants : ∃ domid, grants = (List.range m).map fun k => ⟨domid, pages k, gref k⟩
  distinct : ∀ k l, k < m → l < m → gref k = gref l → k = l

theorem designates_slot_iff {guest : NetmapGnt} {grants : List Grant} {gref : Nat → Int32}
    {pages : Nat → PageEntry} {m : Nat} (hmapped : MappedInOrder guest grants gref pages m)
    (i h : Nat) :
    Designates guest grants (netfrontBuf guest.bufsBase i) h ↔
      i / 2 < m ∧ (pages (i / 2)).page = some (virtToPage h) ∧
        h % pageSize = i % 2 * netfrontBufSize := by
  obtain ⟨domid, hgrants⟩ := hmapped.grants
  unfold netfrontBuf netfrontBufSize
  constructor
  · rintro ⟨k, hk, _, hle, hlt, g, hg, href, hpage, hoffset⟩
    rw [hmapped.nrBufsGrefs] at hk
    rw [hmapped.hostAddr k hk] at hle hlt hoffset
    unfold pageSize at hle hlt hoffset ⊢
    obtain rfl : k = i / 2 := by omega
    rw [hgrants, List.mem_map] at hg
    obtain ⟨l, hl, rfl⟩ := hg
    rw [hmapped.ref _ hk] at href
    obtain rfl := hmapped.distinct _ _ (List.mem_range.mp hl) hk (toUInt32_injective href)
    exact ⟨hk, hpage, by omega⟩
  · rintro ⟨hk, hpage, hoffset⟩
    refine ⟨i / 2, by rwa [hmapped.nrBufsGrefs], hmapped.status _ hk, ?_, ?_,
      ⟨domid, pages (i / 2), gref (i / 2)⟩, ?_, (hmapped.ref _ hk).symm, hpage, ?_⟩
    · rw [hmapped.hostAddr _ hk]
      unfold pageSize
      omega
    · rw [hmapped.hostAddr _ hk]
      unfold pageSize
      omega
    · rw [hgrants]
      exact List.mem_map_of_mem (List.mem_range.mpr hk)
    · rw [hoffset, hmapped.hostAddr _ hk]
      unfold pageSize
      omega

section Heads

variable {pages : Nat → PageEntry} {host : NetmapRing} {bufs : List Grant}

theorem setupBufs_mappedInOrder {mapGrantRef : MapGrantRef}
    (hmaps : MapsEveryPage mapGrantRef) (new : MapOps) (bufsGrefs : Nat → UInt32)
    (rdesc : NetmapGnt) (hheads : HeadsGranted lut gref domid ring pages host bufs)
    (hpos : 0 < ring.numSlots) (hrefs : GoodRefs bufs) :
    MappedInOrder (setupBufs mapGrantRef new bufsGrefs host rdesc) bufs gref pages
      (Nat.count (IsHead (bufPage lut ring)) ring.numSlots) := by
  have hgrants := hheads.grants
  have hslots := hheads.numSlots
  have hdistinct : ∀ k l, k < Nat.count (IsHead (bufPage lut ring)) ring.numSlots →
      l < Nat.count (IsHead (bufPage lut ring)) ring.numSlots → gref k = gref l → k = l := by
    intro k l hk hl heq
    have hnodup := hrefs.distinct
    rw [hgrants, List.map_map] at hnodup
    exact List.inj_on_of_nodup_map hnodup (List.mem_range.mpr hk) (List.mem_range.mpr hl) heq
  have hread := xenbusReadBufsGrefs_spec gref (IsHead (bufPage lut ring)) host bufsGrefs rdesc
    (by
      intro k hk
      rw [hslots] at hk
      refine hrefs.nonzero ⟨domid, pages k, gref k⟩ ?_
      rw [hgrants]
      exact List.mem_map_of_mem (List.mem_range.mpr hk))
    (by
      rw [hslots]
      exact hheads.vifgref)
  rw [hslots] at hread
  obtain ⟨hcount, hgrefs⟩ := hread
  have hops := fun k (hk : k < Nat.count (IsHead (bufPage lut ring)) ring.numSlots) =>
    mapGrefs_spec hmaps new (xenbusReadBufsGrefs host bufsGrefs rdesc).bufsGrefs
      (Nat.lt_of_lt_of_eq hk hcount.symm)
  have hbase : (setupBufs mapGrantRef new bufsGrefs host rdesc).bufsBase = new.addr :=
    (hops 0 (count_isHead_pos _ hpos)).2.2.2
  refine ⟨hcount, ?_, ?_, ?_, ⟨domid, hgrants⟩, hdistinct⟩
  · intro k hk
    exact (hops k hk).1.trans (hgrefs k hk)
  · intro k hk
    rw [hbase]
    exact (hops k hk).2.1
  · intro k hk
    exact (hops k hk).2.2.1

theorem isHead_of_paired (hdistinct : DistinctBufs lut ring) (hpaired : PairedInOrder lut ring)
    {i : Nat} (hi : i < ring.numSlots) : IsHead (bufPage lut ring) i ↔ i % 2 = 0 := by
  obtain ⟨k, rfl | rfl⟩ : ∃ k, i = 2 * k ∨ i = 2 * k + 1 := ⟨i / 2, by omega⟩
  · refine ⟨fun _ => by omega, fun _ => ?_⟩
    rcases Nat.eq_zero_or_pos k with rfl | hpos
    · exact isHead_zero _
    · obtain ⟨l, rfl⟩ := Nat.exists_eq_add_of_le' hpos
      have hbefore := hpaired l (by omega)
      have hhere := (hpaired (l + 1) hi).1
      have hhalf := hbefore.2 (by omega)
      have hindex : 2 * (l + 1) = 2 * l + 1 + 1 := by omega
      rw [hindex] at hi hhere ⊢
      refine isHead_succ_iff.mpr fun hsame => ?_
      have heq : bufAddr lut ring (2 * l + 1 + 1) = bufAddr lut ring (2 * l) := by
        unfold bufPage virtToPage at hsame
        unfold pageSize netfrontBufSize at *
        omega
      have hslots := hdistinct _ _ hi (by omega) heq
      omega
  · refine ⟨fun hhead => ?_, fun hodd => by omega⟩
    have hpair := hpaired k (by omega)
    have hhalf := hpair.2 hi
    refine absurd ?_ (isHead_succ_iff.mp hhead)
    unfold bufPage virtToPage
    unfold pageSize netfrontBufSize at *
    omega

theorem bufAddr_of_paired (hpaired : PairedInOrder lut ring) {i : Nat}
    (hi : i < ring.numSlots) :
    bufAddr lut ring i = bufAddr lut ring (2 * (i / 2)) + i % 2 * netfrontBufSize := by
  rcases Nat.mod_two_eq_zero_or_one i with heven | hodd
  · have hself : 2 * (i / 2) = i := by omega
    rw [heven, hself, Nat.zero_mul, Nat.add_zero]
  · have hself : 2 * (i / 2) + 1 = i := by omega
    have hhalf := (hpaired (i / 2) (by omega)).2
    rw [hself] at hhalf
    rw [hodd, Nat.one_mul, hhalf hi]

theorem designates_of_pairedInOrder {guest : NetmapGnt} {grants : List Grant}
    (hheads : HeadsGranted lut gref domid ring pages host bufs)
    (hmapped : MappedInOrder guest grants gref pages
      (Nat.count (IsHead (bufPage lut ring)) ring.numSlots))
    (hdistinct : DistinctBufs lut ring) (hpaired : PairedInOrder lut ring) {i : Nat}
    (hi : i < ring.numSlots) :
    Designates guest grants (netfrontBuf guest.bufsBase i) (bufAddr lut ring i) := by
  have hhead : ∀ k, k < ring.numSlots → (IsHead (bufPage lut ring) k ↔ k % 2 = 0) :=
    fun k hk => isHead_of_paired hdistinct hpaired hk
  have heven : 2 * (i / 2) < ring.numSlots := by omega
  have hcount : Nat.count (IsHead (bufPage lut ring)) (2 * (i / 2)) = i / 2 := by
    rw [count_isHead_of_pairs hhead (Nat.le_of_lt heven)]
    omega
  have hfirst : IsHead (bufPage lut ring) (2 * (i / 2)) := (hhead _ heven).mpr (by omega)
  have hlt := Nat.count_strict_mono hfirst heven
  have hentry := hheads.page _ heven hfirst
  rw [hcount] at hlt hentry
  have haligned := (hpaired _ heven).1
  have haddr := bufAddr_of_paired hpaired hi
  refine (designates_slot_iff hmapped _ _).mpr ⟨hlt, ?_, ?_⟩
  · rw [hentry]
    refine congrArg some ?_
    unfold bufPage virtToPage
    unfold pageSize netfrontBufSize at *
    omega
  · unfold pageSize netfrontBufSize at *
    omega

end Heads

theorem pairedInOrder_of_designates {guest : NetmapGnt} {grants : List Grant}
    {pages : Nat → PageEntry} {m : Nat} (hmapped : MappedInOrder guest grants gref pages m)
    (hall : ∀ i, i < ring.numSlots →
      Designates guest grants (netfrontBuf guest.bufsBase i) (bufAddr lut ring i)) :
    PairedInOrder lut ring := by
  intro k hk
  obtain ⟨_, hpage, hoffset⟩ := (designates_slot_iff hmapped _ _).mp (hall _ hk)
  have hpair : 2 * k / 2 = k := by omega
  rw [hpair] at hpage
  unfold netfrontBufSize at hoffset
  refine ⟨by omega, fun hnext => ?_⟩
  obtain ⟨_, hpage', hoffset'⟩ := (designates_slot_iff hmapped _ _).mp (hall _ hnext)
  have hpair' : (2 * k + 1) / 2 = k := by omega
  rw [hpair', hpage] at hpage'
  have hsame := Option.some.inj hpage'
  unfold virtToPage pageSize at *
  unfold netfrontBufSize at *
  omega

/-- Host and guest agree on the addresses of all the buffers of a ring exactly when the
buffers come in pairs, the two halves of a page in order. -/
theorem buffer_addressing {mapGrantRef : MapGrantRef} (hmaps : MapsEveryPage mapGrantRef)
    (new : MapOps) (bufsGrefs : Nat → UInt32) (bufRef : Nat → Int32) (rdesc : NetmapGnt)
    (hdistinct : DistinctBufs lut ring)
    (hrefs : GoodRefs (hostBufs lut gref domid ring bufRef).grants) :
    let host := hostBufs lut gref domid ring bufRef
    let guest := setupBufs mapGrantRef new bufsGrefs host.ring rdesc
    (∀ i, i < ring.numSlots →
        Designates guest host.grants (netfrontBuf guest.bufsBase i) (bufAddr lut ring i)) ↔
      PairedInOrder lut ring := by
  intro host guest
  rcases Nat.eq_zero_or_pos ring.numSlots with hempty | hpos
  · constructor
    · intro _ k hk
      omega
    · intro _ i hi
      omega
  have hheads : HeadsGranted lut gref domid ring _ host.ring host.grants :=
    headsGranted_grantBufs gref domid (Option.some_ne_none _).symm bufRef
  have hmapped := setupBufs_mappedInOrder hmaps new bufsGrefs rdesc hheads hpos hrefs
  exact ⟨pairedInOrder_of_designates hmapped,
    fun hpaired i hi => designates_of_pairedInOrder hheads hmapped hdistinct hpaired hi⟩

def mapsAll : MapGrantRef :=
  fun _ _ => (0, fun i => (gntstOkay, UInt32.ofNat i))

def noOp : GnttabMapGrantRef where
  hostAddr := 0
  flags := 0
  ref := 0
  dom := 0
  status := 0
  handle := 0

def sampleOps : MapOps where
  addr := 65536
  op _ := noOp
  pte _ := ⟨0, 0⟩

def noGnt : NetmapGnt where
  ringGrefs _ := 0
  bufsGrefs _ := 0
  ringMap _ := noOp
  ringGnt _ := ⟨0, 0⟩
  bufsMap _ := noOp
  bufsGnt _ := ⟨0, 0⟩
  nrRingGrefs := 0
  nrBufsGrefs := 0
  bufsBase := 0

theorem distinctBufs_sample : DistinctBufs sampleLut (sampleRing 4) := by
  intro i j hi hj heq
  simp only [bufAddr, sampleLut, sampleRing, UInt32.toNat_ofNat'] at hi hj heq
  omega

theorem pairedInOrder_sample : PairedInOrder sampleLut (sampleRing 4) := by
  intro k hk
  have hcases : k = 0 ∨ k = 1 := by
    change 2 * k < 4 at hk
    omega
  rcases hcases with rfl | rfl <;> decide

theorem buffer_addressing_four_slots :
    Designates
      (setupBufs mapsAll sampleOps (fun _ => 0)
        (hostBufs sampleLut sampleGref 1 (sampleRing 4) fun _ => 0).ring noGnt)
      (hostBufs sampleLut sampleGref 1 (sampleRing 4) fun _ => 0).grants
      (netfrontBuf 65536 3) (bufAddr sampleLut (sampleRing 4) 3) :=
  (buffer_addressing (fun _ _ => ⟨rfl, fun _ _ => rfl⟩) sampleOps (fun _ => 0) (fun _ => 0)
    noGnt distinctBufs_sample ⟨by decide, by decide⟩).mpr pairedInOrder_sample 3 (by decide)

end XenNet.BufferAddressing

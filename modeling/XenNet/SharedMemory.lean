import XenNet.GrantExchange
import XenNet.GrantLifecycle
import XenNet.GrantMapping
import XenNet.PageWindow

/-!
Whether host and guest have the rings and the buffers in common, from the call of
`xenvif_netmap_map` that grants their pages to the end of the mapping in
`setup_netfront_netmap`. The guest reads the references of the buffers through its map of the
ring, and takes the beginning of the first page of the ring for the ring.
-/

namespace XenNet.SharedMemory

open XenNet.NetmapKernel
open XenNet.NetfrontModel
open XenNet.NumberedName
open XenNet.GrantRing
open XenNet.GrantConfinement
open XenNet.GrantLifecycle
open XenNet.NetfrontGrant
open XenNet.GrantMapping
open XenNet.BufferAddressing
open XenNet.GrantExchange
open XenNet.PageWindow

/-- The page that was granted under a reference. -/
def grantedPage (grants : List Grant) (ref : UInt32) : Option Nat :=
  (grants.find? fun g => g.ref.toUInt32 == ref).bind fun g => g.entry.page

/-- The guest's address `a` lies in page `i` of those that it mapped. -/
def liesIn (rdesc : NetmapGnt) (ring : Bool) (a i : Nat) : Bool :=
  (tableMap rdesc ring i).status == gntstOkay &&
    decide ((tableMap rdesc ring i).hostAddr ≤ a ∧ a < (tableMap rdesc ring i).hostAddr + pageSize)

/-- The address of the host that the guest reaches at `a` through the pages that it mapped. -/
def translate (grants : List Grant) (rdesc : NetmapGnt) (ring : Bool) (a : Nat) : Option Nat :=
  ((List.range (nrMapped rdesc ring)).find? (liesIn rdesc ring a)).bind fun i =>
    (grantedPage grants (tableMap rdesc ring i).ref).map fun page =>
      pageSize * page + (a - (tableMap rdesc ring i).hostAddr)

/-- The bytes of a ring, from its header to the end of its last slot. -/
def ringBytes (layout : RingLayout) (numDesc : Nat) : Nat :=
  layout.slotOfs + numDesc * layout.slotSize

/-- Every byte of the host's ring is at its place in the guest's. -/
def ShowsRing (layout : RingLayout) (grants : List Grant) (host : PortRing) (rdesc : NetmapGnt)
    (rings : Nat) : Prop :=
  ∀ o, o < ringBytes layout host.numDesc →
    translate grants rdesc false (rings + o) = some (host.addr + o)

instance (layout : RingLayout) (grants : List Grant) (host : PortRing) (rdesc : NetmapGnt)
    (rings : Nat) : Decidable (ShowsRing layout grants host rdesc rings) :=
  inferInstanceAs (Decidable (∀ o, o < ringBytes layout host.numDesc → _ = _))

/-- What the guest reads as a ring at one of its addresses: one of the rings of the port, or
whatever else is there. -/
def readRing (layout : RingLayout) (grants : List Grant) (na : PortRings)
    (other : Nat → NetmapRing) (rdesc : NetmapGnt) (rings : Nat) : NetmapRing :=
  if ShowsRing layout grants na.tx rdesc rings then na.tx.ring
  else if ShowsRing layout grants na.rx rdesc rings then na.rx.ring
  else other rings

/-- What `xenvif_netmap_map` writes into the backend's own node. -/
def writeNetmapDescs (na : PortRings) (store : XenStore) : XenStore :=
  xenbusPrintf
    (xenbusPrintf store "feature-netmap-tx-desc".toList (decimal na.tx.numDesc))
    "feature-netmap-rx-desc".toList (decimal na.rx.numDesc)

/-- What the guest meets while it maps one ring: the contents of `tx_desc` or `rx_desc` and of
the arrays for the references, the arrays of both calls of `gnttab_map`, and the answers of
the hypervisor. -/
structure RingAnswers where
  staleDesc : UInt32
  staleGrefs : Nat → UInt32
  ringOps : MapOps
  mapRingPages : MapGrantRef
  staleBufs : Nat → UInt32
  bufOps : MapOps
  mapBufPages : MapGrantRef

/-- One of `txd` and `rxd`, with `tx_rings` or `rx_rings`. -/
structure MappedRing where
  desc : NetmapGnt
  rings : Nat

def readDesc (store : XenStore) (name : List Char) (stale : UInt32) : UInt32 :=
  ((xenbusScanf store name).map intCell).getD stale

section Setup

variable (read : NetmapGnt → Nat → NetmapRing)

/-- The pages of a ring are mapped, and the guest waits until the ring has the announced
number of slots. It waits for ever if it reads another number. -/
def mapRing (ans : RingAnswers) (desc : UInt32) (rdesc : NetmapGnt) : Option MappedRing :=
  let rdesc := (gnttabMap ans.mapRingPages ans.ringOps rdesc false).1
  let rings := (rdesc.ringGnt 0).hostAddr
  if UInt32.ofNat (read rdesc rings).numSlots ≠ desc then none else some ⟨rdesc, rings⟩

/-- The references in the slots of the ring are read and their pages are mapped. -/
def mapBufs (ans : RingAnswers) (mapped : MappedRing) : MappedRing :=
  { mapped with
    desc := setupBufs ans.mapBufPages ans.bufOps ans.staleBufs (read mapped.desc mapped.rings)
      mapped.desc }

/-- The steps of `setup_netfront_netmap` that map the rings and the buffers. `backend` and
`frontend` are the nodes that it reads. -/
def setupRings (backend frontend : XenStore) (tx rx : RingAnswers) (txd rxd : NetmapGnt) :
    Option (MappedRing × MappedRing) :=
  let txDesc := readDesc backend "feature-netmap-tx-desc".toList tx.staleDesc
  let rxDesc := readDesc backend "feature-netmap-rx-desc".toList rx.staleDesc
  let descs := xenbusReadRingGrefs frontend tx.staleGrefs rx.staleGrefs txd rxd
  (mapRing read tx txDesc descs.1).bind fun txr =>
    (mapRing read rx rxDesc descs.2).map fun rxr =>
      (mapBufs read tx txr, mapBufs read rx rxr)

end Setup

/-- Host and guest have a ring and its buffers in common: each byte of the ring is at its place
in the guest's ring, and the guest computes the place of each slot's buffer. -/
structure Shared (layout : RingLayout) (grants : List Grant) (lut : UInt32 → Nat)
    (host : PortRing) (guest : MappedRing) : Prop where
  ring : ShowsRing layout grants host guest.desc guest.rings
  bufs : ∀ i, i < host.ring.numSlots →
    translate grants guest.desc true (netfrontBuf guest.desc.bufsBase i) =
      some (bufAddr lut host.ring i)

/-- The ring begins with a page, and its last slot ends in the page in which it begins. -/
def RingPlaced (layout : RingLayout) (r : PortRing) : Prop :=
  r.addr % pageSize = 0 ∧
    layout.slotAddr r.addr (r.numDesc - 1) % pageSize + layout.slotSize ≤ pageSize

instance (layout : RingLayout) (r : PortRing) : Decidable (RingPlaced layout r) :=
  inferInstanceAs (Decidable (_ ∧ _))

section Pages

variable {grants : List Grant} {rdesc : NetmapGnt} {ring : Bool} {base : Nat}

theorem grantedPage_of_mem (hdistinct : (grants.map Grant.ref).Nodup) {g : Grant}
    (hg : g ∈ grants) : grantedPage grants g.ref.toUInt32 = g.entry.page := by
  rw [grantedPage]
  cases hfind : grants.find? fun g' => g'.ref.toUInt32 == g.ref.toUInt32 with
  | none => exact absurd (beq_self_eq_true _) (List.find?_eq_none.mp hfind g hg)
  | some g' =>
      have hfound : (g'.ref.toUInt32 == g.ref.toUInt32) = true :=
        List.find?_some (p := fun g' : Grant => g'.ref.toUInt32 == g.ref.toUInt32) hfind
      have href := toUInt32_injective (eq_of_beq hfound)
      have hsame := List.inj_on_of_nodup_map hdistinct (List.mem_of_find?_eq_some hfind) hg href
      rw [hsame, Option.bind_some]

/-- The pages lie one behind the other from `base` on. -/
def Consecutive (rdesc : NetmapGnt) (ring : Bool) (base : Nat) : Prop :=
  ∀ i, i < nrMapped rdesc ring → (tableMap rdesc ring i).status = gntstOkay ∧
    (tableMap rdesc ring i).hostAddr = base + pageSize * i

theorem translate_of_consecutive (hpages : Consecutive rdesc ring base) (o : Nat) :
    translate grants rdesc ring (base + o) =
      Window.shown pageSize
        ⟨nrMapped rdesc ring, fun i => grantedPage grants (tableMap rdesc ring i).ref⟩ o := by
  have hlies : ∀ i, i < nrMapped rdesc ring →
      liesIn rdesc ring (base + o) i = decide (i = o / pageSize) := by
    intro i hi
    rw [liesIn, (hpages i hi).1, (hpages i hi).2, beq_self_eq_true, Bool.true_and, decide_eq_decide]
    unfold pageSize
    omega
  unfold translate Window.shown
  split
  · rename_i hcount
    have hfind : (List.range (nrMapped rdesc ring)).find? (liesIn rdesc ring (base + o)) =
        some (o / pageSize) := by
      refine List.find?_range_eq_some.mpr ⟨?_, List.mem_range.mpr hcount, fun j hj => ?_⟩
      · rw [hlies _ hcount, decide_eq_true rfl]
      · rw [hlies j (Nat.lt_trans hj hcount), decide_eq_false (Nat.ne_of_lt hj)]
        rfl
    rw [hfind, Option.bind_some, (hpages _ hcount).2]
    congr 1
    funext page
    unfold pageSize
    omega
  · rename_i hcount
    rw [List.find?_eq_none.mpr, Option.bind_none]
    intro i hi
    have hlt := List.mem_range.mp hi
    rw [hlies i hlt, decide_eq_true_eq]
    rintro rfl
    exact hcount hlt

theorem tableMap_gnttabMap {mapGrantRef : MapGrantRef} (hmaps : MapsEveryPage mapGrantRef)
    (new : MapOps) (rdesc : NetmapGnt) (ring : Bool) {i : Nat} (hi : i < nrMapped rdesc ring) :
    (tableMap (gnttabMap mapGrantRef new rdesc ring).1 ring i).ref = tableGrefs rdesc ring i ∧
      (tableMap (gnttabMap mapGrantRef new rdesc ring).1 ring i).hostAddr =
        new.addr + pageSize * i ∧
      (tableMap (gnttabMap mapGrantRef new rdesc ring).1 ring i).status = gntstOkay ∧
      (tableGnt (gnttabMap mapGrantRef new rdesc ring).1 ring i).hostAddr =
        new.addr + pageSize * i := by
  obtain ⟨hmap, hgnt, _⟩ := gnttabMap_tables mapGrantRef new rdesc ring
  rw [hmap, hgnt]
  exact mapGrefs_spec hmaps new (tableGrefs rdesc ring) hi

theorem consecutive_gnttabMap {mapGrantRef : MapGrantRef} (hmaps : MapsEveryPage mapGrantRef)
    (new : MapOps) (rdesc : NetmapGnt) (ring : Bool) :
    Consecutive (gnttabMap mapGrantRef new rdesc ring).1 ring new.addr := by
  intro i hi
  rw [nrMapped_gnttabMap] at hi
  obtain ⟨_, haddr, hstatus, _⟩ := tableMap_gnttabMap hmaps new rdesc ring hi
  exact ⟨hstatus, haddr⟩

end Pages

theorem ringBytes_pos (layout : RingLayout) {numDesc : Nat} (hdesc : 0 < numDesc) :
    0 < ringBytes layout numDesc :=
  Nat.add_pos_right _ (Nat.mul_pos hdesc layout.slotSize_pos)

section Ring

variable {layout : RingLayout} {lut : UInt32 → Nat} {grants : List Grant} {host : PortRing}
  {domid : UInt16} {granted : GrantedRing}

theorem grantedPage_ringRef
    (hspec : GrantedSpec layout lut host.addr host.ring host.numDesc domid granted)
    (hfits : ringPageCount layout host.addr host.numDesc < 65536)
    (hdistinct : (grants.map Grant.ref).Nodup) (hsub : granted.grants ⊆ grants) {i : Nat}
    (hi : i < ringPageCount layout host.addr host.numDesc) :
    grantedPage grants (granted.gnt.ringRef i).toUInt32 = some (virtToPage host.addr + i) := by
  have hcount := hspec.nrRingPgs_toNat hfits
  have hmem : (⟨domid, granted.gnt.ringPg i, granted.gnt.ringRef i⟩ : Grant) ∈ grants := by
    apply hsub
    rw [hspec.grants, ringGrants, hcount]
    exact List.mem_append_right _
      (List.mem_map_of_mem (List.mem_range.mpr (Nat.lt_succ_of_lt hi)))
  rw [grantedPage_of_mem hdistinct hmem, hspec.ringPg i hi]

theorem readRingGrefs_spec {names : RingNames} {gnt : NmGrantRing} {store : XenStore}
    (hstored : RingStored names gnt store) (hsmall : gnt.nrRingPgs.toNat < 100)
    (stale : Nat → UInt32) (rdesc : NetmapGnt) :
    nrMapped (readRingGrefs names store stale rdesc) false = gnt.nrRingPgs.toNat ∧
      ∀ i, i < gnt.nrRingPgs.toNat →
        tableGrefs (readRingGrefs names store stale rdesc) false i =
          (gnt.ringRef i).toUInt32 := by
  have hexchanged := (exchanged_iff hstored mapsAll sampleOps stale rdesc).mpr
    (entriesKept_of_lt hsmall gnt.ringRef stale)
  rw [Exchanged, mappedRefs_eq] at hexchanged
  have hlength := congrArg List.length hexchanged
  rw [List.length_map, List.length_map, List.length_range, List.length_range] at hlength
  rw [hlength, List.map_inj_left] at hexchanged
  exact ⟨hlength, fun i hi => hexchanged i (List.mem_range.mpr hi)⟩

theorem ringPlaced_iff (hdesc : 0 < host.numDesc) :
    RingPlaced layout host ↔ host.addr % pageSize = 0 ∧
      ringBytes layout host.numDesc ≤ pageSize * ringPageCount layout host.addr host.numDesc := by
  unfold RingPlaced
  refine and_congr_right fun haligned => ?_
  have hlast : layout.slotAddr host.addr (host.numDesc - 1) + layout.slotSize =
      host.addr + ringBytes layout host.numDesc := by
    have hslots : (host.numDesc - 1) * layout.slotSize + layout.slotSize =
        host.numDesc * layout.slotSize := by
      rw [← Nat.succ_mul, Nat.succ_eq_add_one, Nat.sub_add_cancel hdesc]
    unfold RingLayout.slotAddr ringBytes
    omega
  have hfirst : host.addr ≤ layout.slotAddr host.addr (host.numDesc - 1) := by
    unfold RingLayout.slotAddr
    omega
  unfold ringPageCount virtToPage
  unfold pageSize at haligned ⊢
  omega

/-- Once its pages are mapped, the guest has the ring in common with the host exactly when the
ring is placed well. -/
theorem showsRing_iff {names : RingNames} {gnt : NmGrantRing} {store : XenStore}
    {mapGrantRef : MapGrantRef} (hmaps : MapsEveryPage mapGrantRef)
    (hstored : RingStored names gnt store)
    (hcount : gnt.nrRingPgs.toNat = ringPageCount layout host.addr host.numDesc)
    (hsmall : gnt.nrRingPgs.toNat < 100) (hdesc : 0 < host.numDesc)
    (hpages : ∀ i, i < ringPageCount layout host.addr host.numDesc →
      grantedPage grants (gnt.ringRef i).toUInt32 = some (virtToPage host.addr + i))
    (new : MapOps) (stale : Nat → UInt32) (rdesc : NetmapGnt) :
    ShowsRing layout grants host
        (gnttabMap mapGrantRef new (readRingGrefs names store stale rdesc) false).1 new.addr ↔
      RingPlaced layout host := by
  obtain ⟨hmapped, hgrefs⟩ := readRingGrefs_spec hstored hsmall stale rdesc
  rw [hcount] at hmapped hgrefs
  have hbytes := ringBytes_pos layout hdesc
  rw [ringPlaced_iff hdesc]
  unfold ShowsRing
  simp only [translate_of_consecutive (consecutive_gnttabMap hmaps new _ false),
    nrMapped_gnttabMap, hmapped]
  refine Window.showsBlock_iff (by decide) hbytes fun k hk => ?_
  have href := (tableMap_gnttabMap hmaps new (readRingGrefs names store stale rdesc) false
    (i := k) (by rw [hmapped]; exact hk)).1
  dsimp only
  rw [href, hgrefs k hk]
  exact hpages k hk

variable {gref : Nat → Int32} {ring seen : NetmapRing} {pages : Nat → PageEntry}
  {bufs : List Grant}

theorem translate_slot_iff {guest : NetmapGnt} {m : Nat}
    (hmapped : MappedInOrder guest bufs gref pages m)
    (hdistinct : (grants.map Grant.ref).Nodup) (hsub : bufs ⊆ grants) (i h : Nat) :
    translate grants guest true (netfrontBuf guest.bufsBase i) = some h ↔
      Designates guest bufs (netfrontBuf guest.bufsBase i) h := by
  have hpages : Consecutive guest true guest.bufsBase := by
    intro k hk
    have hk' : k < m := hmapped.nrBufsGrefs ▸ hk
    exact ⟨hmapped.status k hk', hmapped.hostAddr k hk'⟩
  have hslot : i * netfrontBufSize / pageSize = i / 2 ∧
      i * netfrontBufSize % pageSize = i % 2 * netfrontBufSize := by
    unfold netfrontBufSize pageSize
    omega
  obtain ⟨domid, hbufs⟩ := hmapped.grants
  rw [designates_slot_iff hmapped, netfrontBuf, translate_of_consecutive hpages,
    Window.shown_eq_some_iff (by decide), hslot.1, hslot.2]
  have hcount : nrMapped guest true = m := hmapped.nrBufsGrefs
  dsimp only
  rw [hcount]
  refine and_congr_right fun hi => and_congr_left' ?_
  have hmem : (⟨domid, pages (i / 2), gref (i / 2)⟩ : Grant) ∈ grants := by
    apply hsub
    rw [hbufs]
    exact List.mem_map_of_mem (List.mem_range.mpr hi)
  have href : (tableMap guest true (i / 2)).ref = (gref (i / 2)).toUInt32 := hmapped.ref _ hi
  rw [href, grantedPage_of_mem hdistinct hmem]
  rfl

theorem goodRefs_sublist (hrefs : GoodRefs grants) (hsub : bufs.Sublist grants) :
    GoodRefs bufs where
  nonzero g hg := hrefs.nonzero g (hsub.subset hg)
  distinct := hrefs.distinct.sublist (hsub.map Grant.ref)

theorem bufs_shown_iff {mapGrantRef : MapGrantRef} (hmaps : MapsEveryPage mapGrantRef)
    (hrefs : GoodRefs grants) (hheads : HeadsGranted lut gref domid ring pages seen bufs)
    (hsub : bufs.Sublist grants) (hbufs : DistinctBufs lut ring) (hslots : 0 < ring.numSlots)
    (new : MapOps) (stale : Nat → UInt32) (rdesc : NetmapGnt) :
    let guest := setupBufs mapGrantRef new stale seen rdesc
    (∀ i, i < ring.numSlots → translate grants guest true (netfrontBuf guest.bufsBase i) =
        some (bufAddr lut ring i)) ↔
      PairedInOrder lut ring := by
  have hmapped := setupBufs_mappedInOrder hmaps new stale rdesc hheads hslots
    (goodRefs_sublist hrefs hsub)
  simp only [translate_slot_iff hmapped hrefs.distinct hsub.subset]
  exact ⟨pairedInOrder_of_designates hmapped,
    fun hpaired i hi => designates_of_pairedInOrder hheads hmapped hbufs hpaired hi⟩

/-- What the host has granted of a ring, when `granted` is what it left in the ring. -/
structure Offered (layout : RingLayout) (lut : UInt32 → Nat) (grants : List Grant)
    (host : PortRing) (granted : GrantedRing) : Prop where
  count : granted.gnt.nrRingPgs.toNat = ringPageCount layout host.addr host.numDesc
  pages : ∀ i, i < ringPageCount layout host.addr host.numDesc →
    grantedPage grants (granted.gnt.ringRef i).toUInt32 = some (virtToPage host.addr + i)
  bufs : ∃ gref domid pages bufs,
    HeadsGranted lut gref domid host.ring pages granted.ring bufs ∧ bufs.Sublist grants

theorem offered_of_call {stale : VmallocContents}
    (hcall : xenvifGrantRing layout lut gref host.addr host.ring host.numDesc domid stale =
      some granted)
    (hfresh : stale.bufPg 0 ≠ some (bufPage lut host.ring 0))
    (hdesc : host.numDesc = host.ring.numSlots)
    (hfits : ringPageCount layout host.addr host.numDesc < 65536)
    (hdistinct : (grants.map Grant.ref).Nodup) (hsub : granted.grants.Sublist grants) :
    Offered layout lut grants host granted := by
  obtain ⟨spec, hspeccall, hspec⟩ := xenvifGrantRing_spec layout lut gref host.addr host.ring
    host.numDesc domid hfresh
  obtain rfl := Option.some.inj (hspeccall.symm.trans hcall)
  rw [hdesc] at hcall
  obtain ⟨pages, bufs, hheads, hprefix⟩ := xenvifGrantRing_heads hfresh hcall
  exact
    { count := hspec.nrRingPgs_toNat hfits
      pages := fun i hi => grantedPage_ringRef hspec hfits hdistinct hsub.subset hi
      bufs := ⟨gref, domid, pages, bufs, hheads, hprefix.sublist.trans hsub⟩ }

theorem Offered.numSlots (hoffer : Offered layout lut grants host granted) :
    granted.ring.numSlots = host.ring.numSlots := by
  obtain ⟨gref, domid, pages, bufs, hheads, _⟩ := hoffer.bufs
  exact hheads.numSlots

/-- One ring and its buffers, from the references in the store to the base of the buffers. -/
theorem mapRing_shared_iff {names : RingNames} {store : XenStore} {ans : RingAnswers}
    (read : NetmapGnt → Nat → NetmapRing) (hringPages : MapsEveryPage ans.mapRingPages)
    (hbufPages : MapsEveryPage ans.mapBufPages)
    (hoffer : Offered layout lut grants host granted) (hrefs : GoodRefs grants)
    (hstored : RingStored names granted.gnt store)
    (hsmall : ringPageCount layout host.addr host.numDesc < 100)
    (hdesc : host.numDesc = host.ring.numSlots) (hslots : 0 < host.ring.numSlots)
    (hbufs : DistinctBufs lut host.ring)
    (hread : ∀ rdesc rings, ShowsRing layout grants host rdesc rings →
      read rdesc rings = granted.ring) (rdesc : NetmapGnt) :
    (∃ mapped, mapRing read ans (UInt32.ofNat host.numDesc)
        (readRingGrefs names store ans.staleGrefs rdesc) = some mapped ∧
        Shared layout grants lut host (mapBufs read ans mapped)) ↔
      RingPlaced layout host ∧ PairedInOrder lut host.ring := by
  obtain ⟨gref, domid, pages, bufs, hheads, hsub⟩ := hoffer.bufs
  have hcount : granted.gnt.nrRingPgs.toNat < 100 := hoffer.count ▸ hsmall
  have hrings : (((gnttabMap ans.mapRingPages ans.ringOps
      (readRingGrefs names store ans.staleGrefs rdesc) false).1).ringGnt 0).hostAddr =
      ans.ringOps.addr := by
    have hmapped := (readRingGrefs_spec hstored hcount ans.staleGrefs rdesc).1
    have hpos := ringPageCount_pos layout host.addr host.numDesc
    exact (tableMap_gnttabMap hringPages ans.ringOps _ false
      (by rw [hmapped, hoffer.count]; exact hpos)).2.2.2
  have hshows := showsRing_iff hringPages hstored hoffer.count hcount (hdesc ▸ hslots)
    hoffer.pages ans.ringOps ans.staleGrefs rdesc
  have hbufsShown := bufs_shown_iff hbufPages hrefs hheads hsub hbufs hslots ans.bufOps
    ans.staleBufs (gnttabMap ans.mapRingPages ans.ringOps
      (readRingGrefs names store ans.staleGrefs rdesc) false).1
  unfold mapRing
  dsimp only
  rw [hrings]
  generalize (gnttabMap ans.mapRingPages ans.ringOps
    (readRingGrefs names store ans.staleGrefs rdesc) false).1 = desc at hshows hbufsShown ⊢
  constructor
  · rintro ⟨mapped, hmapped, hshared⟩
    split at hmapped
    · contradiction
    · obtain rfl := Option.some.inj hmapped
      have hseen : read desc ans.ringOps.addr = granted.ring := hread _ _ hshared.ring
      refine ⟨hshows.mp hshared.ring, hbufsShown.mp ?_⟩
      have hplaces := hshared.bufs
      simp only [mapBufs, hseen] at hplaces
      exact hplaces
  · rintro ⟨hplaced, hpaired⟩
    have hring' := hshows.mpr hplaced
    have hseen := hread _ _ hring'
    rw [if_neg (by rw [hseen, hoffer.numSlots, hdesc]; exact not_not_intro rfl)]
    refine ⟨_, rfl, hring', ?_⟩
    simp only [mapBufs, hseen]
    exact hbufsShown.mpr hpaired

end Ring

theorem xenvifNetmapMap_calls {layout : RingLayout} {info : VifGrants} {na : PortRings}
    {call : MapCall} {result : MapResult} (hunmapped : info.nmtx.nrRingPgs = 0)
    (hcall : xenvifNetmapMap layout info na call = some result) :
    ∃ tx rx, xenvifGrantRing layout na.lut call.gref na.tx.addr na.tx.ring na.tx.numDesc
        info.domid call.staleTx = some tx ∧
      xenvifGrantRing layout na.lut (fun k => call.gref (tx.grants.length + k)) na.rx.addr
        na.rx.ring na.rx.numDesc info.domid call.staleRx = some rx ∧
      result =
        { info := { info with nmtx := tx.gnt, nmrx := rx.gnt }
          na := { na with
            tx := { na.tx with ring := tx.ring }, rx := { na.rx with ring := rx.ring } }
          grants := tx.grants ++ rx.grants } := by
  rw [xenvifNetmapMap, if_neg (not_not_intro hunmapped)] at hcall
  obtain ⟨tx, htx, hrest⟩ := Option.bind_eq_some_iff.mp hcall
  obtain ⟨rx, hrx, hresult⟩ := Option.map_eq_some_iff.mp hrest
  exact ⟨tx, rx, htx, hrx, hresult.symm⟩

/-- A ring as netmap hands it to the driver: buffers of its own, and few enough pages for the
numbers in the keys. The new array for the buffers' pages does not hold the first of them by
chance. -/
structure RegularRing (layout : RingLayout) (lut : UInt32 → Nat) (r : PortRing)
    (stale : VmallocContents) : Prop where
  slots : 0 < r.ring.numSlots
  desc : r.numDesc = r.ring.numSlots
  pages : ringPageCount layout r.addr r.numDesc < 100
  bufs : DistinctBufs lut r.ring
  fresh : stale.bufPg 0 ≠ some (bufPage lut r.ring 0)

/-- The hypervisor maps all the pages of a ring and of its buffers. -/
structure RingAnswers.MapsAll (ans : RingAnswers) : Prop where
  ringPages : MapsEveryPage ans.mapRingPages
  bufPages : MapsEveryPage ans.mapBufPages

theorem readDesc_of_decimal {store : XenStore} {name : List Char} {n : Nat}
    (hstore : store name = some (decimal n)) (stale : UInt32) :
    readDesc store name stale = UInt32.ofNat n := by
  rw [readDesc, xenbusScanf, hstore, Option.bind_some, scanDecimal_decimal, Option.map_some,
    Option.getD_some, intCell_natCast]

theorem readDesc_tx (na : PortRings) (store : XenStore) (stale : UInt32) :
    readDesc (writeNetmapDescs na store) "feature-netmap-tx-desc".toList stale =
      UInt32.ofNat na.tx.numDesc := by
  have hne : "feature-netmap-tx-desc".toList ≠ "feature-netmap-rx-desc".toList := by decide
  apply readDesc_of_decimal
  rw [writeNetmapDescs, xenbusPrintf, xenbusPrintf, Function.update_of_ne hne,
    Function.update_self]

theorem readDesc_rx (na : PortRings) (store : XenStore) (stale : UInt32) :
    readDesc (writeNetmapDescs na store) "feature-netmap-rx-desc".toList stale =
      UInt32.ofNat na.rx.numDesc := by
  apply readDesc_of_decimal
  rw [writeNetmapDescs, xenbusPrintf, Function.update_self]

theorem readRing_of_showsRx {layout : RingLayout} {grants : List Grant} {na : PortRings}
    {other : Nat → NetmapRing} {rdesc : NetmapGnt} {rings : Nat}
    (hapart : na.tx.addr ≠ na.rx.addr) (htx : 0 < ringBytes layout na.tx.numDesc)
    (hrx : 0 < ringBytes layout na.rx.numDesc)
    (hshows : ShowsRing layout grants na.rx rdesc rings) :
    readRing layout grants na other rdesc rings = na.rx.ring := by
  rw [readRing, if_neg, if_pos hshows]
  intro htxshows
  have haddr := (htxshows 0 htx).symm.trans (hshows 0 hrx)
  exact hapart (Option.some.inj haddr)

/-- Host and guest have both rings and all their buffers in common after the mapping exactly
when both rings begin with a page and end where their last slot's page does, and the buffers of
both come in pairs, the two halves of a page in order. Otherwise the guest waits for ever, or
some byte of a ring or some buffer is not where the guest looks for it. -/
theorem shared_memory_iff {layout : RingLayout} {info : VifGrants} {na : PortRings}
    {call : MapCall} {result : MapResult} {backend frontend : XenStore} {tx rx : RingAnswers}
    (hunmapped : info.nmtx.nrRingPgs = 0)
    (hcall : xenvifNetmapMap layout info na call = some result)
    (hrefs : GoodRefs result.grants) (hapart : na.tx.addr ≠ na.rx.addr)
    (htx : RegularRing layout na.lut na.tx call.staleTx)
    (hrx : RegularRing layout na.lut na.rx call.staleRx)
    (hmapsTx : tx.MapsAll) (hmapsRx : rx.MapsAll) (other : Nat → NetmapRing)
    (txd rxd : NetmapGnt) :
    (∃ guest, setupRings (readRing layout result.grants result.na other)
          (writeNetmapDescs na backend)
          (xenbusWriteGrefs result.info.nmtx result.info.nmrx frontend) tx rx txd rxd =
        some guest ∧
      Shared layout result.grants na.lut na.tx guest.1 ∧
      Shared layout result.grants na.lut na.rx guest.2) ↔
    (RingPlaced layout na.tx ∧ PairedInOrder na.lut na.tx.ring) ∧
      RingPlaced layout na.rx ∧ PairedInOrder na.lut na.rx.ring := by
  obtain ⟨txg, rxg, htxcall, hrxcall, rfl⟩ := xenvifNetmapMap_calls hunmapped hcall
  have hofferTx : Offered layout na.lut (txg.grants ++ rxg.grants) na.tx txg :=
    offered_of_call htxcall htx.fresh htx.desc (Nat.lt_trans htx.pages (by decide))
      hrefs.distinct (List.sublist_append_left _ _)
  have hofferRx : Offered layout na.lut (txg.grants ++ rxg.grants) na.rx rxg :=
    offered_of_call hrxcall hrx.fresh hrx.desc (Nat.lt_trans hrx.pages (by decide))
      hrefs.distinct (List.sublist_append_right _ _)
  have hsmallTx : txg.gnt.nrRingPgs.toNat < 100 := hofferTx.count ▸ htx.pages
  have hsmallRx : rxg.gnt.nrRingPgs.toNat < 100 := hofferRx.count ▸ hrx.pages
  obtain ⟨hstoredTx, hstoredRx⟩ : RingStored txNames txg.gnt
      (xenbusWriteGrefs txg.gnt rxg.gnt frontend) ∧ RingStored rxNames rxg.gnt
      (xenbusWriteGrefs txg.gnt rxg.gnt frontend) :=
    xenbusWriteGrefs_stored (fun i hlarge hi => by omega) fun i hlarge hi => by omega
  let read := readRing layout (txg.grants ++ rxg.grants)
    { na with tx := { na.tx with ring := txg.ring }, rx := { na.rx with ring := rxg.ring } } other
  have hsharedTx := mapRing_shared_iff read hmapsTx.ringPages hmapsTx.bufPages hofferTx hrefs
    hstoredTx htx.pages htx.desc htx.slots htx.bufs
    (fun rdesc rings hshows => if_pos hshows) txd
  have hsharedRx := mapRing_shared_iff read hmapsRx.ringPages hmapsRx.bufPages hofferRx hrefs
    hstoredRx hrx.pages hrx.desc hrx.slots hrx.bufs
    (fun rdesc rings hshows => readRing_of_showsRx hapart
      (ringBytes_pos layout (htx.desc ▸ htx.slots))
      (ringBytes_pos layout (hrx.desc ▸ hrx.slots)) hshows) rxd
  rw [← hsharedTx, ← hsharedRx]
  simp only [setupRings, readDesc_tx, readDesc_rx, xenbusReadRingGrefs]
  constructor
  · rintro ⟨guest, hsetup, hguestTx, hguestRx⟩
    obtain ⟨txr, htxr, hrest⟩ := Option.bind_eq_some_iff.mp hsetup
    obtain ⟨rxr, hrxr, rfl⟩ := Option.map_eq_some_iff.mp hrest
    exact ⟨⟨txr, htxr, hguestTx⟩, rxr, hrxr, hguestRx⟩
  · rintro ⟨⟨txr, htxr, hguestTx⟩, rxr, hrxr, hguestRx⟩
    refine ⟨(mapBufs read tx txr, mapBufs read rx rxr), ?_, hguestTx, hguestRx⟩
    rw [htxr, Option.bind_some, hrxr, Option.map_some]

/-- Two rings of four slots on a page each, with buffers of their own. -/
def apartPorts : PortRings where
  lut := sampleLut
  tx := samplePort 8192
  rx := ⟨16384, { sampleRing 4 with slot := fun i => ⟨UInt32.ofNat (i + 20), 2048, 0, 0⟩ }, 4⟩

def sampleAnswers (addr : Nat) : RingAnswers where
  staleDesc := 0
  staleGrefs _ := 0
  ringOps := { sampleOps with addr := addr }
  mapRingPages := mapsAll
  staleBufs _ := 0
  bufOps := { sampleOps with addr := addr + pageSize }
  mapBufPages := mapsAll

theorem sampleAnswers_mapsAll (addr : Nat) : (sampleAnswers addr).MapsAll where
  ringPages _ _ := ⟨rfl, fun _ _ => rfl⟩
  bufPages _ _ := ⟨rfl, fun _ _ => rfl⟩

theorem paired_of_four {lut : UInt32 → Nat} {ring : NetmapRing} (hslots : ring.numSlots = 4)
    (hfirst : ∀ k, k < 2 → bufAddr lut ring (2 * k) % pageSize = 0 ∧
      bufAddr lut ring (2 * k + 1) = bufAddr lut ring (2 * k) + netfrontBufSize) :
    PairedInOrder lut ring := by
  intro k hk
  rw [hslots] at hk
  obtain ⟨haligned, hnext⟩ := hfirst k (by omega)
  exact ⟨haligned, fun _ => hnext⟩

theorem shared_memory_iff_sample :
    ∃ result, xenvifNetmapMap sampleLayout unmappedVif apartPorts sampleCall = some result ∧
      ∃ guest, setupRings (readRing sampleLayout result.grants result.na fun _ => sampleRing 0)
          (writeNetmapDescs apartPorts fun _ => none)
          (xenbusWriteGrefs result.info.nmtx result.info.nmrx fun _ => none)
          (sampleAnswers 65536) (sampleAnswers 131072) noGnt noGnt = some guest ∧
        Shared sampleLayout result.grants sampleLut apartPorts.tx guest.1 ∧
        Shared sampleLayout result.grants sampleLut apartPorts.rx guest.2 := by
  have hbufs : ∀ n, n < 1000 → ∀ i j, i < 4 → j < 4 →
      sampleLut (UInt32.ofNat (i + n)) = sampleLut (UInt32.ofNat (j + n)) → i = j := by
    intro n hn i j hi hj heq
    simp only [sampleLut, UInt32.toNat_ofNat'] at heq
    omega
  obtain ⟨result, hcall⟩ :=
    exists_xenvifNetmapMap sampleLayout unmappedVif apartPorts sampleCall
  have hlist : (xenvifNetmapMap sampleLayout unmappedVif apartPorts sampleCall).map
      (fun result => result.grants.map Grant.ref) = some [8, 9, 10, 11, 12, 13, 14, 15] := by
    decide
  rw [hcall, Option.map_some, Option.some.injEq] at hlist
  have hrefs : GoodRefs result.grants := by
    refine ⟨fun g hg hzero => ?_, by rw [hlist]; decide⟩
    have hmem := List.mem_map_of_mem (f := Grant.ref) hg
    rw [hlist, hzero] at hmem
    exact absurd hmem (by decide)
  refine ⟨result, hcall, (shared_memory_iff rfl hcall hrefs (by decide) ?_ ?_
    (sampleAnswers_mapsAll _) (sampleAnswers_mapsAll _) _ _ _).mpr
    ⟨⟨by decide, ?_⟩, by decide, ?_⟩⟩
  · exact ⟨by decide, rfl, by decide, hbufs 2 (by decide), (Option.some_ne_none _).symm⟩
  · exact ⟨by decide, rfl, by decide, hbufs 20 (by decide), (Option.some_ne_none _).symm⟩
  · exact paired_of_four rfl (by decide)
  · exact paired_of_four rfl (by decide)

end XenNet.SharedMemory

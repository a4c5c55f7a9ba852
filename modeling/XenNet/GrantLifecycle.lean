import XenNet.GrantConfinement
import Mathlib.Data.List.DropRight

namespace XenNet.GrantLifecycle

open XenNet.NetmapKernel
open XenNet.RunHeads
open XenNet.TransitionSystem
open XenNet.GrantRing
open XenNet.GrantConfinement

def ringGrants (domid : UInt16) (gnt : NmGrantRing) : List Grant :=
  (List.range (gnt.nrRingPgs.toNat + 1)).map fun i => ⟨domid, gnt.ringPg i, gnt.ringRef i⟩

def bufGrants (domid : UInt16) (gnt : NmGrantRing) : List Grant :=
  (List.range (gnt.nrBufPgs.toNat + 1)).map fun k => ⟨domid, gnt.bufPg k, gnt.bufRef k⟩

/-- How many pages the loop over the slots finds: a buffer in the page of the buffer before
it begins none. -/
def bufPageCount (lut : UInt32 → Nat) (ring : NetmapRing) (numDesc : Nat) : Nat :=
  Nat.count (IsHead (bufPage lut ring)) numDesc

/-- What `xenvif_grant_ring` leaves behind when `buf_pg` did not hold slot 0's page by
chance. -/
structure GrantedSpec (layout : RingLayout) (lut : UInt32 → Nat) (ringAddr : Nat)
    (ring : NetmapRing) (numDesc : Nat) (domid : UInt16) (granted : GrantedRing) : Prop where
  bufIdx : ∀ k, (granted.ring.slot k).bufIdx = (ring.slot k).bufIdx
  nrRingPgs : granted.gnt.nrRingPgs = UInt16.ofNat (ringPageCount layout ringAddr numDesc)
  nrBufPgs : granted.gnt.nrBufPgs = UInt16.ofNat (bufPageCount lut ring numDesc - 1)
  ringPg : ∀ i, i < ringPageCount layout ringAddr numDesc →
    granted.gnt.ringPg i = ⟨some (virtToPage ringAddr + i), true⟩
  bufPg : ∀ i, i < numDesc → IsHead (bufPage lut ring) i →
    granted.gnt.bufPg (bufPageCount lut ring i) = ⟨some (bufPage lut ring i), true⟩
  vifgref : ∀ i, i < numDesc → vifgref granted.ring i =
    if IsHead (bufPage lut ring) i then
      refPtr (granted.gnt.bufRef (bufPageCount lut ring i)) else 0
  grants : granted.grants =
    ((List.range (bufPageCount lut ring numDesc)).map fun k =>
      ⟨domid, granted.gnt.bufPg k, granted.gnt.bufRef k⟩) ++ ringGrants domid granted.gnt

theorem grantRingPages_refs (gref : Nat → Int32) (domid : UInt16) (ringPg : Nat → PageEntry)
    (nrRingPgs : UInt16) (ringRef : Nat → Int32) (grants : List Grant) {i : Nat}
    (hi : i < nrRingPgs.toNat + 1) :
    (grantRingPages gref domid ringPg nrRingPgs ringRef grants).1 i =
      gref (grants.length + i) := by
  have hloop := foldl_range_invariant (f := grantRingStep gref domid ringPg)
    (s := (ringRef, grants)) (n := nrRingPgs.toNat + 1)
    (I := fun n (s : (Nat → Int32) × List Grant) =>
      s.2.length = grants.length + n ∧ ∀ k, k < n → s.1 k = gref (grants.length + k)) ?_ ?_
  · exact hloop.2 i hi
  · exact ⟨rfl, fun k hk => absurd hk (Nat.not_lt_zero k)⟩
  · rintro n s _ ⟨hlength, hrefs⟩
    constructor
    · simp [grantRingStep, hlength, Nat.add_assoc]
    · intro k hk
      rcases Nat.lt_succ_iff_lt_or_eq.mp hk with hlt | rfl
      · simpa [grantRingStep, Nat.ne_of_lt hlt] using hrefs k hlt
      · simp [grantRingStep, hlength]

theorem grantRingPages_entries (gref : Nat → Int32) (domid : UInt16)
    (ringPg : Nat → PageEntry) (nrRingPgs : UInt16) (ringRef : Nat → Int32)
    (grants : List Grant) :
    (grantRingPages gref domid ringPg nrRingPgs ringRef grants).2 =
      grants ++ (List.range (nrRingPgs.toNat + 1)).map fun i =>
        ⟨domid, ringPg i, (grantRingPages gref domid ringPg nrRingPgs ringRef grants).1 i⟩ := by
  rw [grantRingPages_grants]
  congr 1
  apply List.map_congr_left
  intro i hi
  rw [grantRingPages_refs _ _ _ _ _ _ (List.mem_range.mp hi)]

/-- `xenvif_grant_ring` grants the pages of the buffers and then the entries of the ring,
and keeps every reference beside the page that it grants. -/
theorem xenvifGrantRing_spec (layout : RingLayout) (lut : UInt32 → Nat) (gref : Nat → Int32)
    (ringAddr : Nat) (ring : NetmapRing) (numDesc : Nat) (domid : UInt16)
    {stale : VmallocContents} (hfresh : stale.bufPg 0 ≠ some (bufPage lut ring 0)) :
    ∃ granted, xenvifGrantRing layout lut gref ringAddr ring numDesc domid stale =
        some granted ∧ GrantedSpec layout lut ringAddr ring numDesc domid granted := by
  have hpages := nmBufPages_spec lut ring numDesc stale.bufPg
  have hbufs := hpages.grantBufs gref domid stale.bufRef
  have hcount := count_marks_eq hfresh
  unfold xenvifGrantRing
  rw [nmRingPages_eq]
  refine ⟨_, rfl, ?_, rfl, ?_, ?_, ?_, ?_, ?_⟩
  · intro k
    exact (hbufs.bufIdx k).trans (hpages.bufIdx k)
  · exact congrArg UInt16.ofNat hpages.bufsRefs
  · intro i hi
    exact if_pos hi
  · intro i hi hhead
    exact (hpages.entry i hi hhead).trans
      (by rw [decide_eq_true ((marks_iff_isHead hfresh i).mpr hhead)])
  · intro i hi
    rw [hbufs.granted i hi, if_congr (marks_iff_isHead hfresh i) rfl rfl]
    split
    · rename_i hhead
      have hmark := (marks_iff_isHead hfresh i).mpr hhead
      have hbelow := Nat.count_strict_mono hmark hi
      rw [← hbufs.bufRef _ hbelow, hcount]
      rfl
    · rfl
  · refine (grantRingPages_entries _ _ _ _ _ _).trans ?_
    congr 1
    rw [hbufs.grants, hcount]
    apply List.map_congr_left
    intro k hk
    rw [← hbufs.bufRef k (by rw [hcount]; exact List.mem_range.mp hk)]

/-- A ring of the port: where netmap placed it, what it holds, and how many descriptors the
adapter gives for it. -/
structure PortRing where
  addr : Nat
  ring : NetmapRing
  numDesc : Nat

/-- The rings of the port's `struct netmap_adapter`, with the lookup table of its memory. -/
structure PortRings where
  lut : UInt32 → Nat
  tx : PortRing
  rx : PortRing

/-- What `struct xenvif` knows about its grants. -/
structure VifGrants where
  domid : UInt16
  nmtx : NmGrantRing
  nmrx : NmGrantRing

/-- What one call of `xenvif_netmap_map` meets: the references that the calls of
`gnttab_grant_foreign_access` return, and the contents of the new arrays. -/
structure MapCall where
  gref : Nat → Int32
  staleTx : VmallocContents
  staleRx : VmallocContents

structure MapResult where
  info : VifGrants
  na : PortRings
  grants : List Grant

/-- `xenvif_netmap_map`, up to the transaction that writes the references. -/
def xenvifNetmapMap (layout : RingLayout) (info : VifGrants) (na : PortRings)
    (call : MapCall) : Option MapResult :=
  if info.nmtx.nrRingPgs ≠ 0 then some ⟨info, na, []⟩
  else
    (xenvifGrantRing layout na.lut call.gref na.tx.addr na.tx.ring na.tx.numDesc info.domid
        call.staleTx).bind fun tx =>
      (xenvifGrantRing layout na.lut (fun k => call.gref (tx.grants.length + k)) na.rx.addr
          na.rx.ring na.rx.numDesc info.domid call.staleRx).map fun rx =>
        { info := { info with nmtx := tx.gnt, nmrx := rx.gnt }
          na := { na with
            tx := { na.tx with ring := tx.ring }, rx := { na.rx with ring := rx.ring } }
          grants := tx.grants ++ rx.grants }

/-- `xenvif_revoke_ring`, with the references that it ends. -/
def xenvifRevokeRing (gnt : NmGrantRing) : NmGrantRing × List Int32 :=
  ({ gnt with nrBufPgs := 0, nrRingPgs := 0 },
    (List.range (gnt.nrRingPgs.toNat + 1)).map gnt.ringRef ++
      (List.range (gnt.nrBufPgs.toNat + 1)).map gnt.bufRef)

/-- `xenvif_netmap_unmap`, with the references that it ends. -/
def xenvifNetmapUnmap (vif : VifGrants) : VifGrants × List Int32 :=
  if vif.nmtx.nrRingPgs = 0 then (vif, [])
  else
    ({ vif with
        nmtx := (xenvifRevokeRing vif.nmtx).1, nmrx := (xenvifRevokeRing vif.nmrx).1 },
      (xenvifRevokeRing vif.nmtx).2 ++ (xenvifRevokeRing vif.nmrx).2)

theorem xenvifNetmapUnmap_nrRingPgs (vif : VifGrants) :
    (xenvifNetmapUnmap vif).1.nmtx.nrRingPgs = 0 := by
  unfold xenvifNetmapUnmap
  split
  · rename_i hunmapped
    exact hunmapped
  · rfl

/-- The rings of netmap: a header that takes at most a page, and slots of 16 bytes. -/
structure NetmapLayout (layout : RingLayout) : Prop where
  header : layout.slotOfs ≤ pageSize
  aligned : 16 ∣ layout.slotOfs
  slot : layout.slotSize = 16

/-- The new array for the buffers' pages does not hold the page of the first buffer. -/
def BufArrayEmpty (lut : UInt32 → Nat) (r : PortRing) (stale : VmallocContents) : Prop :=
  stale.bufPg 0 ≠ some (bufPage lut r.ring 0)

/-- The number of descriptors is within what netmap allows. -/
def DescInRange (r : PortRing) : Prop :=
  1 ≤ r.numDesc ∧ r.numDesc ≤ 65535

theorem NetmapLayout.ringPageCount_lt {layout : RingLayout} (hlayout : NetmapLayout layout)
    {r : PortRing} (hdesc : DescInRange r) :
    ringPageCount layout r.addr r.numDesc < 65536 := by
  have hheader := hlayout.header
  have hrange := hdesc.2
  unfold ringPageCount virtToPage RingLayout.slotAddr pageSize at *
  rw [hlayout.slot]
  omega

theorem ringPageCount_pos (layout : RingLayout) (ringAddr numDesc : Nat) :
    1 ≤ ringPageCount layout ringAddr numDesc := by
  unfold ringPageCount
  omega

theorem bufPageCount_bounds (lut : UInt32 → Nat) {r : PortRing} (hdesc : DescInRange r) :
    1 ≤ bufPageCount lut r.ring r.numDesc ∧ bufPageCount lut r.ring r.numDesc ≤ 65535 := by
  constructor
  · exact count_isHead_pos (bufPage lut r.ring) hdesc.1
  · exact Nat.le_trans (Nat.count_le _) hdesc.2

section Granted

variable {layout : RingLayout} {lut : UInt32 → Nat} {r : PortRing} {domid : UInt16}
  {granted : GrantedRing}

theorem GrantedSpec.nrRingPgs_toNat
    (h : GrantedSpec layout lut r.addr r.ring r.numDesc domid granted)
    (hfits : ringPageCount layout r.addr r.numDesc < 65536) :
    granted.gnt.nrRingPgs.toNat = ringPageCount layout r.addr r.numDesc := by
  rw [h.nrRingPgs]
  exact UInt16.toNat_ofNat_of_lt hfits

theorem GrantedSpec.nrBufPgs_toNat
    (h : GrantedSpec layout lut r.addr r.ring r.numDesc domid granted)
    (hcount : 1 ≤ bufPageCount lut r.ring r.numDesc)
    (hfits : bufPageCount lut r.ring r.numDesc ≤ 65536) :
    granted.gnt.nrBufPgs.toNat + 1 = bufPageCount lut r.ring r.numDesc := by
  have hlast : (UInt16.ofNat (bufPageCount lut r.ring r.numDesc - 1)).toNat =
      bufPageCount lut r.ring r.numDesc - 1 :=
    UInt16.toNat_ofNat_of_lt (by rw [show UInt16.size = 65536 from rfl]; omega)
  rw [h.nrBufPgs, hlast]
  omega

theorem GrantedSpec.grants_eq
    (h : GrantedSpec layout lut r.addr r.ring r.numDesc domid granted)
    (hcount : 1 ≤ bufPageCount lut r.ring r.numDesc)
    (hfits : bufPageCount lut r.ring r.numDesc ≤ 65536) :
    granted.grants = bufGrants domid granted.gnt ++ ringGrants domid granted.gnt := by
  rw [h.grants, bufGrants, h.nrBufPgs_toNat hcount hfits]

theorem GrantedSpec.mapped
    (h : GrantedSpec layout lut r.addr r.ring r.numDesc domid granted)
    (hfits : ringPageCount layout r.addr r.numDesc < 65536) : granted.gnt.nrRingPgs ≠ 0 := by
  intro hzero
  have hcount := h.nrRingPgs_toNat hfits
  have hpos := ringPageCount_pos layout r.addr r.numDesc
  rw [hzero] at hcount
  simp at hcount
  omega

end Granted

theorem xenvifRevokeRing_perm (domid : UInt16) (gnt : NmGrantRing) :
    (xenvifRevokeRing gnt).2.Perm
      ((bufGrants domid gnt ++ ringGrants domid gnt).map Grant.ref) := by
  have hrefs : (xenvifRevokeRing gnt).2 =
      (ringGrants domid gnt).map Grant.ref ++ (bufGrants domid gnt).map Grant.ref := by
    simp [xenvifRevokeRing, ringGrants, bufGrants, Function.comp_def]
  rw [hrefs, List.map_append]
  exact List.perm_append_comm

theorem xenvifNetmapMap_spec (layout : RingLayout) {info : VifGrants} (na : PortRings)
    {call : MapCall} (hunmapped : info.nmtx.nrRingPgs = 0)
    (htx : BufArrayEmpty na.lut na.tx call.staleTx)
    (hrx : BufArrayEmpty na.lut na.rx call.staleRx) :
    ∃ result tx rx, xenvifNetmapMap layout info na call = some result ∧
      GrantedSpec layout na.lut na.tx.addr na.tx.ring na.tx.numDesc info.domid tx ∧
      GrantedSpec layout na.lut na.rx.addr na.rx.ring na.rx.numDesc info.domid rx ∧
      result =
        { info := { info with nmtx := tx.gnt, nmrx := rx.gnt }
          na := { na with
            tx := { na.tx with ring := tx.ring }, rx := { na.rx with ring := rx.ring } }
          grants := tx.grants ++ rx.grants } := by
  obtain ⟨tx, htxcall, htxspec⟩ := xenvifGrantRing_spec layout na.lut call.gref na.tx.addr
    na.tx.ring na.tx.numDesc info.domid htx
  obtain ⟨rx, hrxcall, hrxspec⟩ := xenvifGrantRing_spec layout na.lut
    (fun k => call.gref (tx.grants.length + k)) na.rx.addr na.rx.ring na.rx.numDesc info.domid
    hrx
  refine ⟨_, tx, rx, ?_, htxspec, hrxspec, rfl⟩
  rw [xenvifNetmapMap, if_neg (by simp [hunmapped]), htxcall, Option.bind_some, hrxcall]
  rfl

theorem exists_xenvifNetmapMap (layout : RingLayout) (info : VifGrants) (na : PortRings)
    (call : MapCall) : ∃ result, xenvifNetmapMap layout info na call = some result := by
  unfold xenvifNetmapMap
  split
  · exact ⟨_, rfl⟩
  · simp only [xenvifGrantRing, nmRingPages_eq]
    exact ⟨_, rfl⟩

theorem xenvifNetmapMap_mapped (layout : RingLayout) {info : VifGrants} (na : PortRings)
    (call : MapCall) (hmapped : info.nmtx.nrRingPgs ≠ 0) :
    xenvifNetmapMap layout info na call = some ⟨info, na, []⟩ :=
  if_pos hmapped

inductive GrantEvent where
  | map (na : PortRings) (call : MapCall)
  | unmap

/-- The references that a call obtained, and those that it passed to
`gnttab_end_foreign_access`. -/
structure Effect where
  granted : List Int32
  ended : List Int32

/-- A vif with the calls made so far. -/
structure GrantHistory where
  vif : VifGrants
  trace : List (GrantEvent × Effect)

def historyStep (layout : RingLayout) (s : GrantHistory) : GrantEvent → Option GrantHistory
  | .map na call =>
      (xenvifNetmapMap layout s.vif na call).map fun result =>
        { vif := result.info
          trace := s.trace ++ [(.map na call, ⟨result.grants.map Grant.ref, []⟩)] }
  | .unmap =>
      some
        { vif := (xenvifNetmapUnmap s.vif).1
          trace := s.trace ++ [(.unmap, ⟨[], (xenvifNetmapUnmap s.vif).2⟩)] }

def isMap : GrantEvent × Effect → Bool
  | (.map _ _, _) => true
  | (.unmap, _) => false

def sinceUnmap (trace : List (GrantEvent × Effect)) : List (GrantEvent × Effect) :=
  trace.rtakeWhile isMap

def obtained (trace : List (GrantEvent × Effect)) : List Int32 :=
  (sinceUnmap trace).flatMap fun x => x.2.granted

/-- What a call may do after the calls of `trace`. -/
def CallBalances (trace : List (GrantEvent × Effect)) : GrantEvent × Effect → Prop
  | (.map _ _, effect) => effect.ended = [] ∧ (sinceUnmap trace ≠ [] → effect.granted = [])
  | (.unmap, effect) => effect.granted = [] ∧ effect.ended.Perm (obtained trace)

/-- Every unmap ends exactly what the maps since the unmap before it obtained, and nothing
else is ended; of two maps without an unmap between them the second grants nothing. -/
inductive Balanced : List (GrantEvent × Effect) → Prop where
  | nil : Balanced []
  | snoc {trace : List (GrantEvent × Effect)} {x : GrantEvent × Effect} :
      Balanced trace → CallBalances trace x → Balanced (trace ++ [x])

def allGranted (trace : List (GrantEvent × Effect)) : List Int32 :=
  trace.flatMap fun x => x.2.granted

def allEnded (trace : List (GrantEvent × Effect)) : List Int32 :=
  trace.flatMap fun x => x.2.ended

theorem sinceUnmap_map (trace : List (GrantEvent × Effect)) (na : PortRings) (call : MapCall)
    (effect : Effect) :
    sinceUnmap (trace ++ [(.map na call, effect)]) =
      sinceUnmap trace ++ [(.map na call, effect)] :=
  List.rtakeWhile_concat_pos _ _ _ rfl

theorem sinceUnmap_unmap (trace : List (GrantEvent × Effect)) (effect : Effect) :
    sinceUnmap (trace ++ [(.unmap, effect)]) = [] :=
  List.rtakeWhile_concat_neg _ _ _ Bool.false_ne_true

theorem obtained_map (trace : List (GrantEvent × Effect)) (na : PortRings) (call : MapCall)
    (effect : Effect) :
    obtained (trace ++ [(.map na call, effect)]) = obtained trace ++ effect.granted := by
  simp [obtained, sinceUnmap_map]

theorem obtained_unmap (trace : List (GrantEvent × Effect)) (effect : Effect) :
    obtained (trace ++ [(.unmap, effect)]) = [] := by
  simp [obtained, sinceUnmap_unmap]

theorem Balanced.total {trace : List (GrantEvent × Effect)} (h : Balanced trace) :
    (allGranted trace).Perm (allEnded trace ++ obtained trace) := by
  induction h with
  | nil => exact List.Perm.refl _
  | @snoc trace x _ hx ih =>
      have hgranted : allGranted (trace ++ [x]) = allGranted trace ++ x.2.granted := by
        simp [allGranted]
      have hended : allEnded (trace ++ [x]) = allEnded trace ++ x.2.ended := by
        simp [allEnded]
      rw [hgranted, hended]
      rcases x with ⟨⟨na, call⟩ | _, effect⟩
      · rw [obtained_map, hx.1, List.append_nil, ← List.append_assoc]
        exact ih.append_right effect.granted
      · rw [obtained_unmap, hx.1, List.append_nil, List.append_nil]
        exact ih.trans (hx.2.symm.append_left (allEnded trace))

/-- The vif is mapped when a map came after the last unmap, and then its descriptors hold
the references that it obtained. -/
structure HistoryInv (s : GrantHistory) : Prop where
  balanced : Balanced s.trace
  unmapped : s.vif.nmtx.nrRingPgs = 0 → sinceUnmap s.trace = []
  mapped : s.vif.nmtx.nrRingPgs ≠ 0 → sinceUnmap s.trace ≠ [] ∧
    ((xenvifRevokeRing s.vif.nmtx).2 ++ (xenvifRevokeRing s.vif.nmrx).2).Perm
      (obtained s.trace)

/-- A call for numbers of descriptors in range, with new arrays for the buffers' pages. -/
def CallOk : GrantEvent → Prop
  | .map na call => DescInRange na.tx ∧ DescInRange na.rx ∧
      BufArrayEmpty na.lut na.tx call.staleTx ∧ BufArrayEmpty na.lut na.rx call.staleRx
  | .unmap => True

theorem historyInv_map {layout : RingLayout} (hlayout : NetmapLayout layout)
    {s : GrantHistory} (hinv : HistoryInv s) {na : PortRings} {call : MapCall}
    (hok : CallOk (.map na call)) :
    ∃ t, historyStep layout s (.map na call) = some t ∧ HistoryInv t := by
  obtain ⟨htxdesc, hrxdesc, htxempty, hrxempty⟩ := hok
  by_cases hunmapped : s.vif.nmtx.nrRingPgs = 0
  · obtain ⟨result, tx, rx, hcall, htx, hrx, rfl⟩ :=
      xenvifNetmapMap_spec layout na hunmapped htxempty hrxempty
    have hnone := hinv.unmapped hunmapped
    refine ⟨_, by rw [historyStep, hcall]; rfl, ?_, ?_, ?_⟩
    · exact hinv.balanced.snoc ⟨rfl, fun hsome => absurd hnone hsome⟩
    · intro hzero
      exact absurd hzero (htx.mapped (hlayout.ringPageCount_lt htxdesc))
    · intro _
      obtain ⟨htxpos, htxle⟩ := bufPageCount_bounds na.lut htxdesc
      obtain ⟨hrxpos, hrxle⟩ := bufPageCount_bounds na.lut hrxdesc
      have hempty : obtained s.trace = [] := by rw [obtained, hnone]; rfl
      refine ⟨by simp [sinceUnmap_map], ?_⟩
      rw [obtained_map, hempty, List.nil_append, List.map_append,
        htx.grants_eq htxpos (by omega), hrx.grants_eq hrxpos (by omega)]
      exact (xenvifRevokeRing_perm s.vif.domid tx.gnt).append
        (xenvifRevokeRing_perm s.vif.domid rx.gnt)
  · obtain ⟨hmaps, hperm⟩ := hinv.mapped hunmapped
    refine ⟨_, by rw [historyStep, xenvifNetmapMap_mapped layout na call hunmapped]; rfl,
      ?_, ?_, ?_⟩
    · exact hinv.balanced.snoc ⟨rfl, fun _ => rfl⟩
    · intro hzero
      exact absurd hzero hunmapped
    · intro _
      refine ⟨by simp [sinceUnmap_map], ?_⟩
      rw [obtained_map]
      simpa using hperm

theorem historyInv_unmap (layout : RingLayout) {s : GrantHistory} (hinv : HistoryInv s) :
    ∃ t, historyStep layout s .unmap = some t ∧ HistoryInv t := by
  refine ⟨_, rfl, ?_, fun _ => sinceUnmap_unmap _ _, ?_⟩
  · refine hinv.balanced.snoc ⟨rfl, ?_⟩
    unfold xenvifNetmapUnmap
    split
    · rename_i hunmapped
      rw [obtained, hinv.unmapped hunmapped]
      exact List.Perm.refl _
    · rename_i hmapped
      exact (hinv.mapped hmapped).2
  · intro hmapped
    exact absurd (xenvifNetmapUnmap_nrRingPgs s.vif) hmapped

/-- Over every sequence of maps and unmaps of a vif without grants, each obtained reference
is ended once, by the first unmap after it, and nothing else is ended. -/
theorem grants_balance {layout : RingLayout} (hlayout : NetmapLayout layout) {vif : VifGrants}
    (hvif : vif.nmtx.nrRingPgs = 0) {es : List GrantEvent} (hok : ∀ e ∈ es, CallOk e) :
    ∃ s, run (historyStep layout) ⟨vif, []⟩ es = some s ∧ Balanced s.trace ∧
      (allGranted s.trace).Perm (allEnded s.trace ++ obtained s.trace) := by
  have hstart : HistoryInv ⟨vif, []⟩ :=
    ⟨Balanced.nil, fun _ => rfl, fun hmapped => absurd hvif hmapped⟩
  have hstep : ∀ s e, HistoryInv s → CallOk e →
      ∃ t, historyStep layout s e = some t ∧ HistoryInv t := by
    intro s e hinv he
    cases e with
    | map na call => exact historyInv_map hlayout hinv he
    | unmap => exact historyInv_unmap layout hinv
  obtain ⟨s, hrun, hinv⟩ := exists_run_of_forall hstep hstart hok
  exact ⟨s, hrun, hinv.balanced, hinv.balanced.total⟩

def samplePort (addr : Nat) : PortRing where
  addr := addr
  ring := sampleRing 4
  numDesc := 4

def samplePorts (addr : Nat) : PortRings where
  lut := sampleLut
  tx := samplePort addr
  rx := samplePort (addr + pageSize)

def sampleCall : MapCall where
  gref := sampleGref
  staleTx := nullArrays
  staleRx := nullArrays

def unmappedRing : NmGrantRing where
  ringPg _ := ⟨none, false⟩
  bufPg _ := ⟨none, false⟩
  ringRef _ := 0
  bufRef _ := 0
  nrBufPgs := 0
  nrRingPgs := 0

def unmappedVif : VifGrants where
  domid := 1
  nmtx := unmappedRing
  nmrx := unmappedRing

theorem sampleLayout_netmap : NetmapLayout sampleLayout where
  header := by decide
  aligned := by decide
  slot := rfl

theorem callOk_sample (addr : Nat) : CallOk (.map (samplePorts addr) sampleCall) := by
  have hrange : DescInRange (samplePort addr) := by
    constructor <;> simp [samplePort]
  exact ⟨hrange, hrange, Option.some_ne_none _ |>.symm, Option.some_ne_none _ |>.symm⟩

theorem grants_balance_twice :
    ∃ s, run (historyStep sampleLayout) ⟨unmappedVif, []⟩
        [.map (samplePorts 8192) sampleCall, .map (samplePorts 8192) sampleCall, .unmap,
          .unmap] = some s ∧
      Balanced s.trace ∧ (allGranted s.trace).Perm (allEnded s.trace ++ obtained s.trace) := by
  refine grants_balance sampleLayout_netmap rfl ?_
  intro e he
  simp only [List.mem_cons, List.not_mem_nil, or_false] at he
  rcases he with rfl | rfl | rfl | rfl
  · exact callOk_sample 8192
  · exact callOk_sample 8192
  · trivial
  · trivial

end XenNet.GrantLifecycle

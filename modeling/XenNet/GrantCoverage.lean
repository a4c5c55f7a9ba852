import XenNet.PortRegistration

namespace XenNet.GrantCoverage

open XenNet.RunHeads
open XenNet.TransitionSystem
open XenNet.GrantRing
open XenNet.GrantConfinement
open XenNet.GrantLifecycle
open XenNet.PortRegistration

/-- The numbers of descriptors are in range, and the rings are aligned to slots. -/
structure WellPlaced (na : PortRings) : Prop where
  txDesc : DescInRange na.tx
  rxDesc : DescInRange na.rx
  txAligned : 16 ∣ na.tx.addr
  rxAligned : 16 ∣ na.rx.addr

/-- Rings as netmap places them. -/
structure PlacedRings where
  rings : PortRings
  placed : WellPlaced rings

/-- The port as netmap sees it: `registered` while its rings stay where they are. `live` are
the grants that were made and not ended, and `grantedAt` the rings at which the grants that
are left were made. -/
structure GrantPort where
  port : VifPort
  registered : Bool
  live : List Grant
  grantedAt : PortRings

inductive PortEvent where
  | reg (flags : UInt32) (onoff : Bool) (call : MapCall)
  | detach
  | realloc (placed : PlacedRings)

def portStep (layout : RingLayout) (s : GrantPort) : PortEvent → Option GrantPort
  | .reg flags onoff call =>
      (xenvifNetmapReg layout s.port flags onoff call).map fun (result : RegResult) =>
        { port := result.port
          registered := onoff && (s.registered || decide (result.error = 0))
          live := s.live ++ result.grants
          grantedAt :=
            if s.port.vif.nmtx.nrRingPgs = 0 then result.port.rings else s.grantedAt }
  | .detach =>
      some
        { s with
          port := (xenvifNetmapDetach s.port).1
          registered := false
          live := s.live.filter fun g => g.ref ∉ (xenvifNetmapDetach s.port).2 }
  | .realloc placed =>
      if s.registered then none else some { s with port := { s.port with rings := placed.rings } }

/-- Every page of the ring and of its buffers has an entry of the descriptor that is a live
grant, and the slot at which a buffer's page starts holds the reference of that entry. -/
structure RingCovered (layout : RingLayout) (lut : UInt32 → Nat) (r : PortRing)
    (domid : UInt16) (gnt : NmGrantRing) (live : List Grant) : Prop where
  ring : ∀ p, HoldsRing layout r.addr r.numDesc p → ∃ i, i ≤ gnt.nrRingPgs.toNat ∧
    (gnt.ringPg i).page = some p ∧ ⟨domid, gnt.ringPg i, gnt.ringRef i⟩ ∈ live
  buffers : ∀ i, i < r.numDesc → ∃ k, k ≤ gnt.nrBufPgs.toNat ∧
    (gnt.bufPg k).page = some (bufPage lut r.ring i) ∧
    ⟨domid, gnt.bufPg k, gnt.bufRef k⟩ ∈ live ∧
    vifgref r.ring i =
      if IsHead (bufPage lut r.ring) i then refPtr (gnt.bufRef k) else 0

/-- The rings `na` are covered by `nmtx` and `nmrx`. -/
def CoveredAt (layout : RingLayout) (s : GrantPort) (na : PortRings) : Prop :=
  RingCovered layout na.lut na.tx s.port.vif.domid s.port.vif.nmtx s.live ∧
    RingCovered layout na.lut na.rx s.port.vif.domid s.port.vif.nmrx s.live

def Covered (layout : RingLayout) (s : GrantPort) : Prop :=
  CoveredAt layout s s.port.rings

/-- Ring `r'` is where `r` is, with buffers on the same pages and the same references. -/
structure SameRing (lut lut' : UInt32 → Nat) (r r' : PortRing) : Prop where
  addr : r'.addr = r.addr
  numDesc : r'.numDesc = r.numDesc
  bufPage : ∀ i, i < r.numDesc → bufPage lut' r'.ring i = bufPage lut r.ring i
  vifgref : ∀ i, i < r.numDesc → vifgref r'.ring i = vifgref r.ring i

def SamePlacement (na na' : PortRings) : Prop :=
  SameRing na.lut na'.lut na.tx na'.tx ∧ SameRing na.lut na'.lut na.rx na'.rx

/-- A registration that maps finds the new arrays without the page of the first buffer; one
that does not map finds the rings where the grants that are left were made; and the rings do
not leave that place in netmap mode. -/
def KeepsPlacement (s : GrantPort) : PortEvent → Prop
  | .reg flags onoff call => flags ≠ 0 → onoff = true →
      (s.port.vif.nmtx.nrRingPgs = 0 →
        BufArrayEmpty s.port.rings.lut s.port.rings.tx call.staleTx ∧
          BufArrayEmpty s.port.rings.lut s.port.rings.rx call.staleRx) ∧
      (s.port.vif.nmtx.nrRingPgs ≠ 0 → SamePlacement s.grantedAt s.port.rings)
  | .detach => True
  | .realloc placed => s.port.netmapOn = true → SamePlacement s.grantedAt placed.rings

theorem SamePlacement.refl (na : PortRings) : SamePlacement na na :=
  ⟨⟨rfl, rfl, fun _ _ => rfl, fun _ _ => rfl⟩, ⟨rfl, rfl, fun _ _ => rfl, fun _ _ => rfl⟩⟩

theorem RingCovered.mono {layout : RingLayout} {lut : UInt32 → Nat} {r : PortRing}
    {domid : UInt16} {gnt : NmGrantRing} {live live' : List Grant}
    (h : RingCovered layout lut r domid gnt live) (hlive : live ⊆ live') :
    RingCovered layout lut r domid gnt live' where
  ring p hp := by
    obtain ⟨i, hi, hpage, hmem⟩ := h.ring p hp
    exact ⟨i, hi, hpage, hlive hmem⟩
  buffers i hi := by
    obtain ⟨k, hk, hpage, hmem, hslot⟩ := h.buffers i hi
    exact ⟨k, hk, hpage, hlive hmem, hslot⟩

theorem RingCovered.moved {layout : RingLayout} {lut lut' : UInt32 → Nat} {r r' : PortRing}
    {domid : UInt16} {gnt : NmGrantRing} {live : List Grant}
    (h : RingCovered layout lut r domid gnt live) (hsame : SameRing lut lut' r r') :
    RingCovered layout lut' r' domid gnt live where
  ring p hp := by
    rw [hsame.addr, hsame.numDesc] at hp
    exact h.ring p hp
  buffers i hi := by
    rw [hsame.numDesc] at hi
    obtain ⟨k, hk, hpage, hmem, hslot⟩ := h.buffers i hi
    refine ⟨k, hk, ?_, hmem, ?_⟩
    · rw [hpage, hsame.bufPage i hi]
    · rw [hsame.vifgref i hi, hslot, if_congr (isHead_congr hsame.bufPage hi) rfl rfl]

theorem exists_ringPage {layout : RingLayout} (hlayout : NetmapLayout layout) {r : PortRing}
    (hdesc : DescInRange r) (haligned : 16 ∣ r.addr) {p : Nat}
    (hp : HoldsRing layout r.addr r.numDesc p) :
    ∃ i, i < ringPageCount layout r.addr r.numDesc ∧ p = virtToPage r.addr + i := by
  obtain ⟨addr, hstart, hend, rfl⟩ := hp
  have hofs := hlayout.aligned
  have hpos := hdesc.1
  refine ⟨virtToPage addr - virtToPage r.addr, ?_, ?_⟩ <;>
    unfold ringPageCount virtToPage RingLayout.slotAddr pageSize at * <;>
    rw [hlayout.slot] at * <;> omega

theorem ringCovered_of_granted {layout : RingLayout} (hlayout : NetmapLayout layout)
    {lut : UInt32 → Nat} {r : PortRing} {domid : UInt16} {granted : GrantedRing}
    (h : GrantedSpec layout lut r.addr r.ring r.numDesc domid granted)
    (hdesc : DescInRange r) (haligned : 16 ∣ r.addr) :
    RingCovered layout lut { r with ring := granted.ring } domid granted.gnt
      granted.grants := by
  have hpages := h.nrRingPgs_toNat (hlayout.ringPageCount_lt hdesc)
  obtain ⟨hpos, hle⟩ := bufPageCount_bounds lut hdesc
  have hbufs := h.nrBufPgs_toNat hpos (by omega)
  have hgrants := h.grants_eq hpos (by omega)
  have hsame : bufPage lut granted.ring = bufPage lut r.ring := by
    funext i
    rw [bufPage, bufAddr, h.bufIdx i]
    rfl
  constructor
  · intro p hp
    obtain ⟨i, hi, rfl⟩ := exists_ringPage hlayout hdesc haligned hp
    refine ⟨i, by omega, by rw [h.ringPg i hi], ?_⟩
    rw [hgrants]
    apply List.mem_append_right
    exact List.mem_map.mpr ⟨i, List.mem_range.mpr (by omega), rfl⟩
  · intro i hi
    -- the entry of the slot's page is that of the last head up to the slot
    obtain ⟨j, hji, hhead, hpage, hself⟩ := exists_head (bufPage lut r.ring) i
    have hj : j < r.numDesc := Nat.lt_of_le_of_lt hji hi
    have hbelow : bufPageCount lut r.ring j < bufPageCount lut r.ring r.numDesc :=
      Nat.count_strict_mono hhead hj
    refine ⟨bufPageCount lut r.ring j, by omega, ?_, ?_, ?_⟩
    · rw [h.bufPg j hj hhead, hsame, hpage]
    · rw [hgrants]
      apply List.mem_append_left
      exact List.mem_map.mpr ⟨_, List.mem_range.mpr (by omega), rfl⟩
    · rw [hsame, h.vifgref i hi]
      split
      · rename_i hhere
        rw [hself hhere]
      · rfl

theorem CoveredAt.moved {layout : RingLayout} {s : GrantPort} {na na' : PortRings}
    (h : CoveredAt layout s na) (hsame : SamePlacement na na') : CoveredAt layout s na' :=
  ⟨h.1.moved hsame.1, h.2.moved hsame.2⟩

/-- The grants that are left cover the rings at which they were made, and in netmap mode
these are the rings in use. -/
structure PortInv (layout : RingLayout) (s : GrantPort) : Prop where
  placed : WellPlaced s.port.rings
  covered : s.port.vif.nmtx.nrRingPgs ≠ 0 → CoveredAt layout s s.grantedAt
  netmapOn : s.port.netmapOn = true →
    s.port.vif.nmtx.nrRingPgs ≠ 0 ∧ SamePlacement s.grantedAt s.port.rings

theorem portInv_mapped {layout : RingLayout} (hlayout : NetmapLayout layout) {s t : GrantPort}
    (hplaced : WellPlaced s.port.rings) (hunmapped : s.port.vif.nmtx.nrRingPgs = 0)
    {call : MapCall} (htxempty : BufArrayEmpty s.port.rings.lut s.port.rings.tx call.staleTx)
    (hrxempty : BufArrayEmpty s.port.rings.lut s.port.rings.rx call.staleRx)
    {mapped : MapResult}
    (hmap : xenvifNetmapMap layout s.port.vif s.port.rings call = some mapped)
    (hvif : t.port.vif = mapped.info) (hrings : t.port.rings = mapped.na)
    (hlive : t.live = s.live ++ mapped.grants) (hat : t.grantedAt = mapped.na) :
    PortInv layout t := by
  obtain ⟨result, tx, rx, hcall, htx, hrx, hresult⟩ :=
    xenvifNetmapMap_spec layout s.port.rings hunmapped htxempty hrxempty
  obtain rfl : mapped = result := Option.some.inj (hmap.symm.trans hcall)
  refine ⟨?_, fun _ => ?_, fun _ => ⟨?_, ?_⟩⟩
  · rw [hrings, hresult]
    exact ⟨hplaced.txDesc, hplaced.rxDesc, hplaced.txAligned, hplaced.rxAligned⟩
  · unfold CoveredAt
    rw [hvif, hat, hlive, hresult]
    constructor
    · apply (ringCovered_of_granted hlayout htx hplaced.txDesc hplaced.txAligned).mono
      intro g hg
      exact List.mem_append_right _ (List.mem_append_left _ hg)
    · apply (ringCovered_of_granted hlayout hrx hplaced.rxDesc hplaced.rxAligned).mono
      intro g hg
      exact List.mem_append_right _ (List.mem_append_right _ hg)
  · rw [hvif, hresult]
    exact htx.mapped (hlayout.ringPageCount_lt hplaced.txDesc)
  · rw [hat, hrings]
    exact SamePlacement.refl _

theorem portInv_reg {layout : RingLayout} (hlayout : NetmapLayout layout) {s t : GrantPort}
    (hinv : PortInv layout s) {flags : UInt32} {onoff : Bool} {call : MapCall}
    (hkeeps : KeepsPlacement s (.reg flags onoff call))
    (hstep : portStep layout s (.reg flags onoff call) = some t) : PortInv layout t := by
  obtain ⟨result, hreg, rfl⟩ := Option.map_eq_some_iff.mp hstep
  rcases xenvifNetmapReg_cases hreg with ⟨_, rfl⟩ | ⟨_, _, rfl⟩ |
    ⟨hflags, honoff, mapped, hdone⟩
  · refine ⟨hinv.placed, fun hmapped => ?_, fun hon => ?_⟩
    · simpa [CoveredAt, hmapped] using hinv.covered hmapped
    · simpa [(hinv.netmapOn hon).1] using hinv.netmapOn hon
  · refine ⟨hinv.placed, fun hmapped => ?_, fun hon => absurd hon Bool.false_ne_true⟩
    simpa [CoveredAt, show s.port.vif.nmtx.nrRingPgs ≠ 0 from hmapped] using
      hinv.covered hmapped
  · obtain ⟨hempty, hplace⟩ := hkeeps hflags honoff
    by_cases hunmapped : s.port.vif.nmtx.nrRingPgs = 0
    · obtain ⟨htxempty, hrxempty⟩ := hempty hunmapped
      exact portInv_mapped hlayout hinv.placed hunmapped htxempty hrxempty hdone.map hdone.vif
        hdone.rings (by rw [hdone.grants]) (by rw [if_pos hunmapped, hdone.rings])
    · have hmap := hdone.map
      rw [xenvifNetmapMap_mapped layout _ _ hunmapped] at hmap
      obtain rfl := Option.some.inj hmap
      refine ⟨hdone.rings ▸ hinv.placed, fun _ => ?_, fun _ => ⟨?_, ?_⟩⟩
      · simpa [CoveredAt, hdone.vif, hdone.grants, hunmapped] using hinv.covered hunmapped
      · rw [hdone.vif]
        exact hunmapped
      · rw [hdone.rings]
        simpa [hunmapped] using hplace hunmapped

theorem portInv_step {layout : RingLayout} (hlayout : NetmapLayout layout) (s : GrantPort)
    (e : PortEvent) (t : GrantPort) (hinv : PortInv layout s) (hkeeps : KeepsPlacement s e)
    (hstep : portStep layout s e = some t) : PortInv layout t := by
  cases e with
  | reg flags onoff call => exact portInv_reg hlayout hinv hkeeps hstep
  | detach =>
      obtain rfl := Option.some.inj hstep
      refine ⟨hinv.placed, fun hmapped => ?_, fun hon => absurd hon Bool.false_ne_true⟩
      exact absurd (xenvifNetmapUnmap_nrRingPgs s.port.vif) hmapped
  | realloc placed =>
      simp only [portStep, Option.ite_none_left_eq_some, Option.some.injEq] at hstep
      obtain ⟨_, rfl⟩ := hstep
      refine ⟨placed.placed, hinv.covered, fun hon => ⟨(hinv.netmapOn hon).1, hkeeps hon⟩⟩

/-- A port before its first registration. -/
structure PortStart (s : GrantPort) : Prop where
  placed : WellPlaced s.port.rings
  unmapped : s.port.vif.nmtx.nrRingPgs = 0
  netmapOff : s.port.netmapOn = false

/-- As long as no registration finds the rings away from the grants that are left, the rings
of a port in netmap mode are covered by grants. -/
theorem rings_covered {layout : RingLayout} (hlayout : NetmapLayout layout) {s t : GrantPort}
    (hstart : PortStart s) {es : List PortEvent}
    (hkeeps : Along (portStep layout) KeepsPlacement s es)
    (hrun : run (portStep layout) s es = some t) (hon : t.port.netmapOn = true) :
    Covered layout t := by
  have hinv : PortInv layout s :=
    ⟨hstart.placed, fun hmapped => absurd hstart.unmapped hmapped,
      fun hmode => absurd (hstart.netmapOff.symm.trans hmode) Bool.false_ne_true⟩
  have hlast := invariant_of_along (portInv_step hlayout) hinv hkeeps hrun
  obtain ⟨hmapped, hplace⟩ := hlast.netmapOn hon
  exact (hlast.covered hmapped).moved hplace

theorem wellPlaced_sample {addr : Nat} (haligned : 16 ∣ addr) :
    WellPlaced (samplePorts addr) where
  txDesc := by constructor <;> simp [samplePorts, samplePort]
  rxDesc := by constructor <;> simp [samplePorts, samplePort]
  txAligned := haligned
  rxAligned := (Nat.dvd_add_right haligned).mpr (by decide)

def samplePlaced (addr : Nat) (haligned : 16 ∣ addr) : PlacedRings where
  rings := samplePorts addr
  placed := wellPlaced_sample haligned

def freshPort : GrantPort where
  port :=
    { vif := unmappedVif
      rings := samplePorts 8192
      netmapOn := false
      vwna := fun _ => ⟨false, false⟩
      allocated := 0
      naPrivate := none }
  registered := false
  live := []
  grantedAt := samplePorts 8192

theorem portStart_fresh : PortStart freshPort where
  placed := wellPlaced_sample (by decide)
  unmapped := rfl
  netmapOff := rfl

theorem bufArrayEmpty_null (lut : UInt32 → Nat) (r : PortRing) :
    BufArrayEmpty lut r nullArrays :=
  (Option.some_ne_none _).symm

theorem keepsPlacement_unmapped {s : GrantPort} (hunmapped : s.port.vif.nmtx.nrRingPgs = 0) :
    KeepsPlacement s (.reg 1 true sampleCall) := by
  intro _ _
  constructor
  · intro _
    exact ⟨bufArrayEmpty_null _ _, bufArrayEmpty_null _ _⟩
  · intro hmapped
    exact absurd hunmapped hmapped

theorem keepsPlacement_off (s : GrantPort) : KeepsPlacement s (.reg 1 false sampleCall) :=
  fun _ honoff => absurd honoff Bool.false_ne_true

theorem keepsPlacement_netmapOff {s : GrantPort} (hoff : s.port.netmapOn = false)
    (placed : PlacedRings) : KeepsPlacement s (.realloc placed) :=
  fun hon => absurd (hoff.symm.trans hon) Bool.false_ne_true

/-- A port that is moved twice, but never while grants are left. -/
def movedBefore : List PortEvent :=
  [.realloc (samplePlaced 65536 (by decide)), .reg 1 true sampleCall, .reg 1 false sampleCall,
    .detach, .realloc (samplePlaced 8192 (by decide)), .reg 1 true sampleCall]

theorem rings_covered_again :
    ∃ t, run (portStep sampleLayout) freshPort movedBefore = some t ∧
      t.port.netmapOn = true ∧ Covered sampleLayout t := by
  obtain ⟨t, hrun⟩ : ∃ t, run (portStep sampleLayout) freshPort movedBefore = some t :=
    ⟨_, rfl⟩
  have hmode : (run (portStep sampleLayout) freshPort movedBefore).all
      (fun t => t.port.netmapOn) = true := rfl
  rw [hrun] at hmode
  refine ⟨t, hrun, hmode, rings_covered sampleLayout_netmap portStart_fresh ?_ hrun hmode⟩
  refine ⟨keepsPlacement_netmapOff rfl _, ?_⟩
  rintro s₁ ⟨rfl⟩
  refine ⟨keepsPlacement_unmapped rfl, fun s₂ _ => ⟨keepsPlacement_off s₂, fun s₃ _ => ?_⟩⟩
  refine ⟨trivial, ?_⟩
  rintro s₄ ⟨rfl⟩
  refine ⟨keepsPlacement_netmapOff rfl _, ?_⟩
  rintro s₅ ⟨rfl⟩
  exact ⟨keepsPlacement_unmapped (xenvifNetmapUnmap_nrRingPgs s₃.port.vif),
    fun _ _ => trivial⟩

/-- A port that is registered, deregistered and registered again at another place. -/
def movedBetween : List PortEvent :=
  [.reg 1 true sampleCall, .reg 1 false sampleCall,
    .realloc (samplePlaced 65536 (by decide)), .reg 1 true sampleCall]

/-- After the move the descriptors still hold the references of the first place, and the new
ring is not granted. -/
theorem rings_covered_fails :
    ¬ ∀ (layout : RingLayout), NetmapLayout layout → ∀ (s t : GrantPort), PortStart s →
      ∀ es : List PortEvent,
      (∀ flags onoff call, .reg flags onoff call ∈ es → ∀ lut r,
        BufArrayEmpty lut r call.staleTx ∧ BufArrayEmpty lut r call.staleRx) →
      run (portStep layout) s es = some t → t.port.netmapOn = true → Covered layout t := by
  intro halways
  obtain ⟨t, hrun⟩ : ∃ t, run (portStep sampleLayout) freshPort movedBetween = some t :=
    ⟨_, rfl⟩
  have hmode : (run (portStep sampleLayout) freshPort movedBetween).all
      (fun t => t.port.netmapOn) = true := rfl
  have hnone : (run (portStep sampleLayout) freshPort movedBetween).all
      (fun t => t.port.rings.tx.addr == 65536 && t.port.rings.tx.numDesc == 4 &&
        t.live.all fun g => g.entry.page != some 16) = true := by
    decide
  rw [hrun] at hmode hnone
  simp only [Option.all_some, Bool.and_eq_true, beq_iff_eq, List.all_eq_true,
    bne_iff_ne] at hmode hnone
  obtain ⟨⟨haddr, hdesc⟩, hnone⟩ := hnone
  have hempty : ∀ flags onoff call, .reg flags onoff call ∈ movedBetween → ∀ lut r,
      BufArrayEmpty lut r call.staleTx ∧ BufArrayEmpty lut r call.staleRx := by
    intro flags onoff call hcall lut r
    have hsample : call = sampleCall := by
      simp only [movedBetween, List.mem_cons, List.not_mem_nil, or_false,
        PortEvent.reg.injEq, reduceCtorEq, false_or] at hcall
      rcases hcall with ⟨_, _, h⟩ | ⟨_, _, h⟩ | ⟨_, _, h⟩ <;> exact h
    rw [hsample]
    exact ⟨bufArrayEmpty_null lut r, bufArrayEmpty_null lut r⟩
  have hcovered := halways sampleLayout sampleLayout_netmap freshPort t portStart_fresh
    movedBetween hempty hrun hmode
  have hholds : HoldsRing sampleLayout t.port.rings.tx.addr t.port.rings.tx.numDesc 16 := by
    rw [haddr, hdesc]
    exact ⟨65536, Nat.le_refl _, by decide, rfl⟩
  obtain ⟨i, _, hpage, hlive⟩ := hcovered.1.ring 16 hholds
  exact hnone _ hlive hpage

end XenNet.GrantCoverage

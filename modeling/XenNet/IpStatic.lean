import XenNet.MacStatic

namespace XenNet.IpStatic

open XenNet.ByteMemory
open XenNet.TransitionSystem
open XenNet.LastWrite
open XenNet.BridgeKernel
open XenNet.RouteTable
open XenNet.MacStatic

abbrev nmBridges : Nat := 4

def ipBdgHash : Nat := 65536

abbrev IpRoutes := Routes nmBridges ipBdgHash

def iphash2 (addr : Nat → UInt8) : UInt32 :=
  let c := (addr 3).toUInt32 <<< 8 ||| (addr 2).toUInt32
  c &&& 65535

theorem toNat_iphash2 (addr : Nat → UInt8) :
    (iphash2 addr).toNat = 2 ^ 8 * (addr 3).toNat + (addr 2).toNat := by
  have hhigh : (addr 3).toNat < 2 ^ 8 := (addr 3).toNat_lt
  have hlow : (addr 2).toNat < 2 ^ 8 := (addr 2).toNat_lt
  have hmask : (65535 : UInt32).toNat = 2 ^ 16 - 1 := rfl
  have hshift : (8 : UInt32).toNat % 32 = 8 := rfl
  have hor : (addr 3).toNat * 2 ^ 8 ||| (addr 2).toNat =
      (addr 3).toNat * 2 ^ 8 + (addr 2).toNat := by
    rw [← Nat.shiftLeft_eq, ← Nat.shiftLeft_add_eq_or_of_lt hlow]
  have hfits : (addr 3).toNat * 2 ^ 8 < 2 ^ 32 := by omega
  rw [iphash2, UInt32.toNat_and, hmask, Nat.and_two_pow_sub_one_eq_mod, UInt32.toNat_or,
    UInt32.toNat_shiftLeft, hshift, UInt8.toNat_toUInt32, UInt8.toNat_toUInt32,
    Nat.shiftLeft_eq, Nat.mod_eq_of_lt hfits, hor]
  omega

theorem iphash2_lt (addr : Nat → UInt8) : (iphash2 addr).toNat < ipBdgHash := by
  have hhigh : (addr 3).toNat < 2 ^ 8 := (addr 3).toNat_lt
  have hlow : (addr 2).toNat < 2 ^ 8 := (addr 2).toNat_lt
  rw [toNat_iphash2, ipBdgHash]
  omega

def iphashIndex (addr : Nat → UInt8) : Fin ipBdgHash :=
  ⟨(iphash2 addr).toNat, iphash2_lt addr⟩

theorem iphashIndex_eq_iff {addr addr' : Nat → UInt8} :
    iphashIndex addr = iphashIndex addr' ↔ addr 2 = addr' 2 ∧ addr 3 = addr' 3 := by
  have hlow : (addr 2).toNat < 2 ^ 8 := (addr 2).toNat_lt
  have hlow' : (addr' 2).toNat < 2 ^ 8 := (addr' 2).toNat_lt
  rw [iphashIndex, iphashIndex, Fin.mk.injEq, toNat_iphash2, toNat_iphash2, ← UInt8.toNat_inj,
    ← UInt8.toNat_inj]
  omega

def etherType (buf : Nat → UInt8) : Nat :=
  2 ^ 8 * (buf 12).toNat + (buf 13).toNat

/-- `saddr` and `daddr`, for a frame that has them. -/
def ipAddrs (buf : Nat → UInt8) : Option ((Nat → UInt8) × (Nat → UInt8)) :=
  if etherType buf = 0x0800 then some (pointer buf 26, pointer buf 30)
  else if etherType buf = 0x86dd then some (pointer buf 22, pointer buf 38)
  else none

/-- `lookup3`, from the destination found first. -/
def lookup3From (api : BdgApi) (rt : IpRoutes) (dst : UInt32) (buf : Nat → UInt8) : UInt32 :=
  let ctl := (rt 0).ctl.toUInt32
  if dst ≠ api.nmBdgNoport then dst
  else
    match ipAddrs buf with
    | some (saddr, daddr) =>
        let dst := ((rt 0).ht (iphashIndex saddr)).ports.toUInt32
        if dst = ctl then ((rt 0).ht (iphashIndex daddr)).ports.toUInt32 else dst
    | none => dst

def lookup3 (api : BdgApi) (mac : MacRoutes) (rt : IpRoutes) (buf : Nat → UInt8) :
    LookupCall (MacRoutes × IpRoutes) :=
  let first := lookup2 mac buf
  { dst := lookup3From api rt first.dst buf, dstRing := 0, rt := (first.rt, rt) }

/-- `lookup3` compiled without `MAC_LOOKUP_FIRST`: the destination found first is the control
port. -/
def lookup3IpOnly (api : BdgApi) (rt : IpRoutes) (buf : Nat → UInt8) : LookupCall IpRoutes :=
  let ctl := (rt 0).ctl.toUInt32
  { dst := lookup3From api rt ctl buf, dstRing := 0, rt := rt }

def bdgaddif3 (r : NmRoute ipBdgHash) (s : Nat → UInt8) (dst : UInt32) : NmRoute ipBdgHash :=
  let sh := iphashIndex s
  let ipSrc := le32 s &&& 0xffffffff
  putRoute r sh ipSrc.toUInt64 dst

def rtInit (api : BdgApi) (r : NmRoute ipBdgHash) (ctl : UInt32) : NmRoute ipBdgHash where
  ctl := api.nmBdgNoport.toUInt64
  ht := fillPorts r.ht ctl.toUInt64

/-- `bdgctl` of the module is that of these operations. -/
def ipStatic (api : BdgApi) : RouteModule ipBdgHash where
  reg := fun r bdgPort => { rtInit api r bdgPort with ctl := bdgPort.toUInt64 }
  addif := bdgaddif3
  addrLen := 4

theorem rtInit_ports (api : BdgApi) (r : NmRoute ipBdgHash) (ctl : UInt32)
    (j : Fin ipBdgHash) : ((rtInit api r ctl).ht j).ports.toUInt32 = ctl := by
  simp only [rtInit, fillPorts_eq]
  exact UInt32.toUInt32_toUInt64 ctl

abbrev ipStep (api : BdgApi) : IpRoutes → BdgIoctl → Option IpRoutes :=
  bdgctlStep (ipStatic api)

def ipStaticInit : IpRoutes := fun _ => zeroRoute ipBdgHash

/-- What a request writes as the port of a bucket. -/
def portsWrite (j : Fin ipBdgHash) (io : BdgIoctl) : Option UInt32 :=
  match io.cmd with
  | .reg => some io.breq.bdgPort
  | .addif => if iphashIndex io.breq.addrPtr = j then some io.breq.nrDst else none
  | .list | .info => none

theorem routeStep_ports (api : BdgApi) (r : NmRoute ipBdgHash) (io : BdgIoctl)
    (j : Fin ipBdgHash) :
    ((routeStep (ipStatic api) r io).ht j).ports.toUInt32 =
      (portsWrite j io).getD (r.ht j).ports.toUInt32 := by
  unfold routeStep portsWrite
  cases io.cmd with
  | reg => exact rtInit_ports api r io.breq.bdgPort j
  | addif =>
      simp only [ipStatic, bdgaddif3, putRoute_ports]
      split <;> rfl
  | list => rfl
  | info => rfl

theorem ports_run (api : BdgApi) {rt rt' : IpRoutes} {ios : List BdgIoctl}
    (hrun : run (ipStep api) rt ios = some rt') (k : Fin nmBridges) (j : Fin ipBdgHash) :
    ((rt' k).ht j).ports.toUInt32 =
      (lastWrite (portsWrite j) (bridgeRequests k.val ios)).getD ((rt k).ht j).ports.toUInt32 :=
  read_run (ipStatic api) (fun r => (r.ht j).ports.toUInt32) (portsWrite j)
    (fun r io => routeStep_ports api r io j) hrun k

/-- The port that the requests for a bridge leave in a bucket. -/
def entryPort (addr : Nat → UInt8) (ios : List BdgIoctl) : UInt32 :=
  (lastWrite (portsWrite (iphashIndex addr)) ios).getD 0

def ctlPort (ios : List BdgIoctl) : UInt32 :=
  ((lastWrite regRequest ios).map Bdgreq.bdgPort).getD 0

/-- The port that they give a frame for which the destination `dst` was found first. -/
def ipRoute (api : BdgApi) (dst : UInt32) (ios : List BdgIoctl) (buf : Nat → UInt8) : UInt32 :=
  if dst ≠ api.nmBdgNoport then dst
  else
    match ipAddrs buf with
    | some (saddr, daddr) =>
        if entryPort saddr ios = ctlPort ios then entryPort daddr ios else entryPort saddr ios
    | none => dst

theorem lookup3_dst (api : BdgApi) (mac : MacRoutes) {ios : List BdgIoctl} {rt : IpRoutes}
    (hrun : run (ipStep api) ipStaticInit ios = some rt) (buf : Nat → UInt8) :
    (lookup3 api mac rt buf).dst =
      ipRoute api (lookup2 mac buf).dst (bridgeRequests 0 ios) buf := by
  have hports : ∀ addr, ((rt 0).ht (iphashIndex addr)).ports.toUInt32 =
      entryPort addr (bridgeRequests 0 ios) :=
    fun addr => ports_run api hrun 0 (iphashIndex addr)
  have hctl : (rt 0).ctl.toUInt32 = ctlPort (bridgeRequests 0 ios) :=
    ctl_run (ipStatic api) (fun _ _ => rfl) (fun _ _ _ => rfl) hrun 0
  simp only [lookup3, lookup3From, ipRoute, hports, hctl]

/-- The entries that decide the frame, if it has network addresses, hold a port with `P`. -/
def IpDecides (P : UInt32 → Prop) (buf : Nat → UInt8) (ios : List BdgIoctl) : Prop :=
  ∀ saddr daddr, ipAddrs buf = some (saddr, daddr) →
    (entryPort saddr ios = ctlPort ios → P (entryPort daddr ios)) ∧
      (entryPort saddr ios ≠ ctlPort ios → P (entryPort saddr ios))

theorem ipDecides_iff {P : UInt32 → Prop} {buf : Nat → UInt8} {ios : List BdgIoctl}
    {saddr daddr : Nat → UInt8} (haddrs : ipAddrs buf = some (saddr, daddr)) :
    IpDecides P buf ios ↔
      P (if entryPort saddr ios = ctlPort ios then entryPort daddr ios
        else entryPort saddr ios) := by
  rw [apply_ite P, ite_prop_iff_and]
  constructor
  · intro hdecides
    exact hdecides saddr daddr haddrs
  · intro hboth saddr' daddr' haddrs'
    obtain ⟨rfl, rfl⟩ := Prod.mk.inj (Option.some.inj (haddrs.symm.trans haddrs'))
    exact hboth

instance (P : UInt32 → Prop) [DecidablePred P] (buf : Nat → UInt8) (ios : List BdgIoctl) :
    Decidable (IpDecides P buf ios) :=
  match haddrs : ipAddrs buf with
  | some _ => decidable_of_iff _ (ipDecides_iff haddrs).symm
  | none => isTrue fun _ _ hsome => absurd (haddrs.symm.trans hsome) (Option.some_ne_none _).symm

theorem ipRoute_iff (api : BdgApi) {P : UInt32 → Prop} (hnoport : P api.nmBdgNoport)
    (buf : Nat → UInt8) (ios : List BdgIoctl) :
    P (ipRoute api api.nmBdgNoport ios buf) ↔ IpDecides P buf ios := by
  rw [ipRoute, if_neg (not_not_intro rfl)]
  cases haddrs : ipAddrs buf with
  | none => simp [IpDecides, haddrs, hnoport]
  | some addrs => exact (ipDecides_iff haddrs).symm

def isAddress (a addr : Nat → UInt8) : Bool :=
  bytes addr 0 4 == bytes a 0 4

/-- The addresses are of one /16. -/
def SameNet (a addr : Nat → UInt8) : Prop :=
  addr 0 = a 0 ∧ addr 1 = a 1

instance (a addr : Nat → UInt8) : Decidable (SameNet a addr) :=
  inferInstanceAs (Decidable (_ ∧ _))

theorem iphashIndex_eq_iff_isAddress {a addr : Nat → UInt8} (hnet : SameNet a addr) :
    iphashIndex addr = iphashIndex a ↔ isAddress a addr = true := by
  rw [iphashIndex_eq_iff, isAddress, beq_iff_eq, bytes_eq_iff]
  constructor
  · rintro ⟨h2, h3⟩ k hk
    rw [Nat.zero_add]
    match k, hk with
    | 0, _ => exact hnet.1
    | 1, _ => exact hnet.2
    | 2, _ => exact h2
    | 3, _ => exact h3
  · intro hbytes
    exact ⟨hbytes 2 (by omega), hbytes 3 (by omega)⟩

def inIpBucket (a addr : Nat → UInt8) : Bool :=
  iphashIndex addr == iphashIndex a

theorem lastRoute_inIpBucket {a : Nat → UInt8} {adds : List BdgIoctl}
    (hnet : ∀ io ∈ adds, SameNet a io.breq.addrPtr) :
    lastRoute (inIpBucket a) adds = lastRoute (isAddress a) adds := by
  unfold lastRoute
  refine congrArg _ (lastWrite_congr fun io hio => ?_)
  have hsame : inIpBucket a io.breq.addrPtr = isAddress a io.breq.addrPtr := by
    rw [Bool.eq_iff_iff, ← iphashIndex_eq_iff_isAddress (hnet io hio)]
    exact beq_iff_eq
  simp only [addifRequest, hsame]

theorem lastWrite_ports_adds (a : Nat → UInt8) {adds : List BdgIoctl}
    (hadd : ∀ io ∈ adds, io.cmd = .addif) :
    lastWrite (portsWrite (iphashIndex a)) adds = lastRoute (inIpBucket a) adds := by
  rw [lastRoute, ← lastWrite_map]
  apply lastWrite_congr
  intro io hio
  simp only [portsWrite, addifRequest, inIpBucket, hadd io hio, beq_iff_eq, true_and]
  split <;> rfl

/-- The port of the source, unless it has none or the control port; then the port of the
destination. -/
def staticPort (c : UInt32) (src dst : Option UInt32) : UInt32 :=
  match src with
  | some p => if p = c then dst.getD c else p
  | none => dst.getD c

section AfterReg

variable (api : BdgApi) {rt rt' : IpRoutes} {reg : BdgIoctl} {adds : List BdgIoctl}

theorem bridgeRequests_reg (hregBridge : onBridge 0 reg = true) :
    bridgeRequests 0 (reg :: adds) = reg :: bridgeRequests 0 adds :=
  List.filter_cons_of_pos hregBridge

theorem bridgeRequests_adds (hadd : ∀ io ∈ adds, io.cmd = .addif) :
    ∀ io ∈ bridgeRequests 0 adds, io.cmd = .addif :=
  fun io hio => hadd io (List.mem_filter.mp hio).1

theorem ports_after_reg (hreg : reg.cmd = .reg) (hregBridge : onBridge 0 reg = true)
    (hadd : ∀ io ∈ adds, io.cmd = .addif)
    (hrun : run (ipStep api) rt (reg :: adds) = some rt') (a : Nat → UInt8) :
    ((rt' 0).ht (iphashIndex a)).ports.toUInt32 =
      (lastRoute (inIpBucket a) (bridgeRequests 0 adds)).getD reg.breq.bdgPort := by
  have hread := ports_run api hrun 0 (iphashIndex a)
  change _ = (lastWrite _ (bridgeRequests 0 (reg :: adds))).getD _ at hread
  have hwrite : portsWrite (iphashIndex a) reg = some reg.breq.bdgPort := by
    simp only [portsWrite, hreg]
  rw [hread, bridgeRequests_reg hregBridge, lastWrite_cons, hwrite,
    lastWrite_ports_adds a (bridgeRequests_adds hadd)]
  cases lastRoute (inIpBucket a) (bridgeRequests 0 adds) <;> rfl

theorem ctl_after_reg (hreg : reg.cmd = .reg) (hregBridge : onBridge 0 reg = true)
    (hadd : ∀ io ∈ adds, io.cmd = .addif)
    (hrun : run (ipStep api) rt (reg :: adds) = some rt') :
    (rt' 0).ctl.toUInt32 = reg.breq.bdgPort := by
  have hread := ctl_run (ipStatic api) (fun _ _ => rfl) (fun _ _ _ => rfl) hrun 0
  change _ = ((lastWrite _ (bridgeRequests 0 (reg :: adds))).map _).getD _ at hread
  have hnone : lastWrite regRequest (bridgeRequests 0 adds) = none := by
    apply lastWrite_eq_none_iff.mpr
    intro io hio
    simp [regRequest, bridgeRequests_adds hadd io hio]
  rw [hread, bridgeRequests_reg hregBridge, lastWrite_cons, hnone, regRequest, if_pos hreg]
  rfl

theorem lookup3From_after_reg (hreg : reg.cmd = .reg) (hregBridge : onBridge 0 reg = true)
    (hadd : ∀ io ∈ adds, io.cmd = .addif)
    (hrun : run (ipStep api) rt (reg :: adds) = some rt') (buf : Nat → UInt8) :
    lookup3From api rt' api.nmBdgNoport buf =
      match ipAddrs buf with
      | some (saddr, daddr) =>
          staticPort reg.breq.bdgPort (lastRoute (inIpBucket saddr) (bridgeRequests 0 adds))
            (lastRoute (inIpBucket daddr) (bridgeRequests 0 adds))
      | none => api.nmBdgNoport := by
  simp only [lookup3From, ports_after_reg api hreg hregBridge hadd hrun,
    ctl_after_reg api hreg hregBridge hadd hrun]
  rw [if_neg fun hne => hne rfl]
  cases ipAddrs buf with
  | none => rfl
  | some addrs =>
      dsimp only [staticPort]
      cases lastRoute (inIpBucket addrs.1) (bridgeRequests 0 adds) with
      | none => exact if_pos rfl
      | some p => rfl

end AfterReg

/-- Routing is exact within a /16. -/
theorem lookup3_static (api : BdgApi) (mac : MacRoutes) {rt rt' : IpRoutes} {reg : BdgIoctl}
    {adds : List BdgIoctl} (hreg : reg.cmd = .reg) (hregBridge : onBridge 0 reg = true)
    (hadd : ∀ io ∈ adds, io.cmd = .addif) (haddBridge : ∀ io ∈ adds, onBridge 0 io = true)
    (hrun : run (ipStep api) rt (reg :: adds) = some rt') {buf : Nat → UInt8}
    (hip : etherType buf = 0x0800)
    (hnet : ∀ io ∈ adds, SameNet (pointer buf 26) io.breq.addrPtr)
    (hdst : SameNet (pointer buf 26) (pointer buf 30))
    (hmac : (lookup2 mac buf).dst = api.nmBdgNoport) :
    lookup3 api mac rt' buf =
      { dst := staticPort reg.breq.bdgPort (lastRoute (isAddress (pointer buf 26)) adds)
          (lastRoute (isAddress (pointer buf 30)) adds)
        dstRing := 0
        rt := (mac, rt') } := by
  have hall : bridgeRequests 0 adds = adds := List.filter_eq_self.mpr haddBridge
  have hnet' : ∀ io ∈ adds, SameNet (pointer buf 30) io.breq.addrPtr := by
    intro io hio
    exact ⟨(hnet io hio).1.trans hdst.1.symm, (hnet io hio).2.trans hdst.2.symm⟩
  have haddrs : ipAddrs buf = some (pointer buf 26, pointer buf 30) := if_pos hip
  have hport := lookup3From_after_reg api hreg hregBridge hadd hrun buf
  simp only [haddrs, hall, lastRoute_inIpBucket hnet, lastRoute_inIpBucket hnet'] at hport
  rw [lookup3, hmac, hport]
  rfl

def regBridge (bdgIdx c : UInt32) : BdgIoctl where
  cmd := .reg
  breq := { addr := Vector.replicate 6 0, bdgPort := c, bdgIdx := bdgIdx, nrDst := 0, nrArg1 := 0 }

/-- An IPv4 frame between the hosts `10.0.0.src` and `10.0.0.dst`. -/
def ipFrame (src dst : UInt8) : Nat → UInt8 :=
  ofList ([0xff, 0xff, 0xff, 0xff, 0xff, 0xff, 2, 0, 0, 0, 0, 0, 0x08, 0x00] ++
    [0x45, 0, 0, 20, 0, 0, 0, 0, 64, 17, 0, 0, 10, 0, 0, src, 10, 0, 0, dst]) 0

def hostRoute (bdgIdx : UInt32) (host : UInt8) (nrDst : UInt32) : BdgIoctl :=
  addRoute bdgIdx #v[10, 0, 0, host, 0, 0] nrDst

theorem lookup3_static_two_hosts :
    ∃ rt, run (ipStep netmapBdg) ipStaticInit
        [regBridge 0 1, hostRoute 0 7 1, hostRoute 0 8 4] = some rt ∧
      (lookup3 netmapBdg (macStaticInit netmapBdg) rt (ipFrame 7 8)).dst = 4 := by
  obtain ⟨rt, hrun⟩ : ∃ rt, run (ipStep netmapBdg) ipStaticInit
    [regBridge 0 1, hostRoute 0 7 1, hostRoute 0 8 4] = some rt := ⟨_, rfl⟩
  have hmac := lookup2_dst netmapBdg
    (show run macStep (macStaticInit netmapBdg) [] = some (macStaticInit netmapBdg) from rfl)
    (ipFrame 7 8)
  have hip : etherType (ipFrame 7 8) = 0x0800 := by decide
  have hcall := lookup3_static netmapBdg (macStaticInit netmapBdg) rfl (by decide) (by decide)
    (by decide) hrun hip (by decide) (by decide) (hmac.trans (by decide))
  refine ⟨rt, hrun, ?_⟩
  rw [hcall]
  rfl

end XenNet.IpStatic

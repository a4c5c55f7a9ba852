import Mathlib.Data.List.DropRight
import XenNet.BdgfnLibrary
import XenNet.FindCursor

namespace XenNet.RouteListing

open XenNet.ByteMemory
open XenNet.TransitionSystem
open XenNet.LastWrite
open XenNet.FindCursor
open XenNet.BridgeKernel
open XenNet.RouteTable
open XenNet.MacStatic
open XenNet.IpStatic
open XenNet.TableBounds
open XenNet.BdgfnLibrary

section Loop

variable {bridges buckets : Nat}

/-- Byte `k` of an address in a table. -/
def entryByte (addr : UInt64) (k : Nat) : UInt8 :=
  (addr >>> UInt64.ofNat (8 * k)).toUInt8

/-- `breq` after `bdglist` has found bucket `j`. -/
def report (len : Nat) (r : NmRoute buckets) (breq : Bdgreq) (j : Fin buckets) : Bdgreq :=
  { breq with
    addr := Vector.ofFn fun k =>
      if k.val < len then entryByte (r.ht j).addr k.val else breq.addr.get k
    bdgPort := (r.ht j).ports.toUInt32
    nrArg1 := UInt32.ofNat j.val }

def occupied (r : NmRoute buckets) (j : Fin buckets) : Bool :=
  (r.ht j).addr != 0

theorem bdglist_eq (len : Nat) (r : NmRoute buckets) {xiter : UInt32} (breq : Bdgreq)
    (hxiter : xiter.toNat < 2 ^ 31) :
    bdglist len r xiter breq =
      match findFrom (occupied r) xiter.toNat with
      | some j => some (0, report len r breq j)
      | none => some (2, breq) :=
  if_pos hxiter

theorem addr_report (len : Nat) (r : NmRoute buckets) (breq : Bdgreq) (j : Fin buckets)
    (k : Fin 6) :
    (report len r breq j).addr.get k =
      if k.val < len then entryByte (r.ht j).addr k.val else breq.addr.get k := by
  change (Vector.ofFn _)[k.val] = _
  rw [Vector.getElem_ofFn]

theorem report_nextEntry (len : Nat) (r : NmRoute buckets) (breq : Bdgreq)
    (j j' : Fin buckets) :
    report len r (nextEntry (report len r breq j)) j' = report len r breq j' := by
  have hfn : (fun k : Fin 6 => if k.val < len then entryByte (r.ht j').addr k.val
      else (nextEntry (report len r breq j)).addr.get k) =
        fun k => if k.val < len then entryByte (r.ht j').addr k.val else breq.addr.get k := by
    funext k
    split
    · rfl
    · rename_i hbehind
      exact (addr_report len r breq j k).trans (if_neg hbehind)
  rw [report, hfn]
  rfl

theorem nrArg1_nextEntry (hbuckets : buckets < 2 ^ 31) (len : Nat) (r : NmRoute buckets)
    (breq : Bdgreq) (j : Fin buckets) :
    (nextEntry (report len r breq j)).nrArg1.toNat = j.val + 1 := by
  have hj : j.val < buckets := j.isLt
  change (UInt32.ofNat j.val + 1).toNat = j.val + 1
  rw [UInt32.toNat_add, UInt32.toNat_ofNat']
  simp only [UInt32.reduceToNat]
  omega

variable (ops : RouteModule buckets)

theorem ioctl_list (rt : Routes bridges buckets) {k : Fin bridges} {breq : Bdgreq}
    (hidx : bridgeIndex bridges breq.bdgIdx = some k) (hxiter : breq.nrArg1.toNat < 2 ^ 31) :
    ioctl ops false rt { cmd := .list, breq := breq } =
      match findFrom (occupied (rt k)) breq.nrArg1.toNat with
      | some j => some { ret := 0, breq := report ops.addrLen (rt k) breq j, rt := rt }
      | none => some { ret := 2, breq := breq, rt := rt } := by
  have hlist := bdglist_eq ops.addrLen (rt k) breq hxiter
  simp only [ioctl, bdgctl, hidx, Option.bind_eq_bind, Option.bind_some, hlist]
  cases findFrom (occupied (rt k)) breq.nrArg1.toNat <;> rfl

/-- The loop shows the occupied buckets from the cursor on. -/
theorem listLoop_eq (hbuckets : buckets < 2 ^ 31) {rt : Routes bridges buckets}
    {k : Fin bridges} {fuel : Nat} {breq : Bdgreq}
    (hidx : bridgeIndex bridges breq.bdgIdx = some k) (hpos : breq.nrArg1.toNat ≤ buckets)
    (hfuel : (remaining (occupied (rt k)) breq.nrArg1.toNat).length < fuel) :
    ∃ last, listLoop ops false fuel rt breq =
      some { ret := 2, breq := last, rt := rt,
             listed := (remaining (occupied (rt k)) breq.nrArg1.toNat).map
               (report ops.addrLen (rt k) breq) } := by
  induction fuel generalizing breq with
  | zero => exact absurd hfuel (Nat.not_lt_zero _)
  | succ fuel ih =>
      have hioctl := ioctl_list ops rt hidx (by omega : breq.nrArg1.toNat < 2 ^ 31)
      unfold listLoop
      cases hfind : findFrom (occupied (rt k)) breq.nrArg1.toNat with
      | none =>
          rw [hfind] at hioctl
          rw [remaining_of_findFrom_none _ hfind]
          refine ⟨breq, ?_⟩
          rw [hioctl]
          rfl
      | some j =>
          have hj : j.val < buckets := j.isLt
          have hnext := nrArg1_nextEntry hbuckets ops.addrLen (rt k) breq j
          have hrest := remaining_of_findFrom_some _ hfind
          rw [hrest, List.length_cons] at hfuel
          obtain ⟨last, hloop⟩ := @ih (nextEntry (report ops.addrLen (rt k) breq j)) hidx
            (by rw [hnext]; omega) (by rw [hnext]; omega)
          rw [hnext, funext (report_nextEntry ops.addrLen (rt k) breq j)] at hloop
          rw [hfind] at hioctl
          refine ⟨last, ?_⟩
          rw [hioctl, hrest, List.map_cons]
          change (do
            let rest ← listLoop ops false fuel rt (nextEntry (report ops.addrLen (rt k) breq j))
            return { rest with listed := report ops.addrLen (rt k) breq j :: rest.listed }) = _
          rw [hloop]
          rfl

/-- The request that `bdglistif` makes. -/
def listIoctl (breq : Bdgreq) : BdgIoctl where
  cmd := .list
  breq := breq

theorem bdgfnDo_list (hbuckets : buckets < 2 ^ 31) (rt : Routes bridges buckets)
    {k : Fin bridges} {fuel : Nat} {breq : Bdgreq}
    (hidx : bridgeIndex bridges breq.bdgIdx = some k) (hfuel : buckets < fuel) :
    ∃ call, bdgfnDo ops false fuel rt (listIoctl breq) = some call ∧ call.ret = 0 ∧
      call.rt = rt ∧
      call.listed = (remaining (occupied (rt k)) 0).map (report ops.addrLen (rt k) breq) := by
  have hlength := length_remaining_le (occupied (rt k)) 0
  obtain ⟨last, hloop⟩ := @listLoop_eq bridges buckets ops hbuckets rt k fuel
    { breq with nrArg1 := 0 } hidx (Nat.zero_le buckets) (hlength.trans_lt hfuel)
  refine ⟨⟨⟨0, last, rt⟩, _⟩, ?_, rfl, rfl, rfl⟩
  simp only [bdgfnDo, listIoctl, hloop]
  rfl

theorem pairwise_listed (hbuckets : buckets < 2 ^ 31) (len : Nat) (r : NmRoute buckets)
    (breq : Bdgreq) :
    ((remaining (occupied r) 0).map (report len r breq)).Pairwise
      fun v w => v.nrArg1.toNat < w.nrArg1.toNat := by
  have hnrArg1 : ∀ j, (report len r breq j).nrArg1.toNat = j.val := by
    intro j
    have hj := j.isLt
    exact UInt32.toNat_ofNat_of_lt' (by simp only [UInt32.size]; omega)
  rw [List.pairwise_map]
  refine (pairwise_remaining (occupied r) 0).imp ?_
  intro j j' hlt
  rw [hnrArg1, hnrArg1]
  exact hlt

theorem mem_listed {len : Nat} {r : NmRoute buckets} {breq v : Bdgreq} :
    v ∈ (remaining (occupied r) 0).map (report len r breq) ↔
      ∃ j, (r.ht j).addr ≠ 0 ∧ report len r breq j = v := by
  simp [mem_remaining, occupied]

theorem exists_run_safe {ios : List BdgIoctl} (rt : Routes bridges buckets)
    (hios : ∀ io ∈ ios, SafeRequest bridges io.cmd io.breq) :
    ∃ rt', run (bdgctlStep ops) rt ios = some rt' := by
  have hstep : ∀ (rt : Routes bridges buckets) (io : BdgIoctl), True →
      SafeRequest bridges io.cmd io.breq → ∃ rt', bdgctlStep ops rt io = some rt' ∧ True := by
    intro rt io _ hsafe
    obtain ⟨call, hcall⟩ := Option.isSome_iff_exists.mp ((bdgctl_isSome_iff ops rt io).mpr hsafe)
    exact ⟨call.rt, by rw [bdgctlStep, hcall, Option.map_some], trivial⟩
  obtain ⟨rt', hrun, -⟩ := exists_run_of_forall hstep (s := rt) trivial hios
  exact ⟨rt', hrun⟩

end Loop

section StoredAddress

/-- The first `len` bytes of an address as a number in a table. -/
def storedAddr (len : Nat) (s : Nat → UInt8) : UInt64 :=
  UInt64.ofNat (macValue fun k => if k < len then s k else 0)

theorem macValue_lt (addr : Nat → UInt8) : macValue addr < 2 ^ 48 := by
  rw [← toNat_le64_and, UInt64.toNat_and]
  have hmask : (0xffffffffffff : UInt64).toNat = 2 ^ 48 - 1 := rfl
  rw [hmask, Nat.and_two_pow_sub_one_eq_mod]
  exact Nat.mod_lt _ (by decide)

theorem toNat_storedAddr (len : Nat) (s : Nat → UInt8) :
    (storedAddr len s).toNat = macValue fun k => if k < len then s k else 0 :=
  UInt64.toNat_ofNat_of_lt' ((macValue_lt _).trans (by decide))

theorem entryByte_storedAddr {len k : Nat} (s : Nat → UInt8) (hk : k < len) (hlen : len ≤ 6) :
    entryByte (storedAddr len s) k = s k := by
  have hsix : k < 6 := by omega
  have hshift : (UInt64.ofNat (8 * k)).toNat % 64 = 8 * k := by
    rw [UInt64.toNat_ofNat']
    omega
  rw [entryByte, ← UInt8.toNat_inj, UInt64.toNat_toUInt8, UInt64.toNat_shiftRight, hshift,
    Nat.shiftRight_eq_div_pow, toNat_storedAddr, macValue_div _ hsix, if_pos hk]

theorem storedAddr_eq_zero_iff {len : Nat} (s : Nat → UInt8) (hlen : len ≤ 6) :
    storedAddr len s = 0 ↔ bytes s 0 len = List.replicate len 0 := by
  rw [bytes_eq_replicate_iff]
  constructor
  · intro hzero k hk
    rw [Nat.zero_add, ← entryByte_storedAddr s hk hlen, hzero, entryByte,
      UInt64.zero_shiftRight]
    rfl
  · intro hbytes
    have hall : (fun k => if k < len then s k else 0) = fun _ => (0 : UInt8) := by
      funext k
      split
      · rename_i hk
        rw [← hbytes k hk, Nat.zero_add]
      · rfl
    rw [storedAddr, hall]
    rfl

theorem toNat_le32 (buf : Nat → UInt8) :
    (le32 buf &&& 0xffffffff).toNat = macValue fun k => if k < 4 then buf k else 0 := by
  have hlt := eight_bytes_lt buf
  have hmask : (0xffffffff : UInt32).toNat = 2 ^ 32 - 1 := rfl
  rw [UInt32.toNat_and, hmask, Nat.and_two_pow_sub_one_eq_mod, le32, UInt32.toNat_ofNat']
  change _ = (buf 0).toNat + 2 ^ 8 * (buf 1).toNat + 2 ^ 16 * (buf 2).toNat +
    2 ^ 24 * (buf 3).toNat + 2 ^ 32 * 0 + 2 ^ 40 * 0
  omega

theorem le64_eq_storedAddr (s : Nat → UInt8) : le64 s &&& 0xffffffffffff = storedAddr 6 s := by
  rw [← UInt64.toNat_inj, toNat_le64_and, toNat_storedAddr]
  rfl

theorem le32_eq_storedAddr (s : Nat → UInt8) :
    (le32 s &&& 0xffffffff).toUInt64 = storedAddr 4 s := by
  rw [← UInt64.toNat_inj, UInt32.toNat_toUInt64, toNat_le32, toNat_storedAddr]

end StoredAddress

section Histories

variable {bridges buckets : Nat} {ops : RouteModule buckets}

/-- The request, when it is a `BDGIOCADDIF` for an address in bucket `j`. -/
def bucketRequest (hash : (Nat → UInt8) → Fin buckets) (j : Fin buckets) (io : BdgIoctl) :
    Option Bdgreq :=
  addifRequest (fun addr => hash addr == j) io

theorem bucketRequest_eq_some {hash : (Nat → UInt8) → Fin buckets} {j : Fin buckets}
    {io : BdgIoctl} {req : Bdgreq} :
    bucketRequest hash j io = some req ↔
      io.cmd = .addif ∧ io.breq = req ∧ hash req.addrPtr = j := by
  unfold bucketRequest addifRequest
  rw [Option.ite_none_right_eq_some, Option.some.injEq, beq_iff_eq]
  constructor
  · rintro ⟨⟨hcmd, hhash⟩, rfl⟩
    exact ⟨hcmd, rfl, hhash⟩
  · rintro ⟨hcmd, rfl, hhash⟩
    exact ⟨⟨hcmd, hhash⟩, rfl⟩

/-- A bucket keeps the first `len` bytes of the address of the last route in it. -/
def KeepsAddresses (ops : RouteModule buckets) (hash : (Nat → UInt8) → Fin buckets) : Prop :=
  ops.addrLen ≤ 6 ∧ ∀ r io j, ((routeStep ops r io).ht j).addr =
    ((bucketRequest hash j io).map fun req => storedAddr ops.addrLen req.addrPtr).getD
      (r.ht j).addr

def ZeroAddr (len : Nat) (req : Bdgreq) : Prop :=
  bytes req.addrPtr 0 len = List.replicate len 0

instance (len : Nat) (req : Bdgreq) : Decidable (ZeroAddr len req) :=
  inferInstanceAs (Decidable (_ = _))

variable {hash : (Nat → UInt8) → Fin buckets} {rt rt' : Routes bridges buckets}
variable {ios : List BdgIoctl} {k : Fin bridges} {j : Fin buckets}

theorem addr_run (hkeeps : KeepsAddresses ops hash)
    (hrun : run (bdgctlStep ops) rt ios = some rt') (hempty : ((rt k).ht j).addr = 0) :
    ((rt' k).ht j).addr =
      ((lastWrite (bucketRequest hash j) (bridgeRequests k.val ios)).map fun req =>
        storedAddr ops.addrLen req.addrPtr).getD 0 := by
  rw [← lastWrite_map, ← hempty]
  exact read_run ops (fun r => (r.ht j).addr) _ (fun r io => hkeeps.2 r io j) hrun k

theorem addr_ne_zero_iff (hkeeps : KeepsAddresses ops hash)
    (hrun : run (bdgctlStep ops) rt ios = some rt') (hempty : ((rt k).ht j).addr = 0) :
    ((rt' k).ht j).addr ≠ 0 ↔
      ∃ req, lastWrite (bucketRequest hash j) (bridgeRequests k.val ios) = some req ∧
        ¬ ZeroAddr ops.addrLen req := by
  rw [addr_run hkeeps hrun hempty]
  cases lastWrite (bucketRequest hash j) (bridgeRequests k.val ios) with
  | none => simp
  | some req =>
      have hzero := storedAddr_eq_zero_iff req.addrPtr hkeeps.1
      simp [ZeroAddr, hzero]

theorem addrPtr_get (req : Bdgreq) (i : Fin 6) : req.addrPtr i.val = req.addr.get i := by
  have hi : i.val < req.addr.toList.length := by
    rw [Vector.length_toList]
    exact i.isLt
  rw [Bdgreq.addrPtr, ofList, List.getD_eq_getElem _ _ hi]
  exact Vector.getElem_toList hi

theorem addr_report_last (hkeeps : KeepsAddresses ops hash)
    (hrun : run (bdgctlStep ops) rt ios = some rt') (hempty : ((rt k).ht j).addr = 0)
    {req : Bdgreq}
    (hlast : lastWrite (bucketRequest hash j) (bridgeRequests k.val ios) = some req)
    (breq : Bdgreq) {i : Fin 6} (hi : i.val < ops.addrLen) :
    (report ops.addrLen (rt' k) breq j).addr.get i = req.addr.get i := by
  rw [addr_report, if_pos hi, addr_run hkeeps hrun hempty, hlast, Option.map_some,
    Option.getD_some, entryByte_storedAddr req.addrPtr hi hkeeps.1, addrPtr_get]

end Histories

theorem putRoute_addr {buckets : Nat} (r : NmRoute buckets) (sh : Fin buckets) (addr : UInt64)
    (dst : UInt32) (j : Fin buckets) :
    ((putRoute r sh addr dst).ht j).addr = if sh = j then addr else (r.ht j).addr := by
  rcases eq_or_ne sh j with rfl | hsh
  · simp [putRoute]
  · simp [putRoute, hsh, Function.update_of_ne hsh.symm]

theorem macStatic_keepsAddresses : KeepsAddresses macStatic rthashIndex := by
  refine ⟨Nat.le_refl 6, fun r io j => ?_⟩
  unfold routeStep bucketRequest addifRequest
  cases io.cmd with
  | addif =>
      simp only [macStatic, bdgaddif2, putRoute_addr, le64_eq_storedAddr, true_and, beq_iff_eq]
      split <;> rfl
  | list => rfl
  | info => rfl
  | reg => rfl

theorem ipStatic_keepsAddresses (api : BdgApi) :
    KeepsAddresses (ipStatic api) iphashIndex := by
  refine ⟨show 4 ≤ 6 by decide, fun r io j => ?_⟩
  unfold routeStep bucketRequest addifRequest
  cases io.cmd with
  | addif =>
      simp only [ipStatic, bdgaddif3, putRoute_addr, le32_eq_storedAddr, true_and, beq_iff_eq]
      split <;> rfl
  | list => rfl
  | info => rfl
  | reg => simp [ipStatic, IpStatic.rtInit, fillPorts_eq]

theorem macStaticInit_addr (api : BdgApi) (k : Fin MacStatic.nmBridges) (j : Fin nmBdgHash) :
    ((macStaticInit api k).ht j).addr = 0 := by
  simp only [macStaticInit, MacStatic.rtInit, fillPorts_eq, zeroRoute]

theorem report_macStatic (api : BdgApi) {ios : List BdgIoctl} {rt : MacRoutes}
    (hrun : run macStep (macStaticInit api) ios = some rt) {k : Fin MacStatic.nmBridges}
    {j : Fin nmBdgHash} {req : Bdgreq}
    (hlast : lastWrite (bucketRequest rthashIndex j) (bridgeRequests k.val ios) = some req)
    (breq : Bdgreq) :
    report 6 (rt k) breq j =
      { breq with addr := req.addr, bdgPort := req.nrDst, nrArg1 := UInt32.ofNat j.val } := by
  have haddr : (report 6 (rt k) breq j).addr = req.addr := by
    apply Vector.ext
    intro i hi
    exact addr_report_last macStatic_keepsAddresses hrun (macStaticInit_addr api k j) hlast breq
      (i := ⟨i, hi⟩) hi
  have hport : (report 6 (rt k) breq j).bdgPort = req.nrDst := by
    have hports := read_run macStatic (fun r => (r.ht j).ports.toUInt32)
      (fun io => (bucketRequest rthashIndex j io).map Bdgreq.nrDst)
      (fun r io => MacStatic.routeStep_ports r io j) hrun k
    rw [lastWrite_map, hlast] at hports
    exact hports
  rw [← haddr, ← hport]
  rfl

/-- The list of a bridge of `mac-static.c` comes to an end and shows, in the order of the
buckets, the last request of every bucket where it carries a station. -/
theorem macList_enumerates (api : BdgApi) {ios : List BdgIoctl}
    (hios : ∀ io ∈ ios, SafeRequest MacStatic.nmBridges io.cmd io.breq) {breq : Bdgreq}
    (hidx : breq.bdgIdx.toNat < MacStatic.nmBridges) :
    ∃ rt, run macStep (macStaticInit api) ios = some rt ∧
      ∀ fuel, nmBdgHash < fuel → ∃ call,
        bdgfnDo macStatic false fuel rt (listIoctl breq) = some call ∧ call.ret = 0 ∧
        call.listed.Pairwise (fun v w => v.nrArg1.toNat < w.nrArg1.toNat) ∧
        ∀ v, v ∈ call.listed ↔ ∃ (j : Fin nmBdgHash) (req : Bdgreq),
          lastWrite (bucketRequest rthashIndex j) (bridgeRequests breq.bdgIdx.toNat ios) =
            some req ∧ ¬ ZeroAddr 6 req ∧
          v = { breq with addr := req.addr, bdgPort := req.nrDst,
                          nrArg1 := UInt32.ofNat j.val } := by
  obtain ⟨rt, hrun⟩ := exists_run_safe macStatic (macStaticInit api) hios
  refine ⟨rt, hrun, fun fuel hfuel => ?_⟩
  have hbuckets : nmBdgHash < 2 ^ 31 := by decide
  have hbridge : bridgeIndex MacStatic.nmBridges breq.bdgIdx = some ⟨_, hidx⟩ :=
    bridgeIndex_eq_some.mpr rfl
  obtain ⟨call, hdo, hret, -, hlisted⟩ := bdgfnDo_list macStatic hbuckets rt hbridge hfuel
  refine ⟨call, hdo, hret, ?_, fun v => ?_⟩
  · rw [hlisted]
    exact pairwise_listed hbuckets macStatic.addrLen (rt ⟨_, hidx⟩) breq
  rw [hlisted, mem_listed]
  refine exists_congr fun j => ?_
  rw [addr_ne_zero_iff macStatic_keepsAddresses hrun (macStaticInit_addr api _ j)]
  constructor
  · rintro ⟨⟨req, hlast, hmac⟩, rfl⟩
    exact ⟨req, hlast, hmac, report_macStatic api hrun hlast breq⟩
  · rintro ⟨req, hlast, hmac, rfl⟩
    exact ⟨⟨req, hlast, hmac⟩, report_macStatic api hrun hlast breq⟩

def stationC : Vector UInt8 6 := #v[0x02, 0x00, 0x00, 0x00, 0x00, 0x03]

/-- The second route takes the place of the first, and the third has a bucket of its own. -/
def threeRoutes : List BdgIoctl :=
  [addRoute 0 stationB 5, addRoute 0 stationA 3, addRoute 0 stationC 4]

theorem macList_enumerates_overwritten :
    ∃ rt, run macStep (macStaticInit netmapBdg) threeRoutes = some rt ∧
      ∃ call, bdgfnDo macStatic false 1025 rt (listIoctl (addRoute 0 stationB 0).breq) =
          some call ∧
        call.listed.Pairwise (fun v w => v.nrArg1.toNat < w.nrArg1.toNat) ∧
        (∃ v ∈ call.listed, v.addr = stationA ∧ v.bdgPort = 3) ∧
        (∃ v ∈ call.listed, v.addr = stationC ∧ v.bdgPort = 4) ∧
        ∀ v ∈ call.listed, v.addr ≠ stationB := by
  have hios : ∀ io ∈ threeRoutes, SafeRequest MacStatic.nmBridges io.cmd io.breq := by
    decide
  have hidx : (addRoute 0 stationB 0).breq.bdgIdx.toNat < MacStatic.nmBridges := by
    decide
  obtain ⟨rt, hrun, hlist⟩ := macList_enumerates netmapBdg hios hidx
  obtain ⟨call, hdo, -, hsorted, hmem⟩ := hlist 1025 (by decide)
  have hlastA : lastWrite
      (bucketRequest rthashIndex (rthashIndex (addRoute 0 stationA 3).breq.addrPtr))
      (bridgeRequests 0 threeRoutes) = some (addRoute 0 stationA 3).breq := by
    decide
  have hlastC : lastWrite
      (bucketRequest rthashIndex (rthashIndex (addRoute 0 stationC 4).breq.addrPtr))
      (bridgeRequests 0 threeRoutes) = some (addRoute 0 stationC 4).breq := by
    decide
  have hsame : rthashIndex (addRoute 0 stationB 5).breq.addrPtr =
      rthashIndex (addRoute 0 stationA 3).breq.addrPtr := by
    decide
  refine ⟨rt, hrun, call, hdo, hsorted, ⟨_, (hmem _).mpr ⟨_, _, hlastA, by decide, rfl⟩, rfl, rfl⟩,
    ⟨_, (hmem _).mpr ⟨_, _, hlastC, by decide, rfl⟩, rfl, rfl⟩, ?_⟩
  rintro v hv haddr
  obtain ⟨j, req, hlast, -, rfl⟩ := (hmem v).mp hv
  obtain ⟨io, hio, hrequest⟩ := exists_of_lastWrite hlast
  obtain ⟨-, rfl, rfl⟩ := bucketRequest_eq_some.mp hrequest
  change io ∈ threeRoutes at hio
  simp only [threeRoutes, List.mem_cons, List.not_mem_nil, or_false] at hio
  rcases hio with rfl | rfl | rfl
  · rw [hsame] at hlast
    exact absurd (hlast.symm.trans hlastA) (by decide)
  · exact absurd haddr (by decide)
  · exact absurd haddr (by decide)

/-- The requests after the last registration. -/
def afterLastReg (ios : List BdgIoctl) : List BdgIoctl :=
  ios.rtakeWhile fun io => io.cmd != .reg

/-- The pair is that of a route which was made after the last registration. -/
def InForce (ios : List BdgIoctl) (v : Bdgreq) : Prop :=
  ∃ io ∈ afterLastReg ios, io.cmd = .addif ∧ isAddress io.breq.addrPtr v.addrPtr = true ∧
    v.bdgPort = io.breq.nrDst

/-- Every bucket in which the last route is for an address other than zero has a route that was
made after the last registration. -/
def NoneStale (ios : List BdgIoctl) : Prop :=
  ∀ j req, lastWrite (bucketRequest iphashIndex j) ios = some req → ¬ ZeroAddr 4 req →
    (lastWrite (bucketRequest iphashIndex j) (afterLastReg ios)).isSome

theorem exists_append_afterLastReg (ios : List BdgIoctl) :
    ∃ before, ios = before ++ afterLastReg ios := by
  obtain ⟨before, hsplit⟩ := List.rtakeWhile_suffix (fun io : BdgIoctl => io.cmd != .reg) ios
  exact ⟨before, hsplit.symm⟩

theorem cmd_of_mem_afterLastReg {ios : List BdgIoctl} {io : BdgIoctl}
    (hio : io ∈ afterLastReg ios) : io.cmd ≠ .reg := by
  simpa using List.mem_rtakeWhile_imp hio

theorem last_of_afterLastReg {ios : List BdgIoctl} {j : Fin ipBdgHash} {req : Bdgreq}
    (hafter : lastWrite (bucketRequest iphashIndex j) (afterLastReg ios) = some req) :
    lastWrite (bucketRequest iphashIndex j) ios = some req ∧
      lastWrite (portsWrite j) ios = some req.nrDst := by
  obtain ⟨before, hsplit⟩ := exists_append_afterLastReg ios
  have hports : lastWrite (portsWrite j) (afterLastReg ios) = some req.nrDst := by
    have hsame : lastWrite (portsWrite j) (afterLastReg ios) =
        lastWrite (fun io => (bucketRequest iphashIndex j io).map Bdgreq.nrDst)
          (afterLastReg ios) := by
      apply lastWrite_congr
      intro io hio
      have hcmd := cmd_of_mem_afterLastReg hio
      unfold portsWrite bucketRequest addifRequest
      cases hio : io.cmd with
      | reg => contradiction
      | addif =>
          simp only [true_and, beq_iff_eq]
          split <;> rfl
      | list => rfl
      | info => rfl
    rw [hsame, lastWrite_map, hafter]
    rfl
  constructor
  · rw [hsplit, lastWrite_append, hafter, Option.some_or]
  · rw [hsplit, lastWrite_append, hports, Option.some_or]

theorem ipStaticInit_addr (k : Fin IpStatic.nmBridges) (j : Fin ipBdgHash) :
    ((ipStaticInit k).ht j).addr = 0 := rfl

section Stale

variable (api : BdgApi) {ios : List BdgIoctl} {rt : IpRoutes} {k : Fin IpStatic.nmBridges}
variable {j : Fin ipBdgHash} {req : Bdgreq}

theorem isAddress_report (hrun : run (ipStep api) ipStaticInit ios = some rt)
    (hlast : lastWrite (bucketRequest iphashIndex j) (bridgeRequests k.val ios) = some req)
    (breq : Bdgreq) : isAddress req.addrPtr (report 4 (rt k) breq j).addrPtr = true := by
  rw [isAddress, beq_iff_eq]
  apply bytes_congr
  intro i hi
  have hsix : i < 6 := by omega
  rw [Nat.zero_add]
  have hbyte := addr_report_last (ipStatic_keepsAddresses api) hrun (ipStaticInit_addr k j) hlast
    breq (i := ⟨i, hsix⟩) hi
  rw [← addrPtr_get, ← addrPtr_get] at hbyte
  exact hbyte

theorem iphashIndex_of_isAddress {a addr : Nat → UInt8} (haddr : isAddress a addr = true) :
    iphashIndex addr = iphashIndex a := by
  have hbytes := bytes_eq_iff.mp (beq_iff_eq.mp haddr)
  exact iphashIndex_eq_iff.mpr ⟨by simpa using hbytes 2 (by omega),
    by simpa using hbytes 3 (by omega)⟩

theorem inForce_report_iff (hrun : run (ipStep api) ipStaticInit ios = some rt)
    (hlast : lastWrite (bucketRequest iphashIndex j) (bridgeRequests k.val ios) = some req)
    (breq : Bdgreq) :
    InForce (bridgeRequests k.val ios) (report 4 (rt k) breq j) ↔
      (lastWrite (bucketRequest iphashIndex j)
        (afterLastReg (bridgeRequests k.val ios))).isSome := by
  have haddr := isAddress_report api hrun hlast breq
  constructor
  · rintro ⟨io, hio, hcmd, hsame, -⟩
    have hj : iphashIndex io.breq.addrPtr = j := by
      have hreq : iphashIndex req.addrPtr = j := by
        obtain ⟨io', -, hio'⟩ := exists_of_lastWrite hlast
        exact (bucketRequest_eq_some.mp hio').2.2
      rw [← iphashIndex_of_isAddress hsame, iphashIndex_of_isAddress haddr, hreq]
    rw [← Option.ne_none_iff_isSome]
    intro hnone
    have hwrite := lastWrite_eq_none_iff.mp hnone io hio
    rw [bucketRequest_eq_some.mpr ⟨hcmd, rfl, hj⟩] at hwrite
    contradiction
  · intro hsome
    obtain ⟨req', hafter⟩ := Option.isSome_iff_exists.mp hsome
    obtain ⟨hlast', hports⟩ := last_of_afterLastReg hafter
    obtain rfl : req = req' := Option.some.inj (hlast.symm.trans hlast')
    obtain ⟨io, hio, hrequest⟩ := exists_of_lastWrite hafter
    obtain ⟨hcmd, rfl, -⟩ := bucketRequest_eq_some.mp hrequest
    refine ⟨io, hio, hcmd, haddr, ?_⟩
    have hport := ports_run api hrun k j
    rw [hports] at hport
    exact hport

theorem mem_ipListed (hrun : run (ipStep api) ipStaticInit ios = some rt) {breq v : Bdgreq} :
    v ∈ (remaining (occupied (rt k)) 0).map (report 4 (rt k) breq) ↔
      ∃ j req, lastWrite (bucketRequest iphashIndex j) (bridgeRequests k.val ios) = some req ∧
        ¬ ZeroAddr 4 req ∧ report 4 (rt k) breq j = v := by
  rw [mem_listed]
  refine exists_congr fun j => ?_
  rw [addr_ne_zero_iff (ipStatic_keepsAddresses api) hrun (ipStaticInit_addr k j)]
  constructor
  · rintro ⟨⟨req, hlast, hip⟩, hv⟩
    exact ⟨req, hlast, hip, hv⟩
  · rintro ⟨req, hlast, hip, hv⟩
    exact ⟨⟨req, hlast, hip⟩, hv⟩

end Stale

/-- The list of a bridge of `ip-static.c` comes to an end, and it shows only routes in force
exactly when no bucket holds an address from before the last registration: `rt_init` leaves
the addresses in the table. -/
theorem ipList_inForce_iff (api : BdgApi) {ios : List BdgIoctl}
    (hios : ∀ io ∈ ios, SafeRequest IpStatic.nmBridges io.cmd io.breq) {breq : Bdgreq}
    (hidx : breq.bdgIdx.toNat < IpStatic.nmBridges) :
    ∃ rt, run (ipStep api) ipStaticInit ios = some rt ∧
      ∀ fuel, ipBdgHash < fuel → ∃ call,
        bdgfnDo (ipStatic api) false fuel rt (listIoctl breq) = some call ∧
        ((∀ v ∈ call.listed, InForce (bridgeRequests breq.bdgIdx.toNat ios) v) ↔
          NoneStale (bridgeRequests breq.bdgIdx.toNat ios)) := by
  obtain ⟨rt, hrun⟩ := exists_run_safe (ipStatic api) ipStaticInit hios
  refine ⟨rt, hrun, fun fuel hfuel => ?_⟩
  have hbuckets : ipBdgHash < 2 ^ 31 := by decide
  have hbridge : bridgeIndex IpStatic.nmBridges breq.bdgIdx = some ⟨_, hidx⟩ :=
    bridgeIndex_eq_some.mpr rfl
  obtain ⟨call, hdo, -, -, hlisted⟩ := bdgfnDo_list (ipStatic api) hbuckets rt hbridge hfuel
  refine ⟨call, hdo, ?_⟩
  rw [hlisted]
  constructor
  · intro hall j req hlast hip
    have hshow := hall _ ((mem_ipListed api hrun).mpr ⟨j, req, hlast, hip, rfl⟩)
    exact (inForce_report_iff api hrun (k := ⟨_, hidx⟩) hlast breq).mp hshow
  · intro hnone v hv
    obtain ⟨j, req, hlast, hip, rfl⟩ := (mem_ipListed api hrun).mp hv
    exact (inForce_report_iff api hrun (k := ⟨_, hidx⟩) hlast breq).mpr (hnone j req hlast hip)

/-- The route for one host is made again after the registration. -/
def renewedRoutes : List BdgIoctl :=
  [hostRoute 0 7 3, regBridge 0 1, hostRoute 0 8 5, hostRoute 0 7 4]

theorem ipList_inForce_overwritten :
    ∃ rt, run (ipStep netmapBdg) ipStaticInit renewedRoutes = some rt ∧
      ∃ call, bdgfnDo (ipStatic netmapBdg) false 65537 rt (listIoctl (regBridge 0 1).breq) =
          some call ∧
        ∀ v ∈ call.listed, InForce renewedRoutes v := by
  have hios : ∀ io ∈ renewedRoutes, SafeRequest IpStatic.nmBridges io.cmd io.breq := by
    decide
  have hidx : (regBridge 0 1).breq.bdgIdx.toNat < IpStatic.nmBridges := by
    decide
  obtain ⟨rt, hrun, hlist⟩ := ipList_inForce_iff netmapBdg hios hidx
  obtain ⟨call, hdo, hiff⟩ := hlist 65537 (by decide)
  have hnone : NoneStale renewedRoutes := by
    intro j req hlast _
    have hafter : afterLastReg renewedRoutes = [hostRoute 0 8 5, hostRoute 0 7 4] := by
      decide
    rw [hafter, ← Option.ne_none_iff_isSome]
    intro hstale
    have hsplit : renewedRoutes =
        [hostRoute 0 7 3, regBridge 0 1] ++ [hostRoute 0 8 5, hostRoute 0 7 4] := rfl
    rw [hsplit, lastWrite_append, hstale, Option.none_or] at hlast
    obtain ⟨io, hio, hrequest⟩ := exists_of_lastWrite hlast
    obtain ⟨hcmd, rfl, rfl⟩ := bucketRequest_eq_some.mp hrequest
    simp only [List.mem_cons, List.not_mem_nil, or_false] at hio
    rcases hio with rfl | rfl
    · have hrenewed : bucketRequest iphashIndex (iphashIndex (hostRoute 0 7 3).breq.addrPtr)
          (hostRoute 0 7 4) = some (hostRoute 0 7 4).breq :=
        bucketRequest_eq_some.mpr ⟨rfl, rfl, rfl⟩
      have hwrite := lastWrite_eq_none_iff.mp hstale (hostRoute 0 7 4)
        (List.mem_cons_of_mem _ (List.mem_singleton_self _))
      exact Option.some_ne_none _ (hrenewed.symm.trans hwrite)
    · exact absurd hcmd (by decide)
  exact ⟨rt, hrun, call, hdo, hiff.mpr hnone⟩

/-- After a second registration the list still shows the host, now with the control port. -/
theorem ipList_inForce_fails :
    ∃ rt, run (ipStep netmapBdg) ipStaticInit [hostRoute 0 7 4, regBridge 0 1] = some rt ∧
      ∃ call, bdgfnDo (ipStatic netmapBdg) false 65537 rt (listIoctl (regBridge 0 1).breq) =
          some call ∧
        ∃ v ∈ call.listed, isAddress (hostRoute 0 7 4).breq.addrPtr v.addrPtr = true ∧
          v.bdgPort = 1 ∧ ¬ InForce [hostRoute 0 7 4, regBridge 0 1] v := by
  have hios : ∀ io ∈ [hostRoute 0 7 4, regBridge 0 1],
      SafeRequest IpStatic.nmBridges io.cmd io.breq := by
    decide
  obtain ⟨rt, hrun⟩ := exists_run_safe (ipStatic netmapBdg) ipStaticInit hios
  have hbridge : bridgeIndex IpStatic.nmBridges (regBridge 0 1).breq.bdgIdx = some 0 := by
    decide
  obtain ⟨call, hdo, -, -, hlisted⟩ := bdgfnDo_list (ipStatic netmapBdg)
    (show ipBdgHash < 2 ^ 31 by decide) rt hbridge (show ipBdgHash < 65537 by decide)
  have hlast : lastWrite (bucketRequest iphashIndex (iphashIndex (hostRoute 0 7 4).breq.addrPtr))
      (bridgeRequests 0 [hostRoute 0 7 4, regBridge 0 1]) = some (hostRoute 0 7 4).breq := by
    decide
  have hport := ports_run netmapBdg hrun 0 (iphashIndex (hostRoute 0 7 4).breq.addrPtr)
  refine ⟨rt, hrun, call, hdo, report 4 (rt 0) (regBridge 0 1).breq _, ?_,
    isAddress_report netmapBdg hrun (k := 0) hlast _, hport.trans (by decide), ?_⟩
  · rw [hlisted]
    exact (mem_ipListed netmapBdg hrun).mpr ⟨_, _, hlast, by decide, rfl⟩
  · have hforce := inForce_report_iff netmapBdg hrun (k := 0) hlast (regBridge 0 1).breq
    exact fun hin => absurd (hforce.mp hin) (by decide)

end XenNet.RouteListing

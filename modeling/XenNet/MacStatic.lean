import XenNet.RouteTable

namespace XenNet.MacStatic

open XenNet.ByteMemory
open XenNet.TransitionSystem
open XenNet.LastWrite
open XenNet.BridgeKernel
open XenNet.RouteTable

abbrev nmBridges : Nat := 8

abbrev MacRoutes := Routes nmBridges nmBdgHash

def lookup2 (rt : MacRoutes) (buf : Nat → UInt8) : LookupCall MacRoutes :=
  let dst := (rt 0).ctl.toUInt32
  let dst :=
    if buf 6 &&& 1 = 0 then
      let sh := rthashIndex (pointer buf 6)
      ((rt 0).ht sh).ports.toUInt32
    else dst
  { dst := dst, dstRing := 0, rt := rt }

def bdgaddif2 (r : NmRoute nmBdgHash) (s : Nat → UInt8) (dst : UInt32) : NmRoute nmBdgHash :=
  let sh := rthashIndex s
  let smac := le64 s &&& 0xffffffffffff
  putRoute r sh smac dst

/-- `bdgctl` of the module is that of these operations. -/
def macStatic : RouteModule nmBdgHash where
  reg := fun r bdgPort => { r with ctl := bdgPort.toUInt64 }
  addif := bdgaddif2
  addrLen := 6

abbrev macStep : MacRoutes → BdgIoctl → Option MacRoutes := bdgctlStep macStatic

def rtInit (api : BdgApi) (r : NmRoute nmBdgHash) : NmRoute nmBdgHash where
  ctl := api.nmBdgNoport.toUInt64
  ht := fillPorts r.ht api.nmBdgNoport.toUInt64

def macStaticInit (api : BdgApi) : MacRoutes :=
  fun _ => rtInit api (zeroRoute nmBdgHash)

def isStation (s addr : Nat → UInt8) : Bool :=
  bytes addr 0 6 == bytes s 0 6

def inBucket (s addr : Nat → UInt8) : Bool :=
  rthashIndex addr == rthashIndex s

theorem inBucket_of_isStation {s addr : Nat → UInt8} (hstation : isStation s addr = true) :
    inBucket s addr = true :=
  beq_iff_eq.mpr (rthashIndex_congr (beq_iff_eq.mp hstation))

theorem routeStep_ports (r : NmRoute nmBdgHash) (io : BdgIoctl) (j : Fin nmBdgHash) :
    ((routeStep macStatic r io).ht j).ports.toUInt32 =
      ((addifRequest (fun addr => rthashIndex addr == j) io).map Bdgreq.nrDst).getD
        (r.ht j).ports.toUInt32 := by
  unfold routeStep addifRequest
  cases io.cmd with
  | addif =>
      simp only [macStatic, bdgaddif2, putRoute_ports, true_and, beq_iff_eq]
      split <;> rfl
  | list => rfl
  | info => rfl
  | reg => rfl

/-- The port that the requests for a bridge give a frame. -/
def macRoute (api : BdgApi) (ios : List BdgIoctl) (buf : Nat → UInt8) : UInt32 :=
  if buf 6 &&& 1 = 0 then
    (lastRoute (inBucket (pointer buf 6)) ios).getD api.nmBdgNoport
  else
    ((lastWrite regRequest ios).map Bdgreq.bdgPort).getD api.nmBdgNoport

theorem lookup2_dst (api : BdgApi) {ios : List BdgIoctl} {rt : MacRoutes}
    (hrun : run macStep (macStaticInit api) ios = some rt) (buf : Nat → UInt8) :
    (lookup2 rt buf).dst = macRoute api (bridgeRequests 0 ios) buf := by
  have hports := read_run macStatic
    (fun r => (r.ht (rthashIndex (pointer buf 6))).ports.toUInt32)
    (fun io => (addifRequest (inBucket (pointer buf 6)) io).map Bdgreq.nrDst)
    (fun r io => routeStep_ports r io (rthashIndex (pointer buf 6))) hrun 0
  have hctl := ctl_run macStatic (fun _ _ => rfl) (fun _ _ _ => rfl) hrun 0
  rw [lastWrite_map] at hports
  simp only [macStaticInit, rtInit, fillPorts_eq, UInt32.toUInt32_toUInt64] at hports hctl
  simp only [lookup2, hports, hctl, macRoute, lastRoute]
  rfl

/-- The request that decides the frame, if there is one, is for a port with `P`. -/
def MacDecides (P : UInt32 → Prop) (buf : Nat → UInt8) (ios : List BdgIoctl) : Prop :=
  (buf 6 &&& 1 = 0 → ∀ breq, lastWrite (addifRequest (inBucket (pointer buf 6))) ios =
    some breq → P breq.nrDst) ∧
  (buf 6 &&& 1 ≠ 0 → ∀ breq, lastWrite regRequest ios = some breq → P breq.bdgPort)

instance (P : UInt32 → Prop) [DecidablePred P] (buf : Nat → UInt8) (ios : List BdgIoctl) :
    Decidable (MacDecides P buf ios) :=
  inferInstanceAs (Decidable ((_ → ∀ breq ∈ lastWrite (addifRequest _) ios, P breq.nrDst) ∧
    (_ → ∀ breq ∈ lastWrite regRequest ios, P breq.bdgPort)))

theorem macRoute_iff (api : BdgApi) {P : UInt32 → Prop} (hnoport : P api.nmBdgNoport)
    (buf : Nat → UInt8) (ios : List BdgIoctl) :
    P (macRoute api ios buf) ↔ MacDecides P buf ios := by
  unfold macRoute MacDecides lastRoute
  split
  · rename_i hunicast
    cases lastWrite (addifRequest (inBucket (pointer buf 6))) ios with
    | none => simp [hunicast, hnoport]
    | some breq => simp [hunicast]
  · rename_i hmulticast
    cases lastWrite regRequest ios with
    | none => simp [hmulticast, hnoport]
    | some breq => simp [hmulticast]

theorem addifRequest_isStation (s : Nat → UInt8) (io : BdgIoctl) :
    addifRequest (isStation s) io =
      (addifRequest (inBucket s) io).filter (fun breq => isStation s breq.addrPtr) := by
  unfold addifRequest
  by_cases hstation : isStation s io.breq.addrPtr = true
  · have hbucket := inBucket_of_isStation hstation
    simp only [hstation, hbucket, and_true]
    split
    · rw [Option.filter_some, if_pos hstation]
    · rfl
  · rw [if_neg fun hboth => hstation hboth.2]
    split
    · rw [Option.filter_some, if_neg hstation]
    · rfl

/-- The last request in the bucket of the station is for the station itself, or for the
port of the last one that is (the station has none: `NM_BDG_NOPORT`). -/
def Undisturbed (api : BdgApi) (s : Nat → UInt8) (ios : List BdgIoctl) : Prop :=
  ∀ breq, lastWrite (addifRequest (inBucket s)) ios = some breq →
    isStation s breq.addrPtr = true ∨
      breq.nrDst = (lastRoute (isStation s) ios).getD api.nmBdgNoport

instance (api : BdgApi) (s : Nat → UInt8) (ios : List BdgIoctl) :
    Decidable (Undisturbed api s ios) :=
  inferInstanceAs (Decidable (∀ breq ∈ lastWrite (addifRequest (inBucket s)) ios, _))

theorem lastRoute_inBucket_iff (api : BdgApi) (s : Nat → UInt8) (ios : List BdgIoctl) :
    (lastRoute (inBucket s) ios).getD api.nmBdgNoport =
        (lastRoute (isStation s) ios).getD api.nmBdgNoport ↔ Undisturbed api s ios := by
  have hfilter : lastWrite (addifRequest (isStation s)) ios =
      lastWrite (fun io => (addifRequest (inBucket s) io).filter
        (fun breq => isStation s breq.addrPtr)) ios :=
    lastWrite_congr fun io _ => addifRequest_isStation s io
  unfold Undisturbed
  cases hlast : lastWrite (addifRequest (inBucket s)) ios with
  | none =>
      have hnone : lastWrite (addifRequest (isStation s)) ios = none := by
        rw [hfilter]
        rw [lastWrite_eq_none_iff] at hlast ⊢
        intro io hio
        rw [hlast io hio]
        rfl
      simp [lastRoute, hlast, hnone]
  | some breq =>
      have hbucket : lastRoute (inBucket s) ios = some breq.nrDst := by
        rw [lastRoute, hlast]
        rfl
      rw [hbucket]
      constructor
      · rintro heq breq' ⟨rfl⟩
        exact Or.inr heq
      · intro hundisturbed
        rcases hundisturbed breq rfl with hstation | heq
        · rw [lastRoute, hfilter, lastWrite_filter_value hlast hstation]
          rfl
        · exact heq

/-- The table stands for a map from addresses to ports exactly as long as no request for
another address comes after the last one in the same bucket. -/
theorem lookup2_static_iff (api : BdgApi) {ios : List BdgIoctl} {rt : MacRoutes}
    (hrun : run macStep (macStaticInit api) ios = some rt) {buf : Nat → UInt8}
    (hunicast : buf 6 &&& 1 = 0) :
    (lookup2 rt buf).dst =
        (lastRoute (isStation (pointer buf 6)) (bridgeRequests 0 ios)).getD api.nmBdgNoport ↔
      Undisturbed api (pointer buf 6) (bridgeRequests 0 ios) := by
  rw [lookup2_dst api hrun buf, macRoute, if_pos hunicast]
  exact lastRoute_inBucket_iff api (pointer buf 6) (bridgeRequests 0 ios)

def addRoute (bdgIdx : UInt32) (addr : Vector UInt8 6) (nrDst : UInt32) : BdgIoctl where
  cmd := .addif
  breq := { addr := addr, bdgPort := 0, bdgIdx := bdgIdx, nrDst := nrDst, nrArg1 := 0 }

def stationA : Vector UInt8 6 := #v[0x02, 0x00, 0x00, 0x00, 0x00, 0x00]

/-- A station in the bucket of the other one. -/
def stationB : Vector UInt8 6 := #v[0x02, 0x00, 0x00, 0x00, 0x15, 0x04]

def frameFrom (station : Vector UInt8 6) : Nat → UInt8 :=
  ofList ([0xff, 0xff, 0xff, 0xff, 0xff, 0xff] ++ station.toList) 0

theorem lookup2_static_two_routes :
    ∃ rt, run macStep (macStaticInit netmapBdg)
        [addRoute 0 stationB 5, addRoute 0 stationA 3] = some rt ∧
      (lookup2 rt (frameFrom stationA)).dst = 3 := by
  obtain ⟨rt, hrun⟩ : ∃ rt, run macStep (macStaticInit netmapBdg)
    [addRoute 0 stationB 5, addRoute 0 stationA 3] = some rt := ⟨_, rfl⟩
  have hunicast : frameFrom stationA 6 &&& 1 = 0 := by decide
  have hdst := (lookup2_static_iff netmapBdg hrun hunicast).mpr (by decide)
  exact ⟨rt, hrun, hdst.trans (by decide)⟩

/-- A route for one station takes over the traffic of the other. -/
theorem lookup2_static_fails :
    (¬ ∀ ios rt, run macStep (macStaticInit netmapBdg) ios = some rt →
      ∀ buf, buf 6 &&& 1 = 0 →
        (lookup2 rt buf).dst =
          (lastRoute (isStation (pointer buf 6)) (bridgeRequests 0 ios)).getD
            netmapBdg.nmBdgNoport) ∧
    ∃ rt, run macStep (macStaticInit netmapBdg)
        [addRoute 0 stationA 3, addRoute 0 stationB 5] = some rt ∧
      (lookup2 rt (frameFrom stationA)).dst = 5 := by
  obtain ⟨rt, hrun⟩ : ∃ rt, run macStep (macStaticInit netmapBdg)
    [addRoute 0 stationA 3, addRoute 0 stationB 5] = some rt := ⟨_, rfl⟩
  have hfive : (lookup2 rt (frameFrom stationA)).dst = 5 :=
    (lookup2_dst netmapBdg hrun (frameFrom stationA)).trans (by decide)
  refine ⟨fun halways => ?_, rt, hrun, hfive⟩
  have hthree := halways _ rt hrun (frameFrom stationA) (by decide)
  rw [hfive] at hthree
  exact absurd hthree (by decide)

end XenNet.MacStatic

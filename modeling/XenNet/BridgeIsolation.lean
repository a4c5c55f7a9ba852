import XenNet.IpStatic

namespace XenNet.BridgeIsolation

open XenNet.ByteMemory
open XenNet.TransitionSystem
open XenNet.LastWrite
open XenNet.BridgeKernel
open XenNet.RouteTable
open XenNet.MacStatic
open XenNet.IpStatic

/-- `port` is the port that a frame on bridge `k` gets after a history of requests; `own`
says that a request is a route for that very frame. -/
structure Isolated (port : List BdgIoctl → Option UInt32) (own : BdgIoctl → Prop)
    (k : Nat) (bridges : Nat) (ios : List BdgIoctl) : Prop where
  others : ∀ j, j < bridges → j ≠ k → port (ios.filter fun io => !onBridge j io) = port ios
  own : ∀ io, (bridgeRequests k ios).getLast? = some io → own io →
    port ios = some io.breq.nrDst

theorem bridgeRequests_without (j : Nat) (ios : List BdgIoctl) :
    bridgeRequests 0 (ios.filter fun io => !onBridge j io) =
      if j = 0 then [] else bridgeRequests 0 ios := by
  rw [bridgeRequests, bridgeRequests, List.filter_filter]
  split
  · rename_i hj
    subst hj
    apply List.filter_eq_nil_iff.mpr
    intro io _
    simp
  · rename_i hj
    apply List.filter_congr
    intro io _
    simp only [onBridge, Bool.and_eq_left_iff_imp, beq_iff_eq, Bool.not_eq_true',
      beq_eq_false_iff_ne]
    rintro hzero rfl
    exact hj hzero

theorem isolated_iff (route : List BdgIoctl → UInt32) {port : List BdgIoctl → Option UInt32}
    {own : BdgIoctl → Prop} {k bridges : Nat} {ios : List BdgIoctl} (hbridges : 0 < bridges)
    (hport : ∀ p, port (ios.filter p) = some (route (bridgeRequests 0 (ios.filter p))))
    (hown : k = 0 → ∀ io, (bridgeRequests k ios).getLast? = some io → own io →
      route (bridgeRequests 0 ios) = io.breq.nrDst) :
    Isolated port own k bridges ios ↔
      k = 0 ∨ route (bridgeRequests 0 ios) = route [] ∧
        ∀ io, (bridgeRequests k ios).getLast? = some io → own io →
          io.breq.nrDst = route [] := by
  have hall : port ios = some (route (bridgeRequests 0 ios)) := by
    have htrue := hport fun _ => true
    rwa [List.filter_true] at htrue
  constructor
  · rintro ⟨hothers, hlast⟩
    rcases Nat.eq_zero_or_pos k with hk | hk
    · exact Or.inl hk
    · have hzero := hothers 0 hbridges (Nat.ne_of_lt hk)
      rw [hport, bridgeRequests_without, if_pos rfl, hall, Option.some.injEq] at hzero
      refine Or.inr ⟨hzero.symm, fun io hio hioOwn => ?_⟩
      have heq := hlast io hio hioOwn
      rw [hall, Option.some.injEq] at heq
      rw [← heq, hzero]
  · intro hcond
    constructor
    · intro j _ hjk
      rw [hport, hall, bridgeRequests_without]
      split
      · rcases hcond with hk | ⟨hsame, _⟩
        · omega
        · rw [hsame]
      · rfl
    · intro io hio hioOwn
      rw [hall, Option.some.injEq]
      rcases hcond with hk | ⟨hsame, hlast⟩
      · exact hown hk io hio hioOwn
      · rw [hsame, hlast io hio hioOwn]

def macPort (api : BdgApi) (buf : Nat → UInt8) (ios : List BdgIoctl) : Option UInt32 :=
  (run macStep (macStaticInit api) ios).map fun rt => (lookup2 rt buf).dst

/-- The request is a route for the source of the frame. -/
def MacOwn (buf : Nat → UInt8) (io : BdgIoctl) : Prop :=
  io.cmd = .addif ∧ buf 6 &&& 1 = 0 ∧ isStation (pointer buf 6) io.breq.addrPtr = true

theorem macRoute_nil (api : BdgApi) (buf : Nat → UInt8) :
    macRoute api [] buf = api.nmBdgNoport :=
  ite_self _

theorem mac_isolated_iff (api : BdgApi) {ios : List BdgIoctl} {rt : MacRoutes}
    (hrun : run macStep (macStaticInit api) ios = some rt) (buf : Nat → UInt8) (k : Nat) :
    Isolated (macPort api buf) (MacOwn buf) k MacStatic.nmBridges ios ↔
      k = 0 ∨ MacDecides (· = api.nmBdgNoport) buf (bridgeRequests 0 ios) ∧
        ∀ io, (bridgeRequests k ios).getLast? = some io → MacOwn buf io →
          io.breq.nrDst = api.nmBdgNoport := by
  have hdecides : macRoute api (bridgeRequests 0 ios) buf = api.nmBdgNoport ↔
      MacDecides (· = api.nmBdgNoport) buf (bridgeRequests 0 ios) :=
    macRoute_iff api (P := (· = api.nmBdgNoport)) rfl buf _
  rw [isolated_iff (fun ios => macRoute api ios buf) (Nat.succ_pos 7) ?_ ?_, macRoute_nil,
    hdecides]
  · intro p
    obtain ⟨rt', hrun'⟩ := exists_run_filter macStatic hrun p (macStaticInit api)
    rw [macPort, hrun', Option.map_some, lookup2_dst api hrun']
  · rintro rfl io hio ⟨hcmd, hunicast, hstation⟩
    have hbucket := inBucket_of_isStation hstation
    have hwrite : addifRequest (inBucket (pointer buf 6)) io = some io.breq :=
      if_pos ⟨hcmd, hbucket⟩
    simp only [macRoute, if_pos hunicast, lastRoute, lastWrite_of_getLast? hio hwrite]
    rfl

def ipPort (api : BdgApi) (mac : MacRoutes) (buf : Nat → UInt8) (ios : List BdgIoctl) :
    Option UInt32 :=
  (run (ipStep api) ipStaticInit ios).map fun rt => (lookup3 api mac rt buf).dst

/-- The request is a route for the source of the frame, to another port than the control
port, and `lookup2` leaves the frame to `lookup3`. -/
def IpOwn (api : BdgApi) (dst : UInt32) (buf : Nat → UInt8) (ios : List BdgIoctl)
    (io : BdgIoctl) : Prop :=
  io.cmd = .addif ∧ dst = api.nmBdgNoport ∧ etherType buf = 0x0800 ∧
    isAddress (pointer buf 26) io.breq.addrPtr = true ∧ io.breq.nrDst ≠ ctlPort ios

/-- Where the frame is left to `lookup3`, its port is the `0` of the time before any
request. -/
def IpQuiet (api : BdgApi) (dst : UInt32) (buf : Nat → UInt8) (ios : List BdgIoctl) : Prop :=
  dst = api.nmBdgNoport → IpDecides (· = 0) buf ios

theorem ipRoute_eq_nil_iff (api : BdgApi) (dst : UInt32) (buf : Nat → UInt8)
    (ios : List BdgIoctl) :
    ipRoute api dst ios buf = ipRoute api dst [] buf ↔ IpQuiet api dst buf ios := by
  unfold IpQuiet
  by_cases hdst : dst = api.nmBdgNoport
  · subst hdst
    rw [ipRoute, ipRoute, if_neg (not_not_intro rfl), if_neg (not_not_intro rfl)]
    cases haddrs : ipAddrs buf with
    | none => simp [IpDecides, haddrs]
    | some addrs =>
        have hnil : ∀ addr, entryPort addr [] = 0 := fun _ => rfl
        rw [ipDecides_iff haddrs]
        simp [hnil]
  · rw [ipRoute, ipRoute, if_pos hdst, if_pos hdst]
    simp [hdst]

theorem ip_isolated_iff (api : BdgApi) (mac : MacRoutes) {ios : List BdgIoctl} {rt : IpRoutes}
    (hrun : run (ipStep api) ipStaticInit ios = some rt) (buf : Nat → UInt8) (k : Nat) :
    Isolated (ipPort api mac buf)
        (IpOwn api (lookup2 mac buf).dst buf (bridgeRequests k ios)) k IpStatic.nmBridges ios ↔
      k = 0 ∨ IpQuiet api (lookup2 mac buf).dst buf (bridgeRequests 0 ios) ∧
        ∀ io, (bridgeRequests k ios).getLast? = some io →
          IpOwn api (lookup2 mac buf).dst buf (bridgeRequests k ios) io → io.breq.nrDst = 0 := by
  rw [isolated_iff (fun ios => ipRoute api (lookup2 mac buf).dst ios buf) (Nat.succ_pos 3) ?_ ?_,
    ipRoute_eq_nil_iff]
  · refine or_congr Iff.rfl (and_congr_right fun _ => ?_)
    refine forall_congr' fun io => imp_congr_right fun _ => forall_congr' fun hioOwn => ?_
    have haddrs : ipAddrs buf = some (pointer buf 26, pointer buf 30) := if_pos hioOwn.2.2.1
    have hzero : ipRoute api (lookup2 mac buf).dst [] buf = 0 := by
      rw [ipRoute, if_neg (not_not_intro hioOwn.2.1), haddrs]
      rfl
    rw [hzero]
  · intro p
    obtain ⟨rt', hrun'⟩ := exists_run_filter (ipStatic api) hrun p ipStaticInit
    rw [ipPort, hrun', Option.map_some, lookup3_dst api mac hrun']
  · rintro rfl io hio ⟨hcmd, hdst, hip, haddress, hctl⟩
    have haddrs : ipAddrs buf = some (pointer buf 26, pointer buf 30) := if_pos hip
    have hindex : iphashIndex io.breq.addrPtr = iphashIndex (pointer buf 26) := by
      have hbytes := bytes_eq_iff.mp (beq_iff_eq.mp haddress)
      exact iphashIndex_eq_iff.mpr ⟨hbytes 2 (by omega), hbytes 3 (by omega)⟩
    have hwrite : portsWrite (iphashIndex (pointer buf 26)) io = some io.breq.nrDst := by
      simp only [portsWrite, hcmd, hindex, if_true]
    have hentry : entryPort (pointer buf 26) (bridgeRequests 0 ios) = io.breq.nrDst := by
      rw [entryPort, lastWrite_of_getLast? hio hwrite]
      rfl
    simp only [ipRoute, haddrs, hentry]
    rw [if_neg (not_not_intro hdst), if_neg hctl]

/-- When requests for one bridge leave the frames of the others alone. -/
theorem bridges_isolated_iff (api : BdgApi) (buf : Nat → UInt8) (k : Nat) :
    (∀ ios rt, run macStep (macStaticInit api) ios = some rt →
      (Isolated (macPort api buf) (MacOwn buf) k MacStatic.nmBridges ios ↔
        k = 0 ∨ MacDecides (· = api.nmBdgNoport) buf (bridgeRequests 0 ios) ∧
          ∀ io, (bridgeRequests k ios).getLast? = some io → MacOwn buf io →
            io.breq.nrDst = api.nmBdgNoport)) ∧
    (∀ mac ios rt, run (ipStep api) ipStaticInit ios = some rt →
      (Isolated (ipPort api mac buf)
          (IpOwn api (lookup2 mac buf).dst buf (bridgeRequests k ios)) k IpStatic.nmBridges ios ↔
        k = 0 ∨ IpQuiet api (lookup2 mac buf).dst buf (bridgeRequests 0 ios) ∧
          ∀ io, (bridgeRequests k ios).getLast? = some io →
            IpOwn api (lookup2 mac buf).dst buf (bridgeRequests k ios) io →
              io.breq.nrDst = 0)) := by
  constructor
  · intro ios rt hrun
    exact mac_isolated_iff api hrun buf k
  · intro mac ios rt hrun
    exact ip_isolated_iff api mac hrun buf k

theorem bridges_isolated_two_bridges :
    Isolated (macPort netmapBdg (frameFrom stationA)) (MacOwn (frameFrom stationA)) 0
        MacStatic.nmBridges [addRoute 1 stationA 5, addRoute 0 stationA 3] ∧
      Isolated (ipPort netmapBdg (macStaticInit netmapBdg) (ipFrame 7 8))
        (IpOwn netmapBdg (lookup2 (macStaticInit netmapBdg) (ipFrame 7 8)).dst (ipFrame 7 8)
          (bridgeRequests 0 [hostRoute 1 7 5, hostRoute 0 7 3])) 0
        IpStatic.nmBridges [hostRoute 1 7 5, hostRoute 0 7 3] := by
  constructor
  · exact ((bridges_isolated_iff netmapBdg (frameFrom stationA) 0).1 _ _ rfl).mpr (Or.inl rfl)
  · exact ((bridges_isolated_iff netmapBdg (ipFrame 7 8) 0).2 _ _ _ rfl).mpr (Or.inl rfl)

/-- A route on bridge `0` steers the frames of bridge `1`. -/
theorem bridges_isolated_fails :
    (¬ ∀ ios rt, run macStep (macStaticInit netmapBdg) ios = some rt →
      ∀ buf k, k < MacStatic.nmBridges →
        Isolated (macPort netmapBdg buf) (MacOwn buf) k MacStatic.nmBridges ios) ∧
    ¬ ∀ mac ios rt, run (ipStep netmapBdg) ipStaticInit ios = some rt →
      ∀ buf k, k < IpStatic.nmBridges →
        Isolated (ipPort netmapBdg mac buf)
          (IpOwn netmapBdg (lookup2 mac buf).dst buf (bridgeRequests k ios)) k
          IpStatic.nmBridges ios := by
  constructor
  · intro halways
    have hisolated := halways [addRoute 0 stationA 3] _ rfl (frameFrom stationA) 1 (by decide)
    rcases (mac_isolated_iff netmapBdg rfl (frameFrom stationA) 1).mp hisolated with
      hzero | ⟨hquiet, _⟩
    · exact absurd hzero (by decide)
    · exact absurd (hquiet.1 (by decide) _ rfl) (by decide)
  · intro halways
    have hmac := lookup2_dst netmapBdg
      (show run macStep (macStaticInit netmapBdg) [] = some (macStaticInit netmapBdg) from rfl)
      (ipFrame 7 8)
    have hisolated := halways (macStaticInit netmapBdg) [hostRoute 0 7 3] _ rfl (ipFrame 7 8) 1
      (by decide)
    rcases (ip_isolated_iff netmapBdg _ rfl (ipFrame 7 8) 1).mp hisolated with
      hzero | ⟨hquiet, _⟩
    · exact absurd hzero (by decide)
    · have hport := (hquiet (hmac.trans (by decide)) _ _ (if_pos (by decide))).2 (by decide)
      exact absurd hport (by decide)

end XenNet.BridgeIsolation

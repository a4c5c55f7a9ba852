import XenNet.IpStatic

namespace XenNet.ControlPort

open XenNet.ByteMemory
open XenNet.TransitionSystem
open XenNet.BridgeKernel
open XenNet.RouteTable
open XenNet.MacStatic
open XenNet.IpStatic

/-- The last route in the bucket of the address, if there is one, is to port `c`. -/
def RoutedTo (c : UInt32) (adds : List BdgIoctl) (addr : Nat → UInt8) : Prop :=
  ∀ port, lastRoute (inIpBucket addr) (bridgeRequests 0 adds) = some port → port = c

theorem routedTo_iff {c : UInt32} {adds : List BdgIoctl} {addr : Nat → UInt8} :
    RoutedTo c adds addr ↔
      (lastRoute (inIpBucket addr) (bridgeRequests 0 adds)).getD c = c := by
  unfold RoutedTo
  cases lastRoute (inIpBucket addr) (bridgeRequests 0 adds) with
  | none => simp
  | some port => simp

instance (c : UInt32) (adds : List BdgIoctl) (addr : Nat → UInt8) :
    Decidable (RoutedTo c adds addr) :=
  decidable_of_iff _ routedTo_iff.symm

theorem staticPort_eq_iff {c : UInt32} {src dst : Option UInt32} :
    staticPort c src dst = c ↔ src.getD c = c ∧ dst.getD c = c := by
  cases src with
  | none => simp [staticPort]
  | some port =>
      simp only [staticPort, Option.getD_some]
      split
      · rename_i hctl
        rw [and_iff_right hctl]
      · rename_i hother
        rw [iff_false_left hother]
        exact fun hboth => hother hboth.1

theorem lookup3From_of_ne (api : BdgApi) (rt : IpRoutes) {dst : UInt32}
    (hdst : dst ≠ api.nmBdgNoport) (buf : Nat → UInt8) : lookup3From api rt dst buf = dst :=
  if_pos hdst

section AfterReg

variable (api : BdgApi) {rt rt' : IpRoutes} {reg : BdgIoctl} {adds : List BdgIoctl}

theorem lookup3From_eq_ctl_iff (hreg : reg.cmd = .reg) (hregBridge : onBridge 0 reg = true)
    (hadd : ∀ io ∈ adds, io.cmd = .addif)
    (hrun : run (ipStep api) rt (reg :: adds) = some rt') {buf saddr daddr : Nat → UInt8}
    (haddrs : ipAddrs buf = some (saddr, daddr)) :
    lookup3From api rt' api.nmBdgNoport buf = reg.breq.bdgPort ↔
      RoutedTo reg.breq.bdgPort adds saddr ∧ RoutedTo reg.breq.bdgPort adds daddr := by
  rw [lookup3From_after_reg api hreg hregBridge hadd hrun buf, haddrs, routedTo_iff, routedTo_iff]
  exact staticPort_eq_iff

/-- The variants of `lookup3` agree on the frames that `lookup2` leaves to them when the control
port is `NM_BDG_NOPORT`, and on those that both send to the control port. -/
theorem lookup3_fallback_iff (mac : MacRoutes) (hreg : reg.cmd = .reg)
    (hregBridge : onBridge 0 reg = true) (hadd : ∀ io ∈ adds, io.cmd = .addif)
    (hrun : run (ipStep api) rt (reg :: adds) = some rt') {buf : Nat → UInt8}
    (hmac : (lookup2 mac buf).dst = api.nmBdgNoport) :
    (lookup3 api mac rt' buf).dst = (lookup3IpOnly api rt' buf).dst ↔
      reg.breq.bdgPort = api.nmBdgNoport ∨
        ∃ saddr daddr, ipAddrs buf = some (saddr, daddr) ∧
          RoutedTo reg.breq.bdgPort adds saddr ∧ RoutedTo reg.breq.bdgPort adds daddr := by
  have hctl := ctl_after_reg api hreg hregBridge hadd hrun
  simp only [lookup3, lookup3IpOnly, hmac, hctl]
  by_cases hnoport : reg.breq.bdgPort = api.nmBdgNoport
  · rw [hnoport]
    exact iff_of_true rfl (Or.inl rfl)
  · rw [lookup3From_of_ne api rt' hnoport, or_iff_right hnoport]
    cases haddrs : ipAddrs buf with
    | none =>
        have hmiss : lookup3From api rt' api.nmBdgNoport buf = api.nmBdgNoport := by
          rw [lookup3From_after_reg api hreg hregBridge hadd hrun buf, haddrs]
        rw [hmiss]
        refine iff_of_false (fun heq => hnoport heq.symm) ?_
        rintro ⟨saddr, daddr, hsome, _⟩
        contradiction
    | some addrs =>
        rw [lookup3From_eq_ctl_iff api hreg hregBridge hadd hrun haddrs]
        constructor
        · intro hrouted
          exact ⟨addrs.1, addrs.2, rfl, hrouted⟩
        · rintro ⟨saddr, daddr, hsome, hrouted⟩
          obtain rfl := Option.some.inj hsome
          exact hrouted

end AfterReg

theorem lookup2_init (api : BdgApi) {buf : Nat → UInt8} (hunicast : buf 6 &&& 1 = 0) :
    (lookup2 (macStaticInit api) buf).dst = api.nmBdgNoport := by
  have hnone : run macStep (macStaticInit api) [] = some (macStaticInit api) := rfl
  rw [lookup2_dst api hnone buf, macRoute, if_pos hunicast]
  rfl

theorem lookup3_fallback_two_hosts :
    ∃ rt, run (ipStep netmapBdg) ipStaticInit [regBridge 0 1, hostRoute 0 9 4] = some rt ∧
      (lookup3 netmapBdg (macStaticInit netmapBdg) rt (ipFrame 7 8)).dst =
        (lookup3IpOnly netmapBdg rt (ipFrame 7 8)).dst := by
  obtain ⟨rt, hrun⟩ : ∃ rt, run (ipStep netmapBdg) ipStaticInit
    [regBridge 0 1, hostRoute 0 9 4] = some rt := ⟨_, rfl⟩
  refine ⟨rt, hrun, (lookup3_fallback_iff netmapBdg (macStaticInit netmapBdg) rfl (by decide)
    (by decide) hrun (lookup2_init netmapBdg (by decide))).mpr (Or.inr ?_)⟩
  exact ⟨pointer (ipFrame 7 8) 26, pointer (ipFrame 7 8) 30, rfl, by decide, by decide⟩

/-- A routed frame, and one that has no network addresses: the variant without `lookup2` sends
both to the control port. -/
theorem lookup3_fallback_fails :
    ∃ rt, run (ipStep netmapBdg) ipStaticInit [regBridge 0 1, hostRoute 0 7 4] = some rt ∧
      (lookup2 (macStaticInit netmapBdg) (ipFrame 7 8)).dst = netmapBdg.nmBdgNoport ∧
      (lookup3 netmapBdg (macStaticInit netmapBdg) rt (ipFrame 7 8)).dst = 4 ∧
      (lookup3IpOnly netmapBdg rt (ipFrame 7 8)).dst = 1 ∧
      (lookup2 (macStaticInit netmapBdg) (frameFrom stationA)).dst = netmapBdg.nmBdgNoport ∧
      (lookup3 netmapBdg (macStaticInit netmapBdg) rt (frameFrom stationA)).dst = 255 ∧
      (lookup3IpOnly netmapBdg rt (frameFrom stationA)).dst = 1 := by
  obtain ⟨rt, hrun⟩ : ∃ rt, run (ipStep netmapBdg) ipStaticInit
    [regBridge 0 1, hostRoute 0 7 4] = some rt := ⟨_, rfl⟩
  have hadd : ∀ io ∈ [hostRoute 0 7 4], io.cmd = .addif := by decide
  have hctl : (rt 0).ctl.toUInt32 = 1 := ctl_after_reg netmapBdg rfl rfl hadd hrun
  have hdirect : ∀ buf, (lookup3IpOnly netmapBdg rt buf).dst = 1 := by
    intro buf
    simp only [lookup3IpOnly, hctl]
    exact lookup3From_of_ne netmapBdg rt (by decide) buf
  have hfirst := fun buf => lookup3_dst netmapBdg (macStaticInit netmapBdg) hrun buf
  have hrouted : (lookup2 (macStaticInit netmapBdg) (ipFrame 7 8)).dst = netmapBdg.nmBdgNoport :=
    lookup2_init netmapBdg (by decide)
  have hplain : (lookup2 (macStaticInit netmapBdg) (frameFrom stationA)).dst =
      netmapBdg.nmBdgNoport :=
    lookup2_init netmapBdg (by decide)
  refine ⟨rt, hrun, hrouted, ?_, hdirect _, hplain, ?_, hdirect _⟩
  · rw [hfirst, hrouted]
    decide
  · rw [hfirst, hplain]
    decide

section AfterReg

variable (api : BdgApi) {rt rt' : IpRoutes} {reg : BdgIoctl} {adds : List BdgIoctl}

/-- An IPv6 frame goes to the control port exactly when no route for an IPv4 address is in the
bucket of its source or its destination, except for routes to the control port. -/
theorem lookup3_ipv6_iff (mac : MacRoutes) (hreg : reg.cmd = .reg)
    (hregBridge : onBridge 0 reg = true) (hadd : ∀ io ∈ adds, io.cmd = .addif)
    (hrun : run (ipStep api) rt (reg :: adds) = some rt') {buf : Nat → UInt8}
    (hip6 : etherType buf = 0x86dd) (hmac : (lookup2 mac buf).dst = api.nmBdgNoport) :
    (lookup3 api mac rt' buf).dst = reg.breq.bdgPort ↔
      RoutedTo reg.breq.bdgPort adds (pointer buf 22) ∧
        RoutedTo reg.breq.bdgPort adds (pointer buf 38) := by
  have haddrs : ipAddrs buf = some (pointer buf 22, pointer buf 38) := by
    rw [ipAddrs, if_neg (by omega), if_pos hip6]
  simp only [lookup3, hmac]
  exact lookup3From_eq_ctl_iff api hreg hregBridge hadd hrun haddrs

end AfterReg

/-- An IPv6 frame between two addresses that differ in one byte. -/
def ip6Frame (src dst : UInt8) : Nat → UInt8 :=
  ofList ([0xff, 0xff, 0xff, 0xff, 0xff, 0xff, 2, 0, 0, 0, 0, 0, 0x86, 0xdd] ++
    [0x60, 0, 0, 0, 0, 0, 59, 64] ++ [0xfd, 0, 0, src] ++ List.replicate 12 0 ++
    [0xfd, 0, 0, dst] ++ List.replicate 12 0) 0

theorem lookup3_ipv6_two_hosts :
    ∃ rt, run (ipStep netmapBdg) ipStaticInit [regBridge 0 1, hostRoute 0 9 4] = some rt ∧
      (lookup3 netmapBdg (macStaticInit netmapBdg) rt (ip6Frame 7 8)).dst = 1 := by
  obtain ⟨rt, hrun⟩ : ∃ rt, run (ipStep netmapBdg) ipStaticInit
    [regBridge 0 1, hostRoute 0 9 4] = some rt := ⟨_, rfl⟩
  exact ⟨rt, hrun, (lookup3_ipv6_iff netmapBdg (macStaticInit netmapBdg) rfl (by decide)
    (by decide) hrun (by decide) (lookup2_init netmapBdg (by decide))).mpr
      ⟨by decide, by decide⟩⟩

/-- The route for `10.0.0.7` takes over the frames from `fd00:7::`. -/
theorem lookup3_ipv6_fails :
    ∃ rt, run (ipStep netmapBdg) ipStaticInit [regBridge 0 1, hostRoute 0 7 4] = some rt ∧
      (lookup2 (macStaticInit netmapBdg) (ip6Frame 7 8)).dst = netmapBdg.nmBdgNoport ∧
      (lookup3 netmapBdg (macStaticInit netmapBdg) rt (ip6Frame 7 8)).dst = 4 := by
  obtain ⟨rt, hrun⟩ : ∃ rt, run (ipStep netmapBdg) ipStaticInit
    [regBridge 0 1, hostRoute 0 7 4] = some rt := ⟨_, rfl⟩
  have hmac : (lookup2 (macStaticInit netmapBdg) (ip6Frame 7 8)).dst = netmapBdg.nmBdgNoport :=
    lookup2_init netmapBdg (by decide)
  refine ⟨rt, hrun, hmac, ?_⟩
  rw [lookup3_dst netmapBdg (macStaticInit netmapBdg) hrun, hmac]
  decide

end XenNet.ControlPort

import XenNet.IpStatic

namespace XenNet.LookupRange

open XenNet.TransitionSystem
open XenNet.LastWrite
open XenNet.BridgeKernel
open XenNet.RouteTable
open XenNet.MacStatic
open XenNet.IpStatic

/-- A port, `NM_BDG_BROADCAST` or `NM_BDG_NOPORT`. -/
def ValidDst (api : BdgApi) (dst : UInt32) : Prop :=
  dst.toNat ≤ api.nmBdgMaxports + 1

instance (api : BdgApi) (dst : UInt32) : Decidable (ValidDst api dst) :=
  inferInstanceAs (Decidable (_ ≤ _))

theorem validDst_noport (api : BdgApi) : ValidDst api api.nmBdgNoport :=
  Nat.le_of_eq api.toNat_nmBdgNoport

def ValidRequest (api : BdgApi) (io : BdgIoctl) : Prop :=
  (io.cmd = .reg → ValidDst api io.breq.bdgPort) ∧
    (io.cmd = .addif → ValidDst api io.breq.nrDst)

theorem macDecides_of_valid {api : BdgApi} {ios : List BdgIoctl}
    (hvalid : ∀ io ∈ ios, ValidRequest api io) (buf : Nat → UInt8) :
    MacDecides (ValidDst api) buf ios := by
  constructor
  · rintro _ breq hlast
    obtain ⟨io, hio, hwrite⟩ := exists_of_lastWrite hlast
    obtain ⟨⟨hcmd, _⟩, hbreq⟩ := Option.ite_none_right_eq_some.mp hwrite
    rw [← Option.some.inj hbreq]
    exact (hvalid io hio).2 hcmd
  · rintro _ breq hlast
    obtain ⟨io, hio, hwrite⟩ := exists_of_lastWrite hlast
    obtain ⟨hcmd, hbreq⟩ := Option.ite_none_right_eq_some.mp hwrite
    rw [← Option.some.inj hbreq]
    exact (hvalid io hio).1 hcmd

theorem validDst_entryPort {api : BdgApi} {ios : List BdgIoctl}
    (hvalid : ∀ io ∈ ios, ValidRequest api io) (addr : Nat → UInt8) :
    ValidDst api (entryPort addr ios) := by
  unfold entryPort
  cases hlast : lastWrite (portsWrite (iphashIndex addr)) ios with
  | none => exact Nat.zero_le _
  | some p =>
      obtain ⟨io, hio, hwrite⟩ := exists_of_lastWrite hlast
      unfold portsWrite at hwrite
      split at hwrite
      · rename_i hcmd
        rw [Option.getD_some, ← Option.some.inj hwrite]
        exact (hvalid io hio).1 hcmd
      · rename_i hcmd
        obtain ⟨_, hp⟩ := Option.ite_none_right_eq_some.mp hwrite
        rw [Option.getD_some, ← Option.some.inj hp]
        exact (hvalid io hio).2 hcmd
      · contradiction
      · contradiction

theorem ipDecides_of_valid {api : BdgApi} {ios : List BdgIoctl}
    (hvalid : ∀ io ∈ ios, ValidRequest api io) (buf : Nat → UInt8) :
    IpDecides (ValidDst api) buf ios := by
  intro saddr daddr _
  exact ⟨fun _ => validDst_entryPort hvalid daddr, fun _ => validDst_entryPort hvalid saddr⟩

section Lookups

variable (api : BdgApi) {macIos ipIos : List BdgIoctl} {mac : MacRoutes} {rt : IpRoutes}

theorem lookup2_valid_iff (hmac : run macStep (macStaticInit api) macIos = some mac)
    (buf : Nat → UInt8) :
    ValidDst api (lookup2 mac buf).dst ↔
      MacDecides (ValidDst api) buf (bridgeRequests 0 macIos) := by
  rw [lookup2_dst api hmac]
  exact macRoute_iff api (validDst_noport api) buf _

theorem lookup3_valid_iff (hmac : run macStep (macStaticInit api) macIos = some mac)
    (hip : run (ipStep api) ipStaticInit ipIos = some rt) (buf : Nat → UInt8) :
    ValidDst api (lookup3 api mac rt buf).dst ↔
      MacDecides (ValidDst api) buf (bridgeRequests 0 macIos) ∧
        (MacDecides (· = api.nmBdgNoport) buf (bridgeRequests 0 macIos) →
          IpDecides (ValidDst api) buf (bridgeRequests 0 ipIos)) := by
  rw [lookup3_dst api mac hip, ← lookup2_valid_iff api hmac,
    ← macRoute_iff api (P := (· = api.nmBdgNoport)) rfl, lookup2_dst api hmac]
  by_cases hfirst : macRoute api (bridgeRequests 0 macIos) buf = api.nmBdgNoport
  · rw [hfirst, ipRoute_iff api (validDst_noport api)]
    simp [validDst_noport api]
  · rw [ipRoute, if_pos hfirst]
    simp [hfirst]

/-- When the lookups return a value that the switch can use: the requests that decide the
frame carry such values. -/
theorem lookups_valid_iff (hmac : run macStep (macStaticInit api) macIos = some mac)
    (hip : run (ipStep api) ipStaticInit ipIos = some rt) (buf : Nat → UInt8) :
    (ValidDst api (lookup2 mac buf).dst ↔
      MacDecides (ValidDst api) buf (bridgeRequests 0 macIos)) ∧
    (ValidDst api (lookup3 api mac rt buf).dst ↔
      MacDecides (ValidDst api) buf (bridgeRequests 0 macIos) ∧
        (MacDecides (· = api.nmBdgNoport) buf (bridgeRequests 0 macIos) →
          IpDecides (ValidDst api) buf (bridgeRequests 0 ipIos))) :=
  ⟨lookup2_valid_iff api hmac buf, lookup3_valid_iff api hmac hip buf⟩

/-- Requests for usable ports keep all results usable. -/
theorem lookups_valid_of_requests (hmac : run macStep (macStaticInit api) macIos = some mac)
    (hip : run (ipStep api) ipStaticInit ipIos = some rt)
    (hmacValid : ∀ io ∈ bridgeRequests 0 macIos, ValidRequest api io)
    (hipValid : ∀ io ∈ bridgeRequests 0 ipIos, ValidRequest api io) (buf : Nat → UInt8) :
    ValidDst api (lookup2 mac buf).dst ∧ ValidDst api (lookup3 api mac rt buf).dst := by
  constructor
  · exact (lookup2_valid_iff api hmac buf).mpr (macDecides_of_valid hmacValid buf)
  · exact (lookup3_valid_iff api hmac hip buf).mpr
      ⟨macDecides_of_valid hmacValid buf, fun _ => ipDecides_of_valid hipValid buf⟩

end Lookups

theorem lookups_valid_other_routes :
    ∃ mac rt, run macStep (macStaticInit netmapBdg)
        [addRoute 0 #v[0x02, 0, 0, 0, 0, 1] 300] = some mac ∧
      run (ipStep netmapBdg) ipStaticInit
        [regBridge 0 1, hostRoute 0 7 5, hostRoute 0 9 300] = some rt ∧
      ValidDst netmapBdg (lookup2 mac (ipFrame 7 8)).dst ∧
      ValidDst netmapBdg (lookup3 netmapBdg mac rt (ipFrame 7 8)).dst := by
  obtain ⟨mac, hmac⟩ : ∃ mac, run macStep (macStaticInit netmapBdg)
    [addRoute 0 #v[0x02, 0, 0, 0, 0, 1] 300] = some mac := ⟨_, rfl⟩
  obtain ⟨rt, hip⟩ : ∃ rt, run (ipStep netmapBdg) ipStaticInit
    [regBridge 0 1, hostRoute 0 7 5, hostRoute 0 9 300] = some rt := ⟨_, rfl⟩
  have hiff := lookups_valid_iff netmapBdg hmac hip (ipFrame 7 8)
  exact ⟨mac, rt, hmac, hip, hiff.1.mpr (by decide), hiff.2.mpr (by decide)⟩

/-- A route to port `300` makes the lookups return it. -/
theorem lookups_valid_fails :
    (¬ ∀ ios mac, run macStep (macStaticInit netmapBdg) ios = some mac →
      ∀ buf, ValidDst netmapBdg (lookup2 mac buf).dst) ∧
    ¬ ∀ ios rt, run (ipStep netmapBdg) ipStaticInit ios = some rt →
      ∀ buf, ValidDst netmapBdg
        (lookup3 netmapBdg (macStaticInit netmapBdg) rt buf).dst := by
  constructor
  · intro halways
    obtain ⟨mac, hmac⟩ : ∃ mac, run macStep (macStaticInit netmapBdg)
      [addRoute 0 stationA 300] = some mac := ⟨_, rfl⟩
    have hvalid := halways _ mac hmac (frameFrom stationA)
    exact absurd ((lookup2_valid_iff netmapBdg hmac (frameFrom stationA)).mp hvalid) (by decide)
  · intro halways
    have hmac : run macStep (macStaticInit netmapBdg) [] = some (macStaticInit netmapBdg) := rfl
    obtain ⟨rt, hip⟩ : ∃ rt, run (ipStep netmapBdg) ipStaticInit
      [hostRoute 0 7 300] = some rt := ⟨_, rfl⟩
    have hdecides := (lookup3_valid_iff netmapBdg hmac hip (ipFrame 7 8)).mp
      (halways _ rt hip (ipFrame 7 8))
    exact absurd (hdecides.2 (by decide)) (by decide)

end XenNet.LookupRange

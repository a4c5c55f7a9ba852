import XenNet.LsbLearning
import XenNet.IpStatic

/-!
How much of a frame the lookup functions look at. None of them reads `len`: a netmap buffer
goes on behind a short frame, with what an earlier frame left there.
-/

namespace XenNet.FrameBytes

open XenNet.ByteMemory
open XenNet.TransitionSystem
open XenNet.BridgeKernel
open XenNet.RouteTable
open XenNet.LsbLearning
open XenNet.MacStatic
open XenNet.IpStatic

/-- The buffers hold the same frame of `len` bytes. -/
def SameFrame (len : Nat) (buf buf' : Nat → UInt8) : Prop :=
  ∀ k, k < len → buf' k = buf k

/-- What comes behind the frame makes no difference to the call. -/
def DependsOnFrame {ρ : Type} (call : (Nat → UInt8) → ρ) (len : Nat) (buf : Nat → UInt8) :
    Prop :=
  ∀ buf', SameFrame len buf buf' → call buf' = call buf

theorem sameFrame_update {len k : Nat} (buf : Nat → UInt8) (hk : len ≤ k) (x : UInt8) :
    SameFrame len buf (Function.update buf k x) :=
  fun j hj => Function.update_of_ne (by omega) x buf

theorem SameFrame.trans {len : Nat} {buf buf' buf'' : Nat → UInt8}
    (hbuf : SameFrame len buf buf') (hbuf' : SameFrame len buf' buf'') :
    SameFrame len buf buf'' :=
  fun k hk => (hbuf' k hk).trans (hbuf k hk)

theorem SameFrame.bytes_eq {len p l : Nat} {buf buf' : Nat → UInt8}
    (hbuf : SameFrame len buf buf') (hlen : p + l ≤ len) : bytes buf' p l = bytes buf p l :=
  bytes_congr fun k hk => hbuf (p + k) (by omega)

theorem DependsOnFrame.eq {ρ : Type} {call : (Nat → UInt8) → ρ} {len : Nat}
    {buf buf' buf'' : Nat → UInt8} (hcall : DependsOnFrame call len buf)
    (hbuf' : SameFrame len buf buf') (hbuf'' : SameFrame len buf buf'') :
    call buf' = call buf'' :=
  (hcall buf' hbuf').trans (hcall buf'' hbuf'').symm

theorem exists_ne_and_ne (x y : UInt8) : ∃ z, z ≠ x ∧ z ≠ y := by
  rcases eq_or_ne (x + 1) y with rfl | hy
  · exact ⟨x + 2, by grind, by grind⟩
  · exact ⟨x + 1, by simp, hy⟩

/-- An address byte of the other kind, group or station. -/
def otherKind (x : UInt8) : UInt8 :=
  if x &&& 1 = 0 then 1 else 0

theorem otherKind_and_one (x : UInt8) : otherKind x &&& 1 = 0 ↔ x &&& 1 ≠ 0 := by
  unfold otherKind
  split
  · rename_i hstation
    simp [hstation]
  · rename_i hgroup
    simp [hgroup]

section Learning

/-- `lsb_learning` reads both addresses, or the destination and the kind of the source. -/
def LsbFits (len : Nat) (buf : Nat → UInt8) : Prop :=
  12 ≤ len ∨ (7 ≤ len ∧ buf 6 &&& 1 ≠ 0)

theorem le64_and_congr {buf buf' : Nat → UInt8} (hbytes : bytes buf 0 6 = bytes buf' 0 6) :
    le64 buf &&& 0xffffffffffff = le64 buf' &&& 0xffffffffffff := by
  rw [← UInt64.toNat_inj, toNat_le64_and, toNat_le64_and]
  exact macValue_eq_iff.mpr hbytes

theorem learned_congr {buf buf' : Nat → UInt8} (bdgPort : UInt32)
    (hbytes : bytes buf 6 6 = bytes buf' 6 6) :
    BridgeFrame.learned ⟨buf, bdgPort⟩ = BridgeFrame.learned ⟨buf', bdgPort⟩ := by
  rw [BridgeFrame.learned, BridgeFrame.learned, NmHashEnt.mk.injEq]
  refine ⟨?_, rfl⟩
  rw [← UInt64.toNat_inj, toNat_le64_shift, toNat_le64_shift]
  apply macValue_eq_iff.mpr
  rw [bytes_pointer, bytes_pointer, bytes_pointer, bytes_pointer]
  exact hbytes

theorem lsbLearning_congr (nodst : UInt32) (ht : HashTable) (bdgPort : UInt32)
    {buf buf' : Nat → UInt8} (hdest : bytes buf' 0 6 = bytes buf 0 6)
    (hkind : buf' 6 = buf 6) (hsource : buf 6 &&& 1 = 0 → bytes buf' 6 6 = bytes buf 6 6) :
    lsbLearning nodst ht ⟨buf', bdgPort⟩ = lsbLearning nodst ht ⟨buf, bdgPort⟩ := by
  have hlearn : (lsbLearning nodst ht ⟨buf', bdgPort⟩).rt =
      (lsbLearning nodst ht ⟨buf, bdgPort⟩).rt := by
    change (if buf' 6 &&& 1 = 0 then
        Function.update ht (lsbIndex (buf' 11)) (BridgeFrame.learned ⟨buf', bdgPort⟩) else ht) =
      if buf 6 &&& 1 = 0 then
        Function.update ht (lsbIndex (buf 11)) (BridgeFrame.learned ⟨buf, bdgPort⟩) else ht
    rw [hkind]
    split
    · rename_i hstation
      have hbytes := hsource hstation
      have hlsb : buf' 11 = buf 11 := bytes_eq_iff.mp hbytes 5 (by omega)
      rw [hlsb, learned_congr bdgPort hbytes]
    · rfl
  have hsame : ∀ k, k < 6 → buf' k = buf k := by simpa using bytes_eq_iff.mp hdest
  have hdst : (lsbLearning nodst ht ⟨buf', bdgPort⟩).dst =
      (lsbLearning nodst ht ⟨buf, bdgPort⟩).dst := by
    change (if buf' 0 &&& 1 = 0 then
        (if ((lsbLearning nodst ht ⟨buf', bdgPort⟩).rt (lsbIndex (buf' 5))).mac =
            le64 buf' &&& 0xffffffffffff then
          ((lsbLearning nodst ht ⟨buf', bdgPort⟩).rt (lsbIndex (buf' 5))).ports.toUInt32
        else nodst) else nodst) = _
    rw [hlearn, hsame 0 (by omega), hsame 5 (by omega), le64_and_congr hdest]
    rfl
  exact LookupCall.mk.injEq .. ▸ ⟨hdst, rfl, hlearn⟩

theorem ite_one_zero_inj {p q : Prop} [Decidable p] [Decidable q] :
    (if p then 1 else 0 : UInt64) = (if q then 1 else 0) ↔ (p ↔ q) := by
  by_cases hp : p <;> by_cases hq : q <;> simp [hp, hq]

theorem lsbLearning_zeroTable (nodst : UInt32) (buf : Nat → UInt8) (lsb : UInt8) :
    ((lsbLearning nodst zeroTable ⟨buf, 1⟩).rt (lsbIndex lsb)).ports =
      if buf 6 &&& 1 = 0 ∧ buf 11 = lsb then 1 else 0 := by
  rw [lsbLearning_entry, sourceFrame]
  split <;> rfl

theorem lsbLearning_dependsOnFrame_iff (len : Nat) (buf : Nat → UInt8) :
    (∀ nodst ht bdgPort,
      DependsOnFrame (fun buf => lsbLearning nodst ht ⟨buf, bdgPort⟩) len buf) ↔
      LsbFits len buf := by
  constructor
  · intro hcall
    have hports : ∀ buf', SameFrame len buf buf' → ∀ lsb,
        (buf' 6 &&& 1 = 0 ∧ buf' 11 = lsb) ↔ (buf 6 &&& 1 = 0 ∧ buf 11 = lsb) := by
      intro buf' hbuf' lsb
      have hsame := congrArg (fun call => (call.rt (lsbIndex lsb)).ports)
        (hcall 0 zeroTable 1 buf' hbuf')
      simp only [lsbLearning_zeroTable] at hsame
      exact (ite_one_zero_inj).mp hsame
    by_contra hfits
    rw [LsbFits, not_or, not_and_or, not_not] at hfits
    obtain ⟨hshort, hlen | hstation⟩ := hfits
    · have hkind := hports _ (sameFrame_update buf (show len ≤ 6 by omega)
        (otherKind (buf 6))) (buf 11)
      rw [Function.update_self, otherKind_and_one, Function.update_of_ne (by omega)] at hkind
      simp at hkind
    · have hlsb := hports _ (sameFrame_update buf (show len ≤ 11 by omega) (buf 11 + 1)) (buf 11)
      rw [Function.update_self, Function.update_of_ne (by omega)] at hlsb
      simp [hstation] at hlsb
  · intro hfits nodst ht bdgPort buf' hbuf'
    have hlen : 7 ≤ len := by
      rcases hfits with hlen | ⟨hlen, _⟩ <;> omega
    apply lsbLearning_congr nodst ht bdgPort (hbuf'.bytes_eq (by omega)) (hbuf' 6 (by omega))
    intro hstation
    rcases hfits with hlen | ⟨_, hgroup⟩
    · exact hbuf'.bytes_eq (by omega)
    · contradiction

end Learning

section MacTable

/-- `lookup2` reads the source address; of a station it only uses the bucket. -/
def SourceFits (len : Nat) (buf : Nat → UInt8) : Prop :=
  12 ≤ len ∨ (7 ≤ len ∧
    (buf 6 &&& 1 = 0 → DependsOnFrame (fun buf => nmBridgeRthash (pointer buf 6)) len buf))

theorem SourceFits.seven_le {len : Nat} {buf : Nat → UInt8} (hfits : SourceFits len buf) :
    7 ≤ len := by
  rcases hfits with hlen | ⟨hlen, _⟩ <;> omega

theorem SourceFits.rthashIndex_eq {len : Nat} {buf buf' : Nat → UInt8}
    (hfits : SourceFits len buf) (hstation : buf 6 &&& 1 = 0) (hbuf' : SameFrame len buf buf') :
    rthashIndex (pointer buf' 6) = rthashIndex (pointer buf 6) := by
  rcases hfits with hlen | ⟨_, hhash⟩
  · apply rthashIndex_congr
    rw [bytes_pointer, bytes_pointer]
    exact hbuf'.bytes_eq (by omega)
  · have hsame := hhash hstation buf' hbuf'
    simp only [rthashIndex, hsame]

theorem SourceFits.lookup2_eq {len : Nat} {buf buf' : Nat → UInt8} (hfits : SourceFits len buf)
    (hbuf' : SameFrame len buf buf') (rt : MacRoutes) : lookup2 rt buf' = lookup2 rt buf := by
  have hkind : buf' 6 = buf 6 := hbuf' 6 (by have := hfits.seven_le; omega)
  by_cases hstation : buf 6 &&& 1 = 0
  · simp only [lookup2, hkind, if_pos hstation, hfits.rthashIndex_eq hstation hbuf']
  · simp only [lookup2, hkind, if_neg hstation]

/-- Routes to port `1` from one bucket. -/
def bucketRoute {bridges buckets : Nat} (ctl : UInt64) (sh : Fin buckets) :
    Routes bridges buckets :=
  fun _ => { ht := fun j => ⟨0, if j = sh then 1 else 0⟩, ctl := ctl }

theorem lookup2_bucketRoute (ctl : UInt64) (sh : Fin nmBdgHash) (buf : Nat → UInt8) :
    (lookup2 (bucketRoute ctl sh) buf).dst =
      if buf 6 &&& 1 = 0 then (if rthashIndex (pointer buf 6) = sh then 1 else 0)
      else ctl.toUInt32 := by
  simp only [lookup2, bucketRoute]
  split
  · split <;> rfl
  · rfl

theorem lookup2_dependsOnFrame_iff (len : Nat) (buf : Nat → UInt8) :
    (∀ rt, DependsOnFrame (lookup2 rt) len buf) ↔ SourceFits len buf := by
  constructor
  · intro hcall
    have hdst : ∀ ctl buf', SameFrame len buf buf' →
        (lookup2 (bucketRoute ctl (rthashIndex (pointer buf 6))) buf').dst =
          (lookup2 (bucketRoute ctl (rthashIndex (pointer buf 6))) buf).dst :=
      fun ctl buf' hbuf' => congrArg LookupCall.dst (hcall (bucketRoute ctl _) buf' hbuf')
    have hlen : 7 ≤ len := by
      by_contra hshort
      have hkind := hdst 2 _ (sameFrame_update buf (show len ≤ 6 by omega) (otherKind (buf 6)))
      rw [lookup2_bucketRoute, lookup2_bucketRoute, Function.update_self, if_pos rfl] at hkind
      by_cases hstation : buf 6 &&& 1 = 0
      · rw [if_neg fun h => (otherKind_and_one _).mp h hstation, if_pos hstation] at hkind
        exact absurd hkind (by decide)
      · rw [if_pos ((otherKind_and_one _).mpr hstation), if_neg hstation] at hkind
        split at hkind <;> exact absurd hkind (by decide)
    refine Or.inr ⟨hlen, fun hstation buf' hbuf' => ?_⟩
    have hbucket := hdst 0 buf' hbuf'
    rw [lookup2_bucketRoute, lookup2_bucketRoute, hbuf' 6 (by omega), if_pos hstation,
      if_pos hstation, if_pos rfl] at hbucket
    apply rthashIndex_eq_iff.mp
    by_contra hne
    rw [if_neg hne] at hbucket
    exact absurd hbucket (by decide)
  · intro hfits rt buf' hbuf'
    exact hfits.lookup2_eq hbuf' rt

end MacTable

section IpTable

/-- `lookup3` reads the type of the frame and both network addresses of one that has them. -/
def FrameFits (len : Nat) (buf : Nat → UInt8) : Prop :=
  (len = 13 ∧ buf 12 ≠ 0x08 ∧ buf 12 ≠ 0x86) ∨
    (14 ≤ len ∧ (etherType buf = 0x0800 → 34 ≤ len) ∧ (etherType buf = 0x86dd → 42 ≤ len))

instance (len : Nat) (buf : Nat → UInt8) : Decidable (FrameFits len buf) :=
  inferInstanceAs (Decidable (_ ∨ _))

theorem FrameFits.thirteen_le {len : Nat} {buf : Nat → UInt8} (hfits : FrameFits len buf) :
    13 ≤ len := by
  rcases hfits with ⟨hlen, _⟩ | ⟨hlen, _⟩ <;> omega

theorem etherType_eq_iff (buf : Nat → UInt8) (high low : UInt8) :
    etherType buf = 2 ^ 8 * high.toNat + low.toNat ↔ buf 12 = high ∧ buf 13 = low := by
  have hlow : (buf 13).toNat < 2 ^ 8 := (buf 13).toNat_lt
  have hlow' : low.toNat < 2 ^ 8 := low.toNat_lt
  rw [etherType, ← UInt8.toNat_inj, ← UInt8.toNat_inj]
  omega

theorem etherType_eq_ip_iff {buf : Nat → UInt8} :
    etherType buf = 0x0800 ↔ buf 12 = 0x08 ∧ buf 13 = 0x00 :=
  etherType_eq_iff buf 0x08 0x00

theorem etherType_eq_ip6_iff {buf : Nat → UInt8} :
    etherType buf = 0x86dd ↔ buf 12 = 0x86 ∧ buf 13 = 0xdd :=
  etherType_eq_iff buf 0x86 0xdd

theorem ipAddrs_of_ip {buf : Nat → UInt8} (hip : etherType buf = 0x0800) :
    ipAddrs buf = some (pointer buf 26, pointer buf 30) :=
  if_pos hip

theorem ipAddrs_of_ip6 {buf : Nat → UInt8} (hip6 : etherType buf = 0x86dd) :
    ipAddrs buf = some (pointer buf 22, pointer buf 38) := by
  rw [ipAddrs, hip6, if_neg (by decide), if_pos rfl]

theorem ipAddrs_of_ne {buf : Nat → UInt8} (hip : etherType buf ≠ 0x0800)
    (hip6 : etherType buf ≠ 0x86dd) : ipAddrs buf = none := by
  rw [ipAddrs, if_neg hip, if_neg hip6]

/-- The buckets of the two addresses of the frame. -/
def ipBuckets (buf : Nat → UInt8) : Option (Fin ipBdgHash × Fin ipBdgHash) :=
  (ipAddrs buf).map fun addrs => (iphashIndex addrs.1, iphashIndex addrs.2)

theorem lookup3_congr (api : BdgApi) (mac : MacRoutes) (rt : IpRoutes)
    {buf buf' : Nat → UInt8} (hfirst : lookup2 mac buf' = lookup2 mac buf)
    (hbuckets : ipBuckets buf' = ipBuckets buf) :
    lookup3 api mac rt buf' = lookup3 api mac rt buf := by
  have hfrom : ∀ dst, lookup3From api rt dst buf' = lookup3From api rt dst buf := by
    intro dst
    unfold ipBuckets at hbuckets
    simp only [lookup3From]
    cases haddrs : ipAddrs buf with
    | none =>
        rw [haddrs, Option.map_none, Option.map_eq_none_iff] at hbuckets
        rw [hbuckets]
    | some addrs =>
        obtain ⟨addrs', haddrs', hindex⟩ := Option.map_eq_some_iff.mp (haddrs ▸ hbuckets)
        rw [Prod.mk.injEq] at hindex
        simp only [haddrs', hindex.1, hindex.2]
  rw [lookup3, lookup3, hfirst, hfrom]

theorem SameFrame.iphashIndex_eq {len : Nat} {buf buf' : Nat → UInt8}
    (hbuf' : SameFrame len buf buf') {p : Nat} (hlen : p + 4 ≤ len) :
    iphashIndex (pointer buf' p) = iphashIndex (pointer buf p) :=
  iphashIndex_eq_iff.mpr ⟨hbuf' (p + 2) (by omega), hbuf' (p + 3) (by omega)⟩

theorem FrameFits.ipBuckets_eq {len : Nat} {buf buf' : Nat → UInt8} (hfits : FrameFits len buf)
    (hbuf' : SameFrame len buf buf') : ipBuckets buf' = ipBuckets buf := by
  rcases hfits with ⟨hlen, hip, hip6⟩ | ⟨hlen, hip, hip6⟩
  · have hnone : ∀ buf'', buf'' 12 = buf 12 → ipAddrs buf'' = none := by
      intro buf'' hhigh
      apply ipAddrs_of_ne
      · rw [ne_eq, etherType_eq_ip_iff, hhigh]
        exact fun hboth => hip hboth.1
      · rw [ne_eq, etherType_eq_ip6_iff, hhigh]
        exact fun hboth => hip6 hboth.1
    rw [ipBuckets, ipBuckets, hnone buf' (hbuf' 12 (by omega)), hnone buf rfl]
  · have htype : etherType buf' = etherType buf := by
      rw [etherType, etherType, hbuf' 12 (by omega), hbuf' 13 (by omega)]
    unfold ipBuckets
    by_cases h4 : etherType buf = 0x0800
    · have hlen4 := hip h4
      rw [ipAddrs_of_ip h4, ipAddrs_of_ip (htype.trans h4), Option.map_some, Option.map_some,
        hbuf'.iphashIndex_eq (by omega), hbuf'.iphashIndex_eq (by omega)]
    · by_cases h6 : etherType buf = 0x86dd
      · have hlen6 := hip6 h6
        rw [ipAddrs_of_ip6 h6, ipAddrs_of_ip6 (htype.trans h6), Option.map_some,
          Option.map_some, hbuf'.iphashIndex_eq (by omega), hbuf'.iphashIndex_eq (by omega)]
      · rw [ipAddrs_of_ne h4 h6, ipAddrs_of_ne (htype ▸ h4) (htype ▸ h6)]

theorem lookup3_bucketRoute (api : BdgApi) (sh : Fin ipBdgHash) {buf saddr daddr : Nat → UInt8}
    (haddrs : ipAddrs buf = some (saddr, daddr)) (hsaddr : iphashIndex saddr ≠ sh) :
    (lookup3 api (macStaticInit api) (bucketRoute 0 sh) buf).dst =
      if iphashIndex daddr = sh then 1 else 0 := by
  have hfirst : (lookup2 (macStaticInit api) buf).dst = api.nmBdgNoport := by
    simp only [lookup2, macStaticInit, MacStatic.rtInit, fillPorts_eq,
      UInt32.toUInt32_toUInt64, ite_self]
  simp only [lookup3, hfirst, lookup3From, haddrs, bucketRoute, if_neg hsaddr]
  rw [if_neg (not_not_intro rfl), if_pos trivial]
  split <;> rfl

section Behind

variable {api : BdgApi} {len : Nat} {buf : Nat → UInt8}

theorem daddr_lt_len (hcall : ∀ mac rt, DependsOnFrame (lookup3 api mac rt) len buf)
    {buf' : Nat → UInt8} (hbuf' : SameFrame len buf buf') {p q : Nat}
    (haddrs : ∀ x, ipAddrs (Function.update buf' (q + 3) x) =
      some (pointer (Function.update buf' (q + 3) x) p,
        pointer (Function.update buf' (q + 3) x) q)) (hpq : p < q) :
    q + 3 < len := by
  by_contra hlen
  obtain ⟨x, hdaddr, hsaddr⟩ := exists_ne_and_ne (buf' (q + 3)) (buf' (p + 3))
  have hx : SameFrame len buf (Function.update buf' (q + 3) x) :=
    hbuf'.trans (sameFrame_update buf' (by omega) x)
  have hself : ipAddrs buf' = some (pointer buf' p, pointer buf' q) := by
    simpa using haddrs (buf' (q + 3))
  have hnew : Function.update buf' (q + 3) x (q + 3) = x := Function.update_self _ _ _
  have hold : Function.update buf' (q + 3) x (p + 3) = buf' (p + 3) :=
    Function.update_of_ne (by omega) x buf'
  -- only the changed destination has the bucket of the route
  have hroute := congrArg LookupCall.dst ((hcall (macStaticInit api)
    (bucketRoute 0 (iphashIndex (pointer (Function.update buf' (q + 3) x) q)))).eq hbuf' hx)
  rw [lookup3_bucketRoute api _ hself, lookup3_bucketRoute api _ (haddrs x), if_pos rfl,
    if_neg] at hroute
  · exact absurd hroute (by decide)
  · rw [iphashIndex_eq_iff]
    exact fun hboth => hdaddr (hnew.symm.trans hboth.2.symm)
  · rw [ne_eq, iphashIndex_eq_iff]
    exact fun hboth => hsaddr (hnew.symm.trans (hboth.2.symm.trans hold))
  · rw [ne_eq, iphashIndex_eq_iff]
    exact fun hboth => hsaddr (hnew.symm.trans hboth.2.symm)

theorem ip_le_len (hcall : ∀ mac rt, DependsOnFrame (lookup3 api mac rt) len buf)
    {buf' : Nat → UInt8} (hbuf' : SameFrame len buf buf') (hip : etherType buf' = 0x0800) :
    34 ≤ len := by
  apply daddr_lt_len hcall hbuf' _ (show 26 < 30 by omega)
  intro x
  apply ipAddrs_of_ip
  exact hip

theorem ip6_le_len (hcall : ∀ mac rt, DependsOnFrame (lookup3 api mac rt) len buf)
    {buf' : Nat → UInt8} (hbuf' : SameFrame len buf buf') (hip6 : etherType buf' = 0x86dd) :
    42 ≤ len := by
  apply daddr_lt_len hcall hbuf' _ (show 22 < 38 by omega)
  intro x
  apply ipAddrs_of_ip6
  exact hip6

end Behind

theorem lookup3_dependsOnFrame_iff (api : BdgApi) (len : Nat) (buf : Nat → UInt8) :
    (∀ mac rt, DependsOnFrame (lookup3 api mac rt) len buf) ↔ FrameFits len buf := by
  constructor
  · intro hcall
    have hlen : 13 ≤ len := by
      by_contra hshort
      have hsame := (sameFrame_update buf (show len ≤ 12 by omega) 0x08).trans
        (sameFrame_update _ (show len ≤ 13 by omega) 0x00)
      have hip := ip_le_len hcall hsame (etherType_eq_ip_iff.mpr ⟨rfl, rfl⟩)
      omega
    rcases Nat.lt_or_ge len 14 with hthirteen | hlen
    · refine Or.inl ⟨by omega, fun hhigh => ?_, fun hhigh => ?_⟩
      · have hip := ip_le_len hcall (sameFrame_update buf (show len ≤ 13 by omega) 0x00)
          (etherType_eq_ip_iff.mpr ⟨hhigh, rfl⟩)
        omega
      · have hip6 := ip6_le_len hcall (sameFrame_update buf (show len ≤ 13 by omega) 0xdd)
          (etherType_eq_ip6_iff.mpr ⟨hhigh, rfl⟩)
        omega
    · exact Or.inr ⟨hlen, ip_le_len hcall fun _ _ => rfl, ip6_le_len hcall fun _ _ => rfl⟩
  · intro hfits mac rt buf' hbuf'
    have hsource : SourceFits len buf := Or.inl (by have := hfits.thirteen_le; omega)
    exact lookup3_congr api mac rt (hsource.lookup2_eq hbuf' mac) (hfits.ipBuckets_eq hbuf')

end IpTable

/-- The lookups depend on the received frame alone exactly where it reaches to the last
byte they read. -/
theorem lookups_dependOnFrame_iff (api : BdgApi) (len : Nat) (buf : Nat → UInt8) :
    ((∀ nodst ht bdgPort,
      DependsOnFrame (fun buf => lsbLearning nodst ht ⟨buf, bdgPort⟩) len buf) ↔
        LsbFits len buf) ∧
    ((∀ rt, DependsOnFrame (lookup2 rt) len buf) ↔ SourceFits len buf) ∧
    ((∀ mac rt, DependsOnFrame (lookup3 api mac rt) len buf) ↔ FrameFits len buf) :=
  ⟨lsbLearning_dependsOnFrame_iff len buf, lookup2_dependsOnFrame_iff len buf,
    lookup3_dependsOnFrame_iff api len buf⟩

instance (len : Nat) (buf buf' : Nat → UInt8) : Decidable (SameFrame len buf buf') :=
  inferInstanceAs (Decidable (∀ k, k < len → buf' k = buf k))

/-- A cut frame takes on the addresses that an earlier frame has left behind it. -/
theorem lookups_dependOnFrame_fail :
    (¬ ∀ nodst ht bdgPort len buf,
      DependsOnFrame (fun buf => lsbLearning nodst ht ⟨buf, bdgPort⟩) len buf) ∧
    (¬ ∀ rt len buf, DependsOnFrame (lookup2 rt) len buf) ∧
    (¬ ∀ mac rt len buf, DependsOnFrame (lookup3 netmapBdg mac rt) len buf) := by
  refine ⟨fun halways => ?_, fun halways => ?_, fun halways => ?_⟩
  · have hsame := halways netmapBdg.nmBdgBroadcast zeroTable 1 11 (frameFrom stationA)
      (frameFrom #v[0x02, 0x00, 0x00, 0x00, 0x00, 0x07]) (by decide)
    have hports := congrArg (fun call => (call.rt (lsbIndex 7)).ports) hsame
    exact absurd hports (by decide)
  · obtain ⟨rt, hrun⟩ : ∃ rt, run macStep (macStaticInit netmapBdg) [addRoute 0 stationA 3] =
      some rt := ⟨_, rfl⟩
    have hdst := congrArg LookupCall.dst (halways rt 11 (frameFrom stationA)
      (frameFrom #v[0x02, 0x00, 0x00, 0x00, 0x00, 0x07]) (by decide))
    rw [lookup2_dst netmapBdg hrun, lookup2_dst netmapBdg hrun] at hdst
    exact absurd hdst (by decide)
  · obtain ⟨rt, hrun⟩ : ∃ rt, run (ipStep netmapBdg) ipStaticInit
      [regBridge 0 1, hostRoute 0 8 4] = some rt := ⟨_, rfl⟩
    have hnone : run macStep (macStaticInit netmapBdg) [] = some (macStaticInit netmapBdg) := rfl
    have hmac : ∀ buf, (lookup2 (macStaticInit netmapBdg) buf).dst =
        macRoute netmapBdg (bridgeRequests 0 []) buf := lookup2_dst netmapBdg hnone
    have hdst := congrArg LookupCall.dst (halways (macStaticInit netmapBdg) rt 14 (ipFrame 7 8)
      (ipFrame 7 9) (by decide))
    rw [lookup3_dst netmapBdg _ hrun, lookup3_dst netmapBdg _ hrun, hmac, hmac] at hdst
    exact absurd hdst (by decide)

end XenNet.FrameBytes

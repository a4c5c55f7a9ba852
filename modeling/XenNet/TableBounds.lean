import XenNet.IpStatic

namespace XenNet.TableBounds

open XenNet.BridgeKernel
open XenNet.RouteTable
open XenNet.MacStatic
open XenNet.IpStatic

/-- A subscript of `rt`, or one of the `ht` of the bridge that was selected last. -/
inductive TableAccess where
  | rt (bdgIdx : Nat)
  | ht (i : Int)
  deriving DecidableEq, Repr

def TableAccess.InBounds (bridges buckets : Nat) : TableAccess → Prop
  | .rt bdgIdx => bdgIdx < bridges
  | .ht i => 0 ≤ i ∧ i < buckets

instance (bridges buckets : Nat) : (a : TableAccess) → Decidable (a.InBounds bridges buckets)
  | .rt _ => inferInstanceAs (Decidable (_ < _))
  | .ht _ => inferInstanceAs (Decidable (_ ∧ _))

def InBounds (bridges buckets : Nat) (accesses : List TableAccess) : Prop :=
  ∀ a ∈ accesses, a.InBounds bridges buckets

/-- The loop of `bdglist` from position `i` on. `addr` is what is read at each position. -/
def listAccesses (addr : Int → UInt64) (buckets : Nat) : Nat → Int → List TableAccess
  | 0, _ => []
  | fuel + 1, i =>
      if i < buckets then
        .ht i :: if addr i = 0 then listAccesses addr buckets fuel (i + 1) else [.ht i, .ht i]
      else []

def bdglistAccesses (addr : Int → UInt64) (buckets : Nat) (xiter : UInt32) (breq : Bdgreq) :
    List TableAccess :=
  let i := xiter.toInt32.toInt
  .rt breq.bdgIdx.toNat :: listAccesses addr buckets ((buckets - i).toNat + 1) i

/-- What `bdgaddif2` and `bdgaddif3` access, for an address with the hash `sh`. -/
def bdgaddifAccesses (bdgIdx sh : UInt32) : List TableAccess :=
  [.rt bdgIdx.toNat, .ht sh.toNat, .ht sh.toNat]

/-- `bdgctl` of `mac-static.c`. -/
def macBdgctlAccesses (addr : Int → UInt64) (cmd : BdgCmd) (breq : Bdgreq) : List TableAccess :=
  match cmd with
  | .reg => [.rt breq.bdgIdx.toNat]
  | .list => bdglistAccesses addr nmBdgHash breq.nrArg1 breq
  | .addif => bdgaddifAccesses breq.bdgIdx (nmBridgeRthash breq.addrPtr)
  | .info => []

/-- `bdgctl` of `ip-static.c`, whose registration goes through `rt_init`. -/
def ipBdgctlAccesses (addr : Int → UInt64) (cmd : BdgCmd) (breq : Bdgreq) : List TableAccess :=
  match cmd with
  | .reg =>
      .rt breq.bdgIdx.toNat ::
        ((List.range ipBdgHash).map (fun j : Nat => .ht j) ++ [.rt breq.bdgIdx.toNat])
  | .list => bdglistAccesses addr ipBdgHash breq.nrArg1 breq
  | .addif => bdgaddifAccesses breq.bdgIdx (iphash2 breq.addrPtr)
  | .info => []

/-- The bridge is one of the module's, and a position in a list does not become negative. -/
def SafeRequest (bridges : Nat) (cmd : BdgCmd) (breq : Bdgreq) : Prop :=
  (cmd ≠ .info → breq.bdgIdx.toNat < bridges) ∧ (cmd = .list → breq.nrArg1.toNat < 2 ^ 31)

instance (bridges : Nat) (cmd : BdgCmd) (breq : Bdgreq) :
    Decidable (SafeRequest bridges cmd breq) :=
  inferInstanceAs (Decidable (_ ∧ _))

theorem toInt32_nonneg_iff {x : UInt32} : 0 ≤ x.toInt32.toInt ↔ x.toNat < 2 ^ 31 := by
  have hlt : x.toNat < 2 ^ 32 := x.toNat_lt
  have hcond : x.toInt32.toInt = if 2 * x.toNat < 2 ^ 32 then (x.toNat : Int)
      else (x.toNat : Int) - (2 ^ 32 : Nat) :=
    BitVec.toInt_eq_toNat_cond x.toBitVec
  rw [hcond]
  split <;> omega

section Bounds

variable {bridges buckets : Nat} {addr : Int → UInt64}

theorem ht_inBounds_iff {j : Nat} :
    (TableAccess.ht j).InBounds bridges buckets ↔ j < buckets := by
  simp [TableAccess.InBounds]

theorem listAccesses_inBounds {fuel : Nat} {i : Int} (hi : 0 ≤ i) :
    InBounds bridges buckets (listAccesses addr buckets fuel i) := by
  induction fuel generalizing i with
  | zero => exact fun _ hnone => absurd hnone List.not_mem_nil
  | succ fuel ih =>
      unfold listAccesses
      split
      · rename_i hlt
        have hhere : (TableAccess.ht i).InBounds bridges buckets := ⟨hi, hlt⟩
        refine List.forall_mem_cons.mpr ⟨hhere, ?_⟩
        split
        · exact ih (by omega)
        · exact List.forall_mem_cons.mpr ⟨hhere, List.forall_mem_singleton.mpr hhere⟩
      · exact fun _ hnone => absurd hnone List.not_mem_nil

theorem listAccesses_inBounds_iff {fuel : Nat} {i : Int} :
    InBounds bridges buckets (listAccesses addr buckets (fuel + 1) i) ↔ 0 ≤ i := by
  refine ⟨fun hall => ?_, listAccesses_inBounds⟩
  by_contra hneg
  have hfirst : TableAccess.ht i ∈ listAccesses addr buckets (fuel + 1) i := by
    rw [listAccesses, if_pos (by omega)]
    exact List.mem_cons_self
  exact hneg (hall _ hfirst).1

theorem bdglistAccesses_inBounds_iff {xiter : UInt32} {breq : Bdgreq} :
    InBounds bridges buckets (bdglistAccesses addr buckets xiter breq) ↔
      breq.bdgIdx.toNat < bridges ∧ xiter.toNat < 2 ^ 31 := by
  unfold bdglistAccesses InBounds
  rw [List.forall_mem_cons, ← toInt32_nonneg_iff]
  exact and_congr Iff.rfl listAccesses_inBounds_iff

theorem bdgaddifAccesses_inBounds_iff {bdgIdx sh : UInt32} (hsh : sh.toNat < buckets) :
    InBounds bridges buckets (bdgaddifAccesses bdgIdx sh) ↔ bdgIdx.toNat < bridges := by
  have hbucket : (TableAccess.ht sh.toNat).InBounds bridges buckets := ht_inBounds_iff.mpr hsh
  unfold InBounds bdgaddifAccesses
  rw [List.forall_mem_cons, and_iff_left]
  · rfl
  · exact List.forall_mem_cons.mpr ⟨hbucket, List.forall_mem_singleton.mpr hbucket⟩

/-- The model of `bdgctl` has a result for the safe requests. -/
theorem bdgctl_isSome_iff (ops : RouteModule buckets) (rt : Routes bridges buckets)
    (io : BdgIoctl) :
    (bdgctl ops rt io).isSome ↔ SafeRequest bridges io.cmd io.breq := by
  unfold bdgctl SafeRequest bridgeIndex
  cases io.cmd with
  | reg => by_cases hidx : io.breq.bdgIdx.toNat < bridges <;> simp [hidx]
  | list =>
      by_cases hidx : io.breq.bdgIdx.toNat < bridges
      · rw [dif_pos hidx]
        simp only [Option.bind_eq_bind, Option.bind_some, Option.isSome_bind]
        simp [hidx, bdglist_isSome]
      · simp [hidx]
  | addif => by_cases hidx : io.breq.bdgIdx.toNat < bridges <;> simp [hidx]
  | info => simp

end Bounds

theorem macBdgctlAccesses_inBounds_iff (addr : Int → UInt64) (cmd : BdgCmd) (breq : Bdgreq) :
    InBounds MacStatic.nmBridges nmBdgHash (macBdgctlAccesses addr cmd breq) ↔
      SafeRequest MacStatic.nmBridges cmd breq := by
  unfold macBdgctlAccesses SafeRequest
  cases cmd with
  | reg => simp [InBounds, TableAccess.InBounds]
  | list => simp [bdglistAccesses_inBounds_iff]
  | addif => simp [bdgaddifAccesses_inBounds_iff (nmBridgeRthash_lt breq.addrPtr)]
  | info => simp [InBounds]

theorem ipBdgctlAccesses_inBounds_iff (addr : Int → UInt64) (cmd : BdgCmd) (breq : Bdgreq) :
    InBounds IpStatic.nmBridges ipBdgHash (ipBdgctlAccesses addr cmd breq) ↔
      SafeRequest IpStatic.nmBridges cmd breq := by
  unfold ipBdgctlAccesses SafeRequest
  cases cmd with
  | reg =>
      have hinit : ∀ a ∈ (List.range ipBdgHash).map fun j : Nat => TableAccess.ht j,
          a.InBounds IpStatic.nmBridges ipBdgHash := by
        rw [List.forall_mem_map]
        intro j hj
        exact ht_inBounds_iff.mpr (List.mem_range.mp hj)
      unfold InBounds
      rw [List.forall_mem_cons, List.forall_mem_append, List.forall_mem_singleton,
        and_iff_right hinit, and_self]
      simp [TableAccess.InBounds]
  | list => simp [bdglistAccesses_inBounds_iff]
  | addif => simp [bdgaddifAccesses_inBounds_iff (iphash2_lt breq.addrPtr)]
  | info => simp [InBounds]

/-- An ioctl stays inside the tables exactly when the bridge is one of the module's and, for a
list, the position is not negative as an `int`. These are the ioctls that the model of `bdgctl`
has a result for. -/
theorem bdgctl_inBounds_iff (api : BdgApi) (addr : Int → UInt64) (io : BdgIoctl) :
    ((InBounds MacStatic.nmBridges nmBdgHash (macBdgctlAccesses addr io.cmd io.breq) ↔
        SafeRequest MacStatic.nmBridges io.cmd io.breq) ∧
      ∀ rt : MacRoutes, (bdgctl macStatic rt io).isSome ↔
        InBounds MacStatic.nmBridges nmBdgHash (macBdgctlAccesses addr io.cmd io.breq)) ∧
    (InBounds IpStatic.nmBridges ipBdgHash (ipBdgctlAccesses addr io.cmd io.breq) ↔
        SafeRequest IpStatic.nmBridges io.cmd io.breq) ∧
      ∀ rt : IpRoutes, (bdgctl (ipStatic api) rt io).isSome ↔
        InBounds IpStatic.nmBridges ipBdgHash (ipBdgctlAccesses addr io.cmd io.breq) := by
  have hmac := macBdgctlAccesses_inBounds_iff addr io.cmd io.breq
  have hip := ipBdgctlAccesses_inBounds_iff addr io.cmd io.breq
  refine ⟨⟨hmac, fun rt => ?_⟩, hip, fun rt => ?_⟩
  · rw [hmac]
    exact bdgctl_isSome_iff macStatic rt io
  · rw [hip]
    exact bdgctl_isSome_iff (ipStatic api) rt io

/-- A route for the bridge behind the last one, and a list that begins at `2 ^ 31`. -/
theorem bdgctl_inBounds_fails :
    ¬ InBounds MacStatic.nmBridges nmBdgHash
        (macBdgctlAccesses (fun _ => 0) .addif (addRoute 8 stationA 1).breq) ∧
      ¬ InBounds IpStatic.nmBridges ipBdgHash
        (ipBdgctlAccesses (fun _ => 0) .addif (hostRoute 4 7 1).breq) ∧
      ¬ InBounds MacStatic.nmBridges nmBdgHash (macBdgctlAccesses (fun _ => 1) .list
        { (addRoute 0 stationA 1).breq with nrArg1 := 0x80000000 }) ∧
      ¬ InBounds IpStatic.nmBridges ipBdgHash (ipBdgctlAccesses (fun _ => 1) .list
        { (hostRoute 0 7 1).breq with nrArg1 := 0x80000000 }) := by
  rw [macBdgctlAccesses_inBounds_iff, ipBdgctlAccesses_inBounds_iff,
    macBdgctlAccesses_inBounds_iff, ipBdgctlAccesses_inBounds_iff]
  decide

end XenNet.TableBounds

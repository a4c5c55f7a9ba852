import XenNet.TableBounds

namespace XenNet.BdgfnLibrary

open XenNet.BridgeKernel
open XenNet.RouteTable
open XenNet.MacStatic
open XenNet.IpStatic

section Library

variable {bridges buckets : Nat} (ops : RouteModule buckets)

/-- What `ioctl` makes of the result of a system call: the negative errors become `-1`. -/
def ioctlResult (ret : Int) : Int :=
  if -4095 ≤ ret ∧ ret < 0 then -1 else ret

/-- `ioctl` on `bdgfd`. -/
def ioctl (fails : Bool) (rt : Routes bridges buckets) (io : BdgIoctl) :
    Option (BdgctlCall bridges buckets) :=
  if fails then some { ret := -1, breq := io.breq, rt := rt }
  else do
    let call ← bdgctl ops rt io
    return { call with ret := ioctlResult call.ret }

/-- What a function of the library returns, and the entries that it printed. -/
structure BdgfnCall (bridges buckets : Nat) extends BdgctlCall bridges buckets where
  listed : List Bdgreq

/-- `breq->nr_arg1++`. -/
def nextEntry (breq : Bdgreq) : Bdgreq :=
  { breq with nrArg1 := breq.nrArg1 + 1 }

/-- The loop of `BDGIOCLIST`. -/
def listLoop (fails : Bool) :
    Nat → Routes bridges buckets → Bdgreq → Option (BdgfnCall bridges buckets)
  | 0, _, _ => none
  | fuel + 1, rt, breq => do
      let call ← ioctl ops fails rt { cmd := .list, breq := breq }
      if call.ret = 0 then
        let rest ← listLoop fails fuel call.rt (nextEntry call.breq)
        return { rest with listed := call.breq :: rest.listed }
      else return { toBdgctlCall := call, listed := [] }

/-- `bdgfn_do`. The result of `BDGIOCADDIF` goes into a variable `rc` of its own block. -/
def bdgfnDo (fails : Bool) (fuel : Nat) (rt : Routes bridges buckets) (io : BdgIoctl) :
    Option (BdgfnCall bridges buckets) :=
  let rc : Int := 0
  match io.cmd with
  | .reg => do
      let call ← ioctl ops fails rt io
      return { toBdgctlCall := call, listed := [] }
  | .addif => do
      let call ← ioctl ops fails rt io
      return { ret := rc, breq := call.breq, rt := call.rt, listed := [] }
  | .list => do
      let call ← listLoop ops fails fuel rt { io.breq with nrArg1 := 0 }
      return { call with ret := rc }
  | .info => some { ret := rc, breq := io.breq, rt := rt, listed := [] }

theorem ioctlResult_bdgfnreg_eq_zero_iff {err : Int} :
    ioctlResult (BridgeKernel.bdgfnreg err) = 0 ↔ ¬ 0 < err := by
  unfold BridgeKernel.bdgfnreg
  split
  · rename_i hfail
    exact iff_of_false (by decide) (not_not_intro hfail)
  · rename_i hok
    exact iff_of_true rfl hok

/-- The request that `bdgfnreg` makes. -/
def regIoctl (breq : Bdgreq) (err : Int) : BdgIoctl where
  cmd := .reg
  breq := breq
  err := err

/-- The request that `bdgaddif` makes. -/
def addifIoctl (breq : Bdgreq) : BdgIoctl where
  cmd := .addif
  breq := breq

/-- Nothing failed on the way to the bridge or there. -/
def Succeeds (fails : Bool) (io : BdgIoctl) : Prop :=
  fails = false ∧ (io.cmd = .reg → io.err = 0)

/-- The call returns `0` exactly when the request succeeded, and a request that did not has
changed nothing on its bridge. -/
def ReportsAndKeeps (fails : Bool) (fuel : Nat) (rt : Routes bridges buckets)
    (io : BdgIoctl) : Prop :=
  ∃ call, bdgfnDo ops fails fuel rt io = some call ∧
    (call.ret = 0 ↔ Succeeds fails io) ∧
    (¬ Succeeds fails io → ∀ k : Fin bridges, onBridge k.val io = true → call.rt k = rt k)

/-- The library hands on the result of a registration and the answer of `netmap_bdg_ctl`
reaches it as far as it is a positive error; the table is written in any case. -/
theorem bdgfnDo_reg (fails : Bool) (fuel : Nat) (rt : Routes bridges buckets) (breq : Bdgreq)
    (err : Int) :
    bdgfnDo ops fails fuel rt (regIoctl breq err) =
      if fails then some { ret := -1, breq := breq, rt := rt, listed := [] }
      else (bridgeIndex bridges breq.bdgIdx).map fun k =>
        { ret := ioctlResult (BridgeKernel.bdgfnreg err), breq := breq,
          rt := Function.update rt k (ops.reg (rt k) breq.bdgPort), listed := [] } := by
  unfold bdgfnDo ioctl bdgctl regIoctl
  cases fails with
  | true => rfl
  | false => cases bridgeIndex bridges breq.bdgIdx <;> rfl

theorem bdgfnDo_addif (fails : Bool) (fuel : Nat) (rt : Routes bridges buckets)
    (breq : Bdgreq) :
    bdgfnDo ops fails fuel rt (addifIoctl breq) =
      if fails then some { ret := 0, breq := breq, rt := rt, listed := [] }
      else (bridgeIndex bridges breq.bdgIdx).map fun k =>
        { ret := 0, breq := breq,
          rt := Function.update rt k (ops.addif (rt k) breq.addrPtr breq.nrDst),
          listed := [] } := by
  unfold bdgfnDo ioctl bdgctl addifIoctl
  cases fails with
  | true => rfl
  | false => cases bridgeIndex bridges breq.bdgIdx <;> rfl

variable {ops} {fails : Bool} {fuel : Nat} {rt : Routes bridges buckets} {breq : Bdgreq}
variable {err : Int}

theorem onBridge_iff {io : BdgIoctl} {k : Fin bridges} :
    onBridge k.val io = true ↔ bridgeIndex bridges io.breq.bdgIdx = some k := by
  rw [bridgeIndex_eq_some, onBridge, beq_iff_eq]

theorem reportsAndKeeps_iff_of_eq {io : BdgIoctl} {call : BdgfnCall bridges buckets}
    (hcall : bdgfnDo ops fails fuel rt io = some call) :
    ReportsAndKeeps ops fails fuel rt io ↔
      (call.ret = 0 ↔ Succeeds fails io) ∧
        (¬ Succeeds fails io → ∀ k : Fin bridges, onBridge k.val io = true →
          call.rt k = rt k) := by
  unfold ReportsAndKeeps
  simp only [hcall, Option.some.injEq, exists_eq_left']

theorem reportsAndKeeps_reg_iff :
    ReportsAndKeeps ops fails fuel rt (regIoctl breq err) ↔
      fails = true ∨ ∃ k : Fin bridges, bridgeIndex bridges breq.bdgIdx = some k ∧
        0 ≤ err ∧ (0 < err → ops.reg (rt k) breq.bdgPort = rt k) := by
  have hdo := bdgfnDo_reg ops fails fuel rt breq err
  cases fails with
  | true =>
      rw [reportsAndKeeps_iff_of_eq hdo]
      refine iff_of_true ⟨iff_of_false ?_ ?_, fun _ _ _ => rfl⟩ (Or.inl rfl)
      · exact show ¬ (-1 : Int) = 0 by decide
      · exact fun hok => Bool.noConfusion hok.1
  | false =>
      have hok : Succeeds false (regIoctl breq err) ↔ err = 0 := by
        simp [Succeeds, regIoctl]
      cases hidx : bridgeIndex bridges breq.bdgIdx with
      | none => simp [ReportsAndKeeps, hdo, hidx]
      | some k =>
          have hret : (¬ 0 < err ↔ err = 0) ↔ 0 ≤ err := by
            omega
          have hsame : (∀ j : Fin bridges, onBridge j.val (regIoctl breq err) = true →
              Function.update rt k (ops.reg (rt k) breq.bdgPort) j = rt j) ↔
                ops.reg (rt k) breq.bdgPort = rt k := by
            simp only [onBridge_iff, regIoctl, hidx, Option.some.injEq, forall_eq',
              Function.update_self]
          rw [hidx] at hdo
          rw [reportsAndKeeps_iff_of_eq hdo]
          simp only [ioctlResult_bdgfnreg_eq_zero_iff, hok, hret, hsame]
          simp only [Bool.false_eq_true, false_or, Option.some.injEq, exists_eq_left']
          refine and_congr_right fun hnonneg => imp_congr_left ?_
          omega

theorem reportsAndKeeps_addif_iff :
    ReportsAndKeeps ops fails fuel rt (addifIoctl breq) ↔
      fails = false ∧ ∃ k : Fin bridges, bridgeIndex bridges breq.bdgIdx = some k := by
  have hdo := bdgfnDo_addif ops fails fuel rt breq
  cases fails with
  | true =>
      rw [reportsAndKeeps_iff_of_eq hdo]
      refine iff_of_false (fun hboth => ?_) (fun hboth => Bool.noConfusion hboth.1)
      exact Bool.noConfusion (hboth.1.mp rfl).1
  | false =>
      have hok : Succeeds false (addifIoctl breq) :=
        ⟨rfl, fun hreg => BdgCmd.noConfusion hreg⟩
      cases hidx : bridgeIndex bridges breq.bdgIdx with
      | none => simp [ReportsAndKeeps, hdo, hidx]
      | some k =>
          rw [hidx] at hdo
          rw [reportsAndKeeps_iff_of_eq hdo]
          refine iff_of_true ⟨iff_of_true rfl hok, fun hfailed => absurd hok hfailed⟩ ?_
          exact ⟨rfl, k, rfl⟩

end Library

theorem macStatic_reg_eq_iff {r : NmRoute nmBdgHash} {bdgPort : UInt32} :
    macStatic.reg r bdgPort = r ↔ r.ctl = bdgPort.toUInt64 := by
  constructor
  · intro hsame
    exact (congrArg NmRoute.ctl hsame).symm
  · intro hctl
    simp only [macStatic, ← hctl]

theorem ipStatic_reg_eq_iff (api : BdgApi) {r : NmRoute ipBdgHash} {bdgPort : UInt32} :
    (ipStatic api).reg r bdgPort = r ↔
      r.ctl = bdgPort.toUInt64 ∧ ∀ j, (r.ht j).ports = bdgPort.toUInt64 := by
  have hreg : (ipStatic api).reg r bdgPort =
      { ht := fun j => { r.ht j with ports := bdgPort.toUInt64 }, ctl := bdgPort.toUInt64 } := by
    have hfill := funext (fillPorts_eq r.ht bdgPort.toUInt64)
    simp only [ipStatic, IpStatic.rtInit, hfill]
  rw [hreg]
  constructor
  · intro hsame
    exact ⟨congrArg NmRoute.ctl hsame.symm, fun j =>
      congrArg (fun r' : NmRoute ipBdgHash => (r'.ht j).ports) hsame.symm⟩
  · rintro ⟨hctl, hports⟩
    have hht : (fun j => { r.ht j with ports := bdgPort.toUInt64 }) = r.ht := by
      funext j
      rw [← hports j]
    rw [hht, ← hctl]

/-- A registration is reported as it ended, and a failed one changes nothing, exactly if the
`ioctl` fails, or the module has the bridge and `netmap_bdg_ctl` succeeds, or it returns a
positive error and the table is already what the registration makes of it. For a route the
`ioctl` must not fail. -/
theorem bdgfnDo_atomic_iff (api : BdgApi) (fails : Bool) (fuel : Nat) (mac : MacRoutes)
    (ip : IpRoutes) (breq : Bdgreq) (err : Int) :
    (ReportsAndKeeps macStatic fails fuel mac (regIoctl breq err) ↔
      fails = true ∨ ∃ k : Fin MacStatic.nmBridges, breq.bdgIdx.toNat = k.val ∧ 0 ≤ err ∧
        (0 < err → (mac k).ctl = breq.bdgPort.toUInt64)) ∧
    (ReportsAndKeeps (ipStatic api) fails fuel ip (regIoctl breq err) ↔
      fails = true ∨ ∃ k : Fin IpStatic.nmBridges, breq.bdgIdx.toNat = k.val ∧ 0 ≤ err ∧
        (0 < err → (ip k).ctl = breq.bdgPort.toUInt64 ∧
          ∀ j, ((ip k).ht j).ports = breq.bdgPort.toUInt64)) ∧
    (ReportsAndKeeps macStatic fails fuel mac (addifIoctl breq) ↔
      fails = false ∧ ∃ k : Fin MacStatic.nmBridges, breq.bdgIdx.toNat = k.val) ∧
    (ReportsAndKeeps (ipStatic api) fails fuel ip (addifIoctl breq) ↔
      fails = false ∧ ∃ k : Fin IpStatic.nmBridges, breq.bdgIdx.toNat = k.val) := by
  simp only [reportsAndKeeps_reg_iff, reportsAndKeeps_addif_iff, macStatic_reg_eq_iff,
    ipStatic_reg_eq_iff, bridgeIndex_eq_some, and_self]

/-- A route for a device that is not there, and registrations that netmap refuses. -/
theorem bdgfnDo_atomic_fails :
    ¬ ReportsAndKeeps macStatic true 0 (macStaticInit netmapBdg)
        (addifIoctl (addRoute 0 stationA 1).breq) ∧
      ¬ ReportsAndKeeps macStatic false 0 (macStaticInit netmapBdg)
        (regIoctl (regBridge 0 1).breq 22) ∧
      ¬ ReportsAndKeeps (ipStatic netmapBdg) false 0 ipStaticInit
        (regIoctl (regBridge 0 1).breq 22) := by
  rw [reportsAndKeeps_addif_iff, reportsAndKeeps_reg_iff, reportsAndKeeps_reg_iff]
  refine ⟨by decide, ?_, ?_⟩
  · rintro (hfails | ⟨k, -, -, hsame⟩)
    · contradiction
    · have hctl := macStatic_reg_eq_iff.mp (hsame (by decide))
      exact absurd hctl (show netmapBdg.nmBdgNoport.toUInt64 ≠ 1 by decide)
  · rintro (hfails | ⟨k, -, -, hsame⟩)
    · contradiction
    · have hctl := ((ipStatic_reg_eq_iff netmapBdg).mp (hsame (by decide))).1
      exact absurd hctl (show (0 : UInt64) ≠ 1 by decide)

end XenNet.BdgfnLibrary

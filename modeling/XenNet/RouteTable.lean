import Mathlib.Logic.Function.Basic
import Mathlib.Data.List.FinRange
import XenNet.BridgeKernel
import XenNet.LastWrite
import XenNet.TransitionSystem

/-!
The ioctl requests of the static lookup modules, and what `mac-static.c` and `ip-static.c`
have in common: one table of routes for each bridge, written by the requests for that
bridge. An access outside the tables has no result.
-/

namespace XenNet.RouteTable

open XenNet.ByteMemory
open XenNet.TransitionSystem
open XenNet.LastWrite
open XenNet.BridgeKernel

structure Bdgreq where
  addr : Vector UInt8 6
  bdgPort : UInt32
  bdgIdx : UInt32
  nrDst : UInt32
  nrArg1 : UInt32
  deriving Repr, DecidableEq

/-- The address as a pointer sees it. -/
def Bdgreq.addrPtr (breq : Bdgreq) : Nat → UInt8 :=
  ofList breq.addr.toList 0

inductive BdgCmd where
  | list
  | addif
  | info
  | reg
  deriving Repr, DecidableEq

/-- A call of the ioctl, with the answer that `netmap_bdg_ctl` gives if it is called. -/
structure BdgIoctl where
  cmd : BdgCmd
  breq : Bdgreq
  err : Int := 0
  deriving Repr, DecidableEq

/-- An entry; `mac-static.c` calls the address `mac`. -/
structure NmRouteEnt where
  addr : UInt64
  ports : UInt64
  deriving Repr, DecidableEq

structure NmRoute (buckets : Nat) where
  ht : Fin buckets → NmRouteEnt
  ctl : UInt64

/-- `rt`: the routes of every bridge. -/
abbrev Routes (bridges buckets : Nat) := Fin bridges → NmRoute buckets

def zeroRoute (buckets : Nat) : NmRoute buckets where
  ht := fun _ => ⟨0, 0⟩
  ctl := 0

section Writers

variable {buckets : Nat}

/-- The loop of `rt_init`. -/
def fillPorts (ht : Fin buckets → NmRouteEnt) (ports : UInt64) : Fin buckets → NmRouteEnt :=
  (List.finRange buckets).foldl
    (fun ht j => Function.update ht j { ht j with ports := ports }) ht

theorem foldl_update_ports (ht : Fin buckets → NmRouteEnt) (ports : UInt64)
    (js : List (Fin buckets)) (j : Fin buckets) :
    js.foldl (fun ht j => Function.update ht j { ht j with ports := ports }) ht j =
      if j ∈ js then { ht j with ports := ports } else ht j := by
  induction js generalizing ht with
  | nil => exact (if_neg List.not_mem_nil).symm
  | cons i js ih =>
      rw [List.foldl_cons, ih]
      rcases eq_or_ne j i with rfl | hji
      · simp
      · simp [hji]

theorem fillPorts_eq (ht : Fin buckets → NmRouteEnt) (ports : UInt64) (j : Fin buckets) :
    fillPorts ht ports j = { ht j with ports := ports } := by
  rw [fillPorts, foldl_update_ports, if_pos (List.mem_finRange j)]

/-- What `bdgaddif2` and `bdgaddif3` write. -/
def putRoute (r : NmRoute buckets) (sh : Fin buckets) (addr : UInt64) (dst : UInt32) :
    NmRoute buckets :=
  { r with ht := Function.update r.ht sh { addr := addr, ports := dst.toUInt64 } }

theorem putRoute_ports (r : NmRoute buckets) (sh : Fin buckets) (addr : UInt64) (dst : UInt32)
    (j : Fin buckets) :
    ((putRoute r sh addr dst).ht j).ports.toUInt32 =
      if sh = j then dst else (r.ht j).ports.toUInt32 := by
  rcases eq_or_ne sh j with rfl | hsh
  · simp [putRoute]
  · simp [putRoute, hsh, Function.update_of_ne hsh.symm]

/-- `bdglist`, which reports the first `len` bytes of an address. -/
def bdglist (len : Nat) (r : NmRoute buckets) (xiter : UInt32) (breq : Bdgreq) :
    Option (Int × Bdgreq) :=
  if xiter.toNat < 2 ^ 31 then
    match (List.finRange buckets).find? fun i : Fin buckets =>
        decide (xiter.toNat ≤ i.val) && (r.ht i).addr != 0 with
    | some i =>
        some (0, { breq with
          addr := Vector.ofFn fun k => if k.val < len
            then ((r.ht i).addr >>> UInt64.ofNat (8 * k.val)).toUInt8 else breq.addr.get k
          bdgPort := (r.ht i).ports.toUInt32
          nrArg1 := UInt32.ofNat i.val })
    | none => some (2, breq)
  else none

end Writers

/-- What distinguishes the two modules. -/
structure RouteModule (buckets : Nat) where
  reg : NmRoute buckets → UInt32 → NmRoute buckets
  addif : NmRoute buckets → (Nat → UInt8) → UInt32 → NmRoute buckets
  addrLen : Nat

section Requests

variable {bridges buckets : Nat} (ops : RouteModule buckets)

def bridgeIndex (bridges : Nat) (bdgIdx : UInt32) : Option (Fin bridges) :=
  if hidx : bdgIdx.toNat < bridges then some ⟨bdgIdx.toNat, hidx⟩ else none

theorem bridgeIndex_eq_some {bdgIdx : UInt32} {k : Fin bridges} :
    bridgeIndex bridges bdgIdx = some k ↔ bdgIdx.toNat = k.val := by
  unfold bridgeIndex
  split
  · rw [Option.some.injEq, Fin.ext_iff]
  · have hk := k.isLt
    constructor
    · intro hnone
      contradiction
    · omega

structure BdgctlCall (bridges buckets : Nat) where
  ret : Int
  breq : Bdgreq
  rt : Routes bridges buckets

def bdgctl (rt : Routes bridges buckets) (io : BdgIoctl) :
    Option (BdgctlCall bridges buckets) :=
  match io.cmd with
  | .reg => do
      let k ← bridgeIndex bridges io.breq.bdgIdx
      return { ret := bdgfnreg io.err, breq := io.breq,
               rt := Function.update rt k (ops.reg (rt k) io.breq.bdgPort) }
  | .list => do
      let k ← bridgeIndex bridges io.breq.bdgIdx
      let (ret, breq) ← bdglist ops.addrLen (rt k) io.breq.nrArg1 io.breq
      return { ret := ret, breq := breq, rt := rt }
  | .addif => do
      let k ← bridgeIndex bridges io.breq.bdgIdx
      return { ret := 0, breq := io.breq,
               rt := Function.update rt k (ops.addif (rt k) io.breq.addrPtr io.breq.nrDst) }
  | .info => some { ret := 0, breq := io.breq, rt := rt }

def bdgctlStep (rt : Routes bridges buckets) (io : BdgIoctl) :
    Option (Routes bridges buckets) :=
  (bdgctl ops rt io).map BdgctlCall.rt

/-- What a request does to the routes of its bridge. -/
def routeStep (r : NmRoute buckets) (io : BdgIoctl) : NmRoute buckets :=
  match io.cmd with
  | .reg => ops.reg r io.breq.bdgPort
  | .addif => ops.addif r io.breq.addrPtr io.breq.nrDst
  | .list | .info => r

def onBridge (k : Nat) (io : BdgIoctl) : Bool :=
  io.breq.bdgIdx.toNat == k

def bridgeRequests (k : Nat) (ios : List BdgIoctl) : List BdgIoctl :=
  ios.filter (onBridge k)

/-- The request, when it is a `BDGIOCADDIF` whose address satisfies `p`. -/
def addifRequest (p : (Nat → UInt8) → Bool) (io : BdgIoctl) : Option Bdgreq :=
  if io.cmd = .addif ∧ p io.breq.addrPtr = true then some io.breq else none

def regRequest (io : BdgIoctl) : Option Bdgreq :=
  if io.cmd = .reg then some io.breq else none

/-- The port of the last route for an address that satisfies `p`. -/
def lastRoute (p : (Nat → UInt8) → Bool) (ios : List BdgIoctl) : Option UInt32 :=
  (lastWrite (addifRequest p) ios).map Bdgreq.nrDst

theorem update_bridge {rt : Routes bridges buckets} {bdgIdx : UInt32} {i : Fin bridges}
    (hi : bridgeIndex bridges bdgIdx = some i) (f : NmRoute buckets → NmRoute buckets)
    (k : Fin bridges) :
    Function.update rt i (f (rt i)) k = if bdgIdx.toNat == k.val then f (rt k) else rt k := by
  have hval := bridgeIndex_eq_some.mp hi
  rcases eq_or_ne k i with rfl | hki
  · rw [Function.update_self, if_pos (beq_iff_eq.mpr hval)]
  · rw [Function.update_of_ne hki, if_neg]
    intro hbeq
    exact hki (Fin.ext ((beq_iff_eq.mp hbeq).symm.trans hval))

theorem bdgctlStep_route {rt rt' : Routes bridges buckets} {io : BdgIoctl}
    (hstep : bdgctlStep ops rt io = some rt') (k : Fin bridges) :
    rt' k = if onBridge k.val io then routeStep ops (rt k) io else rt k := by
  obtain ⟨⟨ret, breq, _⟩, hcall, rfl⟩ := Option.map_eq_some_iff.mp hstep
  unfold bdgctl at hcall
  cases hcmd : io.cmd with
  | reg =>
      simp only [hcmd, Option.bind_eq_bind, Option.bind_eq_some_iff] at hcall
      obtain ⟨i, hi, hcall⟩ := hcall
      cases hcall
      simp only [routeStep, hcmd]
      exact update_bridge hi (fun r => ops.reg r io.breq.bdgPort) k
  | list =>
      simp only [hcmd, Option.bind_eq_bind, Option.bind_eq_some_iff] at hcall
      obtain ⟨_, _, _, _, hcall⟩ := hcall
      cases hcall
      simp only [routeStep, hcmd, ite_self]
  | addif =>
      simp only [hcmd, Option.bind_eq_bind, Option.bind_eq_some_iff] at hcall
      obtain ⟨i, hi, hcall⟩ := hcall
      cases hcall
      simp only [routeStep, hcmd]
      exact update_bridge hi (fun r => ops.addif r io.breq.addrPtr io.breq.nrDst) k
  | info =>
      simp only [hcmd, Option.some.injEq] at hcall
      cases hcall
      simp only [routeStep, hcmd, ite_self]

/-- After a run, the routes of a bridge are what the requests for it made of them. -/
theorem run_route {rt rt' : Routes bridges buckets} {ios : List BdgIoctl}
    (hrun : run (bdgctlStep ops) rt ios = some rt') (k : Fin bridges) :
    rt' k = (bridgeRequests k.val ios).foldl (routeStep ops) (rt k) := by
  induction ios generalizing rt with
  | nil =>
      obtain rfl := Option.some.inj hrun
      rfl
  | cons io ios ih =>
      obtain ⟨u, hu, hrest⟩ := run_cons_eq_some.mp hrun
      rw [ih hrest, bdgctlStep_route ops hu k, bridgeRequests, bridgeRequests, List.filter_cons]
      split <;> rfl

theorem read_run {α : Type*} (read : NmRoute buckets → α) (w : BdgIoctl → Option α)
    (hread : ∀ r io, read (routeStep ops r io) = (w io).getD (read r))
    {rt rt' : Routes bridges buckets} {ios : List BdgIoctl}
    (hrun : run (bdgctlStep ops) rt ios = some rt') (k : Fin bridges) :
    read (rt' k) = (lastWrite w (bridgeRequests k.val ios)).getD (read (rt k)) := by
  rw [run_route ops hrun k]
  exact read_foldl (routeStep ops) read w hread (rt k) _

theorem ctl_run (hreg : ∀ r bdgPort, (ops.reg r bdgPort).ctl = bdgPort.toUInt64)
    (haddif : ∀ r addr dst, (ops.addif r addr dst).ctl = r.ctl)
    {rt rt' : Routes bridges buckets} {ios : List BdgIoctl}
    (hrun : run (bdgctlStep ops) rt ios = some rt') (k : Fin bridges) :
    (rt' k).ctl.toUInt32 =
      ((lastWrite regRequest (bridgeRequests k.val ios)).map Bdgreq.bdgPort).getD
        (rt k).ctl.toUInt32 := by
  rw [← lastWrite_map]
  refine read_run ops (fun r => r.ctl.toUInt32)
    (fun io => (regRequest io).map Bdgreq.bdgPort) ?_ hrun k
  intro r io
  unfold routeStep regRequest
  cases io.cmd with
  | reg =>
      dsimp only
      rw [hreg]
      exact UInt32.toUInt32_toUInt64 io.breq.bdgPort
  | addif =>
      dsimp only
      rw [haddif]
      rfl
  | list => rfl
  | info => rfl

theorem bdglist_isSome (len : Nat) (r : NmRoute buckets) (xiter : UInt32) (breq : Bdgreq) :
    (bdglist len r xiter breq).isSome = decide (xiter.toNat < 2 ^ 31) := by
  unfold bdglist
  split
  · rename_i hlt
    rw [decide_eq_true hlt]
    split <;> rfl
  · rename_i hge
    rw [decide_eq_false hge]
    rfl

theorem bdgctlStep_isSome (rt rt' : Routes bridges buckets) (io : BdgIoctl) :
    (bdgctlStep ops rt io).isSome = (bdgctlStep ops rt' io).isSome := by
  unfold bdgctlStep bdgctl
  rw [Option.isSome_map, Option.isSome_map]
  cases io.cmd with
  | reg => cases bridgeIndex bridges io.breq.bdgIdx <;> rfl
  | list =>
      cases bridgeIndex bridges io.breq.bdgIdx with
      | none => rfl
      | some k =>
          simp only [Option.bind_eq_bind, Option.bind_some, Option.isSome_bind]
          simp [bdglist_isSome]
  | addif => cases bridgeIndex bridges io.breq.bdgIdx <;> rfl
  | info => rfl

theorem exists_run_filter {rt rt' : Routes bridges buckets} {ios : List BdgIoctl}
    (hrun : run (bdgctlStep ops) rt ios = some rt') (p : BdgIoctl → Bool)
    (rt₀ : Routes bridges buckets) :
    ∃ rt₁, run (bdgctlStep ops) rt₀ (ios.filter p) = some rt₁ := by
  induction ios generalizing rt rt₀ with
  | nil => exact ⟨rt₀, rfl⟩
  | cons io ios ih =>
      obtain ⟨u, hu, hrest⟩ := run_cons_eq_some.mp hrun
      rw [List.filter_cons]
      split
      · obtain ⟨v, hv⟩ : ∃ v, bdgctlStep ops rt₀ io = some v := by
          rw [← Option.isSome_iff_exists, bdgctlStep_isSome ops rt₀ rt io, hu]
          rfl
        obtain ⟨rt₁, hrun₁⟩ := ih hrest v
        exact ⟨rt₁, run_cons_eq_some.mpr ⟨v, hv, hrun₁⟩⟩
      · exact ih hrest rt₀

end Requests

end XenNet.RouteTable

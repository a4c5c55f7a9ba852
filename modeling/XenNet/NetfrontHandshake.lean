import XenNet.NetbackLifecycle
import XenNet.NetfrontSetup

/-!
How the backend gets the event channels of the guest: the guest writes both ports in one
transaction, which it tries again as often as the store asks for it, and the backend reads them
when it connects. The guest goes on whatever became of the writes.
-/

namespace XenNet.NetfrontHandshake

open XenNet.TransitionSystem
open XenNet.InterruptLines
open XenNet.NumberedName
open XenNet.KernelScan
open XenNet.NetfrontSetup (NetmapEvtchns)
open XenNet.NetbackInterface
open XenNet.InterfaceBooks
open XenNet.InterfaceConnect
open XenNet.NetbackXenbus
open XenNet.BackendBooks
open XenNet.NetbackLifecycle

def efault : Errno := ⟨-14, by decide⟩

/-- What is answered in one attempt: at the start of the transaction, to the two writes, and at
the end. `xbt` is what the variable of that name holds after the start: the transaction, or what
was on the stack before if it could not be started. `XBT_NIL` is 0. -/
structure EvtchnAttempt where
  start : Int
  xbt : UInt32
  txPrintf : Int
  rxPrintf : Int
  finish : Int
  ne_nil : start = 0 → xbt ≠ 0
  deriving Repr, DecidableEq

def evtchnNodes (ni : NetmapEvtchns) : List (String × List Char) :=
  [("event-channel-tx", decimal ni.txEvtchn.toNat), ("event-channel-rx", decimal ni.rxEvtchn.toNat)]

/-- The nodes that a call writes to the store, in order, the messages that it passes to `vfree`,
and the value that it returns. -/
structure EvtchnWrite where
  written : List (String × List Char)
  freed : List String
  ret : Int
  deriving Repr, DecidableEq

/-- A write that belongs to no transaction takes effect at once. -/
def EvtchnAttempt.direct (attempt : EvtchnAttempt) (nodes : List (String × List Char)) :
    List (String × List Char) :=
  if attempt.xbt = 0 then nodes else []

/-- `xenbus_write_evtchn`. The value of `xenbus_transaction_start` is not looked at. There is no
result as long as the transaction has to be tried again. -/
def xenbusWriteEvtchn (ni : NetmapEvtchns) : List EvtchnAttempt → Option EvtchnWrite
  | [] => none
  | attempt :: attempts =>
      if attempt.txPrintf ≠ 0 then
        -- `abort_transaction` frees the message and goes to `error`, which frees it again
        some ⟨[], ["Writing event-channel-tx", "Writing event-channel-tx"], efault.err⟩
      else if attempt.rxPrintf ≠ 0 then
        some ⟨attempt.direct ((evtchnNodes ni).take 1),
          ["Writing event-channel-rx", "Writing event-channel-rx"], efault.err⟩
      else if attempt.finish = eagain.err then
        (xenbusWriteEvtchn ni attempts).map fun rest =>
          { rest with written := attempt.direct (evtchnNodes ni) ++ rest.written }
      else if attempt.finish ≠ 0 then
        some ⟨attempt.direct (evtchnNodes ni), ["completing transaction"], efault.err⟩
      else some ⟨evtchnNodes ni, [], 0⟩

namespace EvtchnAttempt

variable (attempt : EvtchnAttempt)

def Again : Prop :=
  attempt.txPrintf = 0 ∧ attempt.rxPrintf = 0 ∧ attempt.finish = eagain.err

def Commits : Prop :=
  attempt.txPrintf = 0 ∧ attempt.rxPrintf = 0 ∧ attempt.finish = 0

variable {attempt}

theorem direct_of_started (hstart : attempt.start = 0) (nodes : List (String × List Char)) :
    attempt.direct nodes = [] :=
  if_neg (attempt.ne_nil hstart)

end EvtchnAttempt

/-- What the attempt that decides makes of a call. -/
structure Decides (ni : NetmapEvtchns) (last : EvtchnAttempt) (write : EvtchnWrite) : Prop where
  final : ¬last.Again
  committed : last.Commits →
    write.ret = 0 ∧ write.freed = [] ∧ evtchnNodes ni <:+ write.written
  failed : ¬last.Commits → write.ret = efault.err ∧
    write.freed.length = if last.txPrintf = 0 ∧ last.rxPrintf = 0 then 1 else 2

section Write

variable {ni : NetmapEvtchns} {attempt : EvtchnAttempt} {attempts : List EvtchnAttempt}
  {write : EvtchnWrite}

theorem xenbusWriteEvtchn_of_again (hagain : attempt.Again) :
    xenbusWriteEvtchn ni (attempt :: attempts) =
      (xenbusWriteEvtchn ni attempts).map fun rest =>
        { rest with written := attempt.direct (evtchnNodes ni) ++ rest.written } := by
  obtain ⟨htx, hrx, hfinish⟩ := hagain
  rw [xenbusWriteEvtchn, if_neg (not_not.mpr htx), if_neg (not_not.mpr hrx), if_pos hfinish]

theorem decides_of_not_again (hfinal : ¬attempt.Again)
    (hwrite : xenbusWriteEvtchn ni (attempt :: attempts) = some write) :
    Decides ni attempt write ∧
      (attempt.start = 0 → write.written = if write.ret = 0 then evtchnNodes ni else []) := by
  have hne : efault.err ≠ 0 := by decide
  by_cases htx : attempt.txPrintf = 0
  · by_cases hrx : attempt.rxPrintf = 0
    · have hagain : attempt.finish ≠ eagain.err := fun hfinish => hfinal ⟨htx, hrx, hfinish⟩
      rw [xenbusWriteEvtchn, if_neg (not_not.mpr htx), if_neg (not_not.mpr hrx),
        if_neg hagain] at hwrite
      by_cases hfinish : attempt.finish = 0
      · rw [if_neg (not_not.mpr hfinish)] at hwrite
        obtain rfl := Option.some.inj hwrite
        have hcommits : attempt.Commits := ⟨htx, hrx, hfinish⟩
        exact ⟨⟨hfinal, fun _ => ⟨rfl, rfl, List.suffix_rfl⟩, fun hnot => absurd hcommits hnot⟩,
          fun _ => rfl⟩
      · rw [if_pos hfinish] at hwrite
        obtain rfl := Option.some.inj hwrite
        refine ⟨⟨hfinal, fun hcommits => absurd hcommits.2.2 hfinish,
          fun _ => ⟨rfl, (if_pos ⟨htx, hrx⟩).symm⟩⟩, fun hstart => ?_⟩
        rw [if_neg hne]
        exact attempt.direct_of_started hstart _
    · rw [xenbusWriteEvtchn, if_neg (not_not.mpr htx), if_pos hrx] at hwrite
      obtain rfl := Option.some.inj hwrite
      refine ⟨⟨hfinal, fun hcommits => absurd hcommits.2.1 hrx,
        fun _ => ⟨rfl, (if_neg fun hboth => hrx hboth.2).symm⟩⟩, fun hstart => ?_⟩
      rw [if_neg hne]
      exact attempt.direct_of_started hstart _
  · rw [xenbusWriteEvtchn, if_pos htx] at hwrite
    obtain rfl := Option.some.inj hwrite
    exact ⟨⟨hfinal, fun hcommits => absurd hcommits.1 htx,
      fun _ => ⟨rfl, (if_neg fun hboth => htx hboth.1).symm⟩⟩, fun _ => (if_neg hne).symm⟩

theorem Decides.prepend (hdecides : Decides ni attempt write)
    (nodes : List (String × List Char)) :
    Decides ni attempt { write with written := nodes ++ write.written } where
  final := hdecides.final
  committed := fun hcommits =>
    have hdone := hdecides.committed hcommits
    ⟨hdone.1, hdone.2.1, hdone.2.2.trans (List.suffix_append nodes _)⟩
  failed := hdecides.failed

theorem xenbusWriteEvtchn_decides (hwrite : xenbusWriteEvtchn ni attempts = some write) :
    ∃ before last after, attempts = before ++ last :: after ∧ (∀ a ∈ before, a.Again) ∧
      Decides ni last write ∧
      ((∀ a ∈ before ++ [last], a.start = 0) →
        write.written = if write.ret = 0 then evtchnNodes ni else []) := by
  induction attempts generalizing write with
  | nil => contradiction
  | cons attempt attempts ih =>
      by_cases hagain : attempt.Again
      · rw [xenbusWriteEvtchn_of_again hagain] at hwrite
        obtain ⟨rest, hrest, rfl⟩ := Option.map_eq_some_iff.mp hwrite
        obtain ⟨before, last, after, rfl, hbefore, hdecides, hwritten⟩ := ih hrest
        refine ⟨attempt :: before, last, after, rfl, ?_, hdecides.prepend _, fun hstart => ?_⟩
        · exact List.forall_mem_cons.mpr ⟨hagain, hbefore⟩
        · obtain ⟨hfirst, hothers⟩ := List.forall_mem_cons.mp hstart
          rw [attempt.direct_of_started hfirst, List.nil_append]
          exact hwritten hothers
      · obtain ⟨hdecides, hwritten⟩ := decides_of_not_again hagain hwrite
        refine ⟨[], attempt, attempts, rfl, fun a ha => absurd ha List.not_mem_nil, hdecides,
          fun hstart => hwritten (hstart attempt (List.mem_singleton_self attempt))⟩

theorem xenbusWriteEvtchn_eq_none_iff :
    xenbusWriteEvtchn ni attempts = none ↔ ∀ a ∈ attempts, a.Again := by
  constructor
  · intro hnone
    induction attempts with
    | nil => exact fun a ha => absurd ha List.not_mem_nil
    | cons attempt attempts ih =>
        by_cases hagain : attempt.Again
        · rw [xenbusWriteEvtchn_of_again hagain, Option.map_eq_none_iff] at hnone
          exact List.forall_mem_cons.mpr ⟨hagain, ih hnone⟩
        · unfold xenbusWriteEvtchn at hnone
          split_ifs at hnone with htx hrx hfinish
          exact absurd ⟨not_not.mp htx, not_not.mp hrx, hfinish⟩ hagain
  · intro hall
    induction attempts with
    | nil => rfl
    | cons attempt attempts ih =>
        obtain ⟨hagain, hothers⟩ := List.forall_mem_cons.mp hall
        rw [xenbusWriteEvtchn_of_again hagain, ih hothers, Option.map_none]

/-- A call goes on as long as the store asks for it. The first attempt that is not tried again
decides: both nodes are written, or `-EFAULT` is returned after `vfree` was called on a string
constant, twice if a write failed. If every transaction could be started, nothing is written by a
call that fails. -/
theorem xenbusWriteEvtchn_outcome (ni : NetmapEvtchns) (attempts : List EvtchnAttempt) :
    (xenbusWriteEvtchn ni attempts = none ↔ ∀ a ∈ attempts, a.Again) ∧
      ∀ write, xenbusWriteEvtchn ni attempts = some write →
        ∃ before last after, attempts = before ++ last :: after ∧ (∀ a ∈ before, a.Again) ∧
          Decides ni last write ∧
          ((∀ a ∈ before ++ [last], a.start = 0) →
            write.written = if write.ret = 0 then evtchnNodes ni else []) :=
  ⟨xenbusWriteEvtchn_eq_none_iff, fun _ hwrite => xenbusWriteEvtchn_decides hwrite⟩

/-- A transaction that has to be tried again, and then one that is committed. -/
def sampleAttempts : List EvtchnAttempt :=
  [⟨0, 1, 0, 0, -11, by decide⟩, ⟨0, 2, 0, 0, 0, by decide⟩]

def sampleEvtchns : NetmapEvtchns := ⟨7, 0, 8, 0⟩

theorem xenbusWriteEvtchn_outcome_sample :
    ∃ last, Decides sampleEvtchns last ⟨evtchnNodes sampleEvtchns, [], 0⟩ := by
  have hwrite : xenbusWriteEvtchn sampleEvtchns sampleAttempts =
      some ⟨evtchnNodes sampleEvtchns, [], 0⟩ := rfl
  obtain ⟨before, last, after, -, -, hdecides, -⟩ :=
    (xenbusWriteEvtchn_outcome sampleEvtchns sampleAttempts).2 _ hwrite
  exact ⟨last, hdecides⟩

end Write

/-- The store answers with the last text that was written to a node of the directory. -/
def Shows (store : Xenstore) (dir : String) (written : List (String × List Char)) : Prop :=
  ∀ node text, written.reverse.lookup node = some text → store dir node = .ok text

section Read

variable {ni : NetmapEvtchns} {store : Xenstore} {dir : String}
  {written : List (String × List Char)}

theorem port_of_decimal (port : UInt32) : (UInt64.ofNat port.toNat).toUInt32 = port := by
  apply UInt32.toNat_inj.mp
  have hlt := port.toNat_lt
  rw [UInt64.toNat_toUInt32, UInt64.toNat_ofNat']
  omega

theorem nodes_of_shows (hsuffix : evtchnNodes ni <:+ written) (hshows : Shows store dir written) :
    store dir "event-channel-tx" = .ok (decimal ni.txEvtchn.toNat) ∧
      store dir "event-channel-rx" = .ok (decimal ni.rxEvtchn.toNat) := by
  obtain ⟨earlier, rfl⟩ := hsuffix
  constructor <;> refine hshows _ _ ?_ <;> rw [List.reverse_append] <;> rfl

theorem readEvtchns_of_shows (hsuffix : evtchnNodes ni <:+ written)
    (hshows : Shows store dir written) :
    readEvtchns store dir = .ok (ni.txEvtchn, ni.rxEvtchn) := by
  obtain ⟨htx, hrx⟩ := nodes_of_shows hsuffix hshows
  have hgather : xenbusGather (scanU 10) store dir "event-channel-tx" "event-channel-rx" (0, 0) =
      (none, UInt64.ofNat ni.txEvtchn.toNat, UInt64.ofNat ni.rxEvtchn.toNat) := by
    simp only [xenbusGather, htx, hrx, scanU_decimal, Option.elim_some]
  rw [readEvtchns, hgather]
  dsimp only
  rw [port_of_decimal, port_of_decimal]

end Read

/-- What the answers must be for two event channels to be connected. -/
def Binds (call : ConnectAnswers) : Prop :=
  0 ≤ call.txBind.err ∧ 0 ≤ call.rxBind.err ∧ call.kthread = .thread

instance (call : ConnectAnswers) : Decidable (Binds call) :=
  inferInstanceAs (Decidable (_ ∧ _ ∧ _))

theorem not_connectFails_iff {txEvtchn rxEvtchn : UInt32} (hports : txEvtchn ≠ rxEvtchn)
    (call : ConnectAnswers) : ¬ConnectFails true txEvtchn rxEvtchn call ↔ Binds call := by
  unfold ConnectFails BindFails Binds
  have hmode : ¬(true = false ∧ call.map < 0) := fun hboth => absurd hboth.1 (by decide)
  constructor
  · intro hnone
    obtain ⟨-, hbind, hkthread⟩ := not_or.mp hnone |>.imp id not_or.mp
    obtain ⟨htx, hrx⟩ := not_or.mp hbind
    exact ⟨Int.not_lt.mp htx, Int.not_lt.mp fun hlt => hrx ⟨hports, hlt⟩, not_not.mp hkthread⟩
  · rintro ⟨htx, hrx, hkthread⟩ (hmap | (hlt | ⟨-, hlt⟩) | hne)
    · exact hmode hmap
    · exact absurd htx (Int.not_le.mpr hlt)
    · exact absurd hrx (Int.not_le.mpr hlt)
    · exact hne hkthread

/-- What `connect_rings` makes of a guest in netmap mode with two ports: no line is misused, and
if it succeeds each handler is bound to the interrupt of its own port. -/
structure ConnectsPorts (be : Backend) (call : ConnectAnswers) (next : Backend) (ret : Int) :
    Prop where
  misuses : next.kernel.misuses = be.kernel.misuses
  ret_eq_zero : ret = 0 ↔ Binds call
  lines : ret = 0 → ∃ depth, next.kernel.lines =
    twoLines call.txBind.err.toNat call.rxBind.err.toNat .xenvifTxInterrupt .xenvifRxInterrupt
      depth
  threads : ret = 0 → next.kernel.threads = [.xenvifNetmapKthread]

theorem prepareRings_of_netmap {dev : XenbusDevice} (vif : Xenvif) {call : ConnectCall}
    {evtchns : UInt32 × UInt32}
    (hnetmap : readFlag call.store dev.nodename "feature-netmap" = true)
    (hread : readEvtchns call.store dev.otherend = .ok evtchns) :
    ∃ setup, prepareRings dev vif call = .ok setup ∧ setup.vif = { vif with netmap := true } ∧
      setup.evtchns = evtchns := by
  refine ⟨⟨{ vif with netmap := true },
    (xenbusGather (scanU 10) call.store dev.otherend "tx-ring-ref" "rx-ring-ref" call.stack).2,
    evtchns⟩, ?_, rfl, rfl⟩
  unfold prepareRings
  simp only [hnetmap, hread, if_true]

theorem connectsPorts_of_spec {be : Backend} {vif : Xenvif} {t : Interface} {ret : Int}
    {txEvtchn rxEvtchn : UInt32} {call : ConnectAnswers} (hports : txEvtchn ≠ rxEvtchn)
    (hnetmap : vif.netmap = true)
    (hspec : ConnectSpec ⟨be.kernel, vif⟩ txEvtchn rxEvtchn call t ret) {next : Backend}
    (hkernel : next.kernel = t.kernel) : ConnectsPorts be call next ret := by
  have hfails : ¬ConnectFails vif.netmap txEvtchn rxEvtchn call ↔ Binds call := by
    rw [hnetmap]
    exact not_connectFails_iff hports call
  have hret : ret = 0 ↔ Binds call :=
    ⟨fun hzero => hfails.mp fun hfail => (hspec.failed hfail).1 hzero,
      fun hbinds => (hspec.connected (hfails.mpr hbinds)).1⟩
  have hone : ¬UnbindsTwice vif.netmap txEvtchn rxEvtchn call := fun htwice =>
    hports htwice.2.1.1
  refine ⟨?_, hret, fun hzero => ?_, fun hzero => ?_⟩ <;> rw [hkernel]
  · have hmisuses := hspec.misuses
    rw [if_neg hone] at hmisuses
    exact hmisuses
  · have hbinds := hret.mp hzero
    obtain ⟨htx, hrx⟩ := hspec.irqs (hfails.mpr hbinds) hports
    have hneTx : t.vif.txIrq ≠ 0 := by
      rw [htx]
      exact NetbackConnect.BindAnswer.toNat_ne_zero (Int.not_lt.mpr hbinds.1)
    have hne : t.vif.txIrq ≠ t.vif.rxIrq := by
      rw [htx, hrx]
      have hirq := call.ne_irq.resolve_right (Int.not_lt.mpr hbinds.2.1)
      have hbound := hbinds.1
      have hbound' := hbinds.2.1
      omega
    refine ⟨maskDepth t.vif, ?_⟩
    have hlines := hspec.books.lines.trans (linesOf_two hneTx hne)
    rw [htx, hrx] at hlines
    exact hlines
  · have hbinds := hret.mp hzero
    have hneTx : t.vif.txIrq ≠ 0 := by
      rw [(hspec.irqs (hfails.mpr hbinds) hports).1]
      exact NetbackConnect.BindAnswer.toNat_ne_zero (Int.not_lt.mpr hbinds.1)
    have hthreads := hspec.books.threads
    rw [hspec.books.task, if_neg hneTx, threadFn, hspec.netmap, hnetmap] at hthreads
    exact hthreads

/-- `connect_rings` reads the two ports, and calls `xenvif_connect` with them in this order. -/
structure PassesPorts (be : Backend) (vif : Xenvif) (call : ConnectCall)
    (txEvtchn rxEvtchn : UInt32) (next : Backend) (ret : Int) : Prop where
  read : readEvtchns call.store be.dev.otherend = .ok (txEvtchn, rxEvtchn)
  connect : ∃ setup vif', prepareRings be.dev vif call = .ok setup ∧
    xenvifConnect ⟨be.kernel, setup.vif⟩ txEvtchn rxEvtchn call.connect =
      .ok (⟨next.kernel, vif'⟩, ret) ∧
    next.vif = some vif'

theorem exists_connectRings {be : Backend} {vif : Xenvif} {call : ConnectCall}
    {setup : RingSetup} {t : Interface} {ret : Int}
    (hprepare : prepareRings be.dev vif call = .ok setup)
    (hconnect : xenvifConnect ⟨be.kernel, setup.vif⟩ setup.evtchns.1 setup.evtchns.2
      call.connect = .ok (t, ret)) :
    ∃ next, connectRings be vif call = .ok (next, ret) ∧ next.kernel = t.kernel ∧
      next.vif = some t.vif := by
  simp only [connectRings, hprepare, hconnect]
  split
  · exact ⟨_, rfl, rfl, rfl⟩
  · rename_i hzero
    obtain rfl : ret = 0 := not_not.mp hzero
    exact ⟨_, rfl, rfl, rfl⟩

section Handshake

variable {dev : XenbusDevice} {kernel : Kernel} {separateTxRxIrq : Bool} {probe : ProbeCall}
  {remove : ConnectCall} {be : Backend} {nodes : List (String × String)} {ret : Int}

/-- The store after the guest's writes; every other node reads as `1`. -/
def shownStore : Xenstore := fun _ node =>
  .ok (((evtchnNodes sampleEvtchns).lookup node).getD ['1'])

theorem shows_shownStore (dir : String) : Shows shownStore dir (evtchnNodes sampleEvtchns) := by
  intro node text hlookup
  change (List.lookup node [("event-channel-rx", _), ("event-channel-tx", _)]) = _ at hlookup
  simp only [List.lookup_cons] at hlookup
  simp only [shownStore, evtchnNodes, List.lookup_cons]
  split at hlookup
  · rename_i hrx
    rw [beq_iff_eq] at hrx
    subst hrx
    exact congrArg Except.ok (Option.some.inj hlookup)
  · split at hlookup
    · exact congrArg Except.ok (Option.some.inj hlookup)
    · contradiction

def shownCall : ConnectCall :=
  { sampleConnect .thread with store := shownStore }

/-- The frontend connected, closed, and began again. -/
def sampleAgain : List Event :=
  sampleStart .thread ++
    [.frontendChanged 6 true (sampleConnect .thread),
      .frontendChanged 1 true (sampleConnect .thread)]

end Handshake

end XenNet.NetfrontHandshake

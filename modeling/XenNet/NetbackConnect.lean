import XenNet.TransitionSystem

namespace XenNet.NetbackConnect

open XenNet.TransitionSystem

inductive HandlerFn where
  | xenvifInterrupt
  | xenvifTxInterrupt
  | xenvifRxInterrupt
  deriving Repr, DecidableEq

structure IrqHandler where
  fn : HandlerFn
  irq : Nat
  deriving Repr, DecidableEq

/-- `vif->task`, which is an error pointer after a failed `kthread_create`. -/
inductive Task where
  | null
  | thread
  | errPtr (errno : Nat)
  deriving Repr, DecidableEq

def Task.isErr : Task → Bool
  | .errPtr _ => true
  | .null | .thread => false

/-- `struct xenvif`, with the handlers that are bound, the last one first, and the number of
threads that were created. -/
structure Xenvif where
  netmap : Bool
  irq : Nat
  txIrq : Nat
  rxIrq : Nat
  task : Task
  ringsMapped : Bool
  handlers : List IrqHandler
  kthreads : Nat
  deriving Repr, DecidableEq

/-- What `bind_interdomain_evtchn_to_irqhandler` returns: an interrupt, which is never `0`,
or a negative error. -/
structure BindAnswer where
  err : Int
  ne_zero : err ≠ 0

theorem BindAnswer.toNat_ne_zero {answer : BindAnswer} (hbound : ¬answer.err < 0) :
    answer.err.toNat ≠ 0 := by
  have hne := answer.ne_zero
  omega

inductive KthreadAnswer where
  | thread
  | errPtr (errno : Nat)
  deriving Repr, DecidableEq

/-- The arguments of a call and what the functions that it calls answer. -/
structure ConnectCall where
  txEvtchn : UInt32
  rxEvtchn : UInt32
  map : Int
  txBind : BindAnswer
  rxBind : BindAnswer
  kthread : KthreadAnswer

/-- A call for two event channels. -/
structure SplitCall extends ConnectCall where
  split : txEvtchn ≠ rxEvtchn

/-- The handlers `bound` by the call include those that it unbound again. -/
structure ConnectResult where
  vif : Xenvif
  ret : Int
  bound : List IrqHandler

def bindHandler (vif : Xenvif) (fn : HandlerFn) (irq : Nat) : Xenvif :=
  { vif with handlers := ⟨fn, irq⟩ :: vif.handlers }

def unbindFromIrqhandler (vif : Xenvif) (irq : Nat) : Xenvif :=
  { vif with handlers := vif.handlers.eraseP fun h => h.irq == irq }

def errUnmap (vif : Xenvif) : Xenvif :=
  { vif with ringsMapped := false }

def errTxUnbind (vif : Xenvif) : Xenvif :=
  errUnmap { unbindFromIrqhandler vif vif.txIrq with txIrq := 0 }

def errRxUnbind (vif : Xenvif) : Xenvif :=
  errTxUnbind { unbindFromIrqhandler vif vif.rxIrq with rxIrq := 0 }

/-- Where the copies of `xenvif_connect` differ: the test for a vif that is connected, the
fields that take the interrupt of a single event channel, and the label that a failed
`kthread_create` jumps to. -/
structure ConnectVersion where
  connected : Xenvif → Bool
  setIrq : Xenvif → Nat → Xenvif
  errKthread : Xenvif → Xenvif

/-- The text that the copies share. -/
def connectWith (version : ConnectVersion) (vif : Xenvif) (call : ConnectCall) :
    ConnectResult :=
  if version.connected vif then ⟨vif, 0, []⟩
  else if !vif.netmap && call.map < 0 then ⟨vif, call.map, []⟩
  else
    let vif := if vif.netmap then vif else { vif with ringsMapped := true }
    let txIrq := call.txBind.err.toNat
    let rxIrq := call.rxBind.err.toNat
    if call.txEvtchn = call.rxEvtchn then
      if call.txBind.err < 0 then ⟨errUnmap vif, call.txBind.err, []⟩
      else
        ⟨version.setIrq (bindHandler vif .xenvifInterrupt txIrq) txIrq, 0,
          [⟨.xenvifInterrupt, txIrq⟩]⟩
    else if call.txBind.err < 0 then ⟨errUnmap vif, call.txBind.err, []⟩
    else
      let vif := { bindHandler vif .xenvifTxInterrupt txIrq with txIrq := txIrq }
      if call.rxBind.err < 0 then
        ⟨errTxUnbind vif, call.rxBind.err, [⟨.xenvifTxInterrupt, txIrq⟩]⟩
      else
        let vif := { bindHandler vif .xenvifRxInterrupt rxIrq with rxIrq := rxIrq }
        let bound := [⟨.xenvifRxInterrupt, rxIrq⟩, ⟨.xenvifTxInterrupt, txIrq⟩]
        match call.kthread with
        | .errPtr errno =>
            ⟨version.errKthread { vif with task := .errPtr errno }, -(errno + 1 : Int), bound⟩
        | .thread => ⟨{ vif with task := .thread, kthreads := vif.kthreads + 1 }, 0, bound⟩

/-- The patch for 3.6. -/
def version30600 : ConnectVersion where
  connected := fun vif => vif.irq != 0
  setIrq := fun vif irq => { vif with irq := irq }
  errKthread := errRxUnbind

/-- The patch for 3.11, which leaves the test for a connected vif to the file it patches. -/
def version30b00 (connected : Xenvif → Bool) : ConnectVersion where
  connected := connected
  setIrq := fun vif irq => { vif with txIrq := irq, rxIrq := irq }
  errKthread := errTxUnbind

def xenvifConnect30600 : Xenvif → ConnectCall → ConnectResult :=
  connectWith version30600

def xenvifConnect30b00 (connected : Xenvif → Bool) : Xenvif → ConnectCall → ConnectResult :=
  connectWith (version30b00 connected)

/-- A vif in netmap mode that was never connected. -/
def freshVif : Xenvif where
  netmap := true
  irq := 0
  txIrq := 0
  rxIrq := 0
  task := .null
  ringsMapped := false
  handlers := []
  kthreads := 0

/-- The handlers of both channels, and the fields that hold their interrupts. -/
def bindBoth (vif : Xenvif) (call : SplitCall) : Xenvif :=
  { vif with
    handlers := ⟨.xenvifRxInterrupt, call.rxBind.err.toNat⟩ ::
      ⟨.xenvifTxInterrupt, call.txBind.err.toNat⟩ :: vif.handlers
    txIrq := call.txBind.err.toNat
    rxIrq := call.rxBind.err.toNat }

def boundBoth (call : SplitCall) : List IrqHandler :=
  [⟨.xenvifRxInterrupt, call.rxBind.err.toNat⟩, ⟨.xenvifTxInterrupt, call.txBind.err.toNat⟩]

/-- How a call on a vif that counts as not connected can end. -/
inductive SplitOutcome (version : ConnectVersion) (vif : Xenvif) (call : SplitCall) :
    ConnectResult → Prop where
  | txFailed (htx : call.txBind.err < 0) :
      SplitOutcome version vif call ⟨errUnmap vif, call.txBind.err, []⟩
  | rxFailed (htx : ¬call.txBind.err < 0) (hrx : call.rxBind.err < 0) :
      SplitOutcome version vif call ⟨{ vif with txIrq := 0, ringsMapped := false },
        call.rxBind.err, [⟨.xenvifTxInterrupt, call.txBind.err.toNat⟩]⟩
  | kthreadFailed (htx : ¬call.txBind.err < 0) (hrx : ¬call.rxBind.err < 0) (errno : Nat)
      (hkthread : call.kthread = .errPtr errno) :
      SplitOutcome version vif call
        ⟨version.errKthread { bindBoth vif call with task := .errPtr errno },
          -(errno + 1 : Int), boundBoth call⟩
  | connected (htx : ¬call.txBind.err < 0) (hrx : ¬call.rxBind.err < 0)
      (hkthread : call.kthread = .thread) :
      SplitOutcome version vif call
        ⟨{ bindBoth vif call with task := .thread, kthreads := vif.kthreads + 1 }, 0,
          boundBoth call⟩

theorem connectWith_outcome (version : ConnectVersion) {vif : Xenvif}
    (hnetmap : vif.netmap = true) (hconnected : version.connected vif = false)
    (call : SplitCall) :
    SplitOutcome version vif call (connectWith version vif call.toConnectCall) := by
  unfold connectWith
  simp only [hconnected, hnetmap, if_neg call.split, Bool.false_eq_true, Bool.not_true,
    Bool.false_and, if_false, if_true]
  by_cases htx : call.txBind.err < 0
  · rw [if_pos htx]
    exact .txFailed htx
  · rw [if_neg htx]
    by_cases hrx : call.rxBind.err < 0
    · have hfailed : SplitOutcome version vif call _ := .rxFailed htx hrx
      rw [if_pos hrx]
      simpa [errTxUnbind, errUnmap, unbindFromIrqhandler, bindHandler] using hfailed
    · rw [if_neg hrx]
      cases hkthread : call.kthread with
      | errPtr errno => exact .kthreadFailed htx hrx errno hkthread
      | thread => exact .connected htx hrx hkthread

/-- A call that fails leaves nothing behind. -/
def FailsClean (vif : Xenvif) (result : ConnectResult) : Prop :=
  result.ret < 0 → result.vif.handlers = vif.handlers ∧ result.vif.txIrq = 0 ∧
    result.vif.rxIrq = 0 ∧ result.vif.task.isErr = false

theorem failsClean_of_success {vif : Xenvif} {result : ConnectResult} (hret : result.ret = 0) :
    FailsClean vif result :=
  fun hneg => by omega

/-- A call on a vif with handlers adds none, and no thread. -/
def RefusesSecond (vif : Xenvif) (result : ConnectResult) : Prop :=
  vif.handlers ≠ [] → result.bound = [] ∧ result.vif.kthreads = vif.kthreads

/-- The thread is created, if the call comes to it. -/
def ThreadCreated (call : SplitCall) : Prop :=
  call.txBind.err < 0 ∨ call.rxBind.err < 0 ∨ call.kthread = .thread

def step30600 (vif : Xenvif) (call : SplitCall) : Option Xenvif :=
  some (xenvifConnect30600 vif call.toConnectCall).vif

def step30b00 (connected : Xenvif → Bool) (vif : Xenvif) (call : SplitCall) : Option Xenvif :=
  some (xenvifConnect30b00 connected vif call.toConnectCall).vif

section Patch30600

/-- Nothing is bound, or one handler for each channel; a thread comes with the handlers. -/
structure Books (vif : Xenvif) : Prop where
  netmap : vif.netmap = true
  irq : vif.irq = 0
  noErr : vif.task.isErr = false
  handlers : (vif.handlers = [] ∧ vif.txIrq = 0 ∧ vif.rxIrq = 0 ∧ vif.kthreads = 0) ∨
    ((∃ r t, vif.handlers = [⟨.xenvifRxInterrupt, r⟩, ⟨.xenvifTxInterrupt, t⟩]) ∧
      vif.txIrq ≠ 0 ∧ vif.rxIrq ≠ 0 ∧ vif.kthreads = 1)

def AtMostOne (vif : Xenvif) : Prop :=
  (∀ fn, vif.handlers.countP (fun h => h.fn == fn) ≤ 1) ∧ vif.kthreads ≤ 1

theorem books_freshVif : Books freshVif where
  netmap := rfl
  irq := rfl
  noErr := rfl
  handlers := Or.inl ⟨rfl, rfl, rfl, rfl⟩

theorem Books.atMostOne {vif : Xenvif} (hbooks : Books vif) : AtMostOne vif := by
  rcases hbooks.handlers with ⟨hnone, _, _, hkthreads⟩ | ⟨⟨r, t, hboth⟩, _, _, hkthreads⟩
  · exact ⟨fun fn => by simp [hnone], by omega⟩
  · refine ⟨fun fn => ?_, by omega⟩
    rw [hboth]
    cases fn <;> simp

theorem Books.outcome {vif : Xenvif} (hbooks : Books vif) (call : SplitCall) :
    SplitOutcome version30600 vif call (xenvifConnect30600 vif call.toConnectCall) :=
  connectWith_outcome version30600 hbooks.netmap (by simp [version30600, hbooks.irq]) call

/-- What the patch for 3.6 asks of a call: the vif has no handlers, as the test for a
connected vif looks at the interrupt of a single channel, and the thread is created. -/
def KeepsBooks30600 (vif : Xenvif) (call : SplitCall) : Prop :=
  vif.handlers = [] ∧ ThreadCreated call

theorem books_step {vif vif' : Xenvif} {call : SplitCall} (hbooks : Books vif)
    (hkeeps : KeepsBooks30600 vif call) (hstep : step30600 vif call = some vif') :
    Books vif' := by
  obtain ⟨hnone, hthread⟩ := hkeeps
  obtain ⟨_, htxIrq, hrxIrq, hkthreads⟩ : vif.handlers = [] ∧ vif.txIrq = 0 ∧ vif.rxIrq = 0 ∧
      vif.kthreads = 0 := by
    rcases hbooks.handlers with hclean | ⟨⟨r, t, hboth⟩, _⟩
    · exact hclean
    · rw [hnone] at hboth
      contradiction
  obtain rfl := Option.some.inj hstep
  have houtcome := hbooks.outcome call
  generalize xenvifConnect30600 vif call.toConnectCall = result at houtcome
  cases houtcome with
  | txFailed htx =>
      exact ⟨hbooks.netmap, hbooks.irq, hbooks.noErr, hbooks.handlers⟩
  | rxFailed htx hrx =>
      exact ⟨hbooks.netmap, hbooks.irq, hbooks.noErr, Or.inl ⟨hnone, rfl, hrxIrq, hkthreads⟩⟩
  | kthreadFailed htx hrx errno hkthread =>
      rcases hthread with htx' | hrx' | hkthread'
      · contradiction
      · contradiction
      · rw [hkthread] at hkthread'
        contradiction
  | connected htx hrx hkthread =>
      refine ⟨hbooks.netmap, hbooks.irq, rfl,
        Or.inr ⟨⟨call.rxBind.err.toNat, call.txBind.err.toNat, ?_⟩, ?_, ?_, ?_⟩⟩
      · simp only [bindBoth, hnone]
      · exact BindAnswer.toNat_ne_zero htx
      · exact BindAnswer.toNat_ne_zero hrx
      · simp only [hkthreads]

theorem not_threadCreated {call : SplitCall} (htx : ¬call.txBind.err < 0)
    (hrx : ¬call.rxBind.err < 0) {errno : Nat} (hkthread : call.kthread = .errPtr errno) :
    ¬ThreadCreated call := by
  rintro (htx' | hrx' | hthread)
  · contradiction
  · contradiction
  · rw [hkthread] at hthread
    contradiction

/-- On a vif with handlers every outcome is wrong: a failure leaves the interrupts of the
earlier call, a success adds handlers and a thread. -/
theorem keepsBooks30600_iff {vif : Xenvif} (hbooks : Books vif) (call : SplitCall) :
    (FailsClean vif (xenvifConnect30600 vif call.toConnectCall) ∧
      RefusesSecond vif (xenvifConnect30600 vif call.toConnectCall)) ↔
      KeepsBooks30600 vif call := by
  have houtcome := hbooks.outcome call
  generalize xenvifConnect30600 vif call.toConnectCall = result at houtcome ⊢
  rcases hbooks.handlers with ⟨hnone, htxIrq, hrxIrq, _⟩ | ⟨⟨r, t, hboth⟩, htxIrq, hrxIrq, _⟩
  · have hrefuses : RefusesSecond vif result := fun hsome => absurd hnone hsome
    rw [KeepsBooks30600, and_iff_left hrefuses, and_iff_right hnone]
    cases houtcome with
    | txFailed htx =>
        exact iff_of_true (fun _ => ⟨rfl, htxIrq, hrxIrq, hbooks.noErr⟩) (Or.inl htx)
    | rxFailed htx hrx =>
        exact iff_of_true (fun _ => ⟨rfl, rfl, hrxIrq, hbooks.noErr⟩) (Or.inr (Or.inl hrx))
    | kthreadFailed htx hrx errno hkthread =>
        refine iff_of_false (fun hclean => ?_) (not_threadCreated htx hrx hkthread)
        have herr := (hclean (by dsimp only; omega)).2.2.2
        contradiction
    | connected htx hrx hkthread =>
        exact iff_of_true (failsClean_of_success rfl) (Or.inr (Or.inr hkthread))
  · have hsome : vif.handlers ≠ [] := by simp [hboth]
    refine iff_of_false (fun hboth => ?_) fun hkeeps => hsome hkeeps.1
    obtain ⟨hclean, hrefuses⟩ := hboth
    cases houtcome with
    | txFailed htx => exact htxIrq (hclean htx).2.1
    | rxFailed htx hrx => exact hrxIrq (hclean hrx).2.2.1
    | kthreadFailed htx hrx errno hkthread =>
        exact absurd (hrefuses hsome).1 (List.cons_ne_nil _ _)
    | connected htx hrx hkthread => exact absurd (hrefuses hsome).1 (List.cons_ne_nil _ _)

end Patch30600

section Patch30b00

variable (connected : Xenvif → Bool)

/-- The interrupts are set together, and the task is no error. -/
structure Paired (vif : Xenvif) : Prop where
  netmap : vif.netmap = true
  noErr : vif.task.isErr = false
  irqs : vif.txIrq = 0 ↔ vif.rxIrq = 0

/-- What the patch for 3.11 asks of a call on a vif that does not count as connected: the
thread is created, and no binding fails that would leave an interrupt of an earlier call. -/
def KeepsBooks30b00 (vif : Xenvif) (call : SplitCall) : Prop :=
  connected vif = true ∨
    ThreadCreated call ∧ (call.txBind.err < 0 ∨ call.rxBind.err < 0 → vif.txIrq = 0)

variable {connected}

theorem xenvifConnect30b00_of_connected {vif : Xenvif} (hconnected : connected vif = true)
    (call : ConnectCall) : xenvifConnect30b00 connected vif call = ⟨vif, 0, []⟩ :=
  if_pos hconnected

theorem xenvifConnect30b00_outcome {vif : Xenvif} (hnetmap : vif.netmap = true)
    (hconnected : connected vif = false) (call : SplitCall) :
    SplitOutcome (version30b00 connected) vif call
      (xenvifConnect30b00 connected vif call.toConnectCall) :=
  connectWith_outcome (version30b00 connected) hnetmap hconnected call

theorem paired_step {vif vif' : Xenvif} {call : SplitCall} (hpaired : Paired vif)
    (hkeeps : KeepsBooks30b00 connected vif call)
    (hstep : step30b00 connected vif call = some vif') : Paired vif' := by
  obtain rfl := Option.some.inj hstep
  rcases Bool.eq_false_or_eq_true (connected vif) with hconnected | hconnected
  · rw [xenvifConnect30b00_of_connected hconnected]
    exact hpaired
  · obtain hrefused | ⟨hthread, hirq⟩ := hkeeps
    · rw [hconnected] at hrefused
      contradiction
    · have houtcome := xenvifConnect30b00_outcome hpaired.netmap hconnected call
      generalize xenvifConnect30b00 connected vif call.toConnectCall = result at houtcome
      cases houtcome with
      | txFailed htx => exact ⟨hpaired.netmap, hpaired.noErr, hpaired.irqs⟩
      | rxFailed htx hrx =>
          have hrxIrq := hpaired.irqs.mp (hirq (Or.inr hrx))
          exact ⟨hpaired.netmap, hpaired.noErr, iff_of_true rfl hrxIrq⟩
      | kthreadFailed htx hrx errno hkthread =>
          exact absurd hthread (not_threadCreated htx hrx hkthread)
      | connected htx hrx hkthread =>
          exact ⟨hpaired.netmap, rfl, iff_of_false (BindAnswer.toNat_ne_zero htx)
            (BindAnswer.toNat_ne_zero hrx)⟩

theorem keepsBooks30b00_iff {vif : Xenvif} (hpaired : Paired vif) (call : SplitCall) :
    FailsClean vif (xenvifConnect30b00 connected vif call.toConnectCall) ↔
      KeepsBooks30b00 connected vif call := by
  rcases Bool.eq_false_or_eq_true (connected vif) with hconnected | hconnected
  · rw [xenvifConnect30b00_of_connected hconnected]
    exact iff_of_true (failsClean_of_success rfl) (Or.inl hconnected)
  · have houtcome := xenvifConnect30b00_outcome hpaired.netmap hconnected call
    generalize xenvifConnect30b00 connected vif call.toConnectCall = result at houtcome ⊢
    rw [KeepsBooks30b00, hconnected]
    simp only [Bool.false_eq_true, false_or]
    cases houtcome with
    | txFailed htx =>
        constructor
        · intro hclean
          exact ⟨Or.inl htx, fun _ => (hclean htx).2.1⟩
        · rintro ⟨_, hirq⟩ _
          have htxIrq := hirq (Or.inl htx)
          exact ⟨rfl, htxIrq, hpaired.irqs.mp htxIrq, hpaired.noErr⟩
    | rxFailed htx hrx =>
        constructor
        · intro hclean
          exact ⟨Or.inr (Or.inl hrx), fun _ => hpaired.irqs.mpr (hclean hrx).2.2.1⟩
        · rintro ⟨_, hirq⟩ _
          exact ⟨rfl, rfl, hpaired.irqs.mp (hirq (Or.inr hrx)), hpaired.noErr⟩
    | kthreadFailed htx hrx errno hkthread =>
        refine iff_of_false (fun hclean => ?_)
          fun hkeeps => not_threadCreated htx hrx hkthread hkeeps.1
        have herr := (hclean (by dsimp only; omega)).2.2.2
        contradiction
    | connected htx hrx hkthread =>
        refine iff_of_true (failsClean_of_success rfl)
          ⟨Or.inr (Or.inr hkthread), ?_⟩
        rintro (htx' | hrx')
        · contradiction
        · contradiction

end Patch30b00

/-- Which runs of calls keep the books: with the patch for 3.6 those that never call again
after a success and never fail to create the thread, with the patch for 3.11 those that
always create the thread and bind, unless the vif holds no interrupt. -/
theorem xenvifConnect_books (connected : Xenvif → Bool) (calls : List SplitCall) :
    (Along step30600 (fun vif call =>
        FailsClean vif (xenvifConnect30600 vif call.toConnectCall) ∧
          RefusesSecond vif (xenvifConnect30600 vif call.toConnectCall)) freshVif calls ↔
      Along step30600 KeepsBooks30600 freshVif calls) ∧
    (Along step30600 KeepsBooks30600 freshVif calls →
      ∀ vif, run step30600 freshVif calls = some vif → AtMostOne vif) ∧
    (Along (step30b00 connected) (fun vif call =>
        FailsClean vif (xenvifConnect30b00 connected vif call.toConnectCall)) freshVif calls ↔
      Along (step30b00 connected) (KeepsBooks30b00 connected) freshVif calls) := by
  refine ⟨?_, fun hkeeps vif hrun => ?_, ?_⟩
  · exact (along_iff (fun _ _ _ hI hG => books_step hI hG)
      (fun _ call hI => (keepsBooks30600_iff hI call).symm) books_freshVif).symm
  · exact (invariant_of_along (fun _ _ _ hI hG => books_step hI hG) books_freshVif hkeeps
      hrun).atMostOne
  · exact (along_iff (fun _ _ _ hI hG => paired_step hI hG)
      (fun _ call hI => (keepsBooks30b00_iff hI call).symm) ⟨rfl, rfl, Iff.rfl⟩).symm

def boundCall (txIrq rxIrq : Int) (htx : txIrq ≠ 0) (hrx : rxIrq ≠ 0)
    (kthread : KthreadAnswer) : SplitCall where
  txEvtchn := 7
  rxEvtchn := 8
  map := 0
  txBind := ⟨txIrq, htx⟩
  rxBind := ⟨rxIrq, hrx⟩
  kthread := kthread
  split := by decide

/-- A failed thread leaves its error pointer, and in the patch for 3.11 the handler of the
receive channel; the patch for 3.6 connects a second time. -/
theorem xenvifConnect_books_fail :
    (¬ ∀ calls, Along step30600 (fun vif call =>
      FailsClean vif (xenvifConnect30600 vif call.toConnectCall)) freshVif calls) ∧
    (¬ ∀ calls, Along step30600 (fun vif call =>
      RefusesSecond vif (xenvifConnect30600 vif call.toConnectCall)) freshVif calls) ∧
    (¬ ∀ calls, Along (step30b00 fun vif => vif.txIrq != 0) (fun vif call =>
      FailsClean vif (xenvifConnect30b00 (fun vif => vif.txIrq != 0) vif call.toConnectCall))
      freshVif calls) := by
  refine ⟨fun halways => ?_, fun halways => ?_, fun halways => ?_⟩
  · have hfirst := (halways [boundCall 40 41 (by decide) (by decide) (.errPtr 11)]).1
    exact absurd (hfirst (by decide)).2.2.2 (by decide)
  · have hsecond := ((halways [boundCall 40 41 (by decide) (by decide) .thread,
      boundCall 42 43 (by decide) (by decide) .thread]).2 _ rfl).1
    exact absurd (hsecond (by decide)).1 (by decide)
  · have hfirst := (halways [boundCall 40 41 (by decide) (by decide) (.errPtr 11)]).1
    exact absurd (hfirst (by decide)).1 (by decide)

end XenNet.NetbackConnect

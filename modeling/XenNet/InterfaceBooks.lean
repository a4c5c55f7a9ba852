import XenNet.NetbackInterface

namespace XenNet.InterfaceBooks

open XenNet.InterruptLines
open XenNet.NetbackConnect (HandlerFn BindAnswer KthreadAnswer)
open XenNet.NetbackInterface

/-- An interface that is up has its lines enabled. -/
def isUp (vif : Xenvif) : Bool :=
  vif.dev.running && vif.dev.carrierOk

/-- The lines of a vif, each of them disabled `depth` times. -/
def linesOf (vif : Xenvif) (depth : Nat) : Lines HandlerFn :=
  if vif.txIrq = 0 then unbound
  else if vif.txIrq = vif.rxIrq then withLine unbound vif.txIrq .xenvifInterrupt depth
  else twoLines vif.txIrq vif.rxIrq .xenvifTxInterrupt .xenvifRxInterrupt depth

def maskDepth (vif : Xenvif) : Nat :=
  if isUp vif then 0 else 1

/-- What the interface holds whether or not it is up, by the fields of its vif. -/
structure Holdings (s : Interface) : Prop where
  threads : s.kernel.threads = s.vif.task.toList
  task : s.vif.task = if s.vif.txIrq = 0 then none else some (threadFn s.vif)
  rxIrq : s.vif.txIrq ≠ 0 → s.vif.rxIrq ≠ 0
  carrier : s.vif.dev.carrierOk = true → s.vif.txIrq ≠ 0
  mapped : s.vif.ringsMapped = (decide (s.vif.txIrq ≠ 0) && !s.vif.netmap)
  mtuMax : s.vif.dev.mtu ≤ 65535 - vlanEthHlen
  mtu : s.vif.dev.carrierOk = true → s.vif.dev.mtu ≤ maxMtu s.vif
  features : s.vif.dev.carrierOk = true →
    s.vif.dev.features = xenvifFixFeatures s.vif s.vif.dev.features

/-- What the interface holds is what its vif says. -/
structure Books (s : Interface) : Prop extends Holdings s where
  lines : s.kernel.lines = linesOf s.vif (maskDepth s.vif)
  napi : s.vif.napiEnabled = (isUp s.vif && !s.vif.netmap)
  netmapRings : isUp s.vif = true → s.vif.netmap = true → s.vif.nkrStopped = false

/-- The counters of the kernel are as before. -/
structure SameCounts (kernel kernel' : Kernel) : Prop where
  moduleRefs : kernel'.moduleRefs = kernel.moduleRefs
  copyOps : kernel'.copyOps = kernel.copyOps
  misuses : kernel'.misuses = kernel.misuses

theorem SameCounts.refl (kernel : Kernel) : SameCounts kernel kernel := ⟨rfl, rfl, rfl⟩

/-- The interface keeps its books, the counters and its interrupts. -/
structure Maintained (s t : Interface) : Prop where
  books : Books t
  counts : SameCounts s.kernel t.kernel
  txIrq : t.vif.txIrq = s.vif.txIrq

section Lines

variable {kernel : Kernel} {vif : Xenvif} {depth : Nat}

theorem linesOf_of_eq_zero (htx : vif.txIrq = 0) : linesOf vif depth = unbound :=
  if_pos htx

theorem linesOf_one (htx : vif.txIrq ≠ 0) (heq : vif.txIrq = vif.rxIrq) :
    linesOf vif depth = withLine unbound vif.txIrq .xenvifInterrupt depth := by
  rw [linesOf, if_neg htx, if_pos heq]

theorem linesOf_two (htx : vif.txIrq ≠ 0) (hne : vif.txIrq ≠ vif.rxIrq) :
    linesOf vif depth =
      twoLines vif.txIrq vif.rxIrq .xenvifTxInterrupt .xenvifRxInterrupt depth := by
  rw [linesOf, if_neg htx, if_neg hne]

theorem request_some {lines : Lines HandlerFn} :
    kernel.request (some lines) = { kernel with lines := lines } := rfl

theorem request_none :
    kernel.request none = { kernel with misuses := kernel.misuses + 1 } := rfl

theorem enableIrqs_of_lines (htx : vif.txIrq ≠ 0)
    (hlines : kernel.lines = linesOf vif (depth + 1)) :
    enableIrqs kernel vif = { kernel with lines := linesOf vif depth } := by
  unfold enableIrqs
  rcases eq_or_ne vif.txIrq vif.rxIrq with heq | hne
  · rw [linesOf_one htx heq] at hlines ⊢
    simp [Kernel.enableIrq, hlines, heq, request_some]
  · rw [linesOf_two htx hne] at hlines ⊢
    have hfirst : kernel.enableIrq vif.txIrq =
        { kernel with
          lines := withLine (withLine unbound vif.txIrq .xenvifTxInterrupt depth) vif.rxIrq
            .xenvifRxInterrupt (depth + 1) } := by
      rw [Kernel.enableIrq, hlines, enable_twoLines hne, request_some]
    simp only [if_pos hne]
    rw [hfirst, Kernel.enableIrq, enable_withLine, request_some]
    rfl

theorem disableIrqs_of_lines (htx : vif.txIrq ≠ 0) (hlines : kernel.lines = linesOf vif depth) :
    disableIrqs kernel vif = { kernel with lines := linesOf vif (depth + 1) } := by
  unfold disableIrqs
  rcases eq_or_ne vif.txIrq vif.rxIrq with heq | hne
  · rw [linesOf_one htx heq] at hlines ⊢
    simp [Kernel.disableIrq, hlines, heq, request_some]
  · rw [linesOf_two htx hne] at hlines ⊢
    have hfirst : kernel.disableIrq vif.txIrq =
        { kernel with
          lines := withLine (withLine unbound vif.txIrq .xenvifTxInterrupt (depth + 1)) vif.rxIrq
            .xenvifRxInterrupt depth } := by
      rw [Kernel.disableIrq, hlines, disable_twoLines hne, request_some]
    simp only [if_pos hne]
    rw [hfirst, Kernel.disableIrq, disable_withLine, request_some]
    rfl

theorem unbindFromIrqhandler_of_lines (htx : vif.txIrq ≠ 0)
    (hlines : kernel.lines = linesOf vif depth) :
    (if vif.txIrq = vif.rxIrq then kernel.unbindFromIrqhandler vif.txIrq
      else (kernel.unbindFromIrqhandler vif.txIrq).unbindFromIrqhandler vif.rxIrq) =
      { kernel with lines := unbound } := by
  rcases eq_or_ne vif.txIrq vif.rxIrq with heq | hne
  · rw [if_pos heq, Kernel.unbindFromIrqhandler, hlines, linesOf_one htx heq,
      unbind_withLine rfl, request_some]
  · have hfirst : kernel.unbindFromIrqhandler vif.txIrq =
        { kernel with lines := withLine unbound vif.rxIrq .xenvifRxInterrupt depth } := by
      rw [Kernel.unbindFromIrqhandler, hlines, linesOf_two htx hne, unbind_twoLines hne,
        request_some]
    rw [if_neg hne, hfirst, Kernel.unbindFromIrqhandler, unbind_withLine rfl, request_some]

theorem notifyRemoteViaIrq_of_lines {irq : Nat} (htx : vif.txIrq ≠ 0)
    (hlines : kernel.lines = linesOf vif depth) (hirq : irq = vif.txIrq ∨ irq = vif.rxIrq) :
    kernel.notifyRemoteViaIrq irq = kernel := by
  have hnotify : notify kernel.lines irq = some kernel.lines := by
    rw [hlines]
    rcases eq_or_ne vif.txIrq vif.rxIrq with heq | hne
    · have hone : irq = vif.txIrq := hirq.elim id fun hrx => hrx.trans heq.symm
      rw [linesOf_one htx heq, hone, notify_withLine]
    · rw [linesOf_two htx hne]
      rcases hirq with rfl | rfl
      · rw [twoLines_comm hne, twoLines, notify_withLine]
      · rw [twoLines, notify_withLine]
  rw [Kernel.notifyRemoteViaIrq, hnotify, request_some]

theorem bindDisabled_of_free {irq : Nat} {fn : HandlerFn} (hfree : kernel.lines irq = none) :
    bindDisabled kernel irq fn =
      { kernel with lines := withLine kernel.lines irq fn 1 } := by
  rw [bindDisabled, Kernel.bind, bind_of_eq_none hfree, request_some, Kernel.disableIrq,
    disable_withLine, request_some]

end Lines

section UpAndDown

variable {s : Interface} {depth : Nat}

/-- What `xenvif_up` and `xenvif_down` leave, for the lines at `depth`. -/
def raised (s : Interface) (up : Bool) (depth : Nat) : Interface where
  kernel := { s.kernel with lines := linesOf s.vif depth }
  vif :=
    { s.vif with
      napiEnabled := if s.vif.netmap then s.vif.napiEnabled else up
      nkrStopped := if s.vif.netmap then !up else s.vif.nkrStopped }

theorem napiSet_of_ne {enabled : Bool} (hnapi : s.vif.napiEnabled ≠ enabled) :
    napiSet s enabled = { s with vif := { s.vif with napiEnabled := enabled } } :=
  if_neg hnapi

theorem xenvifUp_eq (htx : s.vif.txIrq ≠ 0) (hlines : s.kernel.lines = linesOf s.vif (depth + 1))
    (hnapi : s.vif.netmap = false → s.vif.napiEnabled = false) :
    xenvifUp s = raised s true depth := by
  unfold xenvifUp raised
  cases hnetmap : s.vif.netmap with
  | true => simp [xenvifNetmapUp, enableIrqs_of_lines htx hlines]
  | false =>
      have hset : napiSet s true = { s with vif := { s.vif with napiEnabled := true } } :=
        napiSet_of_ne (by simp [hnapi hnetmap])
      have henable : enableIrqs s.kernel { s.vif with napiEnabled := true } =
          { s.kernel with lines := linesOf s.vif depth } :=
        enableIrqs_of_lines htx hlines
      simp only [hset, henable, Bool.false_eq_true, if_false]

theorem xenvifDown_eq (htx : s.vif.txIrq ≠ 0) (hlines : s.kernel.lines = linesOf s.vif depth)
    (hnapi : s.vif.netmap = false → s.vif.napiEnabled = true) :
    xenvifDown s = raised s false (depth + 1) := by
  unfold xenvifDown raised
  cases hnetmap : s.vif.netmap with
  | true => simp [xenvifNetmapDown, disableIrqs_of_lines htx hlines]
  | false =>
      have hset : napiSet s false = { s with vif := { s.vif with napiEnabled := false } } :=
        napiSet_of_ne (by simp [hnapi hnetmap])
      have hdisable : disableIrqs s.kernel { s.vif with napiEnabled := false } =
          { s.kernel with lines := linesOf s.vif (depth + 1) } :=
        disableIrqs_of_lines htx hlines
      simp only [hset, hdisable, Bool.false_eq_true, if_false]

theorem Holdings.raised (hheld : Holdings s) (up : Bool) (depth : Nat) :
    Holdings (raised s up depth) :=
  ⟨hheld.threads, hheld.task, hheld.rxIrq, hheld.carrier, hheld.mapped, hheld.mtuMax,
    hheld.mtu, hheld.features⟩

theorem Holdings.books_raised (hheld : Holdings s)
    (hnapi : s.vif.netmap = true → s.vif.napiEnabled = false) :
    Books (InterfaceBooks.raised s (isUp s.vif) (maskDepth s.vif)) where
  toHoldings := hheld.raised _ _
  lines := rfl
  napi := by
    show (if s.vif.netmap = true then s.vif.napiEnabled else isUp s.vif) =
      (isUp s.vif && !s.vif.netmap)
    cases hnetmap : s.vif.netmap with
    | true => simp [hnapi hnetmap]
    | false => simp
  netmapRings := by
    intro hup hnetmap
    have hup' : isUp s.vif = true := hup
    have hnetmap' : s.vif.netmap = true := hnetmap
    show (if s.vif.netmap = true then !isUp s.vif else s.vif.nkrStopped) = false
    rw [if_pos hnetmap', hup', Bool.not_true]

end UpAndDown

section Device

variable {s : Interface}

theorem Books.lines_of_isUp (hbooks : Books s) {up : Bool} (hup : isUp s.vif = up) :
    s.kernel.lines = linesOf s.vif (if up then 0 else 1) := by
  rw [hbooks.lines, maskDepth, hup]

theorem Books.napi_of_netmap (hbooks : Books s) (hnetmap : s.vif.netmap = true) :
    s.vif.napiEnabled = false := by
  rw [hbooks.napi, hnetmap, Bool.not_true, Bool.and_false]

theorem xenvifOpen_eq (hbooks : Books s) (hstopped : s.vif.dev.running = false) :
    xenvifOpen s =
      if s.vif.dev.carrierOk then raised (setRunning s true) true 0 else setRunning s true := by
  unfold xenvifOpen
  show (if s.vif.dev.carrierOk = true then xenvifUp (setRunning s true) else _) = _
  cases hcarrier : s.vif.dev.carrierOk with
  | false => simp
  | true =>
      have hdown : isUp s.vif = false := by rw [isUp, hstopped, Bool.false_and]
      rw [if_pos rfl, if_pos rfl]
      refine xenvifUp_eq (hbooks.carrier hcarrier) (hbooks.lines_of_isUp hdown) fun _ => ?_
      exact hbooks.napi.trans (by rw [hdown, Bool.false_and])

theorem xenvifClose_eq (hbooks : Books s) (hrunning : s.vif.dev.running = true) :
    xenvifClose s =
      if s.vif.dev.carrierOk then raised (setRunning s false) false 1
      else setRunning s false := by
  unfold xenvifClose
  show (if s.vif.dev.carrierOk = true then xenvifDown (setRunning s false) else _) = _
  cases hcarrier : s.vif.dev.carrierOk with
  | false => simp
  | true =>
      have hup : isUp s.vif = true := by rw [isUp, hrunning, hcarrier, Bool.and_true]
      rw [if_pos rfl, if_pos rfl]
      refine xenvifDown_eq (hbooks.carrier hcarrier) (hbooks.lines_of_isUp hup) fun hnetmap => ?_
      have hfalse : s.vif.netmap = false := hnetmap
      exact hbooks.napi.trans (by rw [hup, hfalse]; rfl)

theorem xenvifCarrierOff_eq (hbooks : Books s) (hcarrier : s.vif.dev.carrierOk = true) :
    xenvifCarrierOff s =
      if s.vif.dev.running then raised (setCarrier s false) false 1
      else setCarrier s false := by
  unfold xenvifCarrierOff
  show (if s.vif.dev.running = true then xenvifDown (setCarrier s false) else _) = _
  cases hrunning : s.vif.dev.running with
  | false => simp
  | true =>
      have hup : isUp s.vif = true := by rw [isUp, hrunning, hcarrier, Bool.and_true]
      rw [if_pos rfl, if_pos rfl]
      refine xenvifDown_eq (hbooks.carrier hcarrier) (hbooks.lines_of_isUp hup) fun hnetmap => ?_
      have hfalse : s.vif.netmap = false := hnetmap
      exact hbooks.napi.trans (by rw [hup, hfalse]; rfl)

theorem Holdings.setRunning (hheld : Holdings s) (running : Bool) :
    Holdings (setRunning s running) :=
  ⟨hheld.threads, hheld.task, hheld.rxIrq, hheld.carrier, hheld.mapped, hheld.mtuMax,
    hheld.mtu, hheld.features⟩

theorem Holdings.carrierOff (hheld : Holdings s) : Holdings (setCarrier s false) where
  threads := hheld.threads
  task := hheld.task
  rxIrq := hheld.rxIrq
  carrier := fun hcarrier => absurd hcarrier Bool.false_ne_true
  mapped := hheld.mapped
  mtuMax := hheld.mtuMax
  mtu := fun hcarrier => absurd hcarrier Bool.false_ne_true
  features := fun hcarrier => absurd hcarrier Bool.false_ne_true

theorem Books.of_down (hbooks : Books s) {t : Interface} (hheld : Holdings t)
    (hkernel : t.kernel = s.kernel) (hvif : linesOf t.vif = linesOf s.vif)
    (hnapi : t.vif.napiEnabled = s.vif.napiEnabled) (hs : isUp s.vif = false)
    (ht : isUp t.vif = false) : Books t where
  toHoldings := hheld
  lines := by rw [hkernel, hbooks.lines_of_isUp hs, maskDepth, ht, hvif]
  napi := by rw [hnapi, hbooks.napi, hs, ht, Bool.false_and, Bool.false_and]
  netmapRings := fun hup => absurd (hup.symm.trans ht) (by decide)

theorem maintained_xenvifOpen (hbooks : Books s) (hstopped : s.vif.dev.running = false) :
    Maintained s (xenvifOpen s) := by
  have hheld := hbooks.toHoldings.setRunning true
  rw [xenvifOpen_eq hbooks hstopped]
  cases hcarrier : s.vif.dev.carrierOk with
  | true =>
      have hup : isUp (setRunning s true).vif = true := hcarrier
      have hraised := hheld.books_raised hbooks.napi_of_netmap
      rw [maskDepth, hup] at hraised
      exact ⟨hraised, ⟨rfl, rfl, rfl⟩, rfl⟩
  | false =>
      have hdown : isUp s.vif = false := by rw [isUp, hcarrier, Bool.and_false]
      exact ⟨hbooks.of_down hheld rfl rfl rfl hdown hcarrier, SameCounts.refl _, rfl⟩

theorem maintained_xenvifClose (hbooks : Books s) (hrunning : s.vif.dev.running = true) :
    Maintained s (xenvifClose s) := by
  have hheld := hbooks.toHoldings.setRunning false
  have hdown : isUp (setRunning s false).vif = false := rfl
  rw [xenvifClose_eq hbooks hrunning]
  cases hcarrier : s.vif.dev.carrierOk with
  | true =>
      have hraised := hheld.books_raised hbooks.napi_of_netmap
      rw [maskDepth, hdown] at hraised
      exact ⟨hraised, ⟨rfl, rfl, rfl⟩, rfl⟩
  | false =>
      have hdown' : isUp s.vif = false := by rw [isUp, hcarrier, Bool.and_false]
      exact ⟨hbooks.of_down hheld rfl rfl rfl hdown' hdown, SameCounts.refl _, rfl⟩

theorem maintained_xenvifCarrierOff (hbooks : Books s) (hcarrier : s.vif.dev.carrierOk = true) :
    Maintained s (xenvifCarrierOff s) := by
  have hheld := hbooks.toHoldings.carrierOff
  have hdown : isUp (setCarrier s false).vif = false := Bool.and_false _
  rw [xenvifCarrierOff_eq hbooks hcarrier]
  cases hrunning : s.vif.dev.running with
  | true =>
      have hraised := hheld.books_raised hbooks.napi_of_netmap
      rw [maskDepth, hdown] at hraised
      exact ⟨hraised, ⟨rfl, rfl, rfl⟩, rfl⟩
  | false =>
      have hdown' : isUp s.vif = false := by rw [isUp, hrunning, Bool.false_and]
      exact ⟨hbooks.of_down hheld rfl rfl rfl hdown' hdown, SameCounts.refl _, rfl⟩

theorem maxMtu_le (vif : Xenvif) : maxMtu vif ≤ 65535 - vlanEthHlen := by
  unfold maxMtu ethDataLen vlanEthHlen
  split <;> omega

theorem xenvifFixFeatures_idem (vif : Xenvif) (features : Features) :
    xenvifFixFeatures vif (xenvifFixFeatures vif features) = xenvifFixFeatures vif features := by
  simp [xenvifFixFeatures]

theorem maintained_xenvifChangeMtu {vif : Xenvif} {mtu : Nat} (hbooks : Books s)
    (hchange : xenvifChangeMtu s.vif mtu = some vif) : Maintained s ⟨s.kernel, vif⟩ := by
  unfold xenvifChangeMtu at hchange
  split at hchange
  · contradiction
  · rename_i hmax
    obtain rfl := Option.some.inj hchange
    have hle : mtu ≤ maxMtu s.vif := Nat.le_of_not_lt hmax
    have hbooks' : Books ⟨s.kernel, { s.vif with dev := { s.vif.dev with mtu := mtu } }⟩ :=
      { hbooks with
        mtuMax := hle.trans (maxMtu_le s.vif)
        mtu := fun _ => hle }
    exact ⟨hbooks', SameCounts.refl _, rfl⟩

theorem maintained_netdevUpdateFeatures (hbooks : Books s) (wanted : Features) :
    Maintained s ⟨s.kernel, netdevUpdateFeatures s.vif wanted⟩ where
  books := { hbooks with features := fun _ => (xenvifFixFeatures_idem s.vif wanted).symm }
  counts := SameCounts.refl _
  txIrq := rfl

theorem maintained_notify {irq : Nat} (hbooks : Books s) (htx : s.vif.txIrq ≠ 0)
    (hirq : irq = s.vif.txIrq ∨ irq = s.vif.rxIrq) :
    Maintained s { s with kernel := s.kernel.notifyRemoteViaIrq irq } := by
  rw [notifyRemoteViaIrq_of_lines htx hbooks.lines hirq]
  exact ⟨hbooks, SameCounts.refl _, rfl⟩

end Device

section Disconnect

variable {s : Interface}

/-- What an interface that is not connected holds. -/
structure Disconnected (s : Interface) : Prop extends Books s where
  txIrq : s.vif.txIrq = 0

theorem Disconnected.lines_eq (hdis : Disconnected s) : s.kernel.lines = unbound :=
  hdis.lines.trans (linesOf_of_eq_zero hdis.txIrq)

theorem Disconnected.task_eq (hdis : Disconnected s) : s.vif.task = none :=
  hdis.task.trans (if_pos hdis.txIrq)

theorem Disconnected.threads_eq (hdis : Disconnected s) : s.kernel.threads = [] := by
  rw [hdis.threads, hdis.task_eq, Option.toList_none]

theorem Disconnected.carrier_eq (hdis : Disconnected s) : s.vif.dev.carrierOk = false :=
  Bool.eq_false_iff.mpr fun hcarrier => hdis.carrier hcarrier hdis.txIrq

theorem Disconnected.ringsMapped_eq (hdis : Disconnected s) : s.vif.ringsMapped = false := by
  rw [hdis.mapped, hdis.txIrq]
  rfl

theorem Disconnected.isUp_eq (hdis : Disconnected s) : isUp s.vif = false := by
  rw [isUp, hdis.carrier_eq, Bool.and_false]

theorem Disconnected.napi_eq (hdis : Disconnected s) : s.vif.napiEnabled = false := by
  rw [hdis.napi, hdis.isUp_eq, Bool.false_and]

/-- What is left of an interface whose carrier is off when it is disconnected. -/
def released (s : Interface) : Interface where
  kernel := { s.kernel with lines := unbound, threads := [] }
  vif := { s.vif with txIrq := 0, task := none, ringsMapped := false }

theorem stopTask_eq (hthreads : s.kernel.threads = s.vif.task.toList) :
    stopTask s = ⟨{ s.kernel with threads := [] }, { s.vif with task := none }⟩ := by
  unfold stopTask
  obtain ⟨kernel, vif⟩ := s
  cases htask : vif.task with
  | none =>
      have hnil : kernel.threads = [] := hthreads.trans (by simp [htask])
      simp only
      rw [← hnil, ← htask]
  | some fn =>
      have hone : kernel.threads = [fn] := hthreads.trans (by simp [htask])
      simp [hone]

theorem unbindIrqs_eq {depth : Nat} (hlines : s.kernel.lines = linesOf s.vif depth) :
    unbindIrqs s = ⟨{ s.kernel with lines := unbound }, { s.vif with txIrq := 0 }⟩ := by
  unfold unbindIrqs
  obtain ⟨kernel, vif⟩ := s
  rcases eq_or_ne vif.txIrq 0 with htx | htx
  · have hnone : kernel.lines = unbound := hlines.trans (linesOf_of_eq_zero htx)
    simp only [htx, ne_eq, not_true_eq_false, if_false]
    rw [← hnone, ← htx]
  · have hunbind := unbindFromIrqhandler_of_lines htx hlines
    simp only [ne_eq, htx, not_false_eq_true, if_true]
    rw [hunbind]

theorem xenvifDisconnect_of_carrierOff (hbooks : Books s) (hoff : s.vif.dev.carrierOk = false) :
    xenvifDisconnect s = released s := by
  have hunbind : unbindIrqs (stopTask s) =
      ⟨{ s.kernel with lines := unbound, threads := [] },
        { s.vif with txIrq := 0, task := none }⟩ := by
    rw [stopTask_eq hbooks.threads]
    exact unbindIrqs_eq (s := ⟨_, _⟩) hbooks.lines
  unfold xenvifDisconnect
  simp only [hoff, Bool.false_eq_true, if_false]
  rw [hunbind]
  rfl

theorem carrierOk_xenvifCarrierOff (hbooks : Books s) (hcarrier : s.vif.dev.carrierOk = true) :
    (xenvifCarrierOff s).vif.dev.carrierOk = false := by
  rw [xenvifCarrierOff_eq hbooks hcarrier]
  split <;> rfl

theorem xenvifDisconnect_of_carrierOn (hbooks : Books s)
    (hcarrier : s.vif.dev.carrierOk = true) :
    xenvifDisconnect s = released (xenvifCarrierOff s) := by
  have hoff := carrierOk_xenvifCarrierOff hbooks hcarrier
  rw [← xenvifDisconnect_of_carrierOff (maintained_xenvifCarrierOff hbooks hcarrier).books hoff]
  unfold xenvifDisconnect
  simp only [hcarrier, if_true, hoff, Bool.false_eq_true, if_false]

theorem disconnected_released (hbooks : Books s) (hoff : s.vif.dev.carrierOk = false) :
    Disconnected (released s) where
  lines := (linesOf_of_eq_zero rfl).symm
  threads := rfl
  task := rfl
  rxIrq := fun htx => absurd rfl htx
  carrier := fun hcarrier => absurd (hcarrier.symm.trans hoff) (by decide)
  mapped := rfl
  mtuMax := hbooks.mtuMax
  mtu := hbooks.mtu
  features := hbooks.features
  napi := hbooks.napi
  netmapRings := hbooks.netmapRings
  txIrq := rfl

theorem disconnected_xenvifDisconnect (hbooks : Books s) :
    Disconnected (xenvifDisconnect s) ∧ SameCounts s.kernel (xenvifDisconnect s).kernel := by
  cases hcarrier : s.vif.dev.carrierOk with
  | false =>
      rw [xenvifDisconnect_of_carrierOff hbooks hcarrier]
      exact ⟨disconnected_released hbooks hcarrier, rfl, rfl, rfl⟩
  | true =>
      obtain ⟨hbooks', hcounts, -⟩ := maintained_xenvifCarrierOff hbooks hcarrier
      have hoff := carrierOk_xenvifCarrierOff hbooks hcarrier
      rw [xenvifDisconnect_of_carrierOn hbooks hcarrier]
      exact ⟨disconnected_released hbooks' hoff, hcounts.moduleRefs, hcounts.copyOps,
        hcounts.misuses⟩

end Disconnect

theorem disconnected_newXenvif {kernel : Kernel} {domid : UInt16} {handle : UInt32}
    (hlines : kernel.lines = unbound) (hthreads : kernel.threads = []) :
    Disconnected ⟨kernel, netdevUpdateFeatures (newXenvif domid handle) hwFeatures⟩ where
  lines := hlines
  threads := hthreads
  task := rfl
  rxIrq := fun htx => absurd rfl htx
  carrier := fun hcarrier => absurd hcarrier Bool.false_ne_true
  mapped := rfl
  mtuMax := by
    show ethDataLen ≤ 65535 - vlanEthHlen
    decide
  mtu := fun hcarrier => absurd hcarrier Bool.false_ne_true
  features := fun hcarrier => absurd hcarrier Bool.false_ne_true
  napi := rfl
  netmapRings := fun hup => absurd hup Bool.false_ne_true
  txIrq := rfl

/-- A kernel that holds nothing for an interface. -/
structure Idle (kernel : Kernel) : Prop where
  lines : kernel.lines = unbound
  threads : kernel.threads = []

theorem Disconnected.idle {s : Interface} (hdis : Disconnected s) : Idle s.kernel :=
  ⟨hdis.lines_eq, hdis.threads_eq⟩

theorem xenvifFree_eq {s : Interface} (hdis : Disconnected s) :
    xenvifFree s =
      { s.kernel with
        copyOps := s.kernel.copyOps - 1
        moduleRefs := s.kernel.moduleRefs - 1 } := by
  unfold xenvifFree
  cases hrunning : s.vif.dev.running with
  | false => rfl
  | true =>
      rw [if_pos rfl, xenvifClose_eq hdis.toBooks hrunning, hdis.carrier_eq]
      rfl

end XenNet.InterfaceBooks

import XenNet.TransitionSystem

namespace XenNet.NetfrontSetup

open XenNet.TransitionSystem

inductive HandlerFn where
  | netfrontTxInterrupt
  | netfrontRxInterrupt
  | otherDevice
  deriving Repr, DecidableEq

structure IrqHandler where
  fn : HandlerFn
  irq : UInt32
  deriving Repr, DecidableEq

/-- The event channels in `struct netmap_info`. -/
structure NetmapEvtchns where
  txEvtchn : UInt32
  txIrq : UInt32
  rxEvtchn : UInt32
  rxIrq : UInt32
  deriving Repr, DecidableEq

/-- The device, with all the handlers that are bound in the guest. `naPriv` is `none` as long
as it designates no allocated `struct netmap_info`. -/
structure NetfrontDevice where
  naPriv : Option NetmapEvtchns
  handlers : List IrqHandler
  deriving Repr, DecidableEq

/-- The handlers of the device. -/
def NetfrontDevice.own (dev : NetfrontDevice) : List IrqHandler :=
  dev.handlers.filter fun h => h.fn != .otherDevice

/-- What `xenbus_alloc_evtchn` returns, and the port that it stores when it returns 0. -/
structure AllocAnswer where
  err : Int32
  port : UInt32
  deriving Repr, DecidableEq

/-- What a setup meets: the contents of the new `struct netmap_info`, and the answers of the
event channel layer. `bind_evtchn_to_irqhandler` returns an interrupt or a negative error. -/
structure SetupAnswers where
  new : NetmapEvtchns
  txAlloc : AllocAnswer
  txBind : Int32
  rxAlloc : AllocAnswer
  rxBind : Int32
  deriving Repr, DecidableEq

def bindEvtchnToIrqhandler (handlers : List IrqHandler) (fn : HandlerFn) (err : Int32) :
    List IrqHandler :=
  if err < 0 then handlers else ⟨fn, err.toUInt32⟩ :: handlers

def unbindFromIrqhandler (handlers : List IrqHandler) (irq : UInt32) : List IrqHandler :=
  handlers.filter fun h => h.irq != irq

/-- `setup_netfront_netmap`, as far as the event channels are concerned. -/
def setupNetfrontNetmap (dev : NetfrontDevice) (ans : SetupAnswers) : NetfrontDevice × Int32 :=
  let priv := ans.new
  if ans.txAlloc.err ≠ 0 then ({ dev with naPriv := some priv }, ans.txAlloc.err)
  else
    let priv := { priv with txEvtchn := ans.txAlloc.port }
    let handlers := bindEvtchnToIrqhandler dev.handlers .netfrontTxInterrupt ans.txBind
    let priv := { priv with txIrq := ans.txBind.toUInt32 }
    if ans.rxAlloc.err ≠ 0 then
      -- `rx_fail` passes the port where an interrupt is expected
      ({ naPriv := some priv, handlers := unbindFromIrqhandler handlers priv.txEvtchn },
        ans.rxAlloc.err)
    else
      let priv := { priv with rxEvtchn := ans.rxAlloc.port }
      let handlers := bindEvtchnToIrqhandler handlers .netfrontRxInterrupt ans.rxBind
      let priv := { priv with rxIrq := ans.rxBind.toUInt32 }
      ({ naPriv := some priv, handlers := handlers }, 0)

/-- `setup_netfront` of a device in netmap mode. -/
def setupNetfront (dev : NetfrontDevice) (ans : SetupAnswers) : NetfrontDevice × Int32 :=
  ((setupNetfrontNetmap dev ans).1, 0)

/-- `xennet_netmap_disconnect`, which needs a `struct netmap_info` to read. -/
def xennetNetmapDisconnect (dev : NetfrontDevice) : Option NetfrontDevice :=
  dev.naPriv.map fun ni =>
    { naPriv := none
      handlers := unbindFromIrqhandler (unbindFromIrqhandler dev.handlers ni.rxIrq) ni.txIrq }

inductive FrontEvent where
  | setup (ans : SetupAnswers)
  | disconnect
  deriving Repr, DecidableEq

def frontStep (dev : NetfrontDevice) : FrontEvent → Option NetfrontDevice
  | .setup ans => some (setupNetfront dev ans).1
  | .disconnect => xennetNetmapDisconnect dev

/-- No step of the setup fails. -/
def SetupAnswers.Succeeds (ans : SetupAnswers) : Prop :=
  ans.txAlloc.err = 0 ∧ ¬ans.txBind < 0 ∧ ans.rxAlloc.err = 0 ∧ ¬ans.rxBind < 0

instance (ans : SetupAnswers) : Decidable ans.Succeeds :=
  inferInstanceAs (Decidable (_ ∧ _ ∧ _ ∧ _))

/-- The handlers of the device are the two that its fields record. -/
def Recorded (dev : NetfrontDevice) : Prop :=
  ∃ ni, dev.naPriv = some ni ∧
    dev.own = [⟨.netfrontRxInterrupt, ni.rxIrq⟩, ⟨.netfrontTxInterrupt, ni.txIrq⟩]

/-- What a call does to the books: a setup that succeeds binds the two recorded handlers, one
that fails reports that and leaves the handlers as they were, and none is left after a
disconnect. -/
def BooksKept (dev : NetfrontDevice) : FrontEvent → Prop
  | .setup ans =>
      (ans.Succeeds → Recorded (setupNetfront dev ans).1) ∧
        (¬ans.Succeeds → (setupNetfront dev ans).1.handlers = dev.handlers ∧
          (setupNetfront dev ans).2 ≠ 0)
  | .disconnect => ∀ dev', xennetNetmapDisconnect dev = some dev' → dev'.own = []

/-- No step of a setup fails, and it finds the device without handlers. -/
def CleanSetup (dev : NetfrontDevice) : FrontEvent → Prop
  | .setup ans => ans.Succeeds ∧ dev.own = []
  | .disconnect => True

instance (dev : NetfrontDevice) : (e : FrontEvent) → Decidable (CleanSetup dev e)
  | .setup _ => inferInstanceAs (Decidable (_ ∧ _))
  | .disconnect => isTrue trivial

/-- The device is not set up, or its two handlers are bound. -/
def Books (dev : NetfrontDevice) : Prop :=
  (dev.naPriv = none ∧ dev.own = []) ∨ Recorded dev

theorem setupNetfront_of_succeeds {dev : NetfrontDevice} {ans : SetupAnswers}
    (hok : ans.Succeeds) :
    (setupNetfront dev ans).1 =
      { naPriv := some ⟨ans.txAlloc.port, ans.txBind.toUInt32, ans.rxAlloc.port,
          ans.rxBind.toUInt32⟩
        handlers := ⟨.netfrontRxInterrupt, ans.rxBind.toUInt32⟩ ::
          ⟨.netfrontTxInterrupt, ans.txBind.toUInt32⟩ :: dev.handlers } := by
  obtain ⟨htxAlloc, htxBind, hrxAlloc, hrxBind⟩ := hok
  unfold setupNetfront setupNetfrontNetmap bindEvtchnToIrqhandler
  dsimp only
  rw [if_neg (not_not_intro htxAlloc), if_neg (not_not_intro hrxAlloc), if_neg htxBind,
    if_neg hrxBind]

theorem own_setupNetfront {dev : NetfrontDevice} {ans : SetupAnswers} (hok : ans.Succeeds) :
    (setupNetfront dev ans).1.own =
      ⟨.netfrontRxInterrupt, ans.rxBind.toUInt32⟩ ::
        ⟨.netfrontTxInterrupt, ans.txBind.toUInt32⟩ :: dev.own := by
  rw [setupNetfront_of_succeeds hok]
  rfl

theorem recorded_setup_iff {dev : NetfrontDevice} {ans : SetupAnswers} (hok : ans.Succeeds) :
    Recorded (setupNetfront dev ans).1 ↔ dev.own = [] := by
  unfold Recorded
  rw [own_setupNetfront hok, setupNetfront_of_succeeds hok]
  constructor
  · rintro ⟨ni, _, hown⟩
    have hlength := congrArg List.length hown
    exact List.length_eq_zero_iff.mp (by simpa using hlength)
  · intro hnone
    exact ⟨_, rfl, by rw [hnone]⟩

theorem own_disconnect {dev dev' : NetfrontDevice} (hrecorded : Recorded dev)
    (hstep : xennetNetmapDisconnect dev = some dev') : dev'.naPriv = none ∧ dev'.own = [] := by
  obtain ⟨ni, hpriv, hown⟩ := hrecorded
  unfold xennetNetmapDisconnect at hstep
  rw [hpriv] at hstep
  obtain rfl := Option.some.inj hstep
  refine ⟨rfl, List.filter_eq_nil_iff.mpr fun h hleft hfn => ?_⟩
  obtain ⟨hleft, htx⟩ := List.mem_filter.mp hleft
  obtain ⟨hbound, hrx⟩ := List.mem_filter.mp hleft
  have hmem : h ∈ dev.own := List.mem_filter.mpr ⟨hbound, hfn⟩
  rw [hown] at hmem
  rcases List.mem_pair.mp hmem with rfl | rfl
  · simp at hrx
  · simp at htx

theorem books_step {dev dev' : NetfrontDevice} {e : FrontEvent} (hbooks : Books dev)
    (hclean : CleanSetup dev e) (hstep : frontStep dev e = some dev') : Books dev' := by
  cases e with
  | setup ans =>
      obtain rfl := Option.some.inj hstep
      exact Or.inr ((recorded_setup_iff hclean.1).mpr hclean.2)
  | disconnect =>
      rcases hbooks with ⟨hnone, _⟩ | hrecorded
      · change xennetNetmapDisconnect dev = some dev' at hstep
        simp [xennetNetmapDisconnect, hnone] at hstep
      · exact Or.inl (own_disconnect hrecorded hstep)

theorem booksKept_iff {dev : NetfrontDevice} (hbooks : Books dev) (e : FrontEvent) :
    BooksKept dev e ↔ CleanSetup dev e := by
  cases e with
  | setup ans =>
      by_cases hok : ans.Succeeds
      · constructor
        · rintro ⟨hrecorded, _⟩
          exact ⟨hok, (recorded_setup_iff hok).mp (hrecorded hok)⟩
        · rintro ⟨_, hnone⟩
          exact ⟨fun _ => (recorded_setup_iff hok).mpr hnone, fun hfailed => absurd hok hfailed⟩
      · constructor
        · rintro ⟨_, hreported⟩
          exact absurd rfl (hreported hok).2
        · rintro ⟨hsucceeds, _⟩
          exact absurd hsucceeds hok
  | disconnect =>
      refine iff_of_true (fun dev' hstep => ?_) trivial
      rcases hbooks with ⟨hnone, _⟩ | hrecorded
      · simp [xennetNetmapDisconnect, hnone] at hstep
      · exact (own_disconnect hrecorded hstep).2

theorem along_booksKept_iff {dev : NetfrontDevice} (hbooks : Books dev) (es : List FrontEvent) :
    Along frontStep BooksKept dev es ↔ Along frontStep CleanSetup dev es :=
  (along_iff (fun _ _ _ hI hG => books_step hI hG) (fun _ e hI => (booksKept_iff hI e).symm)
    hbooks).symm

/-- The runs that keep the books are those whose setups all succeed, each on a device without
handlers. -/
theorem setup_books {dev : NetfrontDevice} (hpriv : dev.naPriv = none) (hown : dev.own = [])
    (es : List FrontEvent) :
    (Along frontStep BooksKept dev es ↔ Along frontStep CleanSetup dev es) ∧
      (Along frontStep CleanSetup dev es →
        ∀ dev', run frontStep dev es = some dev' → Books dev') := by
  have hbooks : Books dev := Or.inl ⟨hpriv, hown⟩
  refine ⟨along_booksKept_iff hbooks es, fun hclean dev' hrun => ?_⟩
  exact invariant_of_along (fun _ _ _ hI hG => books_step hI hG) hbooks hclean hrun

/-- A device that was never set up, beside a handler of another device on interrupt 7. -/
def freshDevice : NetfrontDevice where
  naPriv := none
  handlers := [⟨.otherDevice, 7⟩]

/-- Answers for the ports 7 and 8. -/
def answers (txBind rxErr rxBind : Int32) : SetupAnswers where
  new := ⟨0, 0, 0, 0⟩
  txAlloc := ⟨0, 7⟩
  txBind := txBind
  rxAlloc := ⟨rxErr, 8⟩
  rxBind := rxBind

theorem setup_books_twice :
    ∃ dev, run frontStep freshDevice
        [.setup (answers 40 0 41), .disconnect, .setup (answers 42 0 43)] = some dev ∧
      Books dev := by
  have hclean : Along frontStep CleanSetup freshDevice
      [.setup (answers 40 0 41), .disconnect, .setup (answers 42 0 43)] := by decide
  exact ⟨_, rfl, (setup_books rfl rfl _).2 hclean _ rfl⟩

/-- The second port is not allocated: the handler of the first stays bound, that of another
device whose interrupt has the number of the first port is unbound, and the caller is told
nothing. A handler that could not be bound goes unnoticed, and a second setup forgets the
handlers of the first. -/
theorem setup_books_fail :
    (setupNetfront freshDevice (answers 40 (-28) 41)).1.handlers =
        [⟨.netfrontTxInterrupt, 40⟩] ∧
      (setupNetfront freshDevice (answers 40 (-28) 41)).2 = 0 ∧
      (setupNetfront freshDevice (answers (-12) 0 41)).2 = 0 ∧
      ¬ Along frontStep BooksKept freshDevice
        [.setup (answers 40 0 41), .setup (answers 42 0 43)] ∧
      ¬ ∀ es, Along frontStep BooksKept freshDevice es := by
  have hsecond : ¬ Along frontStep BooksKept freshDevice
      [.setup (answers 40 0 41), .setup (answers 42 0 43)] := by
    rw [along_booksKept_iff (Or.inl ⟨rfl, rfl⟩)]
    decide
  exact ⟨by decide, by decide, by decide, hsecond, fun halways => hsecond (halways _)⟩

end XenNet.NetfrontSetup

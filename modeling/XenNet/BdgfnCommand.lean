import XenNet.LongOptions
import XenNet.ParseOptions
import XenNet.RouteListing

namespace XenNet.BdgfnCommand

open XenNet.ByteMemory
open XenNet.TransitionSystem
open XenNet.LastWrite
open XenNet.LongOptions
open XenNet.BridgeKernel
open XenNet.RouteTable
open XenNet.MacStatic
open XenNet.TableBounds
open XenNet.BdgfnLibrary
open XenNet.RouteListing
open XenNet.ParseOptions

/-- `"b:p:d:m:4:6:V:"` and `long_options`. -/
def bdgfnctlOptions : OptionTable OptChar where
  short
    | 'b' => some .b
    | 'p' => some .p
    | 'd' => some .d
    | 'm' => some .m
    | '4' => some .ip4
    | '6' => some .ip6
    | 'V' => some .vport
    | _ => none
  long := [(['b', 'r', 'i', 'd', 'g', 'e'], .b), (['p', 'o', 'r', 't'], .p),
    (['d', 'e', 's', 't'], .d), (['m', 'a', 'c'], .m), (['i', 'p', '4'], .ip4),
    (['i', 'p', '6'], .ip6), (['v', 'p', 'o', 'r', 't'], .vport)]

def optOf : Found OptChar → Opt
  | .option ch optarg => ⟨ch, optarg⟩
  | .unknown => ⟨.unknown, []⟩

/-- `parse_options` on the words of `argv`, the first of which is not looked at. -/
def parseArgv (s : CtlState) (argv : List Word) : CtlState :=
  parseOptions s ((getoptLong bdgfnctlOptions none argv.tail).map optOf)

inductive Command where
  | addif
  | delif
  | listif
  | regfn
  | port
  deriving Repr, DecidableEq

def commands : List (Word × Command) :=
  [(['a', 'd', 'd', 'i', 'f'], .addif), (['d', 'e', 'l', 'i', 'f'], .delif),
    (['l', 'i', 's', 't', 'i', 'f'], .listif), (['r', 'e', 'g', 'f', 'n'], .regfn),
    (['p', 'o', 'r', 't'], .port)]

/-- What a run of the program meets: the answers of the kernel, and the contents of the memory
that `malloc` gives. -/
structure Invocation where
  argv : List Word
  fails : Bool
  err : Int
  fuel : Nat
  breq : CtlState

/-- The routes and the last result, the words from `*argv` on, and whether the options have been
read. -/
structure CtlRun (bridges buckets : Nat) where
  rt : Routes bridges buckets
  ret : Int
  argv : List Word
  parsed : Bool
  crashed : Bool

section Main

variable {bridges buckets : Nat} (ops : RouteModule buckets)

/-- `p->fn(breq)`. `bdgdelif` only returns an error, and `bdgfnctlport` asks netmap. -/
def callCommand (inv : Invocation) (rt : Routes bridges buckets) (breq : Bdgreq) :
    Command → Option (BdgfnCall bridges buckets)
  | .addif => bdgfnDo ops inv.fails inv.fuel rt (addifIoctl breq)
  | .delif => some { ret := -2, breq := breq, rt := rt, listed := [] }
  | .listif => bdgfnDo ops inv.fails inv.fuel rt (listIoctl breq)
  | .regfn => bdgfnDo ops inv.fails inv.fuel rt (regIoctl breq inv.err)
  | .port => some { ret := 0, breq := breq, rt := rt, listed := [] }

/-- The loop over `commands`. It goes on after a call, with `*argv` at the next word; where that
is the null pointer the program crashes. A second command in the same words would find
`getopt_long` where it was left, and is not modelled. -/
def mainLoop (inv : Invocation) :
    List (Word × Command) → CtlRun bridges buckets → Option (CtlRun bridges buckets)
  | [], s => some s
  | (name, cmd) :: rest, s =>
      match s.argv with
      | [] => some { s with crashed := true }
      | word :: argv =>
          if name = word then
            if s.parsed then none
            else do
              let breq := bdgreqOf (parseArgv inv.breq argv).breq
              let call ← callCommand ops inv s.rt breq cmd
              mainLoop inv rest
                { s with rt := call.rt, ret := call.ret, argv := argv, parsed := true }
          else mainLoop inv rest s

/-- `main`, from the word behind the device on. -/
def main (rt : Routes bridges buckets) (inv : Invocation) : Option (CtlRun bridges buckets) :=
  mainLoop ops inv commands
    { rt := rt, ret := -1, argv := inv.argv, parsed := false, crashed := false }

/-- What a run of the program leaves in the kernel. -/
def sessionStep (rt : Routes bridges buckets) (inv : Invocation) :
    Option (Routes bridges buckets) :=
  (main ops rt inv).map CtlRun.rt

end Main

def letterOf : OptChar → Char
  | .b => 'b'
  | .p => 'p'
  | .d => 'd'
  | .m => 'm'
  | .ip4 => '4'
  | .ip6 => '6'
  | .vport => 'V'
  | .unknown => '?'

/-- An option as a user writes it. -/
def optWords (opt : Opt) : List Word :=
  [['-', letterOf opt.ch], opt.optarg]

theorem letterOf_ne_hyphen (ch : OptChar) : letterOf ch ≠ '-' := by
  cases ch <;> decide

theorem short_letterOf {ch : OptChar} (hch : ch ≠ .unknown) :
    bdgfnctlOptions.short (letterOf ch) = some ch := by
  cases ch with
  | unknown => contradiction
  | b | p | d | m | ip4 | ip6 | vport => rfl

theorem getoptLong_optWords {opts : List Opt} (hopts : ∀ opt ∈ opts, opt.ch ≠ .unknown) :
    (getoptLong bdgfnctlOptions none (opts.flatMap optWords)).map optOf = opts := by
  have hknown : ∀ entry ∈ opts.map fun opt => (letterOf opt.ch, opt.ch, opt.optarg),
      entry.1 ≠ '-' ∧ bdgfnctlOptions.short entry.1 = some entry.2.1 := by
    intro entry hentry
    obtain ⟨opt, hopt, rfl⟩ := List.mem_map.mp hentry
    exact ⟨letterOf_ne_hyphen opt.ch, short_letterOf (hopts opt hopt)⟩
  have hletters := getoptLong_letters hknown
  rw [List.flatMap_map] at hletters
  have hwords : opts.flatMap optWords =
      opts.flatMap fun opt => [['-', letterOf opt.ch], opt.optarg] := rfl
  rw [hwords, hletters, List.map_map, List.map_map]
  exact List.map_id'' (fun _ => rfl) opts

/-- The first option is lost: its letter stands where the name of the program should be, and its
argument is no option. -/
theorem parseArgv_optWords {first : Opt} {opts : List Opt}
    (hfirst : first.optarg.head? ≠ some '-') (hopts : ∀ opt ∈ opts, opt.ch ≠ .unknown)
    (s : CtlState) :
    parseArgv s ((first :: opts).flatMap optWords) = parseOptions s opts := by
  rw [parseArgv, List.flatMap_cons, optWords, List.cons_append, List.tail_cons,
    List.cons_append, List.nil_append, getoptLong_operand hfirst, getoptLong_optWords hopts]

section Main

variable {bridges buckets : Nat} {ops : RouteModule buckets} {inv : Invocation}

theorem mainLoop_of_other {cmds : List (Word × Command)} {s : CtlRun bridges buckets}
    {word : Word} {argv : List Word} (hargv : s.argv = word :: argv)
    (hother : ∀ entry ∈ cmds, entry.1 ≠ word) : mainLoop ops inv cmds s = some s := by
  induction cmds with
  | nil => rfl
  | cons entry cmds ih =>
      simp only [mainLoop, hargv, if_neg (hother entry List.mem_cons_self)]
      exact ih fun entry' hentry' => hother entry' (List.mem_cons_of_mem entry hentry')

theorem mainLoop_of_command {before after : List (Word × Command)} {name : Word} {cmd : Command}
    {s : CtlRun bridges buckets} {word : Word} {argv : List Word}
    (hargv : s.argv = name :: word :: argv) (hparsed : s.parsed = false)
    (hbefore : ∀ entry ∈ before, entry.1 ≠ name)
    (hafter : ∀ entry ∈ after, entry.1 ≠ word) :
    mainLoop ops inv (before ++ (name, cmd) :: after) s =
      (callCommand ops inv s.rt (bdgreqOf (parseArgv inv.breq (word :: argv)).breq) cmd).map
        fun call =>
          { s with rt := call.rt, ret := call.ret, argv := word :: argv, parsed := true } := by
  induction before with
  | nil =>
      simp only [List.nil_append, mainLoop, hargv, hparsed, if_true, Bool.false_eq_true, if_false]
      cases callCommand ops inv s.rt (bdgreqOf (parseArgv inv.breq (word :: argv)).breq) cmd with
      | none => rfl
      | some call => exact mainLoop_of_other rfl hafter
  | cons entry before ih =>
      simp only [List.cons_append, mainLoop, hargv, if_neg (hbefore entry List.mem_cons_self)]
      exact ih fun entry' hentry' => hbefore entry' (List.mem_cons_of_mem entry hentry')

theorem sessionStep_of_command {name : Word} {cmd : Command} (hcommand : (name, cmd) ∈ commands)
    {word : Word} {argv : List Word} (hargv : inv.argv = name :: word :: argv)
    (hword : ∀ entry ∈ commands, entry.1 ≠ word) (rt : Routes bridges buckets) :
    sessionStep ops rt inv =
      (callCommand ops inv rt (bdgreqOf (parseArgv inv.breq (word :: argv)).breq) cmd).map
        fun call => call.rt := by
  obtain ⟨before, after, hsplit⟩ := List.append_of_mem hcommand
  have hnames : (commands.map Prod.fst).Nodup := by decide
  rw [hsplit, List.map_append, List.map_cons, List.nodup_append] at hnames
  have hbefore : ∀ entry ∈ before, entry.1 ≠ name := fun entry hentry =>
    hnames.2.2 entry.1 (List.mem_map_of_mem hentry) name List.mem_cons_self
  have hafter : ∀ entry ∈ after, entry.1 ≠ word := fun entry hentry =>
    hword entry (by rw [hsplit]; exact List.mem_append_right _ (List.mem_cons_of_mem _ hentry))
  rw [sessionStep, main, hsplit, mainLoop_of_command hargv rfl hbefore hafter, Option.map_map]
  rfl

theorem rt_bdgfnDo_addif (fuel : Nat) (rt : Routes bridges buckets) (breq : Bdgreq) :
    (bdgfnDo ops false fuel rt (addifIoctl breq)).map (fun call => call.rt) =
      bdgctlStep ops rt (addifIoctl breq) := by
  rw [bdgfnDo_addif, if_neg Bool.false_ne_true, Option.map_map]
  simp only [bdgctlStep, bdgctl, addifIoctl]
  cases bridgeIndex bridges breq.bdgIdx <;> rfl

end Main

/-- A command that adds the route of a station to bridge `0`: the options after the first one
say so, in any order and with whatever else they say. -/
structure AddCommand where
  first : Opt
  opts : List Opt
  mac : Word
  dest : Word
  breq : CtlState
  first_operand : first.optarg.head? ≠ some '-'
  wellFormed : ∀ opt ∈ opts, WellFormed opt
  noIp4 : ∀ opt ∈ opts, opt.ch ≠ .ip4
  bridge : (lastArg .b opts).map intArg = some 0
  destArg : lastArg .d opts = some dest
  macArg : lastArg .m opts = some mac

namespace AddCommand

/-- The command line. -/
def invocation (c : AddCommand) : Invocation where
  argv := ['a', 'd', 'd', 'i', 'f'] :: (c.first :: c.opts).flatMap optWords
  fails := false
  err := 0
  fuel := 0
  breq := c.breq

def address (c : AddCommand) : Nat → UInt8 :=
  ofList (groupBytes 16 ':' c.mac) 0

def port (c : AddCommand) : UInt32 :=
  intArg c.dest

/-- The request that the program makes. -/
def request (c : AddCommand) : Bdgreq :=
  bdgreqOf (parseOptions c.breq c.opts).breq

end AddCommand

theorem ch_ne_unknown {opt : Opt} (hopt : WellFormed opt) : opt.ch ≠ .unknown := by
  intro hch
  rw [WellFormed, hch] at hopt
  exact hopt

theorem word_request (c : AddCommand) {ch : OptChar} {p : Nat}
    (hfield : ch = .b ∧ p = 12 ∨ ch = .d ∧ p = 16) :
    le32 (pointer (parseOptions c.breq c.opts).breq p) =
      lastInt ch c.opts (le32 (pointer c.breq.breq p)) :=
  le32_eq_iff.mpr fun _ hk =>
    word_parseOptions c.wellFormed c.breq hk (hfield.imp_right Or.inl)

theorem bdgIdx_request (c : AddCommand) : c.request.bdgIdx = 0 := by
  have hword : c.request.bdgIdx = lastInt .b c.opts _ := word_request c (.inl ⟨rfl, rfl⟩)
  rw [hword, lastInt, c.bridge, Option.getD_some]

theorem nrDst_request (c : AddCommand) : c.request.nrDst = c.port := by
  have hword : c.request.nrDst = lastInt .d c.opts _ := word_request c (.inr ⟨rfl, rfl⟩)
  rw [hword, lastInt, c.destArg, Option.map_some, Option.getD_some]
  rfl

theorem addrPtr_request (c : AddCommand) :
    bytes c.request.addrPtr 0 6 = bytes c.address 0 6 := by
  have hmac : bytes (parseOptions c.breq c.opts).breq 0 6 = groupBytes 16 ':' c.mac :=
    addr_parseOptions c.wellFormed c.breq (.inl ⟨rfl, rfl, rfl, rfl⟩)
      (fun opt hopt hkind => hkind.resolve_right (c.noIp4 opt hopt)) c.macArg
  have hlength : (groupBytes 16 ':' c.mac).length = 6 := by
    rw [← hmac]
    exact List.length_map ..
  have haddress := bytes_ofList (groupBytes 16 ':' c.mac) 0
  rw [hlength] at haddress
  rw [AddCommand.address, haddress, ← hmac]
  refine bytes_congr fun k hk => ?_
  rw [Nat.zero_add, addrPtr_get c.request ⟨k, hk⟩]
  exact Vector.getElem_ofFn ..

theorem commands_ne_option (c : Char) : ∀ entry ∈ commands, entry.1 ≠ ['-', c] := by
  intro entry hentry heq
  have hhead : ∀ entry ∈ commands, entry.1.head? ≠ some '-' := by decide
  exact hhead entry hentry (congrArg List.head? heq)

theorem sessionStep_addif (c : AddCommand) (rt : MacRoutes) :
    sessionStep macStatic rt c.invocation = macStep rt (addifIoctl c.request) := by
  have hcommand : (['a', 'd', 'd', 'i', 'f'], Command.addif) ∈ commands := List.mem_cons_self
  have hargv : c.invocation.argv = ['a', 'd', 'd', 'i', 'f'] ::
      ['-', letterOf c.first.ch] :: c.first.optarg :: c.opts.flatMap optWords := rfl
  have hparse : parseArgv c.breq ((c.first :: c.opts).flatMap optWords) =
      parseOptions c.breq c.opts :=
    parseArgv_optWords c.first_operand
      (fun opt hopt => ch_ne_unknown (c.wellFormed opt hopt)) c.breq
  rw [sessionStep_of_command hcommand hargv (commands_ne_option _)]
  refine Eq.trans ?_ (rt_bdgfnDo_addif 0 rt c.request)
  rw [AddCommand.request, ← hparse]
  rfl

/-- The port of the last command for a station in the bucket of the address. -/
def lastPort (cmds : List AddCommand) (addr : Nat → UInt8) : Option UInt32 :=
  lastWrite (fun c => if rthashIndex c.address = rthashIndex addr then some c.port else none) cmds

theorem run_session (rt : MacRoutes) (cmds : List AddCommand) :
    run (sessionStep macStatic) rt (cmds.map AddCommand.invocation) =
      run macStep rt (cmds.map fun c => addifIoctl c.request) := by
  induction cmds generalizing rt with
  | nil => rfl
  | cons c cmds ih =>
      simp only [List.map_cons, run, sessionStep_addif]
      cases macStep rt (addifIoctl c.request) with
      | none => rfl
      | some rt' => exact ih rt'

theorem lastRoute_session (cmds : List AddCommand) (addr : Nat → UInt8) :
    lastRoute (inBucket addr) (cmds.map fun c => addifIoctl c.request) = lastPort cmds addr := by
  have hwrite : ∀ c : AddCommand,
      (addifRequest (inBucket addr) (addifIoctl c.request)).map Bdgreq.nrDst =
        if rthashIndex c.address = rthashIndex addr then some c.port else none := by
    intro c
    rw [addifRequest, addifIoctl, inBucket, rthashIndex_congr (addrPtr_request c)]
    simp only [beq_iff_eq, true_and]
    split
    · exact congrArg some (nrDst_request c)
    · rfl
  rw [lastRoute, ← lastWrite_map, lastPort, lastWrite, lastWrite, List.filterMap_map]
  exact congrArg List.getLast? (List.filterMap_congr fun c _ => hwrite c)

/-- From the command lines to the frames. After any session of commands that add routes, a frame
goes to the port that the last command for its source gave, where commands are for the same source
if the addresses have the same hash; without such a command, or from a group, it goes nowhere. -/
theorem session_forwards (api : BdgApi) (cmds : List AddCommand) :
    ∃ rt, run (sessionStep macStatic) (macStaticInit api) (cmds.map AddCommand.invocation) =
        some rt ∧
      ∀ buf, (lookup2 rt buf).dst =
        if buf 6 &&& 1 = 0 then (lastPort cmds (pointer buf 6)).getD api.nmBdgNoport
        else api.nmBdgNoport := by
  have hsafe : ∀ io ∈ cmds.map fun c => addifIoctl c.request,
      SafeRequest MacStatic.nmBridges io.cmd io.breq := by
    intro io hio
    obtain ⟨c, -, rfl⟩ := List.mem_map.mp hio
    refine ⟨fun _ => ?_, nofun⟩
    rw [addifIoctl, bdgIdx_request]
    decide
  obtain ⟨rt, hrun⟩ : ∃ rt, run macStep (macStaticInit api)
      (cmds.map fun c => addifIoctl c.request) = some rt :=
    exists_run_safe macStatic (macStaticInit api) hsafe
  refine ⟨rt, (run_session _ cmds).trans hrun, fun buf => ?_⟩
  have hall : bridgeRequests 0 (cmds.map fun c => addifIoctl c.request) =
      cmds.map fun c => addifIoctl c.request := by
    refine List.filter_eq_self.mpr fun io hio => ?_
    obtain ⟨c, -, rfl⟩ := List.mem_map.mp hio
    rw [onBridge, addifIoctl, bdgIdx_request]
    rfl
  have hnoreg : lastWrite regRequest (cmds.map fun c => addifIoctl c.request) = none := by
    refine lastWrite_eq_none_iff.mpr fun io hio => ?_
    obtain ⟨c, -, rfl⟩ := List.mem_map.mp hio
    rfl
  rw [lookup2_dst api hrun buf, hall, macRoute, lastRoute_session, hnoreg]
  rfl

/-- `addif -p 7 -b 0 -d 3 -m 02:0:0:0:0:1`: the option `-p` is the one that is lost. -/
def addStation : AddCommand where
  first := ⟨.p, ['7']⟩
  opts := [⟨.b, ['0']⟩, ⟨.d, ['3']⟩,
    ⟨.m, ['0', '2', ':', '0', ':', '0', ':', '0', ':', '0', ':', '1']⟩]
  mac := ['0', '2', ':', '0', ':', '0', ':', '0', ':', '0', ':', '1']
  dest := ['3']
  breq := zeroRequest
  first_operand := by decide
  wellFormed := by decide
  noIp4 := by decide
  bridge := by decide
  destArg := by decide
  macArg := by decide

example : lastPort [addStation] (pointer (frameFrom #v[2, 0, 0, 0, 0, 1]) 6) = some 3 := by
  decide

end XenNet.BdgfnCommand

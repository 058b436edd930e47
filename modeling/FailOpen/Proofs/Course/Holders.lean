import FailOpen.Proofs.Course.Step
import FailOpen.Proofs.Loader.Accounts
import Mathlib.Algebra.Order.Group.Multiset
import Mathlib.Tactic.Abel

/-!
# Who holds the libraries of a process

A module is held by the state of a bridge, once for the module itself and once for the engine that
came out of it, and by the operations that are under way.  `Accounted` says that the loader of a
process has counted exactly these holders.

* `Goes.accounted` and `Frame.accounted_leave` are the step lemmas: what an operation takes up before
  it reaches code it has given back, or put into the state of its bridge, when it is over.
* `report_keeps` and `runSteps_keeps` conclude that every step and every run keeps the accounts,
  whatever is under way around it.
-/

namespace FailOpen
namespace Host

/-- The module that is held, if there is one. -/
def held : Option Loader.Module → Multiset Loader.Module
  | none => 0
  | some module => {module}

/-- The modules that the state of a bridge holds. -/
def heldBy (state : Bridge.State) : Multiset Loader.Module :=
  held state.engine.module? + held state.module

/-- The modules that are held from the moment in which code is reached until it has answered. -/
def Frame.held : Frame → Multiset Loader.Module
  | .attempt _ engine module => Host.held engine.module? + Host.held module
  | .deciding engine | .ingesting engine => Host.held engine.module?

/-- The loader has counted as holders the bridges and those in `around`, and nobody else. -/
def Accounted (base : Loader) (around : Multiset Loader.Module) (host : Host) : Prop :=
  base.Accounts (around + heldBy host.own + heldBy host.shared) host.loader

/-- The runner keeps the accounts of everything that is held around its steps. -/
def Keeps (run : Runner) : Prop :=
  ∀ base around steps host, Accounted base around host →
    Accounted base around ((run.all steps).run host).2

variable {base : Loader} {around : Multiset Loader.Module} {host : Host}

theorem Accounted.cast {other : Multiset Loader.Module} (h : host.Accounted base around)
    (heq : around = other) : host.Accounted base other :=
  heq ▸ h

theorem Accounted.observe (h : host.Accounted base around) (output : List (Observation Report)) :
    (host.observe output).Accounted base around := h

theorem Accounted.closing (h : host.Accounted base around) (setup : Setup) (step : Step) :
    (host.closing setup step).Accounted base around := by
  unfold Accounted
  rw [loader_closing, show (host.closing setup step).own = host.own from
      congrFun (bridge_closing setup step host) .own,
    show (host.closing setup step).shared = host.shared from
      congrFun (bridge_closing setup step host) .shared]
  exact h

theorem Accounted.withDisk (h : host.Accounted base around) (disk : Loader.Disk) :
    (host.withDisk disk).Accounted base around :=
  h.congr rfl rfl rfl fun _ => id

theorem Accounted.modifyStatics (h : host.Accounted base around) (code : Code)
    (f : Loader.Statics → Loader.Statics) : (host.modifyStatics code f).Accounted base around := by
  cases code with
  | linked unit => exact h
  | image file => exact Loader.Accounts.modifyStatics h file f

/-- A holder around the process is a holder more. -/
theorem accounted_some_iff {module : Loader.Module} :
    host.Accounted base (held (some module) + around) ↔
      base.Accounts (module ::ₘ (around + heldBy host.own + heldBy host.shared)) host.loader := by
  unfold Accounted held
  rw [Multiset.singleton_add, Multiset.cons_add, Multiset.cons_add]

theorem mem_heldBy (name : BridgeName) {module : Loader.Module}
    (h : module ∈ heldBy (host.bridge name)) :
    module ∈ around + heldBy host.own + heldBy host.shared := by
  cases name with
  | own => exact Multiset.mem_add.mpr (.inl (Multiset.mem_add.mpr (.inr h)))
  | shared => exact Multiset.mem_add.mpr (.inr h)

theorem Accounted.holding (h : host.Accounted base around) {module : Option Loader.Module}
    (hmem : ∀ held ∈ module, held ∈ around + heldBy host.own + heldBy host.shared) :
    (host.holding module).Accounted base (held module + around) := by
  cases module with
  | none => exact h.cast (zero_add around).symm
  | some module =>
    exact accounted_some_iff.mpr (Loader.Accounts.retain h (hmem module rfl))

theorem Accounted.lettingGo {module : Option Loader.Module}
    (h : host.Accounted base (held module + around)) :
    (host.lettingGo module).Accounted base around := by
  cases module with
  | none => exact h.cast (zero_add around)
  | some module =>
    exact Loader.Accounts.release (accounted_some_iff.mp h)

theorem Accounted.setBridge {name : BridgeName} {next : Bridge.State}
    (h : host.Accounted base (heldBy next + around)) :
    (host.setBridge name next).Accounted base (heldBy (host.bridge name) + around) := by
  unfold Accounted at h ⊢
  cases name with
  | own =>
    change base.Accounts (heldBy host.own + around + heldBy next + heldBy host.shared) host.loader
    convert h using 1
    abel
  | shared =>
    change base.Accounts (heldBy host.shared + around + heldBy host.own + heldBy next) host.loader
    convert h using 1
    abel

/-- What a new state holds was held for it before, and what the old state held is let go. -/
theorem Accounted.replacing {name : BridgeName} {next : Bridge.State}
    (h : host.Accounted base (heldBy next + around)) :
    (host.replacing name next).Accounted base around := by
  have hset : (host.setBridge name next).Accounted base (heldBy (host.bridge name) + around) :=
    h.setBridge
  rw [heldBy, add_assoc] at hset
  exact hset.lettingGo.lettingGo

theorem Accounted.loaded (h : host.Accounted base around) {path : String} {module : Loader.Module}
    {loader : Loader} (hload : host.loader.load path = .ok (module, loader)) :
    (host.loaded path loader).Accounted base (held (some module) + around) := by
  exact accounted_some_iff.mpr (Loader.Accounts.load h hload)

/-! ## What the accounts say about files -/

/-- With unloaded bridges and no call under way, nobody holds anything. -/
theorem accounted_of_unloaded (hunloaded : ∀ name, host.bridge name = .unloaded) :
    host.Accounted host.loader 0 := by
  have hown : host.own = .unloaded := hunloaded .own
  have hshared : host.shared = .unloaded := hunloaded .shared
  unfold Accounted
  rw [hown, hshared]
  exact Loader.Accounts.zero host.loader

/-- The file of a module that is held around the process is mapped. -/
theorem Accounted.isMapped (h : host.Accounted base around) {module : Loader.Module}
    (hmem : module ∈ around) : host.loader.isMapped module.file :=
  Loader.Accounts.isMapped_of_mem h
    (Multiset.mem_add.mpr (.inl (Multiset.mem_add.mpr (.inl hmem))))

/-- A file that was not mapped at the beginning is not mapped when nobody holds a module of it. -/
theorem Accounted.isMapped_eq_false (h : host.Accounted base around) {file : String}
    (hbase : base.isMapped file = false) (haround : ∀ module ∈ around, module.file ≠ file)
    (hbridges : ∀ name, ∀ module ∈ heldBy (host.bridge name), module.file ≠ file) :
    host.loader.isMapped file = false := by
  refine Loader.Accounts.isMapped_eq_false h hbase fun module hmem => ?_
  rcases Multiset.mem_add.mp hmem with hmem | hmem
  · rcases Multiset.mem_add.mp hmem with hmem | hmem
    · exact haround module hmem
    · exact hbridges .own module hmem
  · exact hbridges .shared module hmem

/-! ## Operations -/

variable {setup : Setup}

/-- Code that is entered takes up no module. -/
theorem accounted_entryVisit (h : host.Accounted base around) (code : Code) (call : Call) :
    (entryVisit setup host code call).host.Accounted base around := by
  unfold entryVisit
  cases setup.program code with
  | coded entryCode => exact h.modifyStatics code _
  | analyzer analyzer => exact (h.modifyStatics code _).modifyStatics code _

theorem accounted_visitOf (h : host.Accounted base around) {engine : Engine} {demand : Demand}
    {visit : Visit} (hvisit : visitOf setup host engine demand = some visit) :
    visit.host.Accounted base around := by
  cases engine with
  | inert => cases hvisit
  | custom name =>
    obtain rfl := Option.some.inj hvisit
    exact h
  | native native =>
    obtain rfl := Option.some.inj hvisit
    exact accounted_entryVisit h native.code demand.call

/-- A module that has just been loaded is held twice: for itself, and for the engine in it. -/
theorem Accounted.accounted_found (h : host.Accounted base around) {path : String}
    {module : Loader.Module} {loader : Loader}
    (hload : host.loader.load path = .ok (module, loader)) :
    ((host.loaded path loader).holding (some module)).Accounted base
      (held (some module) + (held (some module) + around)) := by
  refine (h.loaded hload).holding fun other hother => ?_
  obtain rfl := Option.some.inj hother
  simp [held]

/-- The accounts in the middle of an operation: the new state of a bridge is held by the operation
before it is published, and an operation that reaches code holds what its frame says. -/
def Course.Accounted (base : Loader) (around : Multiset Loader.Module) : Course → Prop
  | .pass host => host.Accounted base around
  | .replace _ next host _ _ => host.Accounted base (heldBy next + around)
  | .reach frame visit => visit.host.Accounted base (frame.held + around)

/-- The step lemma for operations, up to the moment in which code is reached or a state is replaced:
one case for each way in which an operation can go. -/
theorem Goes.accounted {name : BridgeName} {operation : Operation} {course : Course}
    (hgoes : Goes setup host name operation course) (h : host.Accounted base around) :
    course.Accounted base around := by
  cases hgoes with
  | loadFails hloads hload => exact (h.observe _).cast (zero_add around).symm
  | @lacks path args module loader missing hloads hload hmissing =>
    have hstart := (h.accounted_found hload).lettingGo.observe (diagnosis missing.message)
    exact hstart.cast (congrArg (· + around) (zero_add (held (some module))).symm)
  | @startsLoaded path args module loader visit hloads hload hcomplete hvisit =>
    exact (accounted_visitOf (h.accounted_found hload) hvisit).cast (add_assoc _ _ _).symm
  | refuses hsupplies => exact (h.observe _).cast (zero_add around).symm
  | @startsSupplied engine args visit hsupplies hvisit =>
    have hheld : held engine.module? + held none = 0 := by
      rw [Operation.module?_of_supplies? hsupplies]
      rfl
    refine (accounted_visitOf h hvisit).cast ?_
    rw [Frame.held, hheld, zero_add]
  | disables hdisable => exact (h.observe _).cast (zero_add around).symm
  | unheard hdemand hengine => exact h.observe _
  | @forwards engine demand visit hdemand hengine hvisit =>
    -- the state of the bridge holds the engine, so the call only adds a holder
    have hmem : ∀ module ∈ engine.module?,
        module ∈ around + heldBy host.own + heldBy host.shared := by
      rintro module hmodule
      refine mem_heldBy name (Multiset.mem_add.mpr (.inl ?_))
      rw [hengine, show engine.module? = some module from hmodule]
      exact Multiset.mem_singleton_self module
    have hframe : (frameOf engine demand).held = held engine.module? := by
      cases demand <;> rfl
    refine (accounted_visitOf (h.holding hmem) hvisit).cast ?_
    rw [hframe]
  | shutsDown hshutdown => exact h.cast (zero_add around).symm

/-- An engine that has not started is let go, and its module is published without it. -/
theorem accounted_refused {name : BridgeName} {engine : Engine} {module : Option Loader.Module}
    {reason : Bridge.Reason}
    (h : host.Accounted base (held engine.module? + held module + around)) :
    ((host.lettingGo engine.module?).replacing name
      (.disabled reason module)).Accounted base around := by
  have hleft := (h.cast (add_assoc _ _ _)).lettingGo
  refine (hleft.cast ?_).replacing
  exact congrArg (· + around) (zero_add (held module)).symm

/-- What an operation holds while code is reached, it has given back or published in the end. -/
theorem Frame.accounted_leave {frame : Frame} (h : host.Accounted base (frame.held + around))
    (answer : Answer) : (frame.leave answer host).Accounted base around := by
  cases frame with
  | attempt name engine module =>
    unfold leave
    rcases answer.startup with started | _
    · cases started with
      | true => exact (h.observe _).replacing
      | false => exact accounted_refused (h.observe _)
    · exact accounted_refused (h.observe _)
  | deciding engine =>
    unfold leave
    cases answer.decision <;> exact (h.observe _).lettingGo
  | ingesting engine =>
    unfold leave
    cases answer.ingestion with
    | returned done => exact h.lettingGo
    | panicked => exact (h.observe _).lettingGo

/-! ## Steps and runs -/

variable {run : Runner}

theorem Visit.accounted_ending (hrun : Keeps run) {visit : Visit}
    (h : visit.host.Accounted base around) : (visit.ending run).Accounted base around := by
  unfold ending callBack
  cases visit.callbacks run with
  | none => exact h.observe _
  | some steps => exact (hrun base around steps visit.host h).observe _

theorem Course.accounted_finish (hrun : Keeps run) {course : Course}
    (h : course.Accounted base around) : (course.finish run).2.Accounted base around := by
  cases course with
  | pass host => exact h
  | replace name next host notes result => exact h.replacing.observe notes
  | reach frame visit =>
    exact Frame.accounted_leave (visit.accounted_ending hrun h) (visit.answer run)

theorem accounted_directVisit (h : host.Accounted base around) {step : Step} {visit : Visit}
    (hvisit : step.directVisit? setup host = some visit) : visit.host.Accounted base around := by
  rcases visit_of_directVisit? setup hvisit with ⟨engine, demand, hvisit⟩ | ⟨code, call, rfl⟩
  · exact accounted_visitOf h hvisit
  · exact accounted_entryVisit h code call

/-- The step lemma: a step keeps the accounts if the steps made inside it do. -/
theorem report_keeps (hrun : Keeps run) (step : Step) (h : host.Accounted base around) :
    ((report setup run step).run host).2.Accounted base around := by
  have hbeginning : host.beginning.Accounted base around := h
  have hperformed : ((perform setup run step).run host.beginning).2.Accounted base around := by
    cases htarget : step.target? with
    | some target =>
      obtain ⟨name, operation⟩ := target
      obtain ⟨course, hgoes, hperform⟩ := exists_goes_of_target setup htarget host.beginning
      rw [hperform run]
      exact (Course.accounted_finish hrun
        (hgoes.accounted (hbeginning.observe step.preface))).closing setup step
    | none =>
      cases hvisit : step.directVisit? setup host.beginning with
      | some visit =>
        obtain ⟨result, hperform⟩ := perform_of_directVisit setup hvisit run
        rw [hperform]
        exact visit.accounted_ending hrun (accounted_directVisit hbeginning hvisit)
      | none =>
        obtain ⟨result, hperform⟩ := perform_of_aside setup htarget hvisit
        rw [hperform run]
        exact hbeginning.withDisk _
  exact hperformed

theorem reportAll_keeps (hrun : Keeps run) (steps : List Step) (h : host.Accounted base around) :
    ((reportAll setup run steps).run host).2.Accounted base around := by
  induction steps generalizing host with
  | nil => exact h
  | cons step steps ih =>
    rw [reportAll_cons_run]
    exact ih (report_keeps hrun step h)

/-- Callbacks keep the accounts, however deep they are performed. -/
theorem calledBack_keeps (setup : Setup) (depth : Nat) : Keeps (calledBack setup depth) := by
  induction depth with
  | zero =>
    intro base around steps host h
    rw [all_calledBack_zero]
    exact h
  | succ depth ih =>
    intro base around steps host h
    rw [all_calledBack_succ]
    exact reportAll_keeps ih steps h

/-- Every run keeps the accounts. -/
theorem runSteps_keeps (setup : Setup) (depth : Nat) (steps : List Step)
    (h : host.Accounted base around) :
    ((runSteps setup depth steps).run host).2.Accounted base around :=
  reportAll_keeps (calledBack_keeps setup depth) steps h

end Host
end FailOpen

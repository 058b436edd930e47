import FailOpen.Proofs.Bridge.Coupling
import FailOpen.Proofs.Bridge.Restarts

/-!
# Disabled and unloaded bridges

An unloaded bridge has nothing, while a disabled one may still have the library mapped that it could
not use.  Neither has an engine, and the image of a library that failed to start is as good as a fresh
one if the library keeps nothing outside its slot.  So whoever works with the bridge cannot tell one
from the other, as long as the retained library is still what is found under its names, and nobody
makes use of what a shutdown answers.

* `Reached` describes the processes in which a bridge is the only holder of libraries.
* `indistinguishable_of_reached` compares an unloaded bridge and a disabled one in two such processes,
  over everything that can be done with them from then on.
* `disabled_told_apart` shows what each of its conditions is for.

The lines of the log are not compared.  They name the reason for which a bridge is disabled.
-/

namespace FailOpen
namespace Host

variable {setup : Setup} {scope : Scope} {name : BridgeName} {host twin : Host}

/-- The process has begun with unloaded bridges and nothing mapped, and libraries have been loaded for
one bridge only.  It is at a moment of its run at which no call holds a library. -/
def Reached (setup : Setup) (name : BridgeName) (host : Host) : Prop :=
  ∃ disk received linked depth steps, (∀ step ∈ steps, step.LoadsFor name) ∧
    Moment setup depth { loader := { disk }, received, linked } steps 0 host

/-- In a process that has just begun, a bridge is alone. -/
theorem alone_fresh (setup : Setup) (disk : Loader.Disk) (name : BridgeName)
    (received : String → List Call) (linked : String → Loader.Statics) :
    Alone setup name { loader := { disk }, received, linked } := by
  have hunloaded : ∀ other,
      ({ loader := { disk }, received, linked } : Host).bridge other = .unloaded := by
    intro other
    cases other <;> rfl
  refine ⟨⟨disk, accounted_of_unloaded hunloaded⟩, coherent_of_unloaded hunloaded, fun other => ?_,
    fun other _ => ?_, fun file _ => rfl⟩
  · rw [hunloaded]
    exact backed_inert
  · rw [hunloaded]
    rfl

theorem Reached.alone (hconfined : setup.Confined name) (h : Reached setup name host) :
    Alone setup name host := by
  obtain ⟨disk, received, linked, depth, steps, hloads, hmoment⟩ := h
  exact hmoment.alone hconfined hloads (alone_fresh setup disk name received linked) rfl

/-- In every process only mapped files have names. -/
theorem Reached.named (h : Reached setup name host) : host.loader.Named := by
  obtain ⟨disk, received, linked, depth, steps, -, hmoment⟩ := h
  have hinvariant : Invariant setup fun host => host.loader.Named :=
    lasting_invariant Loader.named_lasting fun hnamed _ => hnamed
  refine hinvariant.holds_moment hmoment fun given file hmem => ?_
  cases hmem

/-- A bridge that is not initialized has no engine. -/
theorem Alone.party_eq_none (h : Alone setup name host)
    (hstatus : (host.bridge name).status ≠ .initialized) :
    partyOf (host.bridge name).engine = none := by
  have hinert : (host.bridge name).engine = .inert := by
    by_contra hne
    exact hstatus ((h.coherent name).initialized_iff.mpr hne)
  rw [hinert]
  rfl

/-- While the bridge is unloaded, nothing is mapped. -/
theorem Alone.isMapped_eq_false (h : Alone setup name host)
    (hunloaded : (host.bridge name).status = .unloaded) (file : String) :
    host.loader.isMapped file = false := by
  rw [← Bool.not_eq_true, h.isMapped_iff]
  exact not_pinned_of_module ((h.coherent name).unheld (.inl hunloaded)) file

/-- Code with the same past in processes in which the bridge is not initialized: no image of theirs
has a started analyzer in it. -/
theorem peers_of_not_initialized (h : Alone setup name host) (h' : Alone setup name twin)
    (hstatus : (host.bridge name).status ≠ .initialized)
    (hstatus' : (twin.bridge name).status ≠ .initialized)
    (hreceived : host.received = twin.received) (hlinked : host.linked = twin.linked) :
    Peers host twin := by
  refine ⟨hreceived, hlinked, fun file => ?_⟩
  rw [h.idle file (by simp [h.party_eq_none hstatus]),
    h'.idle file (by simp [h'.party_eq_none hstatus'])]

/-- Two runs of the same steps look the same to whoever makes them.  The bridge was in the states
`first` and `second` before them. -/
structure Indistinguishable (name : BridgeName) (first second : Bridge.State)
    (ran other : List Report × Host) : Prop where
  /-- Every step, at every depth: the same calls with the same answers, the same result but for the
  few that tell the state of the bridge before its first change, and the same state since then. -/
  alike : List.Forall₂ (Alike name first second) (timelineOf [] ran.1) (timelineOf [] other.1)
  /-- All analyzers are asked the same. -/
  requests : ∀ code, requestsOf code ran.1 = requestsOf code other.1
  /-- The bridge has changed in both runs or in none, and it looks the same since it has. -/
  states : Drift name first second (changesOf ran.1) (changesOf other.1) (ran.2.bridge name)
    (other.2.bridge name)
  /-- All code has the same past. -/
  code : Peers ran.2 other.2
  /-- Until the bridge changes, one process has nothing mapped and the other one what was kept. -/
  kept : Untouched name (changesOf ran.1) → ∀ file, ran.2.loader.isMapped file = false ∧
    (other.2.loader.isMapped file ↔ Pinned (.image file) second)
  /-- From then on both of them have the same mapped. -/
  mapped : ¬ Untouched name (changesOf ran.1) →
    ∀ file, ran.2.loader.isMapped file = other.2.loader.isMapped file

/-- A disabled bridge is as good as an unloaded one, whatever it keeps and whatever is done with it, if
what it keeps is still found under its names.  Operations of the bridge are always among the steps
that can be made (`Step.WorksOn.within` and `Step.WorksOn.early`). -/
theorem indistinguishable_of_reached (hneutral : setup.Neutral scope name)
    (hhost : Reached setup name host) (htwin : Reached setup name twin)
    (hunloaded : (host.bridge name).status = .unloaded) {reason : Bridge.Reason}
    (hdisabled : (twin.bridge name).status = .disabled reason)
    (hreceived : host.received = twin.received) (hlinked : host.linked = twin.linked)
    (hothers : ∀ other ≠ name, scope.bridges other →
      outline (host.bridge other) = outline (twin.bridge other))
    (hsettled : host.loader.disk.Settled) (hfollows : twin.loader.Follows host.loader.disk)
    (depth : Nat) {steps : List Step}
    (hsteps : ∀ step ∈ steps, step.Within scope name ∧ step.Early scope name) :
    Indistinguishable name (host.bridge name) (twin.bridge name)
      ((runSteps setup depth steps).run host) ((runSteps setup depth steps).run twin) := by
  have halone := hhost.alone hneutral.confined
  have halone' := htwin.alone hneutral.confined
  have hstatus : (host.bridge name).status ≠ .initialized := by simp [hunloaded]
  have hstatus' : (twin.bridge name).status ≠ .initialized := by simp [hdisabled]
  have htwins : Twins setup host.loader.disk scope name host twin :=
    { alone := halone
      aloneTwin := halone'
      follows := hhost.named.follows (halone.isMapped_eq_false hunloaded)
      followsTwin := hfollows
      peers := peers_of_not_initialized halone halone' hstatus hstatus' hreceived hlinked
      abreast :=
        ⟨hothers, .inr ⟨halone.party_eq_none hstatus, halone'.party_eq_none hstatus'⟩⟩ }
  obtain ⟨hcoupled, hafter⟩ := runSteps_couples hneutral hsettled depth hsteps htwins
  -- after the run the bridge is still alone in both processes, so its state says what is mapped
  refine ⟨hcoupled.alike, hcoupled.requests, hcoupled.states, hafter.peers, fun huntouched file => ?_,
    fun htouched file => ?_⟩
  · obtain ⟨hsame, hsame'⟩ := hcoupled.states.before huntouched
    refine ⟨hafter.alone.isMapped_eq_false (by rw [hsame, hunloaded]) file, ?_⟩
    rw [hafter.aloneTwin.isMapped_iff, hsame']
  · rw [Bool.eq_iff_iff, hafter.alone.isMapped_iff, hafter.aloneTwin.isMapped_iff]
    exact pinned_of_outline (hcoupled.states.since htouched) file

/-! ## A library that has been refused -/

/-- Every file is the library of `analyzing`, and every name stands for an engine that goes through the
routine when it is started. -/
def calling (routine : Routine (Outcome Bool)) : Setup :=
  { analyzing with
    supplied := fun _ => .custom "engine"
    custom := fun _ => { CustomEngine.refusing with startup := fun _ _ => .callBack routine } }

/-- The engine shuts the bridge down when it is started, whatever that answers. -/
def yielding : Setup :=
  calling (.step (.bridge .own .shutdown) fun _ => .answer (.returned true))

/-- No other bridge, and no engine but through the bridge. -/
def Scope.nothing : Scope where
  bridges _ := False
  calls _ := False

theorem yielding_neutral : yielding.Neutral .nothing .own where
  analyzers _ := ⟨Scenario.fixture, rfl, fun _ _ => rfl, fun _ _ => rfl, fun _ _ => rfl⟩
  makes :=
    { custom := fun engine before demand => by
        cases demand with
        | startup args =>
          have hwithin : (Step.bridge .own .shutdown).Within .nothing .own :=
            Step.WorksOn.within ⟨_, rfl⟩ _
          exact ⟨hwithin, fun _ => trivial⟩
        | _ => trivial
      coded := fun {code entryCode} hprogram before call => by
        cases code with
        | image file => cases hprogram
        | linked unit =>
          obtain rfl : EntryCode.refusing = entryCode := Program.coded.inj hprogram
          cases call <;> trivial }
  discreet :=
    { custom := fun engine before demand _ => by
        cases demand with
        | startup args =>
          have hearly : (Step.bridge .own .shutdown).Early .nothing .own :=
            Step.WorksOn.early ⟨_, rfl⟩ _
          exact ⟨hearly, fun _ _ _ => rfl, trivial, fun _ _ => trivial⟩
        | _ => trivial
      coded := fun {code entryCode} hprogram before call _ => by
        cases code with
        | image file => cases hprogram
        | linked unit =>
          obtain rfl : EntryCode.refusing = entryCode := Program.coded.inj hprogram
          cases call <;> trivial }

/-- The process in which a library has been started without a key, and is kept. -/
def refusedHost : Host := ((runSteps yielding 1 [keyless]).run oneLibrary).2

/-- The steps of asking for a decision, starting the engine that shuts the bridge down, starting the
library with a key, asking again and shutting down. -/
def askingSteps : List Step :=
  [.bridge .own (.decideBlock default), .bridge .own (.startSupplied "engine" default),
    .bridge .own (.startFrom "/library" keyArguments), .bridge .own (.decideBlock default),
    .bridge .own .shutdown]

/-- A bridge that keeps a library which has refused to start, next to one that never had any. -/
theorem refusedHost_indistinguishable :
    refusedHost.loader.isMapped "library" = true ∧ oneLibrary.loader.isMapped "library" = false ∧
      Indistinguishable .own (oneLibrary.bridge .own) (refusedHost.bridge .own)
        ((runSteps yielding 1 askingSteps).run oneLibrary)
        ((runSteps yielding 1 askingSteps).run refusedHost) := by
  have hsettled : oneLibrary.loader.disk.Settled :=
    Loader.Disk.settled_of_tokens_nil rfl fun directory hmem => by cases hmem
  have hworks : ∀ {steps : List Step}, (∀ step ∈ steps, step.WorksOn .own) →
      ∀ step ∈ steps, step.Within .nothing .own ∧ step.Early .nothing .own :=
    fun h step hmem => ⟨(h step hmem).within _, (h step hmem).early _⟩
  have hkeyless : ∀ step ∈ [keyless], step.WorksOn .own := by
    intro step hmem
    rw [List.mem_singleton.mp hmem]
    exact ⟨_, rfl⟩
  have hasking : ∀ step ∈ askingSteps, step.WorksOn .own := by
    intro step hmem
    simp only [askingSteps, List.mem_cons, List.not_mem_nil, or_false] at hmem
    rcases hmem with rfl | rfl | rfl | rfl | rfl <;> exact ⟨_, rfl⟩
  have hfresh : Reached yielding .own oneLibrary :=
    ⟨_, _, _, 1, [], List.forall_mem_nil _, .between 1 oneLibrary [] []⟩
  have hrefused : Reached yielding .own refusedHost :=
    ⟨_, _, _, 1, [keyless], fun step hmem => (hworks hkeyless step hmem).1.loads,
      .last 1 [keyless] oneLibrary⟩
  have hfollows : refusedHost.loader.Follows oneLibrary.loader.disk :=
    runSteps_guarded hsettled.lasting (yielding_neutral.makes.imp fun _ h => h.leaves _) 1
      (fun step hmem => (hworks hkeyless step hmem).1.leaves _) (Loader.follows_fresh _)
  have hdisabled : (refusedHost.bridge .own).status = .disabled .startupRejected := by
    decide +kernel
  refine ⟨by decide +kernel, rfl, ?_⟩
  exact indistinguishable_of_reached yielding_neutral hfresh hrefused rfl hdisabled rfl rfl
    (fun other _ hscope => hscope.elim) hsettled hfollows 1 (hworks hasking)

/-! ## What else tells a disabled bridge from an unloaded one -/

/-- The process after some steps, with unloaded bridges and nothing mapped before them. -/
def after (setup : Setup) (disk : Loader.Disk) (past : List Step) : Host :=
  ((runSteps setup 1 past).run { loader := { disk } }).2

/-- A bridge is unloaded after some steps and disabled after others, and all else is the same: no other
bridge holds anything, custom engines and linked units have received the same, and the same is stored
on disk.  All libraries have analyzers in them, with startups that depend on the configuration alone.
Still, an attempt, a decision or an ingestion has different results in the two processes. -/
structure ToldApart (setup : Setup) (disk : Loader.Disk) (past past' steps : List Step) : Prop where
  libraries : ∀ file, ∃ analyzer, setup.program (.image file) = .analyzer analyzer ∧
    ∀ asked asked', analyzer.start asked = analyzer.start asked'
  unloaded : ((after setup disk past).bridge .own).status = .unloaded
  disabled : ((after setup disk past').bridge .own).status = .disabled .startupRejected
  others : (after setup disk past).bridge .shared = .unloaded ∧
    (after setup disk past').bridge .shared = .unloaded
  received : (after setup disk past).received = (after setup disk past').received
  linked : (after setup disk past).linked = (after setup disk past').linked
  stored : (after setup disk past).loader.disk = (after setup disk past').loader.disk
  works : ∀ step ∈ steps, ∃ operation, step = .bridge .own operation ∧ operation ≠ .shutdown
  differ : ((runSteps setup 1 steps).run (after setup disk past)).1.map Report.result ≠
    ((runSteps setup 1 steps).run (after setup disk past')).1.map Report.result

/-- Every file is a library with an analyzer that blocks when it has been started more than once. -/
def counting : Setup where
  library _ :=
    { exports := EntryPoint.all.map EntryPoint.symbol
      program := .analyzer { Scenario.fixture with
        block := fun asked _ _ => .returned (1 < asked.countP fun
          | .start _ => true
          | _ => false) } }

/-- The engine starts if a step that it makes has the given result. -/
def heeding (step : Step) (hoped : Result) : Setup :=
  calling (.step step fun result? => .answer (.returned (result? = some hoped)))

/-- The engine starts if the other bridge starts the library without a key, after it has started it
with one and shut down. -/
def borrowing : Setup :=
  calling (.step (.bridge .shared (.startFrom "/library" keyArguments)) fun _ =>
    .step (.bridge .shared .shutdown) fun _ =>
      .step (.bridge .shared (.startFrom "/library" default)) fun result? =>
        .answer (.returned (result? = some (.flag true))))

/-- A disk with the library at the install path. -/
def installedDisk : Loader.Disk where
  stored location :=
    if location = Loader.installLocation then some (.library "library") else some .directory

/-- A disk on which what is found under a name with a token has a token in its path itself. -/
def unsettledDisk : Loader.Disk where
  stored location := if location = ["$b"] then some (.library "library") else none
  tokens := [("a", "$b"), ("b", "c")]

/-- A library that has been refused and is kept tells a disabled bridge from an unloaded one in any of
these cases: the library has been removed since; it keeps data outside its slot; another bridge has
started it in the meantime; the path that was taken for its name leads elsewhere; an engine acts upon
the result of a shutdown, upon how the bridge is shown, or upon whether the library is mapped; or an
engine loads it for another bridge. -/
theorem disabled_told_apart :
    ToldApart analyzing installedDisk [.uninstall]
        [.bridge .own (.startInstalled default), .uninstall]
        [.bridge .own (.startInstalled keyArguments)] ∧
      ToldApart counting oneLibrary.loader.disk [] [keyless]
        [.bridge .own (.startFrom "/library" keyArguments), .bridge .own (.decideBlock default)] ∧
      ToldApart analyzing oneLibrary.loader.disk
        [.bridge .shared (.startFrom "/library" keyArguments), .bridge .shared .shutdown]
        [keyless, .bridge .shared (.startFrom "/library" keyArguments), .bridge .shared .shutdown]
        [keyless] ∧
      ToldApart analyzing unsettledDisk [] [.bridge .own (.startFrom "/$a" default)]
        [.bridge .own (.startFrom "/$b" keyArguments)] ∧
      ToldApart (heeding (.bridge .own .shutdown) (.flag true)) oneLibrary.loader.disk [] [keyless]
        [.bridge .own (.startSupplied "engine" default)] ∧
      ToldApart (heeding (.display .own) (.text Bridge.State.unloaded.shown))
        oneLibrary.loader.disk [] [keyless] [.bridge .own (.startSupplied "engine" default)] ∧
      ToldApart (heeding (.isMapped "library") (.flag true)) oneLibrary.loader.disk [] [keyless]
        [.bridge .own (.startSupplied "engine" default)] ∧
      ToldApart borrowing oneLibrary.loader.disk [] [keyless]
        [.bridge .own (.startSupplied "engine" default)] := by
  -- each case is settled by making its steps in both processes
  refine ⟨?_, ?_, ?_, ?_, ?_, ?_, ?_, ?_⟩ <;>
    refine ⟨fun _ => ⟨_, rfl, fun _ _ => rfl⟩, by decide +kernel, by decide +kernel,
      by decide +kernel, rfl, rfl, rfl, ?_, by decide +kernel⟩
  all_goals simp [keyless]

end Host
end FailOpen

import FailOpen.Proofs.Bridge.Alone
import FailOpen.Proofs.Bridge.Attempt
import FailOpen.Proofs.Course.Approach
import FailOpen.Proofs.Course.Loading
import FailOpen.Proofs.Timeline.Alike

/-!
# Two processes with the same code and the same files

`Twins` are two processes in each of which a bridge is alone, with the same files on disk and the same
past of all code, in which the bridge looks the same, or has no engine.  An operation has the same
course in both of them:

* `Twins.visits`: it makes the same call, or none.
* `Twins.answered`: what happens in the call looks alike, if all steps inside it do (`Couples`).
* `Twins.ends_alike`: it ends in the same way, but for what a shutdown answers.
-/

namespace FailOpen
namespace Host

open Analyzer (Request)

/-- All libraries are analyzers that keep nothing beside their slots.  Code that calls back turns to
nothing that is out of scope, and is discreet. -/
structure Setup.Neutral (setup : Setup) (scope : Scope) (name : BridgeName) : Prop where
  analyzers : ∀ file, ∃ analyzer, setup.program (.image file) = .analyzer analyzer ∧
    analyzer.Forgetful
  makes : setup.Makes fun step => step.Within scope name
  discreet : setup.Discreet scope name

variable {setup : Setup} {disk : Loader.Disk} {scope : Scope} {name target : BridgeName}
  {host twin : Host}

theorem Setup.Neutral.confined (h : setup.Neutral scope name) : setup.Confined name where
  analyzers file := (h.analyzers file).imp fun _ hanalyzer => hanalyzer.1
  makes := h.makes.imp fun _ hwithin => hwithin.loads

/-! ## States of the bridges -/

/-- The bridges that are in scope look the same in two processes.  So does the bridge in question, or
else it has no engine in either of them. -/
structure Abreast (scope : Scope) (name : BridgeName) (first second : BridgeName → Bridge.State) :
    Prop where
  others : ∀ other ≠ name, scope.bridges other → outline (first other) = outline (second other)
  stage : outline (first name) = outline (second name) ∨
    (partyOf (first name).engine = none ∧ partyOf (second name).engine = none)

section

variable {first second first' second' : BridgeName → Bridge.State}

theorem Abreast.party (h : Abreast scope name first second)
    (htarget : target = name ∨ scope.bridges target) :
    partyOf (first target).engine = partyOf (second target).engine := by
  by_cases hname : target = name
  · subst hname
    rcases h.stage with hsame | ⟨hnone, hnone'⟩
    · exact congrArg Outline.party hsame
    · exact hnone.trans hnone'.symm
  · exact congrArg Outline.party (h.others target hname (htarget.resolve_left hname))

/-- If the bridge looks the same, all bridges do that are in scope. -/
theorem Abreast.outline_eq (h : Abreast scope name first second)
    (htarget : target = name ∨ scope.bridges target)
    (hsame : target = name → outline (first name) = outline (second name)) :
    outline (first target) = outline (second target) := by
  by_cases hname : target = name
  · rw [hname]
    exact hsame hname
  · exact h.others target hname (htarget.resolve_left hname)

/-- Every bridge in scope has got states that look the same, or has not changed. -/
theorem Abreast.change (h : Abreast scope name first second)
    (hnext : ∀ other, other = name ∨ scope.bridges other →
      outline (first' other) = outline (second' other) ∨
        (first' other = first other ∧ second' other = second other)) :
    Abreast scope name first' second' where
  others other hne hscope := by
    rcases hnext other (.inr hscope) with hsame | ⟨hsame, hsame'⟩
    · exact hsame
    · rw [hsame, hsame']
      exact h.others other hne hscope
  stage := by
    rcases hnext name (.inl rfl) with hsame | ⟨hsame, hsame'⟩
    · exact .inl hsame
    · rw [hsame, hsame']
      exact h.stage

end

/-! ## Twins -/

/-- Two processes that differ in nothing that decides what a bridge does. -/
structure Twins (setup : Setup) (disk : Loader.Disk) (scope : Scope) (name : BridgeName)
    (host twin : Host) : Prop where
  alone : Alone setup name host
  aloneTwin : Alone setup name twin
  follows : host.loader.Follows disk
  followsTwin : twin.loader.Follows disk
  peers : Peers host twin
  abreast : Abreast scope name host.bridge twin.bridge

/-- What two processes show in which the same step is made, and what they are like afterwards. -/
structure Matched (setup : Setup) (disk : Loader.Disk) (scope : Scope) (name : BridgeName)
    (step : Step) (host twin : Host) (ran other : Option Report × Host) : Prop where
  performed : Option.Rel (fun report _ => report.step = step) ran.1 other.1
  coupled : Coupled name (host.bridge name) (twin.bridge name) ran.1.toList other.1.toList
    (ran.2.bridge name) (other.2.bridge name)
  twins : Twins setup disk scope name ran.2 other.2

/-- The runner makes the same step in the same way in twins.  As long as the bridge does not look the
same in both of them, the step must be one that may be made early. -/
def Couples (setup : Setup) (disk : Loader.Disk) (scope : Scope) (name : BridgeName)
    (run : Runner) : Prop :=
  ∀ step host twin, step.Within scope name → Twins setup disk scope name host twin →
    (outline (host.bridge name) = outline (twin.bridge name) ∨ step.Early scope name) →
      Matched setup disk scope name step host twin ((run step).run host) ((run step).run twin)

theorem Peers.observe (h : Peers host twin) (output output' : List (Observation Report)) :
    Peers (host.observe output) (twin.observe output') :=
  ⟨h.received, h.linked, h.slots⟩

theorem Peers.holding (h : Peers host twin) (module module' : Option Loader.Module) :
    Peers (host.holding module) (twin.holding module') where
  received := by
    rw [received_holding, received_holding]
    exact h.received
  linked := by
    cases module <;> cases module' <;> exact h.linked
  slots file := by
    cases module <;> cases module' <;> exact h.slots file

/-- Only the bridges, the loader, and what has been received matter. -/
theorem Twins.of_eq {next next' : Host} (h : Twins setup disk scope name host twin)
    (hbridge : next.bridge = host.bridge) (hbridge' : next'.bridge = twin.bridge)
    (hloader : next.loader = host.loader) (hloader' : next'.loader = twin.loader)
    (hpeers : Peers next next') : Twins setup disk scope name next next' where
  alone := h.alone.of_eq hbridge hloader
  aloneTwin := h.aloneTwin.of_eq hbridge' hloader'
  follows := by
    rw [hloader]
    exact h.follows
  followsTwin := by
    rw [hloader']
    exact h.followsTwin
  peers := hpeers
  abreast := by
    rw [hbridge, hbridge']
    exact h.abreast

/-- What is observed does not matter. -/
theorem Twins.beginning (h : Twins setup disk scope name host twin)
    (output : List (Observation Report)) :
    Twins setup disk scope name (host.beginning.observe output) (twin.beginning.observe output) :=
  h.of_eq (by rw [bridge_observe, bridge_beginning]) (by rw [bridge_observe, bridge_beginning]) rfl
    rfl ⟨h.peers.received, h.peers.linked, h.peers.slots⟩

/-! ## The calls of an operation -/

/-- Whether a library lacks an entry point, and which one, does not depend on the process. -/
theorem unresolved?_alike (loader other : Loader) (finds : String → Bool)
    (module module' : Loader.Module) :
    (loader.unresolved? finds module = none ∧ other.unresolved? finds module' = none) ∨
      ∃ missing missing', loader.unresolved? finds module = some missing ∧
        other.unresolved? finds module' = some missing' ∧
          missing.entryPoint = missing'.entryPoint := by
  have hsame : (loader.unresolved? finds module).map Loader.Unresolved.entryPoint =
      (other.unresolved? finds module').map Loader.Unresolved.entryPoint :=
    (Loader.firstUnresolved?_entryPoint _).trans (Loader.firstUnresolved?_entryPoint _).symm
  cases hmissing : loader.unresolved? finds module with
  | none =>
    cases hmissing' : other.unresolved? finds module' with
    | none => exact .inl ⟨rfl, rfl⟩
    | some missing' => simp [hmissing, hmissing'] at hsame
  | some missing =>
    cases hmissing' : other.unresolved? finds module' with
    | none => simp [hmissing, hmissing'] at hsame
    | some missing' =>
      rw [hmissing, hmissing'] at hsame
      exact .inr ⟨missing, missing', rfl, rfl, Option.some.inj hsame⟩

/-- The engine in a file that has just been loaded is called in twins that have both loaded it. -/
theorem Twins.loaded (h : Twins setup disk scope name host twin) {path : String}
    {module module' : Loader.Module} {loader loader' : Loader}
    (hload : host.loader.load path = .ok (module, loader))
    (hload' : twin.loader.load path = .ok (module', loader'))
    (hfile : module.file = module'.file) :
    let start := (host.loaded path loader).holding (some module)
    let start' := (twin.loaded path loader').holding (some module')
    Peers start start' ∧ start.loader.isMapped module.file ∧
      start'.loader.isMapped module.file := by
  intro start start'
  have hmapped : ∀ {host : Host} {module : Loader.Module} {loader : Loader},
      Alone setup name host → host.loader.load path = .ok (module, loader) →
        ((host.loaded path loader).holding (some module)).loader.isMapped module.file := by
    intro host module loader halone hload
    obtain ⟨base, haccounted⟩ := halone.accounted
    exact (haccounted.accounted_found hload).isMapped (Multiset.mem_add.mpr (.inl (by simp [held])))
  refine ⟨⟨h.peers.received, h.peers.linked, fun file => ?_⟩, hmapped h.alone hload, ?_⟩
  · show (start.statics (.image file)).slot = (start'.statics (.image file)).slot
    unfold start start'
    rw [statics_holding, statics_holding, statics_loaded hload, statics_loaded hload']
    exact h.peers.slots file
  · rw [hfile]
    exact hmapped h.aloneTwin hload'

/-- The file that the engine of a bridge leads to is mapped, whatever else is held. -/
theorem Alone.isMapped_holding (h : Alone setup name host) {file : String}
    (hparty : partyOf (host.bridge target).engine = some (.code (.image file)))
    (module : Option Loader.Module) : (host.holding module).loader.isMapped file := by
  obtain rfl : target = name := by
    by_contra hne
    exact h.party_ne_image hne file hparty
  have hmapped := (h.isMapped_iff file).mpr (h.of_party_image hparty).1
  cases module <;> exact hmapped

section

variable {operation : Operation} {course course' : Course}

/-- The same operation makes the same call in twins, or none in both of them. -/
theorem Twins.visits (hneutral : setup.Neutral scope name)
    (h : Twins setup disk scope name host twin) (htarget : target = name ∨ scope.bridges target)
    (hgoes : Goes setup host target operation course)
    (hgoes' : Goes setup twin target operation course') :
    Option.Rel Visit.Resembles course.visit? course'.visit? := by
  have hparty := h.abreast.party htarget
  rw [hgoes.visit?_eq, hgoes'.visit?_eq]
  unfold Operation.approach?
  cases operation.demand? with
  | some demand =>
    refine visitOf_rel (h.peers.holding _ _) demand hparty fun file himage =>
      ⟨hneutral.analyzers file, h.alone.isMapped_holding himage _, ?_⟩
    exact h.aloneTwin.isMapped_holding (hparty.symm.trans himage) _
  | none =>
    cases operation.loads? with
    | some loads =>
      -- both find the same library on disk, and it is complete in both or in none
      obtain ⟨path, args⟩ := loads
      rcases h.follows.load_alike h.followsTwin path with
        ⟨fault, fault', hload, hload'⟩ | ⟨module, loader, module', loader', hload, hload', -, hfile⟩
      · simp only [hload, hload', Option.bind_none]
        exact .none
      · obtain ⟨hpeers, hmapped, hmapped'⟩ := h.loaded hload hload' hfile
        have hengine : partyOf (engineIn module) = partyOf (engineIn module') := by
          simp [engineIn, partyOf, hfile]
        simp only [hload, hload', ← hfile]
        rcases unresolved?_alike ((host.loaded path loader).holding (some module)).loader
          ((twin.loaded path loader').holding (some module')).loader
          (setup.library module.file).finds module module' with
          ⟨hcomplete, hcomplete'⟩ | ⟨missing, missing', hmissing, hmissing', -⟩
        · simp only [hcomplete, hcomplete']
          refine visitOf_rel hpeers (.startup args) hengine fun file himage => ?_
          obtain rfl : module.file = file := by simpa [engineIn, partyOf] using himage
          exact ⟨hneutral.analyzers module.file, hmapped, hmapped'⟩
        · simp only [hmissing, hmissing']
          exact .none
    | none =>
      cases hsupplies : operation.supplies? setup with
      | none => exact .none
      | some supplies =>
        obtain ⟨engine, args⟩ := supplies
        exact visitOf_rel h.peers (.startup args) rfl fun file himage =>
          (party_of_supplies? hsupplies file himage).elim

/-! ## What happens in a call -/

variable {run : Runner}

/-- A discreet routine is gone through in the same way in twins. -/
theorem Couples.play (hrun : Couples setup disk scope name run) {α : Type} (routine : Routine α)
    (hwithin : routine.All fun step => step.Within scope name)
    (h : Twins setup disk scope name host twin)
    (hdiscreet : outline (host.bridge name) = outline (twin.bridge name) ∨
      routine.Discreet scope name) :
    let ran := (run.all (routine.steps run host)).run host
    let other := (run.all (routine.steps run twin)).run twin
    routine.answered run host = routine.answered run twin ∧
      Coupled name (host.bridge name) (twin.bridge name) ran.1 other.1 (ran.2.bridge name)
        (other.2.bridge name) ∧ Twins setup disk scope name ran.2 other.2 := by
  induction routine generalizing host twin with
  | answer a => exact ⟨rfl, .nil name _ _, h⟩
  | step first next ih =>
    obtain ⟨hfirst, hothers⟩ := hwithin
    have hmatched := hrun first host twin hfirst h (hdiscreet.imp_right fun hroutine => hroutine.1)
    obtain ⟨hsame, hstage⟩ := hmatched.coupled.goesOn hmatched.performed hdiscreet
    obtain ⟨hanswer, hlater, hlast⟩ := ih _ (hothers _) hmatched.twins hstage
    -- the twin goes on with the same rest of the routine
    have hsteps : (Routine.step first next).steps run twin =
        first :: (next (((run first).run host).1.map Report.result)).steps run
          ((run first).run twin).2 := by
      rw [hsame]
      rfl
    have hanswered : (Routine.step first next).answered run twin =
        (next (((run first).run host).1.map Report.result)).answered run
          ((run first).run twin).2 := by
      rw [hsame]
      rfl
    rw [hsteps, hanswered]
    exact ⟨hanswer, hmatched.coupled.append hlater, hlast⟩

/-- A visit in twins has ended in the same way, and all steps inside it look alike. -/
structure Visit.Accords (scope : Scope) (name : BridgeName) (run : Runner) (visit visit' : Visit) :
    Prop where
  answer : visit.answer run = visit'.answer run
  inner : Coupled name (visit.host.bridge name) (visit'.host.bridge name) (visit.contact run).inner
    (visit'.contact run).inner ((visit.ending run).bridge name) ((visit'.ending run).bridge name)
  peers : Peers (visit.ending run) (visit'.ending run)
  abreast : Abreast scope name (visit.ending run).bridge (visit'.ending run).bridge

/-- The same visit ends in the same way.  If the code calls back, the processes in which it does have
to be twins. -/
theorem Couples.accords (hrun : Couples setup disk scope name run) {visit visit' : Visit}
    (hresembles : visit.Resembles visit')
    (hmakes : visit.reaction.All fun step => step.Within scope name)
    (htwins : visit.CallsBack → Twins setup disk scope name visit.host visit'.host)
    (habreast : Abreast scope name visit.host.bridge visit'.host.bridge)
    (hdiscreet : outline (visit.host.bridge name) = outline (visit'.host.bridge name) ∨
      visit.reaction.Discreet scope name) : visit.Accords scope name run visit' := by
  have hreaction' := hresembles.reaction
  cases hreaction : visit.reaction with
  | answer a =>
    have hplain : visit.Plain a := hreaction
    have hplain' : visit'.Plain a := hreaction'.symm.trans hreaction
    refine ⟨(hplain.answer_eq run).trans (hplain'.answer_eq run).symm, ?_, ?_, ?_⟩
    · rw [hplain.contact_eq run, hplain'.contact_eq run,
        visit.ending_of_callbacks (hplain.callbacks_eq run),
        visit'.ending_of_callbacks (hplain'.callbacks_eq run), bridge_observe, bridge_observe]
      exact .nil name _ _
    · rw [visit.ending_of_callbacks (hplain.callbacks_eq run),
        visit'.ending_of_callbacks (hplain'.callbacks_eq run)]
      exact hresembles.peers.observe _ _
    · rw [visit.ending_of_callbacks (hplain.callbacks_eq run),
        visit'.ending_of_callbacks (hplain'.callbacks_eq run), bridge_observe, bridge_observe]
      exact habreast
  | callBack routine =>
    rw [hreaction] at hmakes hdiscreet
    obtain ⟨hanswer, hinner, hlast⟩ :=
      hrun.play routine hmakes (htwins ⟨routine, hreaction⟩) hdiscreet
    obtain ⟨hanswered, hran⟩ := visit.callBack_of_reaction hreaction run
    obtain ⟨hanswered', hran'⟩ := visit'.callBack_of_reaction (hreaction'.symm.trans hreaction) run
    have hending : ∀ {visit : Visit} {ran : Option (List Report) × Host},
        visit.callBack run = ran → (visit.ending run).bridge = ran.2.bridge := by
      rintro visit ran rfl
      exact bridge_observe _ _
    refine ⟨hanswered.trans (hanswer.trans hanswered'.symm), ?_, ?_, ?_⟩
    · unfold Visit.contact Contact.inner
      rw [hending hran, hending hran', hran, hran']
      exact hinner
    · unfold Visit.ending
      rw [hran, hran']
      exact hlast.peers.observe _ _
    · rw [hending hran, hending hran']
      exact hlast.abreast

/-- What is the same when the code that an operation calls has answered in twins. -/
structure Parallel (scope : Scope) (name : BridgeName) (run : Runner) (host twin : Host)
    (course course' : Course) : Prop where
  seen : (course.contact? run).map Contact.seen = (course'.contact? run).map Contact.seen
  requests : ∀ code, course.requests code run = course'.requests code run
  inner : Coupled name (host.bridge name) (twin.bridge name) (innerOf (course.contact? run))
    (innerOf (course'.contact? run)) ((course.answered run host).bridge name)
    ((course'.answered run twin).bridge name)
  peers : Peers (course.answered run host) (course'.answered run twin)
  abreast : Abreast scope name (course.answered run host).bridge (course'.answered run twin).bridge

/-- What a visit shows in twins that has ended in the same way. -/
theorem Visit.Accords.shows {visit visit' : Visit} (h : visit.Accords scope name run visit')
    (hresembles : visit.Resembles visit') :
    (visit.contact run).seen = (visit'.contact run).seen ∧
      ∀ code, requestsOf code (visit.contact run).inner ++
          visit.notes.filterMap (Observation.request? code) =
        requestsOf code (visit'.contact run).inner ++
          visit'.notes.filterMap (Observation.request? code) := by
  refine ⟨?_, fun code => ?_⟩
  · show (visit.party, visit.call, visit.answer run) = (visit'.party, visit'.call, visit'.answer run)
    rw [hresembles.party, hresembles.call, h.answer]
  · rw [h.inner.requests code, hresembles.notes]

/-- The twins at the moment at which code is entered that calls back. -/
theorem Twins.enter (hneutral : setup.Neutral scope name) (hsettled : disk.Settled)
    (h : Twins setup disk scope name host twin) {frame frame' : Frame} {visit visit' : Visit}
    (hgoes : Goes setup host target operation (.reach frame visit))
    (hgoes' : Goes setup twin target operation (.reach frame' visit'))
    (hresembles : visit.Resembles visit') (hcalls : visit.CallsBack) :
    Twins setup disk scope name visit.host visit'.host := by
  have hconfined := hneutral.confined
  have hcalls' : visit'.CallsBack := by
    unfold Visit.CallsBack
    rw [← hresembles.reaction]
    exact hcalls
  -- nothing is held for code that calls back
  refine ⟨hgoes.alone_enter h.alone (hgoes.held_of_callsBack hconfined h.alone hcalls),
    hgoes'.alone_enter h.aloneTwin (hgoes'.held_of_callsBack hconfined h.aloneTwin hcalls'),
    hgoes.lasting_enter hsettled.lasting h.follows,
    hgoes'.lasting_enter hsettled.lasting h.followsTwin, hresembles.peers, ?_⟩
  rw [hgoes.bridge_enter, hgoes'.bridge_enter]
  exact h.abreast

/-- When the code that an operation calls has answered, twins still look alike. -/
theorem Twins.answered (hneutral : setup.Neutral scope name) (hsettled : disk.Settled)
    (hrun : Couples setup disk scope name run) (h : Twins setup disk scope name host twin)
    (htarget : target = name ∨ scope.bridges target)
    (hgoes : Goes setup host target operation course)
    (hgoes' : Goes setup twin target operation course')
    (hdiscreet : outline (host.bridge name) = outline (twin.bridge name) ∨
      ∀ visit ∈ course.visit?, visit.reaction.Discreet scope name) :
    Parallel scope name run host twin course course' := by
  have hvisits := h.visits hneutral htarget hgoes hgoes'
  cases hvisit : course.visit? with
  | none =>
    rw [hvisit] at hvisits
    have hidle : ∀ {course : Course}, course.visit? = none → course.contact? run = none ∧
        (∀ code, course.requests code run = []) ∧ ∀ host, course.answered run host = host := by
      intro course hnone
      cases course with
      | reach frame visit => cases hnone
      | _ => exact ⟨rfl, fun _ => rfl, fun _ => rfl⟩
    obtain ⟨hcontact, hrequests, hanswered⟩ := hidle hvisit
    obtain ⟨hcontact', hrequests', hanswered'⟩ := hidle (eq_none_of_rel_none hvisits)
    refine ⟨by rw [hcontact, hcontact'], fun code => (hrequests code).trans (hrequests' code).symm,
      ?_, ?_, ?_⟩
    · rw [hcontact, hcontact', hanswered, hanswered']
      exact .nil name _ _
    · rw [hanswered, hanswered']
      exact h.peers
    · rw [hanswered, hanswered']
      exact h.abreast
  | some visit =>
    rw [hvisit] at hvisits
    obtain ⟨visit', hvisit', hresembles⟩ := exists_of_rel_some hvisits
    obtain ⟨frame, rfl⟩ := Course.exists_frame hvisit
    obtain ⟨frame', rfl⟩ := Course.exists_frame hvisit'
    have haccords : visit.Accords scope name run visit' := by
      refine hrun.accords hresembles (hneutral.makes.reach hgoes)
        (h.enter hneutral hsettled hgoes hgoes' hresembles) ?_ ?_
      · rw [hgoes.bridge_enter, hgoes'.bridge_enter]
        exact h.abreast
      · rw [hgoes.bridge_enter, hgoes'.bridge_enter]
        exact hdiscreet.imp_right fun hall => hall visit rfl
    obtain ⟨hseen, hrequests⟩ := haccords.shows hresembles
    have hinner := haccords.inner
    rw [hgoes.bridge_enter, hgoes'.bridge_enter] at hinner
    exact ⟨congrArg some hseen, hrequests, hinner, haccords.peers, haccords.abreast⟩

end

end Host
end FailOpen

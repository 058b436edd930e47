import FailOpen.Proofs.Bridge.Twins

/-!
# The steps of twins

What two processes show that are twins: every step looks alike in both of them, and leaves twins
behind.

* `Twins.ends_alike`: an operation ends in the same way, but for what a shutdown answers.
* `Twins.target_coupled`, `Twins.direct_coupled` and `Twins.aside_coupled` are about the reports of
  the three sorts of steps, and `Twins.again` says that the processes are twins again.
* `report_matched` is the step lemma, and `runSteps_couples` says that all runs of twins look alike.
-/

namespace FailOpen
namespace Host

variable {setup : Setup} {disk : Loader.Disk} {scope : Scope} {name target : BridgeName}
  {host twin : Host} {operation : Operation} {course course' : Course} {run : Runner}

/-! ## How an operation ends -/

/-- What can be told of what an attempt has prepared, but for which load its module is. -/
def preparedOutline (prepared : Except Bridge.State (Engine × Option Loader.Module)) :
    Except Outline (Option Party × Option (String × String)) :=
  match prepared with
  | .error next => .error (outline next)
  | .ok (engine, module) =>
      .ok (partyOf engine, module.map fun module => (module.path, module.file))

/-- On the same disk the same attempt prepares the same. -/
theorem preparedOutline_alike (h : host.loader.Follows disk) (h' : twin.loader.Follows disk)
    (operation : Operation) :
    preparedOutline (operation.prepared setup host.loader) =
      preparedOutline (operation.prepared setup twin.loader) := by
  unfold Operation.prepared
  cases operation.loads? with
  | none => rfl
  | some loads =>
    obtain ⟨path, args⟩ := loads
    rcases h.load_alike h' path with
      ⟨fault, fault', hload, hload'⟩ |
        ⟨module, loader, module', loader', hload, hload', hpath, hfile⟩
    · simp only [hload, hload']
    · simp only [hload, hload', ← hfile]
      rcases unresolved?_alike (loader.retain module) (loader'.retain module')
        (setup.library module.file).finds module module' with
        ⟨hcomplete, hcomplete'⟩ | ⟨missing, missing', hmissing, hmissing', hpoint⟩
      · simp only [hcomplete, hcomplete']
        simp [preparedOutline, engineIn, partyOf, hpath, hfile]
      · simp only [hmissing, hmissing']
        simp [preparedOutline, outline, Bridge.State.disabled, hpath, hfile, hpoint]

/-- Attempts that have prepared the same and got the same answer end in the same way. -/
theorem Settles.alike {prepared prepared' : Except Bridge.State (Engine × Option Loader.Module)}
    {outcomes : List (Outcome Bool)} {b b' : Bool} {state state' : Bridge.State}
    (h : Settles prepared outcomes b state) (h' : Settles prepared' outcomes b' state')
    (hprepared : preparedOutline prepared = preparedOutline prepared') :
    b = b' ∧ outline state = outline state' := by
  cases h with
  | failed =>
    cases h'
    exact ⟨rfl, Except.error.inj hprepared⟩
  | @answered engine module outcome =>
    cases h' with
    | @answered engine' module' outcome =>
      obtain ⟨hparty, horigin⟩ := Prod.mk.inj (Except.ok.inj hprepared)
      refine ⟨rfl, ?_⟩
      unfold attemptState outline
      rcases outcome with started | _
      · cases started with
        | true => simp only [hparty, horigin]
        | false => simp only [Bridge.State.disabled, horigin]
      · simp only [Bridge.State.disabled, horigin]

theorem Goes.yields_of_disable {reason : Bridge.Reason}
    (hgoes : Goes setup host target (.disable reason) course) : (course.finish run).1 = false := by
  rw [hgoes.unique (.disables rfl)]
  rfl

theorem Goes.yields_of_shutdown (hgoes : Goes setup host target .shutdown course) :
    (course.finish run).1 = (host.bridge target).hasModule := by
  rw [hgoes.unique (.shutsDown rfl)]
  rfl

/-- An operation that does not replace the state of its bridge leaves all of them as its call does. -/
theorem Goes.bridge_finish (hgoes : Goes setup host target operation course)
    (hreplaces : operation.replaces = false) :
    (course.finish run).2.bridge = (course.answered run host).bridge := by
  cases hdemand : operation.demand? with
  | none =>
    rw [Operation.replaces_of_demand? hdemand] at hreplaces
    cases hreplaces
  | some demand =>
    rcases hgoes.of_demand hdemand with ⟨-, rfl⟩ | ⟨visit, rfl, -⟩
    · exact bridge_observe host _
    · exact Frame.bridge_leave_frameOf _ demand (visit.answer run) _

/-- An attempt ends in the same way in twins: it has prepared the same, and got the same answer. -/
theorem Twins.attempts_alike (h : Twins setup disk scope name host twin)
    (hgoes : Goes setup host target operation course)
    (hgoes' : Goes setup twin target operation course')
    (hseen : (course.contact? run).map Contact.seen = (course'.contact? run).map Contact.seen)
    (hattempt : operation.isAttempt) :
    (course.finish run).1 = (course'.finish run).1 ∧
      outline ((course.finish run).2.bridge target) =
        outline ((course'.finish run).2.bridge target) := by
  have houtcomes : ((course.contact? run).toList.map Contact.outcome) =
      ((course'.contact? run).toList.map Contact.outcome) := by
    have hoptions := congrArg (Option.map fun seen => seen.2.2.startup) hseen
    rw [Option.map_map, Option.map_map] at hoptions
    rw [← Option.toList_map, ← Option.toList_map]
    exact congrArg Option.toList hoptions
  have hsettles : Settles _ ((course.contact? run).toList.map Contact.outcome) _ _ :=
    hgoes.settles hattempt
  have hsettles' : Settles _ ((course'.contact? run).toList.map Contact.outcome) _ _ :=
    hgoes'.settles hattempt
  rw [← houtcomes] at hsettles'
  exact hsettles.alike hsettles' (preparedOutline_alike h.follows h.followsTwin operation)

/-- A demand has the same result in twins: it got the same answer, or there was nobody to ask. -/
theorem Ended.demands_alike {before before' after after' : BridgeName → Bridge.State}
    {contact contact' : Option Contact} {b b' : Bool}
    (h : Ended setup before target operation contact b after)
    (h' : Ended setup before' target operation contact' b' after')
    (hparty : partyOf (before target).engine = partyOf (before' target).engine)
    (hseen : contact.map Contact.seen = contact'.map Contact.seen)
    {demand : Demand} (hdemand : operation.demand? = some demand) : b = b' := by
  have hanswered := h.demands hdemand
  have hanswered' := h'.demands hdemand
  rw [hparty] at hanswered
  cases hcalled : partyOf (before' target).engine with
  | none =>
    rw [hcalled] at hanswered hanswered'
    exact hanswered.2.trans hanswered'.2.symm
  | some party =>
    rw [hcalled] at hanswered hanswered'
    obtain ⟨nested, answer, hcontact, hyields⟩ := hanswered
    obtain ⟨nested', answer', hcontact', hyields'⟩ := hanswered'
    rw [hcontact, hcontact'] at hseen
    obtain rfl : answer = answer' := by simpa [Contact.seen] using hseen
    exact hyields.trans hyields'.symm

/-- How an operation ends in two processes: it has the same result, unless it is a shutdown of the
bridge in question while that does not look the same; and its bridge looks the same, if it replaces
the state. -/
structure EndsAlike (name target : BridgeName) (operation : Operation) (host twin : Host)
    (ended ended' : Bool × Host) : Prop where
  yields : ended.1 = ended'.1 ∨
    (operation = .shutdown ∧ target = name ∧
      outline (host.bridge name) ≠ outline (twin.bridge name))
  state : operation.replaces →
    outline (ended.2.bridge target) = outline (ended'.2.bridge target)

theorem Twins.ends_alike (hrun : Tracks setup run) (h : Twins setup disk scope name host twin)
    (hquiet : Quiet host.output) (hquiet' : Quiet twin.output)
    (htarget : target = name ∨ scope.bridges target)
    (hgoes : Goes setup host target operation course)
    (hgoes' : Goes setup twin target operation course')
    (hparallel : Parallel scope name run host twin course course') :
    EndsAlike name target operation host twin (course.finish run) (course'.finish run) := by
  have hended := (hgoes.fits hrun hquiet).ended
  have hended' := (hgoes'.fits hrun hquiet').ended
  by_cases hattempt : operation.isAttempt
  · obtain ⟨hyields, houtline⟩ := h.attempts_alike hgoes hgoes' hparallel.seen hattempt
    exact ⟨.inl hyields, fun _ => houtline⟩
  · have hasks : ∀ {demand}, operation.demand? = some demand →
        (course.finish run).1 = (course'.finish run).1 := fun hdemand =>
      hended.demands_alike hended' (h.abreast.party htarget) hparallel.seen hdemand
    cases operation with
    | decideBlock exchange => exact ⟨.inl (hasks rfl), fun hreplaces => by cases hreplaces⟩
    | ingest trace => exact ⟨.inl (hasks rfl), fun hreplaces => by cases hreplaces⟩
    | disable reason =>
      refine ⟨.inl (hgoes.yields_of_disable.trans hgoes'.yields_of_disable.symm), fun _ => ?_⟩
      rw [hended.disables rfl, hended'.disables rfl]
    | shutdown =>
      refine ⟨?_, fun _ => by rw [(hended.shutsDown rfl).1, (hended'.shutsDown rfl).1]⟩
      rw [hgoes.yields_of_shutdown, hgoes'.yields_of_shutdown]
      by_cases hdiffers : target = name ∧ outline (host.bridge name) ≠ outline (twin.bridge name)
      · exact .inr ⟨rfl, hdiffers⟩
      · exact .inl (hasModule_of_outline (h.abreast.outline_eq htarget fun hname =>
          not_not.mp fun hne => hdiffers ⟨hname, hne⟩))
    | _ => exact (hattempt rfl).elim

/-- An operation calls custom engines only in its visit. -/
theorem Goes.received_finish (hgoes : Goes setup host target operation course) :
    (course.finish run).2.received = (course.answered run host).received := by
  cases course with
  | pass next =>
    cases hgoes with
    | unheard hdemand hengine => rfl
  | replace replaced next start notes b =>
    have hstart : start.received = host.received := by
      cases hgoes <;> simp
    rw [Course.finish, received_observe, received_replacing, hstart]
    rfl
  | reach frame visit => exact Frame.received_leave _ frame (visit.answer run)

/-- The bridges that are in scope still look the same at the end of an operation. -/
theorem Parallel.abreast_finish (hparallel : Parallel scope name run host twin course course')
    (hgoes : Goes setup host target operation course)
    (hgoes' : Goes setup twin target operation course')
    (hends : EndsAlike name target operation host twin (course.finish run) (course'.finish run)) :
    Abreast scope name (course.finish run).2.bridge (course'.finish run).2.bridge := by
  refine hparallel.abreast.change fun other _ => ?_
  cases hreplaces : operation.replaces with
  | false =>
    rw [hgoes.bridge_finish hreplaces, hgoes'.bridge_finish hreplaces]
    exact .inr ⟨rfl, rfl⟩
  | true =>
    by_cases hother : target = other
    · subst hother
      exact .inl (hends.state hreplaces)
    · rw [hgoes.bridge_finish_of_ne hother, hgoes'.bridge_finish_of_ne hother]
      exact .inr ⟨rfl, rfl⟩

/-- At the end of an operation the code in twins still has the same past: an image in which an
analyzer has been started is the one that the engine of the bridge leads to in both of them. -/
theorem Parallel.peers_finish (hparallel : Parallel scope name run host twin course course')
    (hgoes : Goes setup host target operation course)
    (hgoes' : Goes setup twin target operation course')
    (halone : Alone setup name (course.finish run).2)
    (halone' : Alone setup name (course'.finish run).2)
    (hparty : partyOf ((course.finish run).2.bridge name).engine =
      partyOf ((course'.finish run).2.bridge name).engine) :
    Peers (course.finish run).2 (course'.finish run).2 where
  received := by
    rw [hgoes.received_finish, hgoes'.received_finish]
    exact hparallel.peers.received
  linked := by
    funext unit
    show (course.finish run).2.statics (.linked unit) = (course'.finish run).2.statics (.linked unit)
    rw [hgoes.statics_finish (alive_linked _ unit), hgoes'.statics_finish (alive_linked _ unit)]
    exact congrFun hparallel.peers.linked unit
  slots file := by
    by_cases himage : partyOf ((course.finish run).2.bridge name).engine = some (.code (.image file))
    · have halive : (course.finish run).2.Alive (.image file) :=
        (halone.isMapped_iff file).mpr (halone.of_party_image himage).1
      have halive' : (course'.finish run).2.Alive (.image file) :=
        (halone'.isMapped_iff file).mpr
          (halone'.of_party_image (hparty.symm.trans himage)).1
      show ((course.finish run).2.statics (.image file)).slot =
        ((course'.finish run).2.statics (.image file)).slot
      rw [hgoes.statics_finish halive, hgoes'.statics_finish halive']
      exact hparallel.peers.slots file
    · rw [halone.idle file himage, halone'.idle file fun himage' => himage (hparty.trans himage')]

/-! ## What a step shows -/

section

variable {step : Step} {report other : Report}

theorem Report.Shows.contains (h : report.Shows step run course) :
    report.Contains (course.contact? run) :=
  ⟨h.contacts, h.inside, h.changes⟩

/-- A shutdown tells what it has found, or it answers nothing. -/
theorem Step.shows_shutdown (htarget : step.target? = some (name, .shutdown)) (b b' : Bool) :
    step.shows b = step.shows b' ∨ step.Tells name (step.shows b) (step.shows b') := by
  cases step with
  | bridge bridge operation =>
    obtain ⟨rfl, rfl⟩ := Prod.mk.inj (Option.some.inj htarget)
    exact .inr (.shutdown b b')
  | exported function =>
    have hoperation : function.operation = .shutdown := congrArg Prod.snd (Option.some.inj htarget)
    cases function with
    | cleanup => exact .inl rfl
    | startup raw =>
      unfold Exported.operation at hoperation
      cases hraw : raw.arguments? <;> simp [hraw] at hoperation
    | _ => cases hoperation
  | _ => cases htarget

/-- A step that is an operation looks alike in twins. -/
theorem Parallel.coupled (hparallel : Parallel scope name run host twin course course')
    (hgoes : Goes setup host target operation course)
    (hgoes' : Goes setup twin target operation course')
    (hends : EndsAlike name target operation host twin (course.finish run) (course'.finish run))
    (htarget : step.target? = some (target, operation)) (hshows : report.Shows step run course)
    (hshows' : other.Shows step run course') :
    Coupled name (host.bridge name) (twin.bridge name) [report] [other] (report.state name)
      (other.state name) := by
  refine .of_contains hshows.contains hshows'.contains
    (hshows.step_eq.trans hshows'.step_eq.symm) hparallel.seen (fun code => ?_) hparallel.inner ?_
    ⟨rfl, rfl⟩ ?_ fun hshutdown => ?_
  · exact (hshows.requests code).trans
      ((hparallel.requests code).trans (hshows'.requests code).symm)
  · have hchange : report.change? = _ := Report.change?_of_target (hshows.step_eq ▸ htarget)
    have hchange' : other.change? = _ := Report.change?_of_target (hshows'.step_eq ▸ htarget)
    rw [hchange, hchange', hshows.state, hshows'.state]
    cases hreplaces : operation.replaces with
    | false =>
      rw [hgoes.bridge_finish hreplaces, hgoes'.bridge_finish hreplaces]
      exact .nil name _ _
    | true =>
      by_cases hname : target = name
      · subst hname
        exact .of_outline (hends.state hreplaces) (fun h => h _ (List.mem_singleton_self _) rfl)
          fun h => h _ (List.mem_singleton_self _) rfl
      · rw [hgoes.bridge_finish_of_ne hname, hgoes'.bridge_finish_of_ne hname]
        exact .of_untouched (untouched_singleton.mpr hname) (untouched_singleton.mpr hname)
  · rw [hshows.result, hshows'.result, hshows.step_eq]
    rcases hends.yields with hsame | ⟨rfl, rfl, hne⟩
    · exact .inl (congrArg step.shows hsame)
    · exact (Step.shows_shutdown htarget _ _).imp_right fun htells => ⟨hne, htells⟩
  · have hsame : step.target? = some (name, .shutdown) := hshows.step_eq ▸ hshutdown
    obtain ⟨rfl, rfl⟩ := Prod.mk.inj (Option.some.inj (htarget.symm.trans hsame))
    rw [hshows.result, hshows'.result, hgoes.yields_of_shutdown, hgoes'.yields_of_shutdown,
      hshows.step_eq]
    exact ⟨rfl, rfl⟩

/-- A step that reaches code without a bridge looks alike if its visit ends in the same way. -/
theorem Visit.Accords.coupled {visit visit' : Visit} (h : visit.Accords scope name run visit')
    (hresembles : visit.Resembles visit') (hstep : report.step = other.step)
    (htarget : report.step.target? = none)
    (hcarries : Carries report.output (some (visit.contact run)))
    (hcarries' : Carries other.output (some (visit'.contact run)))
    (hrequests : ∀ code, report.requests code = other.requests code)
    (hresult : report.result = other.result)
    (hstate : report.state = (visit.ending run).bridge)
    (hstate' : other.state = (visit'.ending run).bridge) :
    Coupled name (visit.host.bridge name) (visit'.host.bridge name) [report] [other]
      (report.state name) (other.state name) := by
  refine .of_contains hcarries.contains hcarries'.contains hstep
    (congrArg some (h.shows hresembles).1) hrequests h.inner ?_ ⟨rfl, rfl⟩ (.inl hresult)
    fun hshutdown => ?_
  · have hnone : report.change? = none := by
      rw [Report.change?, htarget]
    have hnone' : other.change? = none := by
      rw [Report.change?, ← hstep, htarget]
    rw [hnone, hnone', hstate, hstate']
    exact .nil name _ _
  · rw [htarget] at hshutdown
    cases hshutdown

end

/-! ## Discreet steps -/

/-- The call of an operation on another bridge is made aside. -/
theorem Step.aside?_of_target {step : Step} (htarget : step.target? = some (target, operation))
    (hne : target ≠ name) : step.aside? name = operation.demand?.map Demand.call := by
  cases step with
  | bridge bridge operation' =>
    obtain ⟨rfl, rfl⟩ := Prod.mk.inj (Option.some.inj htarget)
    simp [Step.aside?, Step.target?, hne]
  | exported function =>
    obtain ⟨rfl, rfl⟩ := Prod.mk.inj (Option.some.inj htarget)
    simp [Step.aside?, Step.target?, hne]
  | _ => cases htarget

/-- An early step enters code only that is discreet, as long as the bridge has no engine. -/
theorem Goes.discreet (hneutral : setup.Neutral scope name) {step : Step}
    (htarget : step.target? = some (target, operation)) (hearly : step.Early scope name)
    (hparty : partyOf (host.bridge name).engine = none)
    (hgoes : Goes setup host target operation course) :
    ∀ visit ∈ course.visit?, visit.reaction.Discreet scope name := by
  intro visit hvisit
  obtain ⟨frame, rfl⟩ := Course.exists_frame hvisit
  cases hgoes with
  | startsLoaded hloads hload hcomplete hvisit => exact hneutral.discreet.visitOf hvisit (.inl rfl)
  | startsSupplied hsupplies hvisit => exact hneutral.discreet.visitOf hvisit (.inl rfl)
  | @forwards engine demand visit hdemand hengine hvisit =>
    refine hneutral.discreet.visitOf hvisit (hearly _ ?_)
    rw [Step.aside?_of_target htarget, hdemand, Option.map_some]
    rintro rfl
    -- the bridge itself has nobody to ask
    rw [hengine] at hparty
    have hinert : engine = .inert := by
      cases engine <;> first | rfl | cases hparty
    subst hinert
    cases hvisit

theorem discreet_directVisit (hneutral : setup.Neutral scope name) {step : Step}
    (hearly : step.Early scope name) {visit : Visit}
    (hvisit : step.directVisit? setup host = some visit) :
    visit.reaction.Discreet scope name := by
  cases step with
  | engine engine request =>
    obtain ⟨demand, hdemand, hvisit⟩ := Option.bind_eq_some_iff.mp hvisit
    refine hneutral.discreet.visitOf hvisit (hearly _ ?_)
    rw [Step.aside?, hdemand]
    rfl
  | entry engine call =>
    cases hengine : setup.engine engine with
    | native native =>
      obtain rfl : entryVisit setup host native.code call = visit := by
        simpa [Step.directVisit?, hengine] using hvisit
      exact hneutral.discreet.entryVisit (hearly call rfl)
    | _ => simp [Step.directVisit?, hengine] at hvisit
  | _ => cases hvisit

/-! ## Steps and runs -/

theorem state_mk (step : Step) (result : Result) (host : Host) :
    (⟨step, result, host.output, host.own, host.shared⟩ : Report).state = host.bridge := by
  funext name
  cases name <;> rfl

/-- What a step shows in twins, and what it leaves behind. -/
structure Continued (scope : Scope) (name : BridgeName) (host twin : Host)
    (ran other : Report × Host) : Prop where
  coupled : Coupled name (host.bridge name) (twin.bridge name) [ran.1] [other.1]
    (ran.1.state name) (other.1.state name)
  peers : Peers ran.2 other.2
  abreast : Abreast scope name ran.1.state other.1.state

section

variable {step : Step} (hneutral : setup.Neutral scope name) (hsettled : disk.Settled)
  (htracks : Tracks setup run) (hrun : Couples setup disk scope name run)
  (h : Twins setup disk scope name host twin)
  (hstage : outline (host.bridge name) = outline (twin.bridge name) ∨ step.Early scope name)

include hneutral hsettled htracks hrun h hstage

/-- A step that is an operation of a bridge in scope. -/
theorem Twins.target_continued (htarget : step.target? = some (target, operation))
    (hscope : target = name ∨ scope.bridges target)
    (halone : Alone setup name ((perform setup run step).run host.beginning).2)
    (halone' : Alone setup name ((perform setup run step).run twin.beginning).2) :
    Continued scope name host twin ((report setup run step).run host)
      ((report setup run step).run twin) := by
  obtain ⟨course, hgoes, hperforms⟩ := exists_goes_of_target setup htarget host.beginning
  obtain ⟨course', hgoes', hperforms'⟩ := exists_goes_of_target setup htarget twin.beginning
  obtain ⟨hshows, hafter⟩ := report_shows htracks hgoes (hperforms _)
  obtain ⟨hshows', hafter'⟩ := report_shows htracks hgoes' (hperforms' _)
  have hbeginning := h.beginning step.preface
  have hbridge : (host.beginning.observe step.preface).bridge = host.bridge := by
    rw [bridge_observe, bridge_beginning]
  have hbridge' : (twin.beginning.observe step.preface).bridge = twin.bridge := by
    rw [bridge_observe, bridge_beginning]
  -- the step goes some way in both processes, and the two ways are parallel
  have hparallel := hbeginning.answered hneutral hsettled hrun hscope hgoes hgoes' (by
    rw [hbridge, hbridge']
    by_cases hsame : outline (host.bridge name) = outline (twin.bridge name)
    · exact .inl hsame
    · have hnone := (h.abreast.stage.resolve_left hsame).1
      exact .inr (hgoes.discreet hneutral htarget (hstage.resolve_left hsame)
        (by rw [hbridge]; exact hnone)))
  have hends := hbeginning.ends_alike htracks (quiet_preface step) (quiet_preface step) hscope
    hgoes hgoes' hparallel
  have hcoupled := hparallel.coupled hgoes hgoes' hends htarget hshows hshows'
  have habreast := hparallel.abreast_finish hgoes hgoes' hends
  rw [hbridge, hbridge'] at hcoupled
  rw [hperforms] at halone
  rw [hperforms'] at halone'
  have hpeers := hparallel.peers_finish hgoes hgoes'
    (halone.of_eq (bridge_closing setup step _).symm (loader_closing setup step _).symm)
    (halone'.of_eq (bridge_closing setup step _).symm (loader_closing setup step _).symm)
    (habreast.party (.inl rfl))
  refine ⟨hcoupled, ?_, by rw [hshows.state, hshows'.state]; exact habreast⟩
  rw [hafter, hafter']
  refine ⟨?_, ?_, fun file => ?_⟩
  · rw [received_closing, received_closing, hpeers.received]
  · rw [linked_closing, linked_closing, hpeers.linked]
  · rw [loader_closing, loader_closing]
    exact hpeers.slots file

omit hsettled in
/-- A step that reaches code without a bridge. -/
theorem Twins.direct_continued (htarget : step.target? = none) {visit : Visit}
    (hvisit : step.directVisit? setup host.beginning = some visit) :
    Continued scope name host twin ((report setup run step).run host)
      ((report setup run step).run twin) := by
  have hstart : Twins setup disk scope name host.beginning twin.beginning := h.beginning []
  have hvisits : Option.Rel Visit.Resembles (step.directVisit? setup host.beginning)
      (step.directVisit? setup twin.beginning) := directVisit_rel hstart.peers step
  rw [hvisit] at hvisits
  obtain ⟨visit', hvisit', hresembles⟩ := exists_of_rel_some hvisits
  have hfrom := directVisit_from hvisit
  have hfrom' := directVisit_from hvisit'
  -- the code that is entered is in no file, so nothing is held in its call
  have htwins : Twins setup disk scope name visit.host visit'.host :=
    hstart.of_eq hfrom.bridge hfrom'.bridge (loader_directVisit hvisit)
      (loader_directVisit hvisit') hresembles.peers
  have haccords : visit.Accords scope name run visit' := by
    refine hrun.accords hresembles (hneutral.makes.directVisit hvisit) (fun _ => htwins)
      htwins.abreast (hstage.imp (fun hsame => ?_) fun hearly =>
        discreet_directVisit hneutral hearly hvisit)
    rw [hfrom.bridge, hfrom'.bridge, bridge_beginning, bridge_beginning]
    exact hsame
  rw [report_run, report_run, perform_directVisit setup run hvisit,
    perform_directVisit setup run hvisit']
  refine ⟨?_, ⟨haccords.peers.received, haccords.peers.linked, haccords.peers.slots⟩, ?_⟩
  · rw [← bridge_beginning host, ← bridge_beginning twin, ← hfrom.bridge, ← hfrom'.bridge]
    refine haccords.coupled hresembles rfl htarget (visit.carries_ending htracks hfrom .nil)
      (visit'.carries_ending htracks hfrom' .nil) (fun code => ?_)
      (congrArg (fun answer => step.relays answer) haccords.answer) (state_mk _ _ _)
      (state_mk _ _ _)
    show requestsIn code (visit.ending run).output = requestsIn code (visit'.ending run).output
    rw [Visit.requestsIn_ending htracks hfrom, Visit.requestsIn_ending htracks hfrom',
      (haccords.shows hresembles).2 code]
    rfl
  · rw [state_mk, state_mk]
    exact haccords.abreast

omit hneutral hsettled htracks hrun hstage

/-- What a step reads off twins is the same, unless it tells in which state the bridge is. -/
theorem Twins.reads_alike (hwithin : step.Within scope name) :
    step.reads setup host = step.reads setup twin ∨
      (outline (host.bridge name) ≠ outline (twin.bridge name) ∧
        step.Tells name (step.reads setup host) (step.reads setup twin)) := by
  cases step with
  | display other =>
    by_cases hsame : outline (host.bridge other) = outline (twin.bridge other)
    · exact .inl (congrArg Result.text (shown_of_outline hsame))
    · -- only the bridge in question can be shown in two ways
      have hother : other = name := by
        by_contra hne
        exact hsame (h.abreast.others other hne ((hwithin.regards (.inr rfl)).resolve_left hne))
      subst hother
      exact .inr ⟨hsame, .display _ _⟩
  | isMapped file =>
    by_cases hsame : outline (host.bridge name) = outline (twin.bridge name)
    · refine .inl (congrArg Result.flag (Bool.eq_iff_iff.mpr ?_))
      rw [h.alone.isMapped_iff, h.aloneTwin.isMapped_iff]
      exact pinned_of_outline hsame file
    · exact .inr ⟨hsame, .isMapped file _ _⟩
  | ingestedByUnits units => exact .inl (by simp only [Step.reads, h.peers.linked])
  | ingestedByFile file =>
    exact .inl (by simp only [Step.reads, Loader.Statics.ingested, h.peers.slots])
  | engine engine request => cases request <;> exact .inl rfl
  | _ => exact .inl rfl

/-- A step that is no operation and reaches no code. -/
theorem Twins.aside_continued (hwithin : step.Within scope name) (htarget : step.target? = none)
    (hvisit : step.directVisit? setup host.beginning = none) :
    Continued scope name host twin ((report setup run step).run host)
      ((report setup run step).run twin) := by
  have hstart : Twins setup disk scope name host.beginning twin.beginning := h.beginning []
  have hvisit' : step.directVisit? setup twin.beginning = none := by
    have hrel : Option.Rel Visit.Resembles (step.directVisit? setup host.beginning)
        (step.directVisit? setup twin.beginning) := directVisit_rel hstart.peers step
    rw [hvisit] at hrel
    exact eq_none_of_rel_none hrel
  have hperforms : ∀ host : Host, step.directVisit? setup host.beginning = none →
      (perform setup run step).run host.beginning =
        (step.reads setup host.beginning, host.beginning) := by
    intro host hnone
    rw [perform_aside setup run htarget hnone, hwithin.stores]
    rfl
  rw [report_run, report_run, hperforms host hvisit, hperforms twin hvisit']
  have hcontains : ∀ {report : Report}, report.output = [] → report.Contains none :=
    fun houtput => Carries.contains (houtput ▸ Quiet.nil.carries)
  have hchange : ∀ {report : Report}, report.step = step → report.change? = none := by
    rintro report rfl
    rw [Report.change?, htarget]
  have hreads := hstart.reads_alike hwithin
  rw [bridge_beginning, bridge_beginning] at hreads
  refine ⟨.of_contains (hcontains rfl) (hcontains rfl) rfl rfl (fun code => rfl) (.nil name _ _) ?_
    ⟨rfl, rfl⟩ hreads fun hshutdown => ?_, ⟨h.peers.received, h.peers.linked, h.peers.slots⟩, ?_⟩
  · rw [hchange rfl, hchange rfl, state_mk, state_mk, bridge_beginning, bridge_beginning]
    exact .nil name _ _
  · rw [htarget] at hshutdown
    cases hshutdown
  · rw [state_mk, state_mk]
    exact hstart.abreast

end

/-- What a step within scope makes of the disk leaves everything alone. -/
theorem Step.Within.leaves {step : Step} (h : step.Within scope name) (P : Loader → Prop) :
    step.Leaves P := by
  intro loader hloader
  rw [h.stores]
  exact hloader

section

variable (hneutral : setup.Neutral scope name) (hsettled : disk.Settled)

include hneutral hsettled

/-- The step lemma: a step within scope looks alike in twins, and they are twins again. -/
theorem report_matched {depth : Nat}
    (hrun : Couples setup disk scope name (calledBack setup depth)) {step : Step}
    (hwithin : step.Within scope name) (h : Twins setup disk scope name host twin)
    (hstage : outline (host.bridge name) = outline (twin.bridge name) ∨ step.Early scope name) :
    let ran := (report setup (calledBack setup depth) step).run host
    let other := (report setup (calledBack setup depth) step).run twin
    Coupled name (host.bridge name) (twin.bridge name) [ran.1] [other.1] (ran.2.bridge name)
        (other.2.bridge name) ∧
      Twins setup disk scope name ran.2 other.2 := by
  intro ran other
  have hcalled := calledBack_alone hneutral.confined depth
  have halone : Alone setup name ran.2 :=
    report_alone hneutral.confined hcalled hwithin.loads h.alone
  have halone' : Alone setup name other.2 :=
    report_alone hneutral.confined hcalled hwithin.loads h.aloneTwin
  have hmakes : setup.Makes fun step => step.Leaves fun loader => loader.Follows disk :=
    hneutral.makes.imp fun _ hwithin => hwithin.leaves _
  have hguards := calledBack_guards hsettled.lasting hmakes depth
  have htracks : Tracks setup (calledBack setup depth) := calledBack_tracks depth
  have hcontinued : Continued scope name host twin ran other := by
    cases htarget : step.target? with
    | some target =>
      refine h.target_continued hneutral hsettled htracks hrun hstage htarget
        (hwithin.regards (.inl ⟨_, htarget⟩)) ?_ ?_
      · exact halone.of_eq (bridge_withOutput _ _).symm rfl
      · exact halone'.of_eq (bridge_withOutput _ _).symm rfl
    | none =>
      cases hvisit : step.directVisit? setup host.beginning with
      | some visit => exact h.direct_continued hneutral htracks hrun hstage htarget hvisit
      | none => exact h.aside_continued hwithin htarget hvisit
  have hbridge : ran.2.bridge = ran.1.state :=
    (bridge_withOutput _ _).trans (report_state setup _ step host).symm
  have hbridge' : other.2.bridge = other.1.state :=
    (bridge_withOutput _ _).trans (report_state setup _ step twin).symm
  rw [hbridge, hbridge']
  refine ⟨hcontinued.coupled, halone, halone', ?_, ?_, hcontinued.peers, ?_⟩
  · exact report_guarded hsettled.lasting hmakes hguards (hwithin.leaves _) h.follows
  · exact report_guarded hsettled.lasting hmakes hguards (hwithin.leaves _) h.followsTwin
  · rw [hbridge, hbridge']
    exact hcontinued.abreast

/-- Callbacks look alike in twins, however deep they are performed. -/
theorem calledBack_couples (depth : Nat) :
    Couples setup disk scope name (calledBack setup depth) := by
  induction depth with
  | zero => exact fun step host twin hwithin h hstage => ⟨.none, .nil name _ _, h⟩
  | succ depth ih =>
    intro step host twin hwithin h hstage
    obtain ⟨hcoupled, htwins⟩ := report_matched hneutral hsettled ih hwithin h hstage
    exact ⟨.some rfl, hcoupled, htwins⟩

/-- Twins cannot be told apart by any run of steps within scope, if those can be made early. -/
theorem runSteps_couples (depth : Nat) {steps : List Step}
    (hsteps : ∀ step ∈ steps, step.Within scope name ∧ step.Early scope name)
    (h : Twins setup disk scope name host twin) :
    let ran := (runSteps setup depth steps).run host
    let other := (runSteps setup depth steps).run twin
    Coupled name (host.bridge name) (twin.bridge name) ran.1 other.1 (ran.2.bridge name)
        (other.2.bridge name) ∧
      Twins setup disk scope name ran.2 other.2 := by
  have hcouples := calledBack_couples hneutral hsettled (depth + 1)
  rw [← all_calledBack_succ]
  induction steps generalizing host twin with
  | nil => exact ⟨.nil name _ _, h⟩
  | cons step steps ih =>
    obtain ⟨⟨hwithin, hearly⟩, hothers⟩ := List.forall_mem_cons.mp hsteps
    have hmatched := hcouples step host twin hwithin h (.inr hearly)
    obtain ⟨hlater, hlast⟩ := ih hothers hmatched.twins
    exact ⟨hmatched.coupled.append hlater, hlast⟩

end

end Host
end FailOpen

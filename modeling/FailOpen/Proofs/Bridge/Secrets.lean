import FailOpen.Proofs.Bridge.Restarts
import FailOpen.Proofs.Timeline.Replies

/-!
# Secrets are shown nowhere

The API key and the encryption key are handed to engines, and to nobody else.  Two runs of the same
steps that differ in these secrets look the same from outside: their results, the states of the
bridges after every step, their log and the lines for operators are the same, at every depth.  An
engine may treat secrets as it likes, so the runs are compared as long as their engines reply the
same.

* `report_near` is the step lemma, for any runs inside the step that are masked in this way.
* `runSteps_masked` is the run lemma, by induction on the depth and on the steps.
* `secretsHidden` adds what is known without a run: what is shown of values that hold secrets, what is
  made of a lookup, and what the entry points around an analyzer do with its answer.

The replies of a run are read in the order of the calls.  In an induction over the steps, those that
are still to follow are therefore carried along.
-/

namespace FailOpen
namespace Host

variable {setup setup' : Setup} {run run' : Runner} {host host' : Host}

/-! ## The replies of a course -/

theorem Frame.remarksIn_leave (frame : Frame) (answer : Answer) (host : Host) :
    remarksIn (frame.leave answer host).output = remarksIn host.output := by
  have hlogged : ∀ event, remarksIn (host.output ++ [.logged event]) = remarksIn host.output := by
    intro event
    rw [remarksIn_append]
    exact List.append_nil _
  cases frame with
  | attempt name engine module =>
    unfold leave
    rcases answer.startup with started | _
    · cases started <;> simp only [output_replacing, output_lettingGo, output_observe, hlogged]
    · simp only [output_replacing, output_lettingGo, output_observe, hlogged]
  | deciding engine =>
    unfold leave
    cases answer.decision <;> simp only [output_lettingGo, output_observe, hlogged]
  | ingesting engine =>
    unfold leave
    cases answer.ingestion <;> simp only [output_lettingGo, output_observe, hlogged]

/-- Seeing to the cleanup at exit is no reply. -/
theorem replies_closing (setup : Setup) (step : Step) (host : Host) :
    repliesIn (remarksIn (host.closing setup step).output) (host.closing setup step).output =
      repliesIn (remarksIn host.output) host.output := by
  rw [output_closing, remarksIn_append]
  cases exitEvent? setup step host with
  | none =>
    change repliesIn (remarksIn host.output ++ []) (host.output ++ []) = _
    rw [List.append_nil, List.append_nil]
  | some event =>
    rw [repliesIn_append]
    change repliesIn (remarksIn host.output ++ []) host.output ++ [] = _
    rw [List.append_nil, List.append_nil]

/-- No remark is made before code is entered. -/
theorem Goes.exists_from {name : BridgeName} {operation : Operation} {frame : Frame} {visit : Visit}
    (hgoes : Goes setup host name operation (.reach frame visit)) :
    ∃ start, visit.From start ∧ remarksIn start.output = remarksIn host.output := by
  cases hgoes with
  | startsLoaded hloads hload hcomplete hvisit =>
    refine ⟨_, (visitOf_from hvisit).1, ?_⟩
    rw [output_holding, output_loaded, remarksIn_append]
    exact List.append_nil _
  | startsSupplied hsupplies hvisit => exact ⟨_, (visitOf_from hvisit).1, rfl⟩
  | forwards hdemand hengine hvisit =>
    refine ⟨_, (visitOf_from hvisit).1, ?_⟩
    rw [output_holding]

/-- The replies of a call. -/
def Visit.replies (run : Runner) (visit : Visit) : List Reply :=
  (visit.contact run).replies (remarksIn visit.notes)

theorem Visit.remarksIn_ending (hrun : Tracks setup run) {visit : Visit} (hfrom : visit.From host) :
    remarksIn (visit.ending run).output = remarksIn host.output ++ remarksIn visit.notes := by
  rw [(visit.ending_tracks hrun hfrom).1, remarksIn_append, remarksIn_cons]
  rfl

/-- The replies in the output of a finished visit. -/
theorem Visit.replies_ending (hrun : Tracks setup run) {visit : Visit}
    (hfrom : visit.From host.beginning) :
    let output := (visit.ending run).output
    repliesIn (remarksIn output) output = visit.replies run := by
  intro output
  rw [(visit.carries_ending hrun hfrom .nil).repliesIn, visit.remarksIn_ending hrun hfrom]
  rfl

/-- The replies that are given when an operation goes a certain way. -/
def Course.replies (run : Runner) : Course → List Reply
  | .reach _ visit => visit.replies run
  | _ => []

/-- The replies in an output are those of the way that the operation has gone. -/
theorem Goes.replies_finish (hrun : Tracks setup run) {name : BridgeName} {operation : Operation}
    {course : Course} (hgoes : Goes setup host name operation course) (hquiet : Quiet host.output)
    (hremarks : remarksIn host.output = []) :
    let output := (course.finish run).2.output
    repliesIn (remarksIn output) output = course.replies run := by
  intro output
  have hcarries : Carries output (course.contact? run) := (hgoes.fits hrun hquiet).carries
  rw [hcarries.repliesIn]
  cases course with
  | pass next => rfl
  | replace name next start notes b => rfl
  | reach frame visit =>
    obtain ⟨start, hfrom, hstart⟩ := hgoes.exists_from
    have houtput : remarksIn output = remarksIn visit.notes := by
      rw [← List.nil_append (remarksIn visit.notes), ← hremarks, ← hstart,
        ← visit.remarksIn_ending hrun hfrom]
      exact frame.remarksIn_leave (visit.answer run) (visit.ending run)
    rw [houtput]
    rfl

/-! ## Runs inside a step -/

/-- Steps that differ in secrets are performed alike in two ways of performing steps, as long as the
engines reply the same.  The replies that are to follow are `rest` and `rest'`. -/
def Masked (made made' : List Step → Act (List Report)) : Prop :=
  ∀ (steps steps' : List Step) (host host' : Host) (rest rest' : List Reply),
    host.redacted = host'.redacted →
      let ran := (made steps).run host
      let ran' := (made' steps').run host'
      stepsOf ran.1 = stepsOf ran'.1 →
        Concur (repliesOf ran.1 ++ rest) (repliesOf ran'.1 ++ rest') →
          redactedOf ran.1 = redactedOf ran'.1 ∧ ran.2.redacted = ran'.2.redacted ∧
            Concur rest rest'

variable {rest rest' : List Reply}

theorem Visit.callBack_masked (hmasked : Masked run.all run'.all) {visit visit' : Visit}
    (hentered : visit.host.redacted = visit'.host.redacted)
    (hsteps : (visit.callBack run).1.map stepsOf = (visit'.callBack run').1.map stepsOf)
    (hconcur : Concur (repliesOf ((visit.callBack run).1.getD []) ++ rest)
      (repliesOf ((visit'.callBack run').1.getD []) ++ rest')) :
    (visit.callBack run).1.map redactedOf = (visit'.callBack run').1.map redactedOf ∧
      (visit.callBack run).2.redacted = (visit'.callBack run').2.redacted ∧ Concur rest rest' := by
  unfold callBack at hsteps hconcur ⊢
  cases hcallbacks : visit.callbacks run <;> cases hcallbacks' : visit'.callbacks run' <;>
    rw [hcallbacks, hcallbacks'] at hsteps hconcur <;> try cases hsteps
  case none.none => exact ⟨rfl, hentered, hconcur⟩
  case some.some steps steps' =>
    obtain ⟨hreports, hafter, hrest⟩ :=
      hmasked steps steps' _ _ rest rest' hentered (Option.some.inj hsteps) hconcur
    exact ⟨congrArg some hreports, hafter, hrest⟩

theorem Visit.observation_redacted (run : Runner) (visit : Visit) :
    (visit.observation run).redacted =
      .called visit.party visit.call.redacted ((visit.callBack run).1.map redactedOf)
        (visit.answer run) := by
  unfold observation
  cases (visit.callBack run).1 <;> rfl

/-- Calls that differ in secrets end alike, if the engines reply the same. -/
theorem Visit.Near.ending (hmasked : Masked run.all run'.all) {visit visit' : Visit}
    (h : visit.Near visit')
    (hconcur : Concur (visit.replies run ++ rest) (visit'.replies run' ++ rest')) :
    visit.answer run = visit'.answer run' ∧
      (visit.ending run).redacted = (visit'.ending run').redacted ∧ Concur rest rest' := by
  -- the reply to the call comes first, and then those to the calls inside it
  obtain ⟨hreply, hinside⟩ := hconcur.cons
  obtain ⟨hanswer, hremarks, hsteps⟩ := Reply.mk.inj hreply
  obtain ⟨hnotes, hentered⟩ := h.settles run run' hanswer hremarks
  obtain ⟨hnested, hafter, hrest⟩ := Visit.callBack_masked hmasked hentered hsteps hinside
  replace hanswer : visit.answer run = visit'.answer run' := hanswer
  refine ⟨hanswer, ?_, hrest⟩
  unfold Visit.ending
  rw [observe_redacted, observe_redacted, redactedIn, redactedIn, visit.observation_redacted,
    visit'.observation_redacted, hafter, h.party, h.call, hanswer, hnested, hnotes]

/-- Operations that go the same way end alike, if the engines reply the same. -/
theorem Course.Near.finish (hmasked : Masked run.all run'.all) {course course' : Course}
    (h : course.Near course')
    (hconcur : Concur (course.replies run ++ rest) (course'.replies run' ++ rest')) :
    (course.finish run).1 = (course'.finish run').1 ∧
      (course.finish run).2.redacted = (course'.finish run').2.redacted ∧ Concur rest rest' := by
  cases h with
  | pass hnext => exact ⟨rfl, hnext, hconcur⟩
  | replace hstart =>
    refine ⟨rfl, ?_, hconcur⟩
    simp only [Course.finish, observe_redacted, replacing_redacted, hstart]
  | reach hvisit =>
    obtain ⟨hanswer, hending, hrest⟩ := hvisit.ending hmasked hconcur
    refine ⟨?_, ?_, hrest⟩
    · simp only [Course.finish, hanswer]
    · simp only [Course.finish, leave_redacted, hanswer, hending]

/-! ## Steps -/

variable {step step' : Step}

/-- What two steps make of the beginning of the step: the same results, and processes that differ in
nothing but secrets, if the engines reply the same. -/
def Step.Near (setup setup' : Setup) (run run' : Runner) (host host' : Host) (rest rest' : List Reply)
    (step step' : Step) : Prop :=
  let did := (perform setup run step).run host.beginning
  let did' := (perform setup' run' step').run host'.beginning
  Concur (repliesIn (remarksIn did.2.output) did.2.output ++ rest)
      (repliesIn (remarksIn did'.2.output) did'.2.output ++ rest') →
    did.1 = did'.1 ∧ did.2.redacted = did'.2.redacted ∧ Concur rest rest'

theorem exists_target?_near (hstep : step.redacted = step'.redacted) {name : BridgeName}
    {operation : Operation} (htarget : step.target? = some (name, operation)) :
    ∃ operation', step'.target? = some (name, operation') ∧
      operation.redacted = operation'.redacted := by
  have hmap := congrArg Step.target? hstep
  rw [Step.target?_redacted, Step.target?_redacted] at hmap
  obtain ⟨⟨name', operation'⟩, htarget', hsame⟩ := exists_of_map_eq hmap htarget
  obtain ⟨rfl, hoperation⟩ := Prod.mk.inj hsame
  exact ⟨operation', htarget', hoperation.symm⟩

theorem Step.remarksIn_preface (step : Step) : remarksIn step.preface = [] := by
  unfold preface
  split
  · split <;> rfl
  · rfl

section

variable (hsetup : setup.Resembles setup') (hrun : Tracks setup run) (hrun' : Tracks setup' run')
  (hmasked : Masked run.all run'.all) (hhost : host.redacted = host'.redacted)
  (hstep : step.redacted = step'.redacted)

include hsetup hrun hrun' hmasked hhost hstep

/-- A step that is an operation. -/
theorem near_of_target {name : BridgeName} {operation : Operation}
    (htarget : step.target? = some (name, operation)) :
    step.Near setup setup' run run' host host' rest rest' step' := by
  obtain ⟨operation', htarget', hoperation⟩ := exists_target?_near hstep htarget
  obtain ⟨course, hgoes, hperform⟩ := exists_goes_of_target setup htarget host.beginning
  obtain ⟨course', hgoes', hperform'⟩ := exists_goes_of_target setup' htarget' host'.beginning
  have hbegun : (host.beginning.observe step.preface).redacted =
      (host'.beginning.observe step'.preface).redacted := by
    rw [observe_redacted, observe_redacted, beginning_redacted, beginning_redacted, hhost,
      ← step.preface_redacted, hstep, step'.preface_redacted]
  -- the second operation goes the way of the first, since there is no other
  obtain ⟨near, hnear, hcourses⟩ := hgoes.near hsetup hbegun hoperation
  obtain rfl := hgoes'.unique hnear
  have hreplies := hgoes.replies_finish hrun (quiet_preface step) step.remarksIn_preface
  have hreplies' := hgoes'.replies_finish hrun' (quiet_preface step') step'.remarksIn_preface
  unfold Step.Near
  rw [hperform run, hperform' run']
  intro did did' hconcur
  simp only [did, did', replies_closing, hreplies, hreplies'] at hconcur
  obtain ⟨hyields, hafter, hrest⟩ := hcourses.finish hmasked hconcur
  refine ⟨?_, ?_, hrest⟩
  · show step.shows _ = step'.shows _
    rw [hyields, ← step.shows_redacted, hstep, step'.shows_redacted]
  · show ((course.finish run).2.closing setup step).redacted =
      ((course'.finish run').2.closing setup' step').redacted
    rw [closing_redacted, closing_redacted, hafter, hstep,
      closing_congr hsetup.registers step'.redacted]

/-- A step that is no operation. -/
theorem near_of_target?_eq_none (htarget : step.target? = none) :
    step.Near setup setup' run run' host host' rest rest' step' := by
  have hbeginning : host.beginning.redacted = host'.beginning.redacted := by
    rw [beginning_redacted, beginning_redacted, hhost]
  have htarget' : step'.target? = none := by
    rw [← Option.map_eq_none_iff, ← step'.target?_redacted, ← hstep, step.target?_redacted, htarget]
    rfl
  have hvisits := directVisit?_near hsetup hbeginning hstep
  unfold Step.Near
  cases hvisit : step.directVisit? setup host.beginning <;>
    cases hvisit' : step'.directVisit? setup' host'.beginning <;>
    rw [hvisit, hvisit'] at hvisits <;> cases hvisits
  case none.none.none =>
    rw [perform_aside setup run htarget hvisit, perform_aside setup' run' htarget' hvisit']
    intro did did' hconcur
    refine ⟨reads_near hsetup hbeginning hstep, ?_, hconcur⟩
    have hdisk : host.beginning.loader.disk = host'.beginning.loader.disk :=
      congrArg (fun host => host.loader.disk) hbeginning
    show (host.beginning.withDisk (step.storing host.beginning.loader.disk)).redacted =
      (host'.beginning.withDisk (step'.storing host'.beginning.loader.disk)).redacted
    rw [withDisk_redacted, withDisk_redacted, hbeginning, hdisk, ← step.storing_redacted, hstep,
      step'.storing_redacted]
  case some.some.some visit visit' hnear =>
    rw [perform_directVisit setup run hvisit, perform_directVisit setup' run' hvisit']
    intro did did' hconcur
    rw [visit.replies_ending hrun (directVisit_from hvisit),
      visit'.replies_ending hrun' (directVisit_from hvisit')] at hconcur
    obtain ⟨hanswer, hafter, hrest⟩ := hnear.ending hmasked hconcur
    refine ⟨?_, hafter, hrest⟩
    show step.relays (visit.answer run) = step'.relays (visit'.answer run')
    rw [hanswer, ← step.relays_redacted, hstep, step'.relays_redacted]

/-- The step lemma: the reports of two steps that differ in secrets differ in nothing but secrets, if
the engines reply the same. -/
theorem report_near :
    let ran := (report setup run step).run host
    let ran' := (report setup' run' step').run host'
    Concur (ran.1.replies ++ rest) (ran'.1.replies ++ rest') →
      ran.1.redacted = ran'.1.redacted ∧ ran.2.redacted = ran'.2.redacted ∧ Concur rest rest' := by
  have hperformed : step.Near setup setup' run run' host host' rest rest' step' := by
    cases htarget : step.target? with
    | some target => exact near_of_target hsetup hrun hrun' hmasked hhost hstep htarget
    | none => exact near_of_target?_eq_none hsetup hrun hrun' hmasked hhost hstep htarget
  unfold Step.Near at hperformed
  rw [report_run, report_run]
  generalize (perform setup run step).run host.beginning = did at hperformed
  generalize (perform setup' run' step').run host'.beginning = did' at hperformed
  intro ran ran' hconcur
  obtain ⟨hresult, hafter, hrest⟩ := hperformed hconcur
  refine ⟨?_, ?_, hrest⟩
  · -- what a report shows of the process is the same but for the secrets
    let reported (step : Step) (result : Result) (after : Host) : Report :=
      ⟨step, result, after.output, after.own, after.shared⟩
    show reported step.redacted did.1 did.2.redacted = reported step'.redacted did'.1 did'.2.redacted
    rw [hstep, hresult, hafter]
  · have houtput : redactedIn host.output = redactedIn host'.output := congrArg Host.output hhost
    show { did.2.redacted with output := redactedIn host.output } =
      { did'.2.redacted with output := redactedIn host'.output }
    rw [hafter, houtput]

end

/-! ## Runs -/

theorem stepsOf_reportAll (setup : Setup) (run : Runner) (steps : List Step) (host : Host) :
    stepsOf ((reportAll setup run steps).run host).1 = steps.map Step.redacted := by
  induction steps generalizing host with
  | nil => rfl
  | cons step steps ih =>
    rw [reportAll_cons_run]
    exact congrArg (step.redacted :: ·) (ih _)

theorem reportAll_masked (hsetup : setup.Resembles setup') (hrun : Tracks setup run)
    (hrun' : Tracks setup' run') (hmasked : Masked run.all run'.all) :
    Masked (reportAll setup run) (reportAll setup' run') := by
  intro steps
  induction steps with
  | nil =>
    intro steps' host host' rest rest' hhost ran ran' hsteps hconcur
    rw [stepsOf_reportAll, stepsOf_reportAll, List.map_nil, eq_comm, List.map_eq_nil_iff] at hsteps
    subst hsteps
    exact ⟨rfl, hhost, hconcur⟩
  | cons step steps ih =>
    intro steps' host host' rest rest' hhost ran ran' hsteps hconcur
    rw [stepsOf_reportAll, stepsOf_reportAll] at hsteps
    cases steps' with
    | nil => cases hsteps
    | cons step' steps' =>
      obtain ⟨hstep, hsteps⟩ := List.cons.inj hsteps
      -- the replies in the first step come first, and those in the other steps are the rest
      have hreplies : ∀ report reports (rest : List Reply), repliesOf (report :: reports) ++ rest =
          report.replies ++ (repliesOf reports ++ rest) := fun report reports rest =>
        List.append_assoc report.replies (repliesOf reports) rest
      simp only [ran, ran', reportAll_cons_run, hreplies] at hconcur
      obtain ⟨hfirst, hafter, hothers⟩ :=
        report_near hsetup hrun hrun' hmasked hhost hstep hconcur
      obtain ⟨hreports, hlast, hrest⟩ := ih steps' _ _ rest rest' hafter
        (by rw [stepsOf_reportAll, stepsOf_reportAll, hsteps]) hothers
      refine ⟨?_, hlast, hrest⟩
      simp only [ran, ran', reportAll_cons_run, redactedOf, hfirst, hreports]

/-- The run lemma: runs of steps that differ in secrets differ in nothing but secrets, if the engines
reply the same. -/
theorem runSteps_masked (hsetup : setup.Resembles setup') (depth : Nat) :
    Masked (runSteps setup depth) (runSteps setup' depth) := by
  refine reportAll_masked hsetup (calledBack_tracks depth) (calledBack_tracks depth) ?_
  induction depth with
  | zero =>
    -- below the depth no steps are made
    intro steps steps' host host' rest rest' hhost
    rw [all_calledBack_zero, all_calledBack_zero]
    exact fun _ hconcur => ⟨rfl, hhost, hconcur⟩
  | succ depth ih =>
    rw [all_calledBack_succ, all_calledBack_succ]
    exact reportAll_masked hsetup (calledBack_tracks depth) (calledBack_tracks depth) ih

/-! ## What is shown -/

/-- The API key and the encryption key have no influence on anything that is shown. -/
structure SecretsHidden : Prop where
  /-- Two runs of the same steps but for the secrets, in processes that are the same but for the
  secrets, show the same if their engines reply the same.  Nothing but the secrets tells the reports
  and the processes apart. -/
  runs : ∀ (setup setup' : Setup), setup.Resembles setup' →
    ∀ (depth : Nat) (steps steps' : List Step) (host host' : Host),
      steps.map Step.redacted = steps'.map Step.redacted → host.redacted = host'.redacted →
        let ran := (runSteps setup depth steps).run host
        let ran' := (runSteps setup' depth steps').run host'
        Concur (repliesOf ran.1) (repliesOf ran'.1) →
          shownOf ran.1 = shownOf ran'.1 ∧ redactedOf ran.1 = redactedOf ran'.1 ∧
            ran.2.redacted = ran'.2.redacted
  /-- The entry points around an analyzer add nothing to what the analyzer answers itself: if they are
  asked the same but for the secrets, and their analyzers answer the same, then so do they, and they
  make the same remarks and remember the same but for the secrets. -/
  entries : ∀ (inner inner' : Analyzer) (code : Code) (memory memory' : Analyzer.Memory)
    (call call' : Call), memory.redacted = memory'.redacted →
      call.redacted = call'.redacted →
        ownAnswer inner memory call = ownAnswer inner' memory' call' →
        let ending := analyzerEnding inner memory call
        let ending' := analyzerEnding inner' memory' call'
        ending.answer = ending'.answer ∧ LeaveAlike code ending ending'
  /-- Two lookups that agree but for the values of the secrets fail with the same fault, and so with
  the same text, or they both yield options. -/
  lookups : ∀ lookup other : String → Option String, Startup.AgreeButSecrets lookup other →
    (∃ fault, Startup.Options.ofLookup lookup = .error fault ∧
        Startup.Options.ofLookup other = .error fault) ∨
      ∃ options options', Startup.Options.ofLookup lookup = .ok options ∧
        Startup.Options.ofLookup other = .ok options' ∧ options.shown = options'.shown
  /-- Values that are the same but for the secrets are shown as the same for debugging. -/
  options : ∀ options options' : Startup.Options, options.redacted = options'.redacted →
    options.shown = options'.shown
  arguments : ∀ args args' : Startup.Arguments, args.redacted = args'.redacted →
    args.shown = args'.shown
  config : ∀ config config' : Startup.Config, config.redacted = config'.redacted →
    config.shown = config'.shown

/-- **Secrets are shown nowhere.** -/
theorem secretsHidden : SecretsHidden where
  runs := by
    intro setup setup' hsetup depth steps steps' host host' hsteps hhost ran ran' hconcur
    have hperformed : stepsOf ran.1 = stepsOf ran'.1 :=
      (stepsOf_reportAll _ _ _ _).trans (hsteps.trans (stepsOf_reportAll _ _ _ _).symm)
    obtain ⟨hreports, hafter, -⟩ := runSteps_masked hsetup depth steps steps' host host' [] []
      hhost hperformed (by simpa only [List.append_nil] using hconcur)
    refine ⟨?_, hreports, hafter⟩
    rw [← shownOf_redacted, hreports, shownOf_redacted]
  entries inner inner' code _ _ _ _ hmemory hcall hown :=
    leaveAlike_of_ownAnswer inner inner' code hmemory hcall hown
  lookups := by
    intro lookup other hagree
    have hsame := hagree.ofLookup
    cases hfound : Startup.Options.ofLookup lookup <;>
      cases hfound' : Startup.Options.ofLookup other <;>
      rw [hfound, hfound'] at hsame
    case error.error fault fault' => exact .inl ⟨fault, rfl, congrArg _ (Except.error.inj hsame).symm⟩
    case ok.ok options options' =>
      refine .inr ⟨options, options', rfl, rfl, ?_⟩
      rw [← options.shown_redacted, Except.ok.inj hsame, options'.shown_redacted]
    case error.ok => cases hsame
    case ok.error => cases hsame
  options options options' h := by rw [← options.shown_redacted, h, options'.shown_redacted]
  arguments args args' h := by rw [← args.shown_redacted, h, args'.shown_redacted]
  config config config' h := by rw [← config.shown_redacted, h, config'.shown_redacted]

/-- Startup arguments with another API key. -/
def otherKeyArguments : Startup.Arguments :=
  { (default : Startup.Arguments) with apiKey := ⟨[109], by decide⟩ }

/-- Starting the library, and asking it for a decision. -/
def decidingSteps (args : Startup.Arguments) : List Step :=
  [.bridge .own (.startFrom "/library" args), .bridge .own (.decideBlock default)]

/-- Two runs with different keys, in which the library is handed the keys and accepts both of them. -/
theorem decidingSteps_shown :
    let ran := (runSteps analyzing 0 (decidingSteps keyArguments)).run oneLibrary
    let ran' := (runSteps analyzing 0 (decidingSteps otherKeyArguments)).run oneLibrary
    ran.1.map (fun report => report.contacts.map Contact.call) =
        [[.startup keyArguments.raw], [.block default]] ∧
      ran'.1.map (fun report => report.contacts.map Contact.call) =
        [[.startup otherKeyArguments.raw], [.block default]] ∧
      keyArguments.raw ≠ otherKeyArguments.raw ∧
      repliesOf ran.1 = [⟨.byte 1, [], none⟩, ⟨.byte 0, [], none⟩] ∧
      shownOf ran.1 = shownOf ran'.1 := by
  intro ran ran'
  have hreplies : repliesOf ran.1 = [⟨.byte 1, [], none⟩, ⟨.byte 0, [], none⟩] := by decide +kernel
  have hreplies' : repliesOf ran'.1 = [⟨.byte 1, [], none⟩, ⟨.byte 0, [], none⟩] := by
    decide +kernel
  have hconcur : Concur (repliesOf ran.1) (repliesOf ran'.1) := by
    rw [hreplies, hreplies']
    exact .refl _
  refine ⟨by decide +kernel, by decide +kernel, by decide +kernel, hreplies, ?_⟩
  exact (secretsHidden.runs analyzing analyzing (.refl analyzing) 0 (decidingSteps keyArguments)
    (decidingSteps otherKeyArguments) oneLibrary oneLibrary rfl rfl hconcur).1

end Host
end FailOpen

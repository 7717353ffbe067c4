import DriverHandover.Proofs.Uninstall.EarlyEnd

/-!
# The stages of a run

A run tells of every stage that it enters. There are a few courses that a run can take from its
first stage to its last one, and the course shows how the run has ended: whether it was refused,
skipped, or interrupted, and in which phase of the removal.

## Main definitions

* `stagesEntered` – the stages that are entered in a history.
* `StageCourse` – the courses, each with the result that belongs to it.
* `OnCourse` – how far a run has come on a course.
* `phases`, `Uninstall.removal` – a removal as a list of phases, each with the stage that it leads
  to, and `Reached` for how far it has come.

## Main statements

* `Uninstall.phases_ends` – phases lead through their stages one by one.
* `uninstall_onCourse` – every complete run takes a course, whatever the replies are.
* `run_passes_stages` – what the stages tell of a run of a fresh process.
* `StageCourse.exists_run` – every course is the one of some run.
-/

namespace DriverHandover

open Uninstall

/-- The stage that a call tells of. -/
def NodeCall.stage? : NodeCall → Option Stage
  | .enter stage => some stage
  | _ => none

/-- Calls that tell of no stage. -/
def NodeCall.Stays (call : NodeCall) : Prop :=
  call.stage? = none

/-- The stages that are entered in a history, in this order. -/
def stagesEntered (history : NodeHistory) : List Stage :=
  history.filterMap (·.1.stage?)

/-- The stages on the way to a node without a driver. -/
def forwardStages : List Stage :=
  [.preflightSkipCheck, .labelsFetched, .componentsEvicted, .podsDrained, .modulesUnloaded,
    .devicesRebound, .rdmaWaited]

/-- The stages of a run from its start to its end, with the result. -/
inductive StageCourse : Except (Report UninstallError) UninstallOutcome → List Stage → Prop where
  | refused (report : Report UninstallError) : StageCourse (.error report) [.failed]
  | skipped : StageCourse (.ok .skipped) [.preflightSkipCheck, .done]
  | unread (report : Report UninstallError) :
      StageCourse (.error report) [.preflightSkipCheck, .failed]
  | interrupted (report : Report UninstallError) {front : List Stage} :
      front <+: forwardStages → .labelsFetched ∈ front → .rdmaWaited ∉ front →
        StageCourse (.error report) (front ++ [.failed])
  | completed : StageCourse (.ok .completed) (forwardStages ++ [.rescheduled, .done])
  | standInKept (report : Report UninstallError) :
      StageCourse (.error report) (forwardStages ++ [.rescheduled, .failed])

/-- The stages of a run that ends without an error. -/
def UninstallOutcome.stages : UninstallOutcome → List Stage
  | .skipped => [.preflightSkipCheck, .done]
  | .completed => forwardStages ++ [.rescheduled, .done]

/-- A history goes through the stages of a run with this result, and enters the last stage at its
very end; a run without a result has come to some point of such a course. -/
def OnCourse (result : Option (Except (Report UninstallError) UninstallOutcome))
    (history : NodeHistory) : Prop :=
  match result with
  | some ended => StageCourse ended (stagesEntered history) ∧
      ∃ before, history = before ++ [⟨.enter (lastStage ended), ()⟩]
  | none => ∃ ended stages, StageCourse ended stages ∧ stagesEntered history <+: stages

/-- Steps one after the other, each with the stage that it leads to. -/
def phases : List (RunStep Unit × Stage) → RunStep Unit
  | [] => pure ()
  | (step, stage) :: rest => do
    step
    enter stage
    phases rest

/-- The stages up to the end of a removal: all of them if it succeeds, and not the last one if it
fails or is cut off. -/
inductive Reached : Option (Except (Report UninstallError) Unit) → List Stage → Prop where
  | whole : Reached (some (.ok ())) forwardStages
  | part {result : Option (Except (Report UninstallError) Unit)} {n : Nat} :
      (∀ u, result ≠ some (.ok u)) → n ≤ 4 → Reached result (forwardStages.take (n + 2))

variable {α β : Type} {c : Config} {t : Timings} {looks : Nat} {memory after : Memory}
variable {history : NodeHistory}
variable {result : Option (Except (Report UninstallError) UninstallOutcome)}
variable {ended : Except (Report UninstallError) UninstallOutcome} {stages : List Stage}

theorem stagesEntered_append (past later : NodeHistory) :
    stagesEntered (past ++ later) = stagesEntered past ++ stagesEntered later :=
  List.filterMap_append

theorem stagesEntered_eq_nil (h : ∀ e ∈ history, e.1.Stays) : stagesEntered history = [] :=
  List.filterMap_eq_nil_iff.2 h

theorem stagesEntered_enter (stage : Stage) (rest : NodeHistory) :
    stagesEntered (⟨.enter stage, ()⟩ :: rest) = stage :: stagesEntered rest :=
  rfl

/-- Calls of a class that tells of no stage. -/
theorem NodeCall.stays_of {calls : NodeCall → Prop} (hcalls : ∀ stage, ¬calls (.enter stage))
    {call : NodeCall} (h : calls call) : call.Stays := by
  cases call with
  | enter stage => exact absurd h (hcalls stage)
  | _ => rfl

namespace Reached

/-- A removal that fails ends the run. -/
theorem of_error {report : Report UninstallError} (h : Reached (some (.error report)) stages) :
    StageCourse (.error report) (stages ++ [.failed]) := by
  cases h with
  | @part _ n _ hn =>
    have hfront : ∀ n ≤ 4, .labelsFetched ∈ forwardStages.take (n + 2) ∧
        .rdmaWaited ∉ forwardStages.take (n + 2) := by decide
    obtain ⟨hfetched, hwaited⟩ := hfront n hn
    exact .interrupted report (List.take_prefix _ _) hfetched hwaited

theorem eq_of_ok {u : Unit} (h : Reached (some (.ok u)) stages) : stages = forwardStages := by
  cases h with
  | whole => rfl
  | part hresult _ => exact absurd rfl (hresult u)

/-- However far a removal has come, there are stages to go on with. -/
theorem exists_course {removed : Option (Except (Report UninstallError) Unit)}
    (h : Reached removed stages) : ∃ ended full, StageCourse ended full ∧ stages <+: full := by
  refine ⟨_, _, .completed, List.IsPrefix.trans ?_ (List.prefix_append _ _)⟩
  cases h with
  | whole => exact List.prefix_rfl
  | part _ _ => exact List.take_prefix _ _

end Reached

/-- However far a run on course has come, there are stages to go on with. -/
theorem OnCourse.exists_course (h : OnCourse result history) :
    ∃ ended stages, StageCourse ended stages ∧ stagesEntered history <+: stages := by
  cases result with
  | none => exact h
  | some ended => exact ⟨ended, _, h.1, List.prefix_rfl⟩

/-- A part of a run that keeps to a class of calls that tells of no stage. -/
theorem Keeping.stays {γ : Type} {view : Memory → γ} {calls : NodeCall → Prop} {p : NodeProcess α}
    (hp : Keeping view calls p) (hcalls : ∀ stage, ¬calls (.enter stage)) :
    Keeping (fun _ => ()) NodeCall.Stays p :=
  (hp.mono fun _ h => NodeCall.stays_of hcalls h).comp fun _ => ()

/-- A part of a run without calls that tell of a stage enters none. -/
theorem Keeping.stagesEntered_eq_nil {γ : Type} {view : Memory → γ} {p : NodeProcess α}
    (hp : Keeping view NodeCall.Stays p) {result : Option α}
    (h : p.Ends memory history result after) : stagesEntered history = [] :=
  DriverHandover.stagesEntered_eq_nil (hp.calls_of_ends h)

theorem Keeping.stagesEntered_append {γ : Type} {view : Memory → γ} {p : NodeProcess α}
    (hp : Keeping view NodeCall.Stays p) {result : Option α}
    (h : p.Ends memory history result after) (front : NodeHistory) :
    stagesEntered (front ++ history) = stagesEntered front := by
  rw [DriverHandover.stagesEntered_append, hp.stagesEntered_eq_nil h, List.append_nil]

/-- Of two steps the second one is made if the first one succeeds, and otherwise nothing is. -/
theorem RunStep.ends_bind {step : RunStep β} {next : β → RunStep α}
    {result : Option (Except (Report UninstallError) α)}
    (h : (step >>= next).run.Ends memory history result after) :
    (∃ first b between rest, step.run.Ends memory first (some (.ok b)) between ∧
      (next b).run.Ends between rest result after ∧ history = first ++ rest) ∨
      (∃ ended, step.run.Ends memory history ended after) ∧ ∀ a, result ≠ some (.ok a) := by
  rcases Process.Ends.bind_cases h with
    ⟨first, made, between, rest, hfirst, hrest, rfl⟩ | ⟨hhalted, rfl⟩
  · cases made with
    | ok b => exact .inl ⟨first, b, between, rest, hfirst, hrest, rfl⟩
    | error report =>
      cases hrest
      rw [List.append_nil]
      exact .inr ⟨⟨_, hfirst⟩, nofun⟩
  · exact .inr ⟨⟨none, hhalted⟩, nofun⟩

namespace Uninstall

/-- Phases lead through their stages one by one; a run that is stuck in a phase has not come to the
stage of this phase. -/
theorem phases_ends {parts : List (RunStep Unit × Stage)}
    (hstays : ∀ part ∈ parts, Keeping (fun _ => ()) NodeCall.Stays part.1.run)
    {result : Option (Except (Report UninstallError) Unit)}
    (h : (phases parts).run.Ends memory history result after) :
    result = some (.ok ()) ∧ stagesEntered history = parts.map (·.2) ∨
      (∀ u, result ≠ some (.ok u)) ∧
        ∃ n < parts.length, stagesEntered history = (parts.map (·.2)).take n := by
  induction parts generalizing memory history with
  | nil =>
    cases h
    exact .inl ⟨rfl, rfl⟩
  | cons part parts ih =>
    obtain ⟨step, stage⟩ := part
    obtain ⟨hstep, hparts⟩ := List.forall_mem_cons.1 hstays
    rcases RunStep.ends_bind h with ⟨first, _, _, _, hfirst, hrest, rfl⟩ | ⟨⟨_, hstuck⟩, hresult⟩
    · obtain ⟨rest, hlater, rfl⟩ := enter_bind_ends hrest
      rw [stagesEntered_append, hstep.stagesEntered_eq_nil hfirst, List.nil_append,
        stagesEntered_enter]
      rcases ih hparts hlater with ⟨rfl, hall⟩ | ⟨hresult, n, hn, hsome⟩
      · exact .inl ⟨rfl, congrArg (stage :: ·) hall⟩
      · exact .inr ⟨hresult, n + 1, Nat.succ_lt_succ hn, congrArg (stage :: ·) hsome⟩
    · exact .inr ⟨hresult, 0, Nat.succ_pos _, hstep.stagesEntered_eq_nil hstuck⟩

variable (c t looks) in
/-- The phases of the removal. -/
def removal : List (RunStep Unit × Stage) :=
  [(evictComponents c t, .componentsEvicted), (clearGpuPods c, .podsDrained),
    (unloadDriver c, .modulesUnloaded),
    (attempt .vfioUnbindFailed (ask .unbindVfio), .devicesRebound),
    (awaitRdma c t looks, .rdmaWaited)]

theorem removeDriver_eq_phases : removeDriver c t looks = phases (removal c t looks) :=
  removeDriver_eq c t looks

theorem removal_stays :
    ∀ part ∈ removal c t looks, Keeping (fun _ => ()) NodeCall.Stays part.1.run := by
  have hevict : Keeping (fun _ => ()) NodeCall.Stays (evictComponents c t).run :=
    evictComponents_keeping (fun _ => rfl) fun _ h => NodeCall.stays_of (fun _ => id) h
  have hunbind : Keeping (fun _ => ()) NodeCall.Stays
      (attempt .vfioUnbindFailed (ask .unbindVfio) : RunStep Unit).run :=
    RunStep.keeping_attempt (keeping_ask rfl)
  have hawait : Keeping (fun _ => ()) NodeCall.Polls (awaitRdma c t looks).run :=
    awaitRdma_keeping
  simp only [removal, List.forall_mem_cons]
  exact ⟨hevict, clearGpuPods_keeping.stays fun _ => id, unloadDriver_keeping.stays fun _ => id,
    hunbind, hawait.stays fun _ => id, List.forall_mem_nil _⟩

/-- A removal that succeeds leads through all its stages, and one that is stuck to some of them. -/
theorem removeDriver_ends {result : Option (Except (Report UninstallError) Unit)}
    (h : (removeDriver c t looks).run.Ends memory history result after) :
    Reached result (.preflightSkipCheck :: .labelsFetched :: stagesEntered history) := by
  rw [removeDriver_eq_phases] at h
  rcases phases_ends removal_stays h with ⟨rfl, hall⟩ | ⟨hresult, n, hn, hsome⟩
  · rw [hall]
    exact .whole
  · rw [hsome]
    exact .part hresult (Nat.le_of_lt_succ hn)

theorem unloadNouveau_stays : Keeping (fun _ => ()) NodeCall.Stays unloadNouveau.run := by
  refine RunStep.keeping_bind (RunStep.keeping_lift (keeping_ask rfl)) fun loaded => ?_
  cases loaded with
  | true => exact RunStep.keeping_attempt (keeping_ask rfl)
  | false => exact RunStep.keeping_pure ()

theorem finish_onCourse {front : NodeHistory} (h : (finish ended).Ends memory history result after)
    (hcourse : StageCourse ended (stagesEntered front ++ [lastStage ended])) :
    OnCourse result (front ++ history) := by
  obtain ⟨rfl, rfl⟩ := finish_ends h
  refine ⟨?_, front, rfl⟩
  rw [stagesEntered_append]
  exact hcourse

/-- A run ends in the way that its removal has come to, or is cut off before that. -/
theorem conclude_onCourse {front : NodeHistory} {removed : Except (Report UninstallError) Unit}
    (hfront : Reached (some removed) (stagesEntered front))
    (h : (conclude removed).Ends memory history result after) :
    OnCourse result (front ++ history) := by
  cases removed with
  | error report =>
    have hlast : (finish (.error report)).Ends memory history result after := h
    exact finish_onCourse hlast hfront.of_error
  | ok _ =>
    obtain ⟨rest, hrest, rfl⟩ := enter_bind_ends h
    rw [List.append_cons]
    have hentered : stagesEntered (front ++ [⟨.enter .rescheduled, ()⟩]) =
        forwardStages ++ [.rescheduled] := by
      rw [stagesEntered_append, hfront.eq_of_ok]
      rfl
    rcases hrest.bind_cases with ⟨quiet, unloaded, _, last, hunload, hlast, rfl⟩ | ⟨hunload, rfl⟩
    · rw [← List.append_assoc]
      refine finish_onCourse hlast ?_
      rw [unloadNouveau_stays.stagesEntered_append hunload, hentered, List.append_assoc]
      cases unloaded with
      | ok _ => exact .completed
      | error report => exact .standInKept report
    · refine ⟨_, _, .completed, ?_⟩
      rw [unloadNouveau_stays.stagesEntered_append hunload, hentered]
      exact ⟨[.done], rfl⟩

/-- A run that has read its node stays on course, whether the driver can be removed or not. -/
theorem handOver_onCourse {front : NodeHistory}
    (hfront : stagesEntered front = [.preflightSkipCheck])
    (h : (handOver c t looks).Ends memory history result after) :
    OnCourse result (front ++ history) := by
  have hentered : ∀ removal : NodeHistory,
      stagesEntered (front ++ [⟨.enter .labelsFetched, ()⟩] ++ removal) =
        .preflightSkipCheck :: .labelsFetched :: stagesEntered removal := by
    intro removal
    rw [stagesEntered_append, stagesEntered_append, hfront]
    rfl
  have hreschedule : Keeping (fun _ => ()) NodeCall.Stays (reschedule c) :=
    reschedule_keeping.stays fun _ => id
  rw [handOver_eq] at h
  obtain ⟨rest, hrest, rfl⟩ := enter_bind_ends h
  rw [List.append_cons]
  rcases hrest.bind_cases with ⟨removal, removed, _, _, hremoval, hback, rfl⟩ | ⟨hremoval, rfl⟩
  · have hreached := removeDriver_ends hremoval
    rw [← hentered] at hreached
    rw [← List.append_assoc]
    rcases hback.bind_cases with ⟨given, _, _, last, hgiven, hlast, rfl⟩ | ⟨hgiven, rfl⟩
    · rw [← List.append_assoc]
      refine conclude_onCourse ?_ hlast
      rw [hreschedule.stagesEntered_append hgiven]
      exact hreached
    · obtain ⟨ended, stages, hcourse, hbegin⟩ := hreached.exists_course
      refine ⟨ended, stages, hcourse, ?_⟩
      rw [hreschedule.stagesEntered_append hgiven]
      exact hbegin
  · have hreached := removeDriver_ends hremoval
    rw [← hentered] at hreached
    exact hreached.exists_course

/-- A run on a node with a driver of its own fails at once. -/
theorem refused_onCourse {version : String}
    (h : ((refuseHostDriver c t).run >>= finish).Ends memory history result after) :
    OnCourse result (⟨.hostDriverVersion, some version⟩ :: history) := by
  rcases h.bind_cases with ⟨_, _, _, _, hrefused, hfinished, rfl⟩ | ⟨hhalted, -⟩
  · obtain ⟨reply, slept, hended, rfl, hslept⟩ := refuseHostDriver_ends hrefused
    cases hended
    have hquiet : stagesEntered slept = [] :=
      stagesEntered_eq_nil fun e he => congrArg NodeCall.stage? (hslept e he)
    rw [← List.cons_append]
    refine finish_onCourse hfinished ?_
    show StageCourse _ (stagesEntered slept ++ [.failed])
    rw [hquiet]
    exact .refused _
  · obtain ⟨_, _, hended, -⟩ := refuseHostDriver_ends hhalted
    cases hended

/-- A run that is not skipped fails if it cannot read its node. -/
theorem fetched_onCourse {front : NodeHistory}
    (hfront : stagesEntered front = [.preflightSkipCheck])
    (h : Process.Ends
      (do match ← (fetchState c).run with
        | .error report => finish (.error report)
        | .ok () => handOver c t looks) memory history result after) :
    OnCourse result (front ++ history) := by
  rcases h.bind_cases with ⟨read, _, _, last, hfetched, hrest, rfl⟩ | ⟨hhalted, -⟩
  · have hread : stagesEntered (front ++ read) = [.preflightSkipCheck] := by
      rw [stagesEntered_append, hfront]
      rcases fetchState_ends hfetched with ⟨report, rfl, -⟩ | ⟨labels, report, rfl, -⟩ |
        ⟨labels, annotations, rfl, -⟩
      all_goals rfl
    rw [← List.append_assoc]
    rcases fetchState_ends hfetched with ⟨report, -, hended⟩ | ⟨labels, report, -, hended⟩ |
      ⟨labels, annotations, -, hended⟩
    · cases hended
      refine finish_onCourse hrest ?_
      rw [hread]
      exact .unread _
    · cases hended
      refine finish_onCourse hrest ?_
      rw [hread]
      exact .unread _
    · cases hended
      exact handOver_onCourse hread hrest
  · rcases fetchState_ends hhalted with ⟨_, -, hended⟩ | ⟨_, _, -, hended⟩ | ⟨_, _, -, hended⟩
    all_goals cases hended

end Uninstall

/-- Every complete run stays on course, whatever the process keeps from earlier runs. -/
theorem uninstall_onCourse (h : (uninstall c t looks).Ends memory history result after) :
    OnCourse result history := by
  have hchecks : ∀ {checks : NodeHistory} {skip : Bool}, SkipCheck c checks skip →
      stagesEntered (preamble ++ checks) = [.preflightSkipCheck] := by
    intro checks skip hcheck
    cases hcheck with
    | forced | unset | unloaded | unknown | found => rfl
  rw [uninstall_eq] at h
  cases h with
  | call version h =>
    cases version with
    | some version => exact refused_onCourse h
    | none =>
      obtain ⟨_, hentered, rfl⟩ := enter_bind_ends h
      rcases hentered.bind_cases with ⟨checks, skip, _, rest, hchecked, hrest, rfl⟩ | ⟨hhalted, -⟩
      · obtain ⟨_, hskip, hcheck⟩ := canSkip_ends hchecked
        cases hskip
        have hfront := hchecks hcheck
        show OnCourse result (preamble ++ checks ++ rest)
        cases skip with
        | true =>
          rw [if_pos rfl] at hrest
          refine finish_onCourse hrest ?_
          rw [hfront]
          exact .skipped
        | false =>
          rw [if_neg Bool.false_ne_true] at hrest
          exact fetched_onCourse hfront hrest
      · obtain ⟨_, hskip, -⟩ := canSkip_ends hhalted
        cases hskip

theorem UninstallOutcome.stages_injective {outcome found : UninstallOutcome}
    (h : outcome.stages = found.stages) : outcome = found := by
  cases outcome with
  | skipped =>
    cases found with
    | skipped => rfl
    | completed => exact absurd h (by decide)
  | completed =>
    cases found with
    | skipped => exact absurd h (by decide)
    | completed => rfl

namespace StageCourse

/-- A course ends in the stage that belongs to its result. -/
theorem getLast? (h : StageCourse ended stages) : stages.getLast? = some (lastStage ended) := by
  cases h with
  | refused | skipped | unread | completed | standInKept => rfl
  | interrupted => exact List.getLast?_concat

theorem done_iff (h : StageCourse ended stages) :
    stages.getLast? = some .done ↔ ∃ outcome, ended = .ok outcome := by
  rw [h.getLast?]
  cases ended with
  | ok outcome => simp [lastStage]
  | error report => simp [lastStage]

theorem failed_iff (h : StageCourse ended stages) :
    stages.getLast? = some .failed ↔ ∃ report, ended = .error report := by
  rw [h.getLast?]
  cases ended with
  | ok outcome => simp [lastStage]
  | error report => simp [lastStage]

theorem eq_of_ok {outcome : UninstallOutcome} (h : StageCourse (.ok outcome) stages) :
    stages = outcome.stages := by
  cases h with
  | skipped => rfl
  | completed => rfl

/-- The stages show whether a run was skipped or has completed. -/
theorem ok_iff (h : StageCourse ended stages) (outcome : UninstallOutcome) :
    ended = .ok outcome ↔ stages = outcome.stages := by
  constructor
  · rintro rfl
    exact h.eq_of_ok
  · rintro rfl
    have hlast : outcome.stages.getLast? = some .done := by
      cases outcome with
      | skipped | completed => rfl
    obtain ⟨found, rfl⟩ := h.done_iff.1 hlast
    exact congrArg Except.ok (UninstallOutcome.stages_injective h.eq_of_ok).symm

end StageCourse

/-- What was resumed when a stage is entered was resumed before that. -/
theorem ResumedAs.of_concat_enter {read : LabelMap} {stage : Stage}
    (h : ResumedAs c read (history ++ [⟨.enter stage, ()⟩])) : ResumedAs c read history := by
  obtain ⟨before, reply, later, hsplit, hpaused, hfinishes⟩ := h
  rcases List.eq_nil_or_concat later with rfl | ⟨init, last, rfl⟩
  · obtain ⟨-, hlast⟩ := List.append_inj' hsplit rfl
    cases hlast
  · rw [List.concat_eq_append] at hsplit hfinishes
    rw [← List.cons_append, ← List.append_assoc] at hsplit
    obtain ⟨rfl, -⟩ := List.append_inj' hsplit rfl
    exact ⟨before, reply, init, rfl, hpaused, fun e he => hfinishes e (List.mem_append_left _ he)⟩

/-- A run that enters the stage after reading its node resumes the components in the end. -/
theorem exists_resumedAs
    (hrun : (uninstall c t looks).Runs Memory.fresh history (some ended) after)
    (hfetched : .labelsFetched ∈ stagesEntered history) : ∃ read, ResumedAs c read history := by
  have hend : EndsEarly c history ended ∧ (∀ e ∈ history, e.1.Declines c) ∨
      ∃ read, ResumedAs c read history :=
    (uninstall_inOrder.of_runs hrun).2 ended rfl
  rcases hend with ⟨-, hdeclines⟩ | hresumed
  · obtain ⟨⟨call, reply⟩, he, hstage⟩ := List.mem_filterMap.1 hfetched
    have hdeclined := hdeclines _ he
    cases call with
    | enter stage =>
      cases hstage
      exact absurd rfl hdeclined
    | _ => cases hstage
  · exact hresumed

/-- The stages that a run of a fresh process enters are a course, or the beginning of one if the run
has no result yet. The last stage shows whether the run has failed, and the course whether it was
skipped or has completed. A run that has got as far as to read its node has tried to resume the
components, with the labels it has read, when it enters the last stage. -/
theorem run_passes_stages {ended : Option (Except (Report UninstallError) UninstallOutcome)}
    (hrun : (uninstall c t looks).Runs Memory.fresh history ended after) :
    (∃ result stages, StageCourse result stages ∧ stagesEntered history <+: stages) ∧
    ∀ result, ended = some result →
      StageCourse result (stagesEntered history) ∧
      ((stagesEntered history).getLast? = some .done ↔ ∃ outcome, result = .ok outcome) ∧
      ((stagesEntered history).getLast? = some .failed ↔ ∃ report, result = .error report) ∧
      (result = .ok .skipped ↔ stagesEntered history = [.preflightSkipCheck, .done]) ∧
      (result = .ok .completed ↔
        stagesEntered history = forwardStages ++ [.rescheduled, .done]) ∧
      (.labelsFetched ∈ stagesEntered history → ∃ before read,
        history = before ++ [⟨.enter (lastStage result), ()⟩] ∧ ResumedAs c read before) := by
  constructor
  · obtain ⟨rest, result, _, hends⟩ := hrun.completed
    obtain ⟨ended, stages, hcourse, hbegin⟩ := (uninstall_onCourse hends).exists_course
    rw [stagesEntered_append] at hbegin
    exact ⟨ended, stages, hcourse, (List.prefix_append _ _).trans hbegin⟩
  · rintro result rfl
    obtain ⟨hcourse, before, hlast⟩ := uninstall_onCourse hrun.ends
    refine ⟨hcourse, hcourse.done_iff, hcourse.failed_iff, hcourse.ok_iff .skipped,
      hcourse.ok_iff .completed, fun hfetched => ?_⟩
    obtain ⟨read, hresumed⟩ := exists_resumedAs hrun hfetched
    rw [hlast] at hresumed
    exact ⟨before, read, hlast, hresumed.of_concat_enter⟩

/-- A run that cannot cordon the node gives back what it has taken before it fails. -/
theorem cordon_failure_interrupts :
    ∃ history report after,
      (uninstall .thorough .default 2).Runs Memory.fresh history (some (.error report)) after ∧
        stagesEntered history =
          [.preflightSkipCheck, .labelsFetched, .componentsEvicted, .failed] ∧
        ∃ before read, history = before ++ [⟨.enter .failed, ()⟩] ∧
          ResumedAs .thorough read before := by
  let p := uninstall .thorough .default 2
  let r : Rehearsal := .failing .cordon
  have hrun := Process.runs_history Rehearsal.reply p Memory.fresh r
  have hstages : stagesEntered (p.history Rehearsal.reply Memory.fresh r) =
      [.preflightSkipCheck, .labelsFetched, .componentsEvicted, .failed] := by decide +kernel
  obtain ⟨result, hresult⟩ : ∃ result, (p.run Rehearsal.reply Memory.fresh r).1 = some result :=
    Option.isSome_iff_exists.1 (by decide +kernel)
  rw [hresult] at hrun
  obtain ⟨-, hend⟩ := run_passes_stages hrun
  obtain ⟨-, -, hfailed, -, -, hresumed⟩ := hend result rfl
  obtain ⟨report, rfl⟩ := hfailed.1 (congrArg List.getLast? hstages)
  exact ⟨_, report, _, hrun, hstages, hresumed (by rw [hstages]; decide)⟩

/-- A rehearsal that ends goes through the stages of a run. -/
def Rehearses (c : Config) (t : Timings) (r : Rehearsal) (stages : List Stage) : Prop :=
  ((uninstall c t 2).run Rehearsal.reply Memory.fresh r).1.isSome = true ∧
    stagesEntered ((uninstall c t 2).history Rehearsal.reply Memory.fresh r) = stages

instance (c : Config) (t : Timings) (r : Rehearsal) (stages : List Stage) :
    Decidable (Rehearses c t r stages) :=
  inferInstanceAs (Decidable (_ ∧ _))

/-- A removal can get stuck in every phase. -/
theorem exists_interrupted_rehearsal {front : List Stage} (hfront : front <+: forwardStages)
    (hfetched : .labelsFetched ∈ front) (hwaited : .rdmaWaited ∉ front) :
    ∃ c t r, Rehearses c t r (front ++ [.failed]) := by
  have hlengths : ∀ n ≤ forwardStages.length, .labelsFetched ∈ forwardStages.take n →
      .rdmaWaited ∉ forwardStages.take n → n ∈ [2, 3, 4, 5, 6] := by decide
  have htake := List.prefix_iff_eq_take.1 hfront
  rw [htake] at hfetched hwaited
  have hlength := hlengths front.length hfront.length_le hfetched hwaited
  rw [htake]
  generalize front.length = n at hlength ⊢
  simp only [List.mem_cons, List.not_mem_nil, or_false] at hlength
  let c : Config := { Config.thorough with enableAutoDrain := false }
  let t : Timings := { Timings.default with mofedTimeout := some Duration.zero }
  rcases hlength with rfl | rfl | rfl | rfl | rfl
  · exact ⟨c, t, .failing .updateLabels, by decide +kernel⟩
  · exact ⟨c, t, .failing .cordon, by decide +kernel⟩
  · exact ⟨c, t, .failing .cleanupDriver, by decide +kernel⟩
  · exact ⟨c, t, .failing .unbindVfio, by decide +kernel⟩
  · exact ⟨c, t, .smooth .loaded, by decide +kernel⟩

/-- Every course is that of some run. -/
theorem StageCourse.exists_run (h : StageCourse ended stages) :
    ∃ c t looks history result after,
      (uninstall c t looks).Runs Memory.fresh history (some result) after ∧
        stagesEntered history = stages := by
  have hrehearsal : ∃ c t r, Rehearses c t r stages := by
    let c : Config := { Config.thorough with driverVersion := some "550.54.15" }
    cases h with
    | refused =>
      exact ⟨c, .default, .smooth { NodeState.loaded with hostDriver := some "550.54.15" },
        by decide +kernel⟩
    | skipped =>
      exact ⟨c, .default, .smooth { NodeState.loaded with driverVersion := some "550.54.15" },
        by decide +kernel⟩
    | unread => exact ⟨c, .default, .failing .nodeLabels, by decide +kernel⟩
    | interrupted _ hfront hfetched hwaited =>
      exact exists_interrupted_rehearsal hfront hfetched hwaited
    | completed => exact ⟨c, .default, .smooth .loaded, by decide +kernel⟩
    | standInKept =>
      exact ⟨c, .default, { Rehearsal.failing .unloadNouveau with
        node := { NodeState.loaded with modules := [baseModule, nouveauModule] } },
        by decide +kernel⟩
  obtain ⟨c, t, r, hended, hstages⟩ := hrehearsal
  obtain ⟨result, hresult⟩ := Option.isSome_iff_exists.1 hended
  have hrun := Process.runs_history Rehearsal.reply (uninstall c t 2) Memory.fresh r
  rw [hresult] at hrun
  exact ⟨c, t, 2, _, result, _, hrun, hstages⟩

end DriverHandover

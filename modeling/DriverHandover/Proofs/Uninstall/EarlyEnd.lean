import DriverHandover.Proofs.Process.Ends
import DriverHandover.Proofs.Uninstall.Completion

/-!
# Runs that end before the node is changed

A run may find a node with a driver of its own, or the desired driver loaded already, or a node that
cannot be read. Such a run has nothing to restore when it ends, because it has changed nothing: not
even if the process has left the node cordoned in an earlier run. The one thing that it may write is
the label of a node with a driver of its own.

## Main definitions

* `NodeCall.Acts`, `NodeCall.Reads` – calls that act on the node, and calls that read from it.
* `Course` – all courses that a run can take until it has read its node.
* `HostFacts` – what a host says of its driver.

## Main statements

* `uninstall_course` – every complete run takes one of these courses.
* `early_ends_act_on_nothing` – which calls a run makes that ends early, and how it ends.
-/

namespace DriverHandover

open Uninstall

namespace NodeCall

/-- Calls that change the node, or wait for it to change. -/
def Acts : NodeCall → Prop
  | .updateLabels _ _ | .cordon _ | .uncordon _ | .awaitPodsGone _ _ _ _ | .drain _ _
  | .evictGpuPods _ _ | .cleanupDriver | .unbindVfio | .unloadNouveau => True
  | _ => False

/-- Calls that read a module, the version of the loaded driver, or the node. -/
def Reads : NodeCall → Prop
  | .moduleLoaded _ | .driverVersion | .nodeLabels _ | .nodeAnnotations _ => True
  | _ => False

/-- Calls that read from the node itself. -/
def ReadsNode : NodeCall → Prop
  | .nodeLabels _ | .nodeAnnotations _ => True
  | _ => False

/-- Calls that are made until the node has been read, and not after that. -/
def Inspects : NodeCall → Prop
  | .hostDriverVersion | .driverVersion | .nodeLabels _ | .nodeAnnotations _ => True
  | _ => False

theorem ReadsNode.reads {call : NodeCall} (h : call.ReadsNode) : call.Reads := by
  cases call with
  | nodeLabels | nodeAnnotations => trivial
  | _ => cases h

theorem ReadsNode.inspects {call : NodeCall} (h : call.ReadsNode) : call.Inspects := by
  cases call with
  | nodeLabels | nodeAnnotations => trivial
  | _ => cases h

theorem Awaits.not_inspects {call : NodeCall} (h : call.Awaits) : ¬call.Inspects := by
  cases call with
  | awaitPodsGone => exact id
  | _ => cases h

theorem Clears.not_inspects {call : NodeCall} (h : call.Clears) : ¬call.Inspects := by
  cases call with
  | hostDriverVersion | driverVersion | nodeLabels | nodeAnnotations => cases h
  | _ => exact id

theorem GivesBack.not_inspects {call : NodeCall} (h : call.GivesBack) : ¬call.Inspects := by
  cases call with
  | uncordon | updateLabels => exact id
  | _ => cases h

theorem Finishes.not_inspects {call : NodeCall} (h : call.Finishes) : ¬call.Inspects := by
  cases call with
  | moduleLoaded | unloadNouveau | enter => exact id
  | _ => cases h

end NodeCall

instance (call : NodeCall) : Nonempty call.Reply := by
  cases call with
  | hostDriverVersion => exact ⟨none⟩
  | moduleLoaded | rdmaPresent | mofedReady => exact ⟨true⟩
  | sleep | enter => exact ⟨()⟩
  | driverVersion => exact ⟨.ok ""⟩
  | nodeLabels | nodeAnnotations => exact ⟨.ok LabelMap.empty⟩
  | evictGpuPods => exact ⟨.ok ⟨0, 0, []⟩⟩
  | _ => exact ⟨.ok ()⟩

/-- What a run finds out before it decides whether it may be skipped, and the decision. -/
inductive SkipCheck (c : Config) : NodeHistory → Bool → Prop where
  | forced : c.forceReinstall = true → SkipCheck c [] false
  | unset : c.driverVersion = none → SkipCheck c [] false
  | unloaded : SkipCheck c [⟨.moduleLoaded baseModule, false⟩] false
  | unknown (report : Report HostError) :
      SkipCheck c [⟨.moduleLoaded baseModule, true⟩, ⟨.driverVersion, .error report⟩] false
  | found (version desired : String) :
      c.forceReinstall = false → c.driverVersion = some desired →
        SkipCheck c [⟨.moduleLoaded baseModule, true⟩, ⟨.driverVersion, .ok version⟩]
          (version == desired)

/-- A read of the node that failed, with the report of a run that ends there. -/
inductive Unread : NodeExchange → Report UninstallError → Prop where
  | labels (node : String) (report : Report ClusterError) :
      Unread ⟨.nodeLabels node, .error report⟩ (report.under .fetchLabelsFailed)
  | annotations (node : String) (report : Report ClusterError) :
      Unread ⟨.nodeAnnotations node, .error report⟩ (report.under .fetchAnnotationFailed)

/-- How a run on a node with a driver of its own ends, by what came of marking the node. -/
def refusal : Except (Report ClusterError) Unit → Report UninstallError
  | .ok _ => Report.of .hostDriverPreinstalled
  | .error report => report.under .disableDriverFailed

/-- What a run starts with on a node without a driver of its own. -/
def preamble : NodeHistory :=
  [⟨.hostDriverVersion, none⟩, ⟨.enter .preflightSkipCheck, ()⟩]

/-- The courses of a complete run, with the result: it ends early in one of four ways, or hands over
a node that it has read. -/
inductive Course (c : Config) :
    NodeHistory → Option (Except (Report UninstallError) UninstallOutcome) → Prop where
  | refused (version : String) (reply : Except (Report ClusterError) Unit) {rest : NodeHistory} :
      (∀ e ∈ rest, ¬e.1.Acts ∧ ¬e.1.Reads ∧ ¬e.1.Inspects) →
        Course c
          (⟨.hostDriverVersion, some version⟩ ::
            ⟨.updateLabels c.nodeName (LabelMap.ofList [(driverLabelKey, driverPreinstalled)]),
              reply⟩ :: rest)
          (some (.error (refusal reply)))
  | skipped {checks : NodeHistory} :
      SkipCheck c checks true →
        Course c (preamble ++ checks ++ [⟨.enter .done, ()⟩]) (some (.ok .skipped))
  | labelsUnread {checks : NodeHistory} (report : Report ClusterError) :
      SkipCheck c checks false →
        Course c
          (preamble ++ checks ++ [⟨.nodeLabels c.nodeName, .error report⟩, ⟨.enter .failed, ()⟩])
          (some (.error (report.under .fetchLabelsFailed)))
  | annotationsUnread {checks : NodeHistory} (labels : LabelMap) (report : Report ClusterError) :
      SkipCheck c checks false →
        Course c
          (preamble ++ checks ++ [⟨.nodeLabels c.nodeName, .ok labels⟩,
            ⟨.nodeAnnotations c.nodeName, .error report⟩, ⟨.enter .failed, ()⟩])
          (some (.error (report.under .fetchAnnotationFailed)))
  | handedOver {checks rest : NodeHistory} (labels annotations : LabelMap)
      {result : Option (Except (Report UninstallError) UninstallOutcome)} :
      SkipCheck c checks false → (∀ e ∈ rest, ¬e.1.Inspects) → result ≠ some (.ok .skipped) →
        Course c (preamble ++ checks ++ (reads c labels annotations ++ rest)) result

/-- What a host says of its driver when it is asked for the first time. -/
structure HostFacts where
  /-- The version of a driver that the host itself has. -/
  hostDriver : Option String
  /-- Whether the base module is loaded. -/
  loaded : Bool
  /-- The version of the loaded driver. -/
  version : Except (Report HostError) String

/-- Where a history makes a call for the first time, it gets this reply. -/
def FirstReply (call : NodeCall) (reply : call.Reply) (history : NodeHistory) : Prop :=
  ∃ before rest, history = before ++ ⟨call, reply⟩ :: rest ∧ ∀ e ∈ before, e.1 ≠ call

/-- A history is one on a host of which the facts are true. -/
structure HostFacts.Fits (facts : HostFacts) (history : NodeHistory) : Prop where
  hostDriver : ∀ reply, FirstReply .hostDriverVersion reply history → reply = facts.hostDriver
  loaded : ∀ reply, FirstReply (.moduleLoaded baseModule) reply history → reply = facts.loaded
  version : ∀ reply, FirstReply .driverVersion reply history → reply = facts.version

/-- Nothing has to be done: the desired version is loaded and need not be installed again, and the
host has no driver of its own. -/
structure HostFacts.UpToDate (facts : HostFacts) (c : Config) : Prop where
  no_hostDriver : facts.hostDriver = none
  not_forced : c.forceReinstall = false
  loaded : facts.loaded = true
  desired : ∃ version, c.driverVersion = some version ∧ facts.version = .ok version

variable {c : Config} {t : Timings} {looks : Nat} {memory after : Memory} {history : NodeHistory}

/-- A part of a run that keeps to a class of calls makes no others until its end. -/
theorem Keeping.calls_of_ends {α γ : Type} {view : Memory → γ} {calls : NodeCall → Prop}
    {p : NodeProcess α} {result : Option α} (hp : Keeping view calls p)
    (h : p.Ends memory history result after) : ∀ e ∈ history, calls e.1 := by
  intro e he
  obtain ⟨before, rest, hsplit⟩ := List.append_of_mem he
  obtain ⟨_, hcall, -⟩ := ((hp memory []).ensures.of_runs h.runs).1 before e rest hsplit
  exact hcall

theorem Unread.readsNode {e : NodeExchange} {report : Report UninstallError} (h : Unread e report) :
    e.1.ReadsNode := by
  cases h with
  | labels | annotations => trivial

namespace Uninstall

theorem refuseHostDriver_ends {result : Option (Except (Report UninstallError) UninstallOutcome)}
    (h : (refuseHostDriver c t).run.Ends memory history result after) :
    ∃ reply rest, result = some (.error (refusal reply)) ∧
      history = ⟨.updateLabels c.nodeName (LabelMap.ofList [(driverLabelKey, driverPreinstalled)]),
        reply⟩ :: rest ∧ ∀ e ∈ rest, e.1 = .sleep t.hostDriverSettle := by
  cases h with
  | call reply h =>
    cases reply with
    | error report =>
      cases h
      exact ⟨_, [], rfl, rfl, List.forall_mem_nil _⟩
    | ok _ =>
      cases h with
      | call slept h =>
        cases h
        exact ⟨_, [_], rfl, rfl, List.forall_mem_singleton.2 rfl⟩

theorem canSkip_ends {result : Option Bool} (h : (canSkip c).Ends memory history result after) :
    ∃ skip, result = some skip ∧ SkipCheck c history skip := by
  rw [canSkip] at h
  by_cases hforced : c.forceReinstall = true
  · rw [if_pos hforced] at h
    cases h
    exact ⟨false, rfl, .forced hforced⟩
  rw [if_neg hforced] at h
  cases hdesired : c.driverVersion with
  | none =>
    rw [hdesired] at h
    cases h
    exact ⟨false, rfl, .unset hdesired⟩
  | some desired =>
    rw [hdesired] at h
    cases h with
    | call loaded h =>
      cases loaded with
      | false =>
        cases h
        exact ⟨false, rfl, .unloaded⟩
      | true =>
        cases h with
        | call reply h =>
          cases reply with
          | error report =>
            cases h
            exact ⟨false, rfl, .unknown report⟩
          | ok version =>
            cases h
            exact ⟨_, rfl, .found version desired (Bool.eq_false_iff.2 hforced) hdesired⟩

theorem fetchState_ends {result : Option (Except (Report UninstallError) Unit)}
    (h : (fetchState c).run.Ends memory history result after) :
    (∃ report, history = [⟨.nodeLabels c.nodeName, .error report⟩] ∧
      result = some (.error (report.under .fetchLabelsFailed))) ∨
    (∃ labels report, history = [⟨.nodeLabels c.nodeName, .ok labels⟩,
        ⟨.nodeAnnotations c.nodeName, .error report⟩] ∧
      result = some (.error (report.under .fetchAnnotationFailed))) ∨
    ∃ labels annotations, history = reads c labels annotations ∧ result = some (.ok ()) := by
  cases h with
  | call reply h =>
    cases reply with
    | error report =>
      cases h
      exact .inl ⟨report, rfl, rfl⟩
    | ok labels =>
      cases h with
      | read h =>
        cases h with
        | write h =>
          cases h with
          | call reply h =>
            cases reply with
            | error report =>
              cases h
              exact .inr (.inl ⟨labels, report, rfl, rfl⟩)
            | ok annotations =>
              cases h with
              | read h =>
                cases h with
                | write h =>
                  cases h
                  exact .inr (.inr ⟨labels, annotations, rfl, rfl⟩)

theorem enter_bind_ends {α : Type} {stage : Stage} {next : Unit → NodeProcess α}
    {result : Option α} (h : (enter stage >>= next).Ends memory history result after) :
    ∃ rest, (next ()).Ends { memory with stage } rest result after ∧
      history = ⟨.enter stage, ()⟩ :: rest := by
  cases h with
  | read h =>
    cases h with
    | write h =>
      cases h with
      | call reply h => exact ⟨_, h, rfl⟩

theorem finish_ends {ended : Except (Report UninstallError) UninstallOutcome}
    {result : Option (Except (Report UninstallError) UninstallOutcome)}
    (h : (finish ended).Ends memory history result after) :
    result = some ended ∧ history = [⟨.enter (lastStage ended), ()⟩] := by
  obtain ⟨_, hreturned, rfl⟩ := enter_bind_ends h
  cases hreturned
  cases ended with
  | ok outcome => exact ⟨rfl, rfl⟩
  | error report => exact ⟨rfl, rfl⟩

/-- A run that has read its node does not look back. -/
theorem handOver_keeping :
    Keeping Memory.components (¬NodeCall.Inspects ·) (handOver c t looks) := by
  have henter : Keeping Memory.components (¬NodeCall.Inspects ·) (enter .labelsFetched) :=
    keeping_enter (fun _ _ => rfl) id
  have hremove : Keeping Memory.components (¬NodeCall.Inspects ·)
      (removeDriver c t looks).run := by
    rw [removeDriver_eq]
    refine RunStep.keeping_bind (evictComponents_keeping (fun _ => id) fun _ h => ?_) fun _ => ?_
    · exact h.not_inspects
    · exact afterEviction_keeping.mono fun _ h => h.not_inspects
  rw [handOver_eq]
  refine keeping_bind henter fun _ => keeping_bind hremove fun removed => ?_
  refine keeping_bind (reschedule_keeping.mono fun _ h => h.not_inspects) fun _ => ?_
  exact (conclude_keeping (fun _ _ => rfl) removed).mono fun _ h => h.not_inspects

/-- What a complete run does when it has read its node. -/
theorem handOver_ends {result : Option (Except (Report UninstallError) UninstallOutcome)}
    (h : (handOver c t looks).Ends memory history result after) :
    (∀ e ∈ history, ¬e.1.Inspects) ∧ result ≠ some (.ok .skipped) := by
  have hlast : (handOver c t looks).Guarantees (fun _ _ _ => True)
      (fun result after _ => after.stage = lastStage result ∧ result ≠ .ok .skipped) memory [] :=
    handOver_lastStage
  exact ⟨handOver_keeping.calls_of_ends h,
    fun hskipped => ((hlast.ensures.of_runs h.runs).2 _ hskipped).2 rfl⟩

/-- On a node with a driver of its own the run does not halt, and never succeeds. -/
theorem refused_course {version : String}
    {result : Option (Except (Report UninstallError) UninstallOutcome)}
    (h : ((refuseHostDriver c t).run >>= finish).Ends memory history result after) :
    Course c (⟨.hostDriverVersion, some version⟩ :: history) result := by
  rcases h.bind_cases with ⟨_, _, _, _, hrefused, hfinished, rfl⟩ | ⟨hhalted, -⟩
  · obtain ⟨reply, slept, hended, rfl, hslept⟩ := refuseHostDriver_ends hrefused
    obtain ⟨rfl, rfl⟩ := finish_ends hfinished
    cases hended
    refine .refused version reply (List.forall_mem_append.2 ⟨fun e he => ?_, ?_⟩)
    · rw [hslept e he]
      exact ⟨id, id, id⟩
    · exact List.forall_mem_singleton.2 ⟨id, id, id⟩
  · obtain ⟨_, _, hended, -⟩ := refuseHostDriver_ends hhalted
    cases hended

/-- A run that is not skipped reads its node, and ends if it cannot. -/
theorem fetched_course {checks : NodeHistory} (hcheck : SkipCheck c checks false)
    {result : Option (Except (Report UninstallError) UninstallOutcome)}
    (h : Process.Ends
      (do match ← (fetchState c).run with
        | .error report => finish (.error report)
        | .ok () => handOver c t looks) memory history result after) :
    Course c (preamble ++ checks ++ history) result := by
  rcases h.bind_cases with ⟨_, _, _, _, hfetched, hrest, rfl⟩ | ⟨hhalted, -⟩
  · rcases fetchState_ends hfetched with ⟨report, rfl, hended⟩ | ⟨labels, report, rfl, hended⟩ |
      ⟨labels, annotations, rfl, hended⟩
    · cases hended
      obtain ⟨rfl, rfl⟩ := finish_ends hrest
      exact .labelsUnread report hcheck
    · cases hended
      obtain ⟨rfl, rfl⟩ := finish_ends hrest
      exact .annotationsUnread labels report hcheck
    · cases hended
      obtain ⟨hinspects, hskipped⟩ := handOver_ends hrest
      exact .handedOver labels annotations hcheck hinspects hskipped
  · rcases fetchState_ends hhalted with ⟨_, -, hended⟩ | ⟨_, _, -, hended⟩ | ⟨_, _, -, hended⟩
    all_goals cases hended

end Uninstall

/-- Every complete run takes one of the courses. -/
theorem uninstall_course {result : Option (Except (Report UninstallError) UninstallOutcome)}
    (h : (uninstall c t looks).Ends memory history result after) : Course c history result := by
  rw [uninstall_eq] at h
  cases h with
  | call version h =>
    cases version with
    | some version => exact refused_course h
    | none =>
      obtain ⟨_, hentered, rfl⟩ := enter_bind_ends h
      rcases hentered.bind_cases with ⟨checks, skip, _, _, hchecked, hrest, rfl⟩ | ⟨hhalted, -⟩
      · obtain ⟨_, hskip, hcheck⟩ := canSkip_ends hchecked
        cases hskip
        cases skip with
        | true =>
          rw [if_pos rfl] at hrest
          obtain ⟨rfl, rfl⟩ := finish_ends hrest
          exact .skipped hcheck
        | false =>
          rw [if_neg Bool.false_ne_true] at hrest
          exact fetched_course hcheck hrest
      · obtain ⟨_, hskip, -⟩ := canSkip_ends hhalted
        cases hskip

/-- What comes before a run reads its node. -/
theorem SkipCheck.mem_cases {checks rest : NodeHistory} {skip : Bool} (h : SkipCheck c checks skip)
    {e : NodeExchange} (he : e ∈ preamble ++ checks ++ rest) :
    e = ⟨.hostDriverVersion, none⟩ ∨ e = ⟨.enter .preflightSkipCheck, ()⟩ ∨
      e.1 = .moduleLoaded baseModule ∨ e.1 = .driverVersion ∨ e ∈ rest := by
  rcases List.mem_append.1 he with he | he
  · rcases List.mem_append.1 he with he | he
    · rcases List.mem_cons.1 he with rfl | he
      · exact .inl rfl
      · exact .inr (.inl (List.mem_singleton.1 he))
    · cases h with
      | forced | unset => cases he
      | unloaded =>
        rw [List.mem_singleton.1 he]
        exact .inr (.inr (.inl rfl))
      | unknown | found =>
        rcases List.mem_cons.1 he with rfl | he
        · exact .inr (.inr (.inl rfl))
        · rw [List.mem_singleton.1 he]
          exact .inr (.inr (.inr (.inl rfl)))
  · exact .inr (.inr (.inr (.inr he)))

/-- A run that comes to nothing but what it reads acts on nothing. -/
theorem SkipCheck.not_acts {checks rest : NodeHistory} {skip : Bool} (h : SkipCheck c checks skip)
    (hrest : ∀ e ∈ rest, ¬e.1.Acts) : ∀ e ∈ preamble ++ checks ++ rest, ¬e.1.Acts := by
  intro e he
  rcases h.mem_cases he with rfl | rfl | hcall | hcall | he
  · exact id
  · exact id
  · rw [hcall]
    exact id
  · rw [hcall]
    exact id
  · exact hrest e he

/-- The node is read when the run has not been skipped. -/
theorem SkipCheck.mem_of_readsNode {checks rest : NodeHistory} {skip : Bool}
    (h : SkipCheck c checks skip) {e : NodeExchange} (he : e ∈ preamble ++ checks ++ rest)
    (hreads : e.1.ReadsNode) : e ∈ rest := by
  rcases h.mem_cases he with rfl | rfl | hcall | hcall | he
  · cases hreads
  · cases hreads
  · rw [hcall] at hreads
    cases hreads
  · rw [hcall] at hreads
    cases hreads
  · exact he

/-- A driver of the host is found in the beginning or not at all. -/
theorem SkipCheck.mem_of_hostDriver {checks rest : NodeHistory} {skip : Bool}
    (h : SkipCheck c checks skip) {version : String}
    (he : ⟨.hostDriverVersion, some version⟩ ∈ preamble ++ checks ++ rest) :
    ⟨.hostDriverVersion, some version⟩ ∈ rest := by
  rcases h.mem_cases he with h | h | h | h | he
  · cases h
  · cases h
  · cases h
  · cases h
  · exact he

/-- The run is skipped exactly if the host says that nothing has to be done. -/
theorem SkipCheck.eq_true_iff {checks rest : NodeHistory} {skip : Bool}
    (h : SkipCheck c checks skip) {facts : HostFacts}
    (hfits : facts.Fits (preamble ++ checks ++ rest)) :
    skip = true ↔ facts.UpToDate c := by
  have hhost : none = facts.hostDriver := hfits.hostDriver none ⟨[], _, rfl, List.forall_mem_nil _⟩
  have hpreamble : ∀ e ∈ preamble, e.1 ≠ .moduleLoaded baseModule := by simp [preamble]
  have hprobed : ∀ e ∈ preamble ++ [⟨.moduleLoaded baseModule, true⟩], e.1 ≠ .driverVersion := by
    simp [preamble]
  -- what the run did not like is not so on a host that is up to date
  cases h with
  | forced hforced =>
    refine ⟨nofun, fun h => ?_⟩
    rw [h.not_forced] at hforced
    cases hforced
  | unset hunset =>
    refine ⟨nofun, fun h => ?_⟩
    obtain ⟨version, hdesired, -⟩ := h.desired
    rw [hunset] at hdesired
    cases hdesired
  | unloaded =>
    refine ⟨nofun, fun h => ?_⟩
    have hloaded : false = facts.loaded := hfits.loaded false ⟨preamble, _, rfl, hpreamble⟩
    cases hloaded.trans h.loaded
  | unknown report =>
    refine ⟨nofun, fun h => ?_⟩
    have hversion : .error report = facts.version := hfits.version _ ⟨_, _, rfl, hprobed⟩
    obtain ⟨version, -, hknown⟩ := h.desired
    cases hversion.trans hknown
  | found version desired hforced hdesired =>
    have hloaded : true = facts.loaded := hfits.loaded true ⟨preamble, _, rfl, hpreamble⟩
    have hversion : .ok version = facts.version := hfits.version _ ⟨_, _, rfl, hprobed⟩
    rw [beq_iff_eq]
    constructor
    · rintro rfl
      exact ⟨hhost.symm, hforced, hloaded.symm, version, hdesired, hversion.symm⟩
    · intro h
      obtain ⟨wanted, hwanted, hknown⟩ := h.desired
      cases hversion.trans hknown
      exact Option.some.inj (hwanted.symm.trans hdesired)

namespace Course

variable {result : Option (Except (Report UninstallError) UninstallOutcome)}

/-- A run that is skipped acts on nothing. -/
theorem not_acts_of_skipped (h : Course c history result) (hresult : result = some (.ok .skipped)) :
    ∀ e ∈ history, ¬e.1.Acts := by
  cases h with
  | refused | labelsUnread | annotationsUnread => cases hresult
  | skipped hcheck => exact hcheck.not_acts (List.forall_mem_singleton.2 id)
  | handedOver _ _ _ _ hskipped => exact absurd hresult hskipped

/-- A run that could not read its node acts on nothing, and says what it could not read. -/
theorem of_unread (h : Course c history result) {e : NodeExchange} {report : Report UninstallError}
    (hunread : Unread e report) (he : e ∈ history) :
    result = some (.error report) ∧ ∀ e ∈ history, ¬e.1.Acts := by
  have hreads := hunread.readsNode
  cases h with
  | refused version reply hrest =>
    rcases List.mem_cons.1 he with rfl | he
    · cases hunread
    rcases List.mem_cons.1 he with rfl | he
    · cases hunread
    · exact absurd hreads.reads (hrest _ he).2.1
  | skipped hcheck =>
    rw [List.mem_singleton.1 (hcheck.mem_of_readsNode he hreads)] at hunread
    cases hunread
  | labelsUnread found hcheck =>
    rcases List.mem_cons.1 (hcheck.mem_of_readsNode he hreads) with rfl | he
    · cases hunread
      exact ⟨rfl, hcheck.not_acts (List.forall_mem_cons.2 ⟨id, List.forall_mem_singleton.2 id⟩)⟩
    · rw [List.mem_singleton.1 he] at hunread
      cases hunread
  | annotationsUnread labels found hcheck =>
    rcases List.mem_cons.1 (hcheck.mem_of_readsNode he hreads) with rfl | he
    · cases hunread
    rcases List.mem_cons.1 he with rfl | he
    · cases hunread
      exact ⟨rfl, hcheck.not_acts (List.forall_mem_cons.2
        ⟨id, List.forall_mem_cons.2 ⟨id, List.forall_mem_singleton.2 id⟩⟩)⟩
    · rw [List.mem_singleton.1 he] at hunread
      cases hunread
  | handedOver labels annotations hcheck hrest =>
    rcases List.mem_append.1 (hcheck.mem_of_readsNode he hreads) with he | he
    · rcases List.mem_cons.1 he with rfl | he
      · cases hunread
      · rw [List.mem_singleton.1 he] at hunread
        cases hunread
    · exact absurd hreads.inspects (hrest _ he)

/-- A run on a node with a driver of its own marks it and does nothing else. -/
theorem of_hostDriver (h : Course c history result) {version : String}
    (hfound : ⟨.hostDriverVersion, some version⟩ ∈ history) :
    ∃ before reply rest,
      history = before ++ ⟨.updateLabels c.nodeName
        (LabelMap.ofList [(driverLabelKey, driverPreinstalled)]), reply⟩ :: rest ∧
      (∀ e ∈ before ++ rest, ¬e.1.Acts ∧ ¬e.1.Reads) ∧
      result = some (.error (refusal reply)) := by
  cases h with
  | refused found reply hrest =>
    refine ⟨[_], reply, _, rfl, List.forall_mem_cons.2 ⟨⟨id, id⟩, fun e he => ?_⟩, rfl⟩
    exact ⟨(hrest e he).1, (hrest e he).2.1⟩
  | skipped hcheck => cases List.mem_singleton.1 (hcheck.mem_of_hostDriver hfound)
  | labelsUnread found hcheck =>
    have hmem := hcheck.mem_of_hostDriver hfound
    simp at hmem
  | annotationsUnread labels found hcheck =>
    have hmem := hcheck.mem_of_hostDriver hfound
    simp at hmem
  | handedOver labels annotations hcheck hrest =>
    rcases List.mem_append.1 (hcheck.mem_of_hostDriver hfound) with h | h
    · simp [reads] at h
    · exact absurd trivial (hrest _ h)

/-- A run is skipped exactly if nothing has to be done. -/
theorem skipped_iff (h : Course c history result) {facts : HostFacts} (hfits : facts.Fits history) :
    result = some (.ok .skipped) ↔ facts.UpToDate c := by
  cases h with
  | refused version reply hrest =>
    have hhost : some version = facts.hostDriver :=
      hfits.hostDriver (some version) ⟨[], _, rfl, List.forall_mem_nil _⟩
    exact ⟨nofun, fun h => by cases hhost.trans h.no_hostDriver⟩
  | skipped hcheck => exact ⟨fun _ => (hcheck.eq_true_iff hfits).1 rfl, fun _ => rfl⟩
  | labelsUnread report hcheck =>
    exact ⟨nofun, fun h => by cases (hcheck.eq_true_iff hfits).2 h⟩
  | annotationsUnread labels report hcheck =>
    exact ⟨nofun, fun h => by cases (hcheck.eq_true_iff hfits).2 h⟩
  | handedOver labels annotations hcheck hrest hskipped =>
    exact ⟨fun h => absurd h hskipped, fun h => by cases (hcheck.eq_true_iff hfits).2 h⟩

end Course

/-- A run acts on nothing if it is skipped or if the node cannot be read, and in the latter case it
ends with a report of that. On a node with a driver of its own it makes one call that acts, which
marks the node as such, reads nothing, and always ends with a report, which is about the mark if
that could not be made. It is skipped exactly if nothing has to be done. All of this holds whatever
the process keeps from earlier runs, and whatever the replies are. -/
theorem early_ends_act_on_nothing
    {result : Option (Except (Report UninstallError) UninstallOutcome)}
    (hends : (uninstall c t looks).Ends memory history result after) :
    (result = some (.ok .skipped) → ∀ e ∈ history, ¬e.1.Acts) ∧
    (∀ e report, Unread e report → e ∈ history →
      result = some (.error report) ∧ ∀ e ∈ history, ¬e.1.Acts) ∧
    (∀ version, ⟨.hostDriverVersion, some version⟩ ∈ history → ∃ before reply rest,
      history = before ++ ⟨.updateLabels c.nodeName
        (LabelMap.ofList [(driverLabelKey, driverPreinstalled)]), reply⟩ :: rest ∧
      (∀ e ∈ before ++ rest, ¬e.1.Acts ∧ ¬e.1.Reads) ∧
      result = some (.error (refusal reply))) ∧
    ∀ facts : HostFacts, facts.Fits history →
      (result = some (.ok .skipped) ↔ facts.UpToDate c) := by
  have hcourse := uninstall_course hends
  exact ⟨hcourse.not_acts_of_skipped, fun _ _ hunread => hcourse.of_unread hunread,
    fun _ => hcourse.of_hostDriver, fun _ => hcourse.skipped_iff⟩

/-- A process that could not open its node in one run cannot read it in the next one, and leaves it
as it is. -/
theorem cordoned_node_left_alone :
    ∃ memory history report after, memory.cordoned = true ∧
      (uninstall .thorough .default 2).Ends memory history (some (.error report)) after ∧
        report.error = .fetchAnnotationFailed ∧ ∀ e ∈ history, ¬e.1.Acts := by
  let p := uninstall .thorough .default 2
  let memory := (p.run Rehearsal.reply Memory.fresh (.failing .uncordon)).2.1
  let history := p.history Rehearsal.reply memory (.failing .nodeAnnotations)
  have hrun := Process.runs_history Rehearsal.reply p memory (.failing .nodeAnnotations)
  obtain ⟨ended, hended⟩ :
      ∃ ended, (p.run Rehearsal.reply memory (.failing .nodeAnnotations)).1 = some ended :=
    Option.isSome_iff_exists.1 (by decide +kernel)
  rw [hended] at hrun
  have hfailed : ⟨.nodeAnnotations "node", .error (Report.of (.nodeReadFailed "node"))⟩ ∈ history :=
    List.mem_of_getElem? (show history[3]? = _ from rfl)
  obtain ⟨-, hunread, -, -⟩ := early_ends_act_on_nothing hrun.ends
  obtain ⟨hresult, hquiet⟩ := hunread _ _ (.annotations _ _) hfailed
  cases hresult
  exact ⟨memory, history, _, _, by decide +kernel, hrun.ends, rfl, hquiet⟩

end DriverHandover

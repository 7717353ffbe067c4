import DriverHandover.Host.Scripted
import DriverHandover.Host.System
import DriverHandover.Proofs.Host.Refcounts
import DriverHandover.Proofs.Host.UnloadPlan

/-!
# Unloading the driver modules

The reference counts are read, a plan is made of them, and the modules are removed all at once. How
they are removed is a parameter: it is put in at one place at most, with the modules that are
loaded, and nothing comes after it. All that is done before changes nothing on the host.

## Main definitions

* `Host.Observes` – a process comes to a result without changing the host.
* `Host.CallsOnce`, `Host.EndsUncalled` – a step does or does not come to its parameter.
* `Host.Removable` – there are loaded modules and nothing speaks against removing them.

## Main statements

* `Host.driver_modules_unloaded_once` – when and with which modules the parameter is run, how the
  unloading ends, and that a cleanup does nothing more after a failure.
-/

namespace DriverHandover.Host

open Process

section Observing

variable {α β : Type} {ω : Type} {handle : Handler HostCall HostCall.Reply ω}

/-- Wherever a process starts in an environment, it comes to a result by calls that change nothing
on the host. -/
def Observes (handle : Handler HostCall HostCall.Reply ω) (p : HostProcess α) : Prop :=
  ∀ env, ∃ past result later, (∀ e ∈ past, e.1.Looks) ∧
    LeadsTo handle p () env past (pure result) () later

theorem observes_pure (result : α) : Observes handle (pure result) :=
  fun env => ⟨[], result, env, by simp, .here _ _ _⟩

theorem Observes.bind {p : HostProcess α} {f : α → HostProcess β} (hp : Observes handle p)
    (hf : ∀ a, Observes handle (f a)) : Observes handle (p >>= f) := by
  intro env
  obtain ⟨first, a, mid, hfirst, hleads⟩ := hp env
  obtain ⟨second, b, later, hsecond, hleads'⟩ := hf a mid
  exact ⟨first ++ second, b, later, List.forall_mem_append.2 ⟨hfirst, hsecond⟩,
    (hleads.bind f).trans hleads'⟩

theorem observes_ask (hreplies : RepliesAlways handle) (call : HostCall) (hlooks : call.Looks) :
    Observes handle (ask call) := by
  intro env
  obtain ⟨reply, later, hreply⟩ := hreplies.exists_reply call env
  exact ⟨[⟨call, reply⟩], reply, later, by simpa using hlooks, leadsTo_ask hreply⟩

theorem observes_logLines (hreplies : RepliesAlways handle) (level : LogLevel)
    (lines : List String) : Observes handle (logLines level lines) := by
  induction lines with
  | nil => exact observes_pure ()
  | cons line rest ih => exact (observes_ask hreplies (.log level line) trivial).bind fun _ => ih

theorem observes_readText (hreplies : RepliesAlways handle) (path : String) :
    Observes handle (readText path) := by
  rw [readText_eq]
  exact (observes_ask hreplies (.read path) trivial).bind fun _ => observes_pure _

theorem Observes.lift {p : HostProcess α} (hp : Observes handle p) :
    Observes handle (liftM p : HostStep α).run :=
  hp.bind fun _ => observes_pure _

theorem Observes.step {x : HostStep α} {f : α → HostStep β} (hx : Observes handle x.run)
    (hf : ∀ a, Observes handle (f a).run) : Observes handle (x >>= f).run := by
  refine Observes.bind hx fun result => ?_
  cases result with
  | ok a => exact hf a
  | error e => exact observes_pure _

theorem observes_requireText (hreplies : RepliesAlways handle) (path : String) :
    Observes handle (requireText path).run := by
  refine (observes_readText hreplies path).lift.step fun text => ?_
  cases text <;> exact observes_pure _

theorem observes_logModules (hreplies : RepliesAlways handle) (proc filter : String) :
    Observes handle (logModules proc filter).run := by
  refine (observes_requireText hreplies (moduleTablePath proc)).step fun content => ?_
  refine (observes_logLines hreplies _ _).lift.step fun _ => ?_
  refine (observes_logLines hreplies _ _).lift.step fun _ => ?_
  exact (observes_logLines hreplies _ _).lift

theorem observes_logUsers (hreplies : RepliesAlways handle) (proc : String) :
    Observes handle (logUsers proc) := by
  refine (observes_logModules hreplies proc baseModule).bind fun result => ?_
  cases result with
  | ok => exact observes_pure ()
  | error => exact observes_ask hreplies (.log .warning noModuleTable) trivial

end Observing

section Planning

variable {file : String → Content} {names : List String} {loaded : List LoadedModule}

theorem counted_names (file : String → Content) (names : List String) :
    (counted file names).map (·.name) = names := by
  rw [counted, List.map_map]
  exact List.map_id names

theorem mem_shown_iff {name : String} :
    name ∈ shown file names ↔ name ∈ names ∧ file name ≠ .error .notFound := by
  rw [shown, List.mem_filter]
  refine and_congr_right fun _ => ?_
  cases file name with
  | ok bytes => simp [isShown]
  | error e => cases e <;> simp [isShown]

/-- Where the base module is among the loaded ones it is the last of them. -/
theorem getLast?_shown_base (h : baseModule ∈ shown file driverModules) :
    (shown file driverModules).getLast? = some baseModule := by
  have hmodules : driverModules = driverModules.dropLast ++ [baseModule] := rfl
  have hbase : [baseModule].filter (fun name => isShown (file name)) = [baseModule] := by
    simpa using (List.mem_filter.1 h).2
  rw [shown, hmodules, List.filter_append, hbase, List.getLast?_concat]

/-- There are loaded modules, the count of each is known, and the plan accepts them. -/
structure Removable (file : String → Content) : Prop where
  loaded : shown file driverModules ≠ []
  counts : ∀ name ∈ shown file driverModules, (countIn? (file name)).isSome
  accepted : ∃ names, planUnload (counted file (shown file driverModules)) = .ok names

/-- What speaks against removing modules that are loaded. -/
theorem refusal_or_uncounted (hloaded : shown file driverModules ≠ []) (h : ¬ Removable file) :
    ((∀ name ∈ shown file driverModules, (countIn? (file name)).isSome) ∧
      ∃ refusal, planUnload (counted file (shown file driverModules)) = .error refusal) ∨
    ∃ name, (shown file driverModules).find? (fun m => (countIn? (file m)).isNone) =
      some name := by
  cases huncounted : (shown file driverModules).find? fun m => (countIn? (file m)).isNone with
  | some name => exact .inr ⟨name, rfl⟩
  | none =>
    have hcounts : ∀ name ∈ shown file driverModules, (countIn? (file name)).isSome := by
      simpa [List.find?_eq_none, Option.isSome_iff_ne_none] using huncounted
    cases hplan : planUnload (counted file (shown file driverModules)) with
    | ok names => exact absurd ⟨hloaded, hcounts, names, hplan⟩ h
    | error refusal => exact .inl ⟨hcounts, refusal, rfl⟩

end Planning

section Unloading

variable {ω : Type} {handle : Handler HostCall HostCall.Reply ω} {env : ω} {l : HostLayout}
variable {file : String → Content} {names : List String}
variable {step : (List String → HostStep Unit) → HostStep Unit}

/-- What a step comes to in an environment, if it is not cut off. -/
def outcome (handle : Handler HostCall HostCall.Reply ω) (env : ω) (step : HostStep Unit) :
    Option (Except (Report HostError) Unit) :=
  (Process.run handle step.run () env).1

/-- Whatever the parameter is: after calls that change nothing on the host it is left, with some
modules to remove, and all that is done with its result is that an error goes on top of a
failure. -/
def CallsOnce (handle : Handler HostCall HostCall.Reply ω) (env : ω)
    (step : (List String → HostStep Unit) → HostStep Unit) (names : List String) : Prop :=
  ∃ past, (∀ e ∈ past, e.1.Looks) ∧ ∀ remove, LeadsTo handle (step remove).run () env past
    (under (.unloadFailed (" ".intercalate names)) (remove names)).run () env

/-- Whatever the parameter is: the step comes to a result without it, by calls that change nothing
on the host. -/
def EndsUncalled (handle : Handler HostCall HostCall.Reply ω) (env : ω)
    (step : (List String → HostStep Unit) → HostStep Unit)
    (result : Except (Report HostError) Unit) : Prop :=
  ∃ past later, (∀ e ∈ past, e.1.Looks) ∧ ∀ remove,
    LeadsTo handle (step remove).run () env past (pure result) () later

theorem EndsUncalled.outcome_eq {result : Except (Report HostError) Unit}
    (h : EndsUncalled handle env step result) (remove : List String → HostStep Unit) :
    outcome handle env (step remove) = some result := by
  obtain ⟨past, later, -, hleads⟩ := h
  rw [outcome, (hleads remove).run_eq]
  rfl

theorem CallsOnce.outcome_eq (h : CallsOnce handle env step names)
    (remove : List String → HostStep Unit) :
    outcome handle env (step remove) = (outcome handle env (remove names)).map
      (Except.mapError fun report => report.under (.unloadFailed (" ".intercalate names))) := by
  obtain ⟨past, -, hleads⟩ := h
  rw [outcome, (hleads remove).run_eq]
  exact congrArg Prod.fst (run_map _ _ _ _)

/-- A step cannot both come to its parameter and end without it. -/
theorem CallsOnce.not_endsUncalled {result : Except (Report HostError) Unit}
    (h : CallsOnce handle env step names) : ¬ EndsUncalled handle env step result := by
  intro hends
  have hok := (h.outcome_eq fun _ => pure ()).symm.trans (hends.outcome_eq _)
  have herror := (h.outcome_eq fun _ => throw (Report.of .versionUnknown)).symm.trans
    (hends.outcome_eq _)
  exact nomatch hok.trans herror.symm

/-- The modules that are to be removed are determined. -/
theorem CallsOnce.names_eq {others : List String} (h : CallsOnce handle env step names)
    (h' : CallsOnce handle env step others) : names = others := by
  refine Decidable.byContradiction fun hne => ?_
  let remove (given : List String) : HostStep Unit :=
    if given = names then pure () else throw (Report.of .versionUnknown)
  have heq := (h.outcome_eq remove).symm.trans (h'.outcome_eq remove)
  simp only [remove, if_pos, if_neg (Ne.symm hne)] at heq
  exact nomatch heq

/-- What is left to do once the loaded modules are known. -/
theorem unloadModules_counts (hfiles : Files handle env l.sys file driverModules)
    (hcounts : ∀ name ∈ shown file driverModules, (countIn? (file name)).isSome)
    (remove : List String → HostStep Unit) :
    LeadsTo handle (unloadModules l.sys l.proc remove).run () env
      (readings l.sys file driverModules)
      (if (counted file (shown file driverModules)).isEmpty then pure () else
        match planUnload (counted file (shown file driverModules)) with
        | .ok names => under (.unloadFailed (" ".intercalate names)) (remove names)
        | .error refusal => do
          logUsers l.proc
          throw (Report.because .modulesInUse refusal) : HostStep Unit).run () env :=
  (loadedAmong_counts hfiles hcounts).step _

theorem unloadModules_none (hfiles : Files handle env l.sys file driverModules)
    (hnone : shown file driverModules = []) :
    EndsUncalled handle env (unloadModules l.sys l.proc) (.ok ()) := by
  refine ⟨_, env, readings_look l.sys file driverModules, fun remove => ?_⟩
  have hleads := unloadModules_counts hfiles (by simp [hnone]) remove
  rw [hnone] at hleads
  exact hleads

theorem counted_isEmpty (h : names ≠ []) : (counted file names).isEmpty = false := by
  simpa [counted] using h

theorem unloadModules_removable (hfiles : Files handle env l.sys file driverModules)
    (h : Removable file) :
    CallsOnce handle env (unloadModules l.sys l.proc) (shown file driverModules) := by
  refine ⟨_, readings_look l.sys file driverModules, fun remove => ?_⟩
  have hleads := unloadModules_counts hfiles h.counts remove
  obtain ⟨names, hplan⟩ := h.accepted
  obtain rfl : names = shown file driverModules :=
    (planUnload_names hplan).trans (counted_names _ _)
  rw [counted_isEmpty h.loaded, if_neg Bool.false_ne_true, hplan] at hleads
  exact hleads

theorem unloadModules_refused (hreplies : RepliesAlways handle)
    (hfiles : Files handle env l.sys file driverModules)
    (hcounts : ∀ name ∈ shown file driverModules, (countIn? (file name)).isSome)
    {refusal : UnloadRefusal}
    (hplan : planUnload (counted file (shown file driverModules)) = .error refusal) :
    EndsUncalled handle env (unloadModules l.sys l.proc)
      (.error (Report.because .modulesInUse refusal)) := by
  obtain ⟨past, ⟨⟩, later, hpast, hlogs⟩ := observes_logUsers hreplies l.proc env
  refine ⟨readings l.sys file driverModules ++ past, later,
    List.forall_mem_append.2 ⟨readings_look l.sys file driverModules, hpast⟩, fun remove => ?_⟩
  have hloaded : shown file driverModules ≠ [] := by
    intro hnone
    rw [hnone] at hplan
    exact nomatch hplan
  have hleads := unloadModules_counts hfiles hcounts remove
  rw [counted_isEmpty hloaded, if_neg Bool.false_ne_true, hplan] at hleads
  exact hleads.trans ((hlogs.lift (ε := Report HostError)).step _)

theorem unloadModules_uncounted (hfiles : Files handle env l.sys file driverModules)
    {name : String} (hname : (shown file driverModules).find?
      (fun m => (countIn? (file m)).isNone) = some name) :
    ∃ report, report.error = .readFailed (refcountPath l.sys name) ∧
      EndsUncalled handle env (unloadModules l.sys l.proc) (.error report) := by
  obtain ⟨past, report, hpast, herror, hleads⟩ := loadedAmong_fails hfiles hname
  exact ⟨report, herror, past, env, hpast, fun remove => hleads.fails _⟩

/-- Modules that are loaded and not removable make the step fail. -/
theorem unloadModules_fails (hreplies : RepliesAlways handle)
    (hfiles : Files handle env l.sys file driverModules)
    (hloaded : shown file driverModules ≠ []) (h : ¬ Removable file) :
    ∃ report, EndsUncalled handle env (unloadModules l.sys l.proc) (.error report) := by
  obtain ⟨hcounts, refusal, hplan⟩ | ⟨name, hname⟩ := refusal_or_uncounted hloaded h
  · exact ⟨_, unloadModules_refused hreplies hfiles hcounts hplan⟩
  · obtain ⟨report, -, hends⟩ := unloadModules_uncounted hfiles hname
    exact ⟨report, hends⟩

theorem unloadModules_ends (hreplies : RepliesAlways handle)
    (hfiles : Files handle env l.sys file driverModules) (h : ¬ Removable file) :
    ∃ result, EndsUncalled handle env (unloadModules l.sys l.proc) result := by
  by_cases hloaded : shown file driverModules = []
  · exact ⟨_, unloadModules_none hfiles hloaded⟩
  · obtain ⟨report, hends⟩ := unloadModules_fails hreplies hfiles hloaded h
    exact ⟨_, hends⟩

theorem unloadModules_calls_iff (hreplies : RepliesAlways handle)
    (hfiles : Files handle env l.sys file driverModules) :
    CallsOnce handle env (unloadModules l.sys l.proc) names ↔
      Removable file ∧ names = shown file driverModules := by
  constructor
  · intro hcalls
    by_cases h : Removable file
    · exact ⟨h, hcalls.names_eq (unloadModules_removable hfiles h)⟩
    · obtain ⟨result, hends⟩ := unloadModules_ends hreplies hfiles h
      exact absurd hends hcalls.not_endsUncalled
  · rintro ⟨h, rfl⟩
    exact unloadModules_removable hfiles h

theorem mapError_eq_ok_iff {ε ε' α : Type} {f : ε → ε'} {result : Except ε α} {a : α} :
    result.mapError f = .ok a ↔ result = .ok a := by
  cases result with
  | ok b => exact ⟨fun h => congrArg _ (Except.ok.inj h), fun h => congrArg _ (Except.ok.inj h)⟩
  | error e => exact ⟨(nomatch ·), (nomatch ·)⟩

theorem unloadModules_ok_iff (hreplies : RepliesAlways handle)
    (hfiles : Files handle env l.sys file driverModules) (remove : List String → HostStep Unit) :
    outcome handle env (unloadModules l.sys l.proc remove) = some (.ok ()) ↔
      shown file driverModules = [] ∨ Removable file ∧
        outcome handle env (remove (shown file driverModules)) = some (.ok ()) := by
  by_cases hloaded : shown file driverModules = []
  · simp [hloaded, (unloadModules_none hfiles hloaded).outcome_eq]
  by_cases h : Removable file
  · rw [(unloadModules_removable hfiles h).outcome_eq, Option.map_eq_some_iff]
    simp [hloaded, h, mapError_eq_ok_iff]
  · obtain ⟨report, hends⟩ := unloadModules_fails hreplies hfiles hloaded h
    simp [hloaded, h, hends.outcome_eq]

/-- A program is run once, and nothing is asked after it. -/
theorem runCommand_leads (hreplies : RepliesAlways handle) (program : String)
    (args : List String) (env : ω) :
    ∃ reply result later, LeadsTo handle (runCommand program args).run () env
      [⟨.run program args, reply⟩] (pure result) () later := by
  obtain ⟨reply, later, hreply⟩ := hreplies.exists_reply (.run program args) env
  have hleads : LeadsTo handle (runCommand program args).run () env
      [⟨.run program args, reply⟩] _ () later :=
    ((leadsTo_ask hreply).lift (ε := Report HostError)).step _
  cases reply with
  | error e => exact ⟨_, _, later, hleads⟩
  | ok done =>
    dsimp only at hleads
    split at hleads
    next => exact ⟨_, _, later, hleads⟩
    next => exact ⟨_, _, later, hleads⟩

theorem removeModules_leads (hreplies : RepliesAlways handle) (error : HostError)
    (names : List String) (env : ω) :
    ∃ reply result later, LeadsTo handle (under error (removeModules names)).run () env
      [⟨.run "rmmod" names, reply⟩] (pure result) () later := by
  obtain ⟨reply, result, later, hleads⟩ := runCommand_leads hreplies "rmmod" names env
  cases result with
  | ok output => exact ⟨reply, _, later, (hleads.step _).bind _⟩
  | error report => exact ⟨reply, _, later, (hleads.fails _).bind _⟩

/-- Unloading the modules changes the host by one run of one program at most. -/
theorem unloadModules_history (hreplies : RepliesAlways handle)
    (h : (∃ result, EndsUncalled handle env step result) ∨ CallsOnce handle env step names) :
    ∀ e ∈ (step removeModules).run.history handle () env,
      e.1.Looks ∨ e.1 = .run "rmmod" names := by
  intro e he
  obtain ⟨result, past, later, hpast, hleads⟩ | ⟨past, hpast, hleads⟩ := h
  · rw [(hleads removeModules).history_eq] at he
    exact .inl (hpast e (by simpa [history] using he))
  · obtain ⟨reply, result, later, hremoves⟩ := removeModules_leads hreplies
      (.unloadFailed (" ".intercalate names)) names env
    rw [((hleads removeModules).trans hremoves).history_eq] at he
    obtain he | rfl : e ∈ past ∨ e = ⟨.run "rmmod" names, reply⟩ := by simpa using he
    · exact .inl (hpast e he)
    · exact .inr rfl

/-- After a failure to unload the modules a cleanup does nothing more. -/
theorem cleanupDriver_leads {report : Report HostError}
    (h : outcome handle env (unloadModules l.sys l.proc removeModules) = some (.error report)) :
    LeadsTo handle (cleanupDriver l).run () env
      ((unloadModules l.sys l.proc removeModules).run.history handle () env)
      (pure (.error report)) ()
      (Process.run handle (unloadModules l.sys l.proc removeModules).run () env).2.2 :=
  (leadsTo_of_run h).fails _

/-- In an environment that replies to every call, let the files of the modules have any contents.
If there is a loaded module, the count of each loaded module can be told and the plan accepts them,
the parameter is run once, with exactly the loaded modules, the base module last. Otherwise it is
not run. The step succeeds if there is nothing to unload or the parameter succeeds. It fails with a
refusal, whatever the table of kernel modules holds, with the first count that cannot be told, or
with what the parameter fails with; in a cleanup nothing is done after that. -/
theorem driver_modules_unloaded_once (hreplies : RepliesAlways handle)
    (hfiles : Files handle env l.sys file driverModules) :
    let present := shown file driverModules
    let unload := unloadModules l.sys l.proc
    -- what the modules to remove are
    ((∀ name, name ∈ present ↔ name ∈ driverModules ∧ file name ≠ .error .notFound) ∧
      present.Nodup ∧ present.Sublist driverModules ∧
      (baseModule ∈ present → present.getLast? = some baseModule)) ∧
    -- the parameter is run at most once
    (∀ names, CallsOnce handle env unload names ↔ Removable file ∧ names = present) ∧
    (¬ Removable file → ∃ result, EndsUncalled handle env unload result) ∧
    -- the ends
    (∀ remove, outcome handle env (unload remove) = some (.ok ()) ↔
      present = [] ∨ Removable file ∧ outcome handle env (remove present) = some (.ok ())) ∧
    ((∀ name ∈ present, (countIn? (file name)).isSome) → ∀ refusal,
      planUnload (counted file present) = .error refusal →
        EndsUncalled handle env unload (.error (Report.because .modulesInUse refusal))) ∧
    (∀ name, present.find? (fun m => (countIn? (file m)).isNone) = some name →
      ∃ report, report.error = .readFailed (refcountPath l.sys name) ∧
        EndsUncalled handle env unload (.error report)) ∧
    (Removable file → ∀ remove report,
      outcome handle env (remove present) = some (.error report) →
        outcome handle env (unload remove) =
          some (.error (report.under (.unloadFailed (" ".intercalate present))))) ∧
    -- a failure in a cleanup
    ∀ report, outcome handle env (unload removeModules) = some (.error report) →
      outcome handle env (cleanupDriver l) = some (.error report) ∧
        ∀ e ∈ (cleanupDriver l).run.history handle () env,
          e.1.Looks ∨ e.1 = .run "rmmod" present := by
  intro present unload
  refine ⟨⟨fun name => mem_shown_iff, ?_, List.filter_sublist, getLast?_shown_base⟩,
    fun names => unloadModules_calls_iff hreplies hfiles, unloadModules_ends hreplies hfiles,
    unloadModules_ok_iff hreplies hfiles,
    fun hcounts refusal hplan => unloadModules_refused hreplies hfiles hcounts hplan,
    fun name hname => unloadModules_uncounted hfiles hname, ?_, ?_⟩
  · have hmodules : driverModules.Nodup := by decide
    exact hmodules.sublist List.filter_sublist
  · intro h remove report hreport
    rw [(unloadModules_removable hfiles h).outcome_eq, hreport]
    rfl
  · intro report hreport
    have hleads := cleanupDriver_leads hreport
    refine ⟨congrArg Prod.fst hleads.run_eq, ?_⟩
    rw [hleads.history_eq, history_pure, List.append_nil]
    by_cases h : Removable file
    · exact unloadModules_history hreplies (.inr (unloadModules_removable hfiles h))
    · exact unloadModules_history hreplies (.inl (unloadModules_ends hreplies hfiles h))

end Unloading

section Scripted

theorem scriptedHost_replies : RepliesAlways ScriptedHost.reply := by
  intro call h
  cases call with
  | remove path => rw [ScriptedHost.reply]; cases h.files.remove path <;> rfl
  | read | probe | list | run | unmount | log => rfl

/-- The layout of a host whose files are all in one directory. -/
def testLayout : HostLayout where
  sys := "/r/sys"
  proc := "/r/proc"
  host := "/r/host"
  driver := "/r/driver"
  pidFile := "/r/pid"
  mofedReady := "/r/ready"

/-- A host on which the base module and one that depends on it are loaded and idle. -/
def idleHost : ScriptedHost where
  root := "/r"
  files := (FileTree.empty.write "/r/sys/module/nvidia/refcnt" (Utf8.encode "1\n".toList)).write
    "/r/sys/module/nvidia_uvm/refcnt" (Utf8.encode "0\n".toList)
  programs := [("rmmod", ⟨⟨.exited 0, [], []⟩, true⟩)]
  ran := []
  logged := []

/-- What the files of modules hold there. -/
def idleFile (name : String) : Content :=
  idleHost.files.read (refcountPath testLayout.sys name)

theorem shown_idleFile : shown idleFile driverModules = ["nvidia_uvm", "nvidia"] := by
  decide +kernel

theorem removable_idleFile : Removable idleFile where
  loaded := by rw [shown_idleFile]; decide
  counts := by rw [shown_idleFile]; decide +kernel
  accepted := by
    have hcounted : counted idleFile ["nvidia_uvm", "nvidia"] =
        [⟨"nvidia_uvm", 0⟩, ⟨"nvidia", 1⟩] := by decide +kernel
    rw [shown_idleFile, hcounted]
    exact ⟨["nvidia_uvm", "nvidia"], rfl⟩

/-- The idle modules are removed by one run of the program, dependents first. -/
theorem idle_modules_removed_together :
    RepliesAlways ScriptedHost.reply ∧
      Files ScriptedHost.reply idleHost testLayout.sys idleFile driverModules ∧
      CallsOnce ScriptedHost.reply idleHost (unloadModules testLayout.sys testLayout.proc)
        ["nvidia_uvm", "nvidia"] ∧
      outcome ScriptedHost.reply idleHost
        (unloadModules testLayout.sys testLayout.proc removeModules) = some (.ok ()) := by
  have hfiles : Files ScriptedHost.reply idleHost testLayout.sys idleFile driverModules :=
    fun _ _ => rfl
  obtain ⟨-, hcalls, -, hok, -⟩ := driver_modules_unloaded_once scriptedHost_replies hfiles
  refine ⟨scriptedHost_replies, hfiles, (hcalls _).2 ⟨removable_idleFile, shown_idleFile.symm⟩,
    (hok _).2 (.inr ⟨removable_idleFile, ?_⟩)⟩
  rw [shown_idleFile]
  rfl

end Scripted

end DriverHandover.Host

import DriverHandover.Host.Modules
import DriverHandover.Proofs.Process.Leads

/-!
# The reference counts of the driver modules

The kernel shows a loaded module by a file with its reference count. The files are read in unload
order: a missing file is passed over, and the first one that tells no count ends the reading.

## Main definitions

* `HostCall.Looks` – the calls that change nothing on a host.
* `Host.isShown`, `Host.countIn?` – what the content of such a file says about its module.
* `Host.shown`, `Host.counted` – the modules that are loaded, and with their counts.

## Main statements

* `Host.loadedAmong_counts` – where all files of loaded modules tell counts, these are found.
* `Host.loadedAmong_fails` – otherwise the first one that does not is reported.
-/

namespace DriverHandover

open Process

/-- The calls that change nothing on a host. -/
def HostCall.Looks : HostCall → Prop
  | .read _ | .probe _ | .list _ | .log _ _ => True
  | .remove _ | .run _ _ | .unmount _ => False

namespace Host

/-- The reply to reading a file. -/
abbrev Content := Except IoError (List UInt8)

/-- The module of the file is loaded: there is a file. -/
def isShown : Content → Bool
  | .error .notFound => false
  | _ => true

/-- The reference count that the content of a file tells: a number of 32 bits, with blanks around
it. -/
def countIn? : Content → Option Nat
  | .error _ => none
  | .ok bytes => (Utf8.decode? bytes).bind fun chars =>
    (Number.readUInt32 (Text.trimEnds Text.isBlank chars)).toOption

/-- Those of some modules that are loaded, in order. -/
def shown (file : String → Content) (names : List String) : List String :=
  names.filter fun name => isShown (file name)

/-- Loaded modules with the counts that their files tell. -/
def counted (file : String → Content) (names : List String) : List LoadedModule :=
  names.map fun name => ⟨name, (countIn? (file name)).getD 0⟩

/-- The text in the content of a file. -/
def textIn : Content → Except IoError String
  | .error e => .error e
  | .ok bytes =>
    match Utf8.decode? bytes with
    | some chars => .ok (String.ofList chars)
    | none => .error .notText

section Texts

variable {content : Content}

theorem readText_eq (path : String) :
    readText path = (ask (.read path) >>= fun content => pure (textIn content)) := by
  refine congrArg (ask (.read path) >>= ·) (funext fun content => ?_)
  cases content with
  | error e => rfl
  | ok bytes =>
    rw [textIn]
    dsimp only
    cases Utf8.decode? bytes <;> rfl

theorem textIn_eq_notFound_iff : textIn content = .error .notFound ↔ isShown content = false := by
  cases content with
  | error e => cases e <;> simp [textIn, isShown]
  | ok bytes =>
    rw [textIn]
    cases Utf8.decode? bytes <;> simp [isShown]

theorem readRefcount_of_count (path : String) {n : Nat} (h : countIn? content = some n) :
    ∃ text, textIn content = .ok text ∧ readRefcount path text = .ok n := by
  cases content with
  | error e => cases h
  | ok bytes =>
    obtain ⟨chars, hchars, hn⟩ := Option.bind_eq_some_iff.1 h
    refine ⟨String.ofList chars, by rw [textIn, hchars], ?_⟩
    rw [readRefcount, Text.trim, String.toList_ofList, String.toList_ofList]
    cases hread : Number.readUInt32 (Text.trimEnds Text.isBlank chars) with
    | ok m => simpa [hread, Except.toOption] using hn
    | error e => simp [hread, Except.toOption] at hn

theorem readRefcount_of_no_count (path : String) (h : countIn? content = none) :
    (∃ e, textIn content = .error e) ∨ ∃ text report, textIn content = .ok text ∧
      readRefcount path text = .error report ∧ report.error = .readFailed path := by
  cases content with
  | error e => exact .inl ⟨e, rfl⟩
  | ok bytes =>
    rw [textIn]
    rw [countIn?] at h
    cases hchars : Utf8.decode? bytes with
    | none => exact .inl ⟨.notText, rfl⟩
    | some chars =>
      rw [hchars, Option.bind_some] at h
      refine .inr ⟨String.ofList chars, ?_⟩
      simp only [readRefcount, Text.trim, String.toList_ofList]
      cases hread : Number.readUInt32 (Text.trimEnds Text.isBlank chars) with
      | ok m => simp [hread, Except.toOption] at h
      | error e => exact ⟨_, trivial, rfl, rfl⟩

end Texts

section Reading

variable {ω : Type} {handle : Handler HostCall HostCall.Reply ω} {env : ω} {sys : String}
variable {file : String → Content} {names : List String}

/-- The exchanges in which the files of modules are read. -/
def readings (sys : String) (file : String → Content) (names : List String) :
    List (Process.Exchange HostCall.Reply) :=
  names.map fun name => ⟨.read (refcountPath sys name), file name⟩

/-- In an environment the files of modules have some contents, and reading them changes nothing. -/
def Files (handle : Handler HostCall HostCall.Reply ω) (env : ω) (sys : String)
    (file : String → Content) (names : List String) : Prop :=
  ∀ name ∈ names, handle (.read (refcountPath sys name)) env = (some (file name), env)

theorem leadsTo_readText {path : String} {content : Content}
    (h : handle (.read path) env = (some content, env)) :
    LeadsTo handle (readText path) () env [⟨.read path, content⟩] (pure (textIn content)) ()
      env := by
  rw [readText_eq]
  exact (leadsTo_ask h).bind _

/-- What is left to do once the file of the first module has been read. -/
theorem loadedAmong_reads {name : String} {text : Except IoError String}
    (h : Files handle env sys file (name :: names)) (htext : textIn (file name) = text) :
    LeadsTo handle (loadedAmong sys (name :: names)).run () env
      [⟨.read (refcountPath sys name), file name⟩]
      (match text with
        | .error .notFound => (loadedAmong sys names).run
        | .error e => pure (.error (Report.because (.readFailed (refcountPath sys name)) e))
        | .ok content => (do
          let refcount ← ExceptT.mk (pure (readRefcount (refcountPath sys name) content))
          let others ← loadedAmong sys names
          return ⟨name, refcount⟩ :: others : HostStep (List LoadedModule)).run) () env := by
  have hread := (leadsTo_readText (h name List.mem_cons_self)).lift (ε := Report HostError)
  rw [htext] at hread
  refine (hread.step _).trans ?_
  cases text with
  | ok content => exact .here _ _ _
  | error e => cases e <;> exact .here _ _ _

theorem Files.tail {name : String} (h : Files handle env sys file (name :: names)) :
    Files handle env sys file names :=
  fun other hother => h other (List.mem_cons_of_mem name hother)

/-- The first module is not loaded, and the others are looked at. -/
theorem loadedAmong_absent {name : String} (h : Files handle env sys file (name :: names))
    (hshown : isShown (file name) = false) :
    LeadsTo handle (loadedAmong sys (name :: names)).run () env
      [⟨.read (refcountPath sys name), file name⟩] (loadedAmong sys names).run () env :=
  loadedAmong_reads h (textIn_eq_notFound_iff.2 hshown)

/-- The first module is loaded and its count is known. -/
theorem loadedAmong_present {name : String} {n : Nat}
    (h : Files handle env sys file (name :: names)) (hn : countIn? (file name) = some n) :
    LeadsTo handle (loadedAmong sys (name :: names)).run () env
      [⟨.read (refcountPath sys name), file name⟩]
      (loadedAmong sys names >>= fun others => pure (⟨name, n⟩ :: others)).run () env := by
  obtain ⟨text, htext, hcount⟩ := readRefcount_of_count (refcountPath sys name) hn
  have hreads := loadedAmong_reads h htext
  dsimp only at hreads
  rw [hcount] at hreads
  exact hreads

/-- The first module is loaded, and its count cannot be told. -/
theorem loadedAmong_uncounted {name : String} (h : Files handle env sys file (name :: names))
    (hshown : isShown (file name) = true) (hnone : countIn? (file name) = none) :
    ∃ report, report.error = .readFailed (refcountPath sys name) ∧
      LeadsTo handle (loadedAmong sys (name :: names)).run () env
        [⟨.read (refcountPath sys name), file name⟩] (pure (.error report)) () env := by
  obtain ⟨e, htext⟩ | ⟨text, report, htext, hreport, herror⟩ :=
    readRefcount_of_no_count (refcountPath sys name) hnone
  · have hreads := loadedAmong_reads h htext
    cases e with
    | notFound => rw [textIn_eq_notFound_iff.1 htext] at hshown; cases hshown
    | isDirectory | notDirectory | notText => exact ⟨_, rfl, hreads⟩
  · have hreads := loadedAmong_reads h htext
    dsimp only at hreads
    rw [hreport] at hreads
    exact ⟨report, herror, hreads⟩

/-- Where the file of each loaded module tells a count, the loaded modules are found with these. -/
theorem loadedAmong_counts (h : Files handle env sys file names)
    (hcounts : ∀ name ∈ shown file names, (countIn? (file name)).isSome) :
    LeadsTo handle (loadedAmong sys names).run () env (readings sys file names)
      (pure (.ok (counted file (shown file names)))) () env := by
  induction names with
  | nil => exact .here _ _ _
  | cons name rest ih =>
    rw [shown, List.filter_cons] at hcounts ⊢
    split at hcounts
    next hname =>
      rw [if_pos hname]
      obtain ⟨n, hn⟩ := Option.isSome_iff_exists.1 (hcounts name List.mem_cons_self)
      have hrest := ih h.tail fun other hother => hcounts other (List.mem_cons_of_mem name hother)
      have hfirst := (loadedAmong_present h hn).trans (hrest.step _)
      rwa [counted, List.map_cons, hn]
    next hname =>
      rw [if_neg hname]
      exact (loadedAmong_absent h (by simpa using hname)).trans (ih h.tail hcounts)

/-- The first loaded module whose file tells no count ends the reading. -/
theorem loadedAmong_fails {name : String} (h : Files handle env sys file names)
    (hname : (shown file names).find? (fun m => (countIn? (file m)).isNone) = some name) :
    ∃ past report, (∀ e ∈ past, e.1.Looks) ∧
      report.error = .readFailed (refcountPath sys name) ∧
      LeadsTo handle (loadedAmong sys names).run () env past (pure (.error report)) () env := by
  induction names with
  | nil => cases hname
  | cons first rest ih =>
    rw [shown, List.filter_cons] at hname
    split at hname
    next hshown =>
      cases hcount : countIn? (file first) with
      | none =>
        obtain ⟨report, herror, hleads⟩ := loadedAmong_uncounted h hshown hcount
        obtain rfl : first = name := by simpa [List.find?_cons, hcount] using hname
        refine ⟨_, report, ?_, herror, hleads⟩
        exact List.forall_mem_singleton.2 trivial
      | some n =>
        rw [List.find?_cons, hcount] at hname
        obtain ⟨past, report, hpast, herror, hleads⟩ := ih h.tail hname
        refine ⟨_, report, ?_, herror, (loadedAmong_present h hcount).trans (hleads.fails _)⟩
        exact List.forall_mem_cons.2 ⟨trivial, hpast⟩
    next hshown =>
      obtain ⟨past, report, hpast, herror, hleads⟩ := ih h.tail hname
      refine ⟨_, report, ?_, herror, (loadedAmong_absent h (by simpa using hshown)).trans hleads⟩
      exact List.forall_mem_cons.2 ⟨trivial, hpast⟩

theorem readings_look (sys : String) (file : String → Content) (names : List String) :
    ∀ e ∈ readings sys file names, e.1.Looks := by
  intro e he
  obtain ⟨name, -, rfl⟩ := List.mem_map.1 he
  trivial

end Reading

end Host

end DriverHandover

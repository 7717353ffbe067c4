import DriverHandover.Proofs.Uninstall.Phases

/-!
# Whether the node is cordoned

Where nobody else cordons or uncordons a node, a history of calls says whether it is cordoned: each
call that succeeded had its effect, and one that failed changed nothing.

## Main definitions

* `cordonedAfter` – whether a node is cordoned after a history.
* `NodeCall.Uncordons`, `NodeCall.Steers` – the calls that open a node, and all calls to which it
  matters whether the node is cordoned.

## Main statements

* `cordonedAfter_of_not_uncordons` – a node stays cordoned as long as nobody opens it.
-/

namespace DriverHandover

namespace NodeCall

/-- Calls that open a node for new pods. -/
def Uncordons : NodeCall → Prop
  | .uncordon _ => True
  | _ => False

/-- Calls that close a node or open it, or remove pods from it while it is closed. -/
def Steers : NodeCall → Prop
  | .cordon _ | .uncordon _ | .drain _ _ | .evictGpuPods _ _ => True
  | _ => False

/-- The node that a call steers. -/
def steeredNode? : NodeCall → Option String
  | .cordon node | .uncordon node | .drain node _ | .evictGpuPods node _ => some node
  | _ => none

/-- Calls that remove pods from a node. -/
def RemovesPods : NodeCall → Prop
  | .drain _ _ | .evictGpuPods _ _ => True
  | _ => False

variable {call : NodeCall}

theorem not_uncordons_of_not_steers (h : ¬call.Steers) : ¬call.Uncordons := by
  cases call with
  | uncordon node => exact absurd trivial h
  | _ => exact id

/-- A class of calls that steers nothing. -/
theorem not_steers_of {calls : NodeCall → Prop} (hcordon : ∀ node, ¬calls (.cordon node))
    (huncordon : ∀ node, ¬calls (.uncordon node)) (hdrain : ∀ node o, ¬calls (.drain node o))
    (hevict : ∀ node o, ¬calls (.evictGpuPods node o)) (h : calls call) : ¬call.Steers := by
  cases call with
  | cordon node => exact absurd h (hcordon node)
  | uncordon node => exact absurd h (huncordon node)
  | drain node o => exact absurd h (hdrain node o)
  | evictGpuPods node o => exact absurd h (hevict node o)
  | _ => exact id

theorem Looks.not_steers (h : call.Looks) : ¬call.Steers :=
  not_steers_of (fun _ => id) (fun _ => id) (fun _ _ => id) (fun _ _ => id) h

theorem Declines.not_steers {c : Config} (h : call.Declines c) : ¬call.Steers :=
  not_steers_of (fun _ => id) (fun _ => id) (fun _ _ => id) (fun _ _ => id) h

theorem Awaits.not_steers (h : call.Awaits) : ¬call.Steers :=
  not_steers_of (fun _ => id) (fun _ => id) (fun _ _ => id) (fun _ _ => id) h

theorem Polls.not_steers (h : call.Polls) : ¬call.Steers :=
  not_steers_of (fun _ => id) (fun _ => id) (fun _ _ => id) (fun _ _ => id) h

theorem Finishes.not_steers (h : call.Finishes) : ¬call.Steers :=
  not_steers_of (fun _ => id) (fun _ => id) (fun _ _ => id) (fun _ _ => id) h

end NodeCall

/-- What a call has made of a node: `true` if it has cordoned the node, `false` if it has uncordoned
it. -/
def cordonChange (node : String) : NodeExchange → Option Bool
  | ⟨.cordon name, .ok _⟩ => if name = node then some true else none
  | ⟨.uncordon name, .ok _⟩ => if name = node then some false else none
  | _ => none

/-- Whether a node is cordoned after a history. -/
def cordonedAfter (node : String) (cordoned : Bool) (history : NodeHistory) : Bool :=
  history.foldl (fun cordoned e => (cordonChange node e).getD cordoned) cordoned

/-- Whether a call has cordoned a node. -/
def hasCordoned (node : String) (e : NodeExchange) : Bool :=
  cordonChange node e == some true

variable {node : String} {cordoned : Bool} {past later : NodeHistory} {e : NodeExchange}

theorem cordonedAfter_append (node : String) (cordoned : Bool) (past later : NodeHistory) :
    cordonedAfter node cordoned (past ++ later) =
      cordonedAfter node (cordonedAfter node cordoned past) later :=
  List.foldl_append

theorem cordonedAfter_concat (node : String) (cordoned : Bool) (past : NodeHistory)
    (e : NodeExchange) :
    cordonedAfter node cordoned (past ++ [e]) =
      (cordonChange node e).getD (cordonedAfter node cordoned past) :=
  cordonedAfter_append node cordoned past [e]

theorem cordonChange_of_not_steers (h : ¬e.1.Steers) : cordonChange node e = none := by
  obtain ⟨call, reply⟩ := e
  cases call with
  | cordon name => exact absurd trivial h
  | uncordon name => exact absurd trivial h
  | _ => rfl

theorem eq_of_hasCordoned (h : hasCordoned node e = true) : e = ⟨.cordon node, .ok ()⟩ := by
  obtain ⟨call, reply⟩ := e
  cases call with
  | cordon name =>
    cases reply with
    | error report => cases h
    | ok _ =>
      rw [hasCordoned, cordonChange] at h
      split at h
      · rename_i hname
        rw [hname]
      · cases h
  | uncordon name =>
    cases reply with
    | error report => cases h
    | ok _ =>
      rw [hasCordoned, cordonChange] at h
      split at h
      · cases h
      · cases h
  | _ => cases h

theorem hasCordoned_of_not_steers (h : ¬e.1.Steers) : hasCordoned node e = false := by
  rw [hasCordoned, cordonChange_of_not_steers h]
  rfl

theorem cordonChange_ne_false (h : ¬e.1.Uncordons) : cordonChange node e ≠ some false := by
  obtain ⟨call, reply⟩ := e
  cases call with
  | uncordon name => exact absurd trivial h
  | cordon name =>
    cases reply with
    | error report => simp [cordonChange]
    | ok _ => simp [cordonChange]
  | _ => simp [cordonChange]

/-- A history that steers nothing leaves the node as it was. -/
theorem Continues.cordonedAfter_eq (h : Continues (¬NodeCall.Steers ·) past later) :
    cordonedAfter node cordoned later = cordonedAfter node cordoned past := by
  obtain ⟨new, rfl, hnew⟩ := h
  rw [cordonedAfter_append]
  generalize cordonedAfter node cordoned past = now
  induction new with
  | nil => rfl
  | cons e rest ih =>
    obtain ⟨he, hrest⟩ := List.forall_mem_cons.1 hnew
    rw [cordonedAfter, List.foldl_cons, cordonChange_of_not_steers he]
    exact ih hrest

/-- As long as nobody opens it, a node is cordoned if it was so before or has been cordoned
since. -/
theorem cordonedAfter_of_not_uncordons (h : ∀ e ∈ past, ¬e.1.Uncordons) :
    cordonedAfter node cordoned past = (cordoned || past.any (hasCordoned node)) := by
  induction past generalizing cordoned with
  | nil => simp [cordonedAfter]
  | cons e rest ih =>
    obtain ⟨he, hrest⟩ := List.forall_mem_cons.1 h
    have hne : cordonChange node e ≠ some false := cordonChange_ne_false he
    have hstep : cordonedAfter node cordoned (e :: rest) =
        cordonedAfter node ((cordonChange node e).getD cordoned) rest := rfl
    rw [hstep, ih hrest, List.any_cons, ← Bool.or_assoc, hasCordoned]
    -- a call that does not open the node has closed it or done nothing to it
    match cordonChange node e, hne with
    | none, _ => simp
    | some true, _ => simp
    | some false, hne => exact absurd rfl hne

end DriverHandover

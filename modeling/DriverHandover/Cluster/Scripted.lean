import DriverHandover.Cluster.Api
import DriverHandover.Text.Blank

/-!
# Scripted servers

A server that holds one node and its pods in memory and answers as a script says. Each pod has
status codes for the requests about it, and times at which it goes.

## Main definitions

* `ScriptedPod`, `ScriptedServer` – a pod and a server with the rest of their scripts.
* `ScriptedServer.answer` – the server.
* `Selector.selects` – whether labels match a label selector.
-/

namespace DriverHandover

namespace Selector

/-- Whether labels meet one requirement: a key with its value, or a key alone. -/
def meets (labels : LabelMap) (requirement : List Char) : Bool :=
  match requirement.dropWhile (· != '=') with
  | [] => labels.contains (String.ofList requirement)
  | _ :: value =>
    labels.get? (String.ofList (requirement.takeWhile (· != '='))) == some (String.ofList value)

/-- Whether labels meet every requirement of a selector. Requirements are separated by commas, and
an empty one asks for the empty key, so that an empty selector selects nothing. -/
def selects (selector : String) (labels : LabelMap) : Bool :=
  (Text.pieces ',' selector.toList).all (meets labels)

end Selector

/-- A pod with a script. -/
structure ScriptedPod where
  pod : Pod
  /-- The codes of the next evictions; the last one counts for all that follow. -/
  evictions : List Nat
  /-- The codes of the next looks at the pod. -/
  looks : List Nat
  /-- How long the pod goes on after the last eviction that was accepted; `none` is for ever. -/
  goneAfter : Option Duration
  /-- When the pod goes of its own accord. -/
  terminatesAt : Option Instant
  /-- Whether there is another pod of the same name when it has gone. -/
  replaced : Bool
  /-- When the last accepted eviction was. -/
  evictedAt : Option Instant

/-- The UID of a pod that has taken the place of another one. -/
def replacementUid : String := "replacement"

namespace ScriptedPod

/-- Whether the pod has gone. -/
def isGone (now : Instant) (p : ScriptedPod) : Bool :=
  p.terminatesAt.any (· ≤ now) ||
    (p.evictedAt.any fun moment => p.goneAfter.any fun d => moment.after d ≤ now)

/-- The answer that a code stands for, where `done` is the one that stands for success. -/
def ofCode (done code : Nat) (answer : α) : Except ApiError α :=
  if code = done then .ok answer
  else if code = 0 then .error .noAnswer
  else .error (.status code)

/-- The code of a request and the rest of the script, in which the last code stays. -/
def nextLasting (default : Nat) : List Nat → Nat × List Nat
  | [] => (default, [])
  | [code] => (code, [code])
  | code :: codes => (code, codes)

/-- The code of a request and the rest of the script. -/
def next (default : Nat) : List Nat → Nat × List Nat
  | [] => (default, [])
  | code :: codes => (code, codes)

/-- Asks for the eviction of the pod. -/
def evict (now : Instant) (p : ScriptedPod) : Except ApiError Unit × ScriptedPod :=
  if p.isGone now then (.error (.status 404), p)
  else
    let (code, evictions) := nextLasting 201 p.evictions
    let answer := ofCode 201 code ()
    let evictedAt := if code = 201 then some now else p.evictedAt
    (answer, { p with evictions, evictedAt })

/-- Looks at the pod. -/
def look (now : Instant) (p : ScriptedPod) : Except ApiError Pod × ScriptedPod :=
  let (code, looks) := next 200 p.looks
  let found : Except ApiError Pod :=
    if !p.isGone now then .ok p.pod
    else if p.replaced then .ok { p.pod with uid := some replacementUid }
    else .error (.status 404)
  ((ofCode 200 code ()).bind fun _ => found, { p with looks })

end ScriptedPod

/-- A server with a script. -/
structure ScriptedServer where
  node : String
  record : NodeRecord
  cordoned : Bool
  pods : List ScriptedPod
  /-- The codes of the next requests of the three kinds that are not about a single pod. -/
  gets : List Nat
  patches : List Nat
  lists : List Nat

namespace ScriptedServer

/-- Whether a listing shows a pod. -/
def lists? (podNamespace selector : Option String) (node : String) (p : Pod) : Bool :=
  podNamespace.all (· == p.address.podNamespace) &&
    (p.spec.bind (·.nodeName)).all (· == node) &&
    selector.all (Selector.selects · p.labels)

/-- Applies a request to the first pod with an address. -/
def onPod (address : PodAddress) (f : ScriptedPod → Except ApiError α × ScriptedPod) :
    List ScriptedPod → Except ApiError α × List ScriptedPod
  | [] => (.error (.status 404), [])
  | p :: rest =>
    if p.pod.address = address then
      let (answer, p) := f p
      (answer, p :: rest)
    else
      let (answer, rest) := onPod address f rest
      (answer, p :: rest)

/-- Answers a request to change the node. -/
def patch (server : ScriptedServer) (node : String) (f : ScriptedServer → ScriptedServer) :
    Except ApiError Unit × ScriptedServer :=
  let (code, patches) := ScriptedPod.next 200 server.patches
  let server := { server with patches }
  match ScriptedPod.ofCode 200 code () with
  | .error e => (.error e, server)
  | .ok () => if node = server.node then (.ok (), f server) else (.error (.status 404), server)

/-- How the server answers. -/
def answer : ApiServer ScriptedServer
  | .getNode node, _, server =>
    let (code, gets) := ScriptedPod.next 200 server.gets
    let found := if node = server.node then .ok server.record else .error (.status 404)
    ((ScriptedPod.ofCode 200 code ()).bind fun _ => found, { server with gets })
  | .patchLabels node labels, _, server =>
    server.patch node fun server =>
      let record := { server.record with labels := server.record.labels.overlay labels }
      { server with record }
  | .patchCordon node cordoned, _, server =>
    server.patch node fun server => { server with cordoned }
  | .listPods podNamespace selector node, now, server =>
    let (code, lists) := ScriptedPod.next 200 server.lists
    let present := (server.pods.filter fun p => !p.isGone now).map (·.pod)
    let listed := present.filter (lists? podNamespace selector node)
    (ScriptedPod.ofCode 200 code listed, { server with lists })
  | .evictPod address _, now, server =>
    let (answer, pods) := onPod address (·.evict now) server.pods
    (answer, { server with pods })
  | .getPod address, now, server =>
    let (answer, pods) := onPod address (·.look now) server.pods
    (answer, { server with pods })

end ScriptedServer

end DriverHandover

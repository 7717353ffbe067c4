import DriverHandover.Cluster.Kubeconfig
import DriverHandover.Yaml.Record

/-!
# Configuration files in YAML

Every part of a file has to have its type, also one that does not count for a connection. Entries
that a file has no place for are passed over.

## Main definitions

* `Kubeconfig.ofValue?` – what a document says.
* `Kubeconfig.ofText?` – the content of a file.
-/

namespace DriverHandover

open Yaml (Value)
open Yaml.Value (text? flag? list? fields? texts? required? given? items? plainData?)

namespace Kubeconfig

/-- An extension: a name, and any data. -/
def extension? (v : Value) : Option Unit := do
  let fields ← fields? v
  let _ ← required? text? "name" fields
  required? plainData? "extension" fields

/-- The extensions in a record. -/
def extensions? (fields : List (String × Value)) : Option Unit := do
  let _ ← given? (list? extension?) "extensions" fields

/-- Something with a name, under the key of its kind. -/
def named? (key : String) (read : Value → Option α) (v : Value) : Option (String × Option α) := do
  let fields ← fields? v
  return (← required? text? "name" fields, ← given? read key fields)

end Kubeconfig

namespace KubeCluster

/-- A cluster. -/
def ofValue? (v : Value) : Option KubeCluster := do
  let fields ← fields? v
  let _ ← given? flag? "insecure-skip-tls-verify" fields
  let _ ← given? text? "tls-server-name" fields
  Kubeconfig.extensions? fields
  return {
    server := ← given? text? "server" fields
    authority := ← given? text? "certificate-authority" fields
    authorityData := ← given? text? "certificate-authority-data" fields
    proxy := ← given? text? "proxy-url" fields }

end KubeCluster

namespace AuthProvider

/-- A helper. -/
def ofValue? (v : Value) : Option AuthProvider := do
  let fields ← fields? v
  let name ← required? text? "name" fields
  let settings ←
    if fields.any (·.1 == "config") then required? texts? "config" fields else some []
  return { name, settings }

end AuthProvider

namespace KubeUser

/-- The ways in which a command may ask the user something. -/
def interactiveModes : List String := ["Never", "IfAvailable", "Always"]

/-- One of the ways in which a command may ask the user something. It can be written as a tag. -/
def interactiveMode? : Value → Option Unit
  | .scalar (.string s) => if interactiveModes.contains s then some () else none
  | .tagged tag (.scalar .null) =>
    if (interactiveModes.map fun mode => mode.toUTF8.toList).contains tag then some () else none
  | _ => none

/-- A command that provides credentials. -/
def command? (v : Value) : Option Unit := do
  let fields ← fields? v
  let _ ← given? text? "apiVersion" fields
  let _ ← given? text? "command" fields
  let _ ← given? (list? text?) "args" fields
  let _ ← given? (list? texts?) "env" fields
  let _ ← given? interactiveMode? "interactiveMode" fields

/-- A user. -/
def ofValue? (v : Value) : Option KubeUser := do
  let fields ← fields? v
  let text (name : String) := given? text? name fields
  return {
    username := ← text "username"
    password := ← text "password"
    token := ← text "token"
    tokenFile := ← text "tokenFile"
    certificate := ← text "client-certificate"
    certificateData := ← text "client-certificate-data"
    key := ← text "client-key"
    keyData := ← text "client-key-data"
    insteadOf := ← text "as"
    insteadOfGroups := ← given? (list? text?) "as-groups" fields
    provider := ← given? AuthProvider.ofValue? "auth-provider" fields
    hasCommand := (← given? command? "exec" fields).isSome }

end KubeUser

namespace KubeContext

/-- A context. -/
def ofValue? (v : Value) : Option KubeContext := do
  let fields ← fields? v
  Kubeconfig.extensions? fields
  return {
    cluster := ← required? text? "cluster" fields
    user := ← required? text? "user" fields
    podNamespace := ← given? text? "namespace" fields }

end KubeContext

namespace Kubeconfig

/-- What is to be shown to people in some way. -/
def preferences? (v : Value) : Option Unit := do
  let fields ← fields? v
  let _ ← given? flag? "colors" fields
  extensions? fields

/-- What a document says. -/
def ofValue? (v : Value) : Option Kubeconfig := do
  let fields ← fields? v
  let _ ← given? preferences? "preferences" fields
  extensions? fields
  return {
    kind := ← given? text? "kind" fields
    apiVersion := ← given? text? "apiVersion" fields
    clusters := ← items? (named? "cluster" KubeCluster.ofValue?) "clusters" fields
    users := ← items? (named? "user" KubeUser.ofValue?) "users" fields
    contexts := ← items? (named? "context" KubeContext.ofValue?) "contexts" fields
    current := ← given? text? "current-context" fields }

/-- The content of a file, which may start with a byte order mark. -/
def ofText? (text : String) : Option Kubeconfig := do
  let text := String.ofList (Yaml.withoutByteOrderMark text.toList)
  mergeAll? (← (← Value.ofText? text).mapM ofValue?)

end Kubeconfig

end DriverHandover

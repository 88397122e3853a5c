import ClusterDeploy.Error
import ClusterDeploy.Kubeconfig.Basic
import ClusterDeploy.Yaml.Printer
import ClusterDeploy.Yaml.Value
/-!
# The text of a kubeconfig

Reading takes the documents of a YAML stream one after the other; what an earlier one says wins.
Unknown fields are skipped, null is an absent value, and a value of the wrong type is refused.
Writing keeps the order of the fields and leaves absent ones out.
-/
namespace ClusterDeploy.Kubeconfig

open Yaml (Value)

abbrev Fields := List (String × Value)

namespace Fields

def find? (fs : Fields) (name : String) : Option Value :=
  (List.find? (fun f => f.1 == name) fs).map (·.2)

def required (fs : Fields) (name : String) (read : Value → Option α) : Option α :=
  (find? fs name).bind read

def optional (fs : Fields) (name : String) (read : Value → Option α) : Option (Option α) :=
  match find? fs name with
  | none => some none
  | some (.scalar .null) => some none
  | some v => (read v).map some

/-- A field whose absence stands for a value; null is read like any other value. -/
def defaulted (fs : Fields) (name : String) (default : α) (read : Value → Option α) : Option α :=
  match find? fs name with
  | none => some default
  | some v => read v

def text (fs : Fields) (name : String) : Option (Option String) := fs.optional name Value.str?

end Fields

def listOf (read : Value → Option α) (v : Value) : Option (List α) := do
  (← v.items?).mapM read

def textMap (v : Value) : Option (List (String × String)) := do
  (← v.fields?).mapM fun (name, v) => do return (name, ← v.str?)

def named (field : String) (read : Value → Option α) (v : Value) : Option (Named α) := do
  let fs : Fields ← v.fields?
  return { name := ← fs.required "name" Value.str?, body := ← fs.optional field read }

def Extension.ofValue? (v : Value) : Option Extension := do
  let fs : Fields ← v.fields?
  return { name := ← fs.required "name" Value.str?
           data := ← fs.required "extension" Value.toJson? }

def extensionsOf (fs : Fields) : Option (Option (List Extension)) :=
  fs.optional "extensions" (listOf Extension.ofValue?)

def Preferences.ofValue? (v : Value) : Option Preferences := do
  let fs : Fields ← v.fields?
  return { colors := ← fs.optional "colors" Value.bool?, extensions := ← extensionsOf fs }

def Cluster.ofValue? (v : Value) : Option Cluster := do
  let fs : Fields ← v.fields?
  return {
    server := ← fs.text "server"
    insecureSkipTlsVerify := ← fs.optional "insecure-skip-tls-verify" Value.bool?
    certificateAuthority := ← fs.text "certificate-authority"
    certificateAuthorityData := ← fs.text "certificate-authority-data"
    proxyUrl := ← fs.text "proxy-url"
    disableCompression := ← fs.optional "disable-compression" Value.bool?
    tlsServerName := ← fs.text "tls-server-name"
    extensions := ← extensionsOf fs }

def AuthProvider.ofValue? (v : Value) : Option AuthProvider := do
  let fs : Fields ← v.fields?
  return { name := ← fs.required "name" Value.str?
           config := ← fs.defaulted "config" [] textMap }

/-- A mode is named by a text, or by a tag without a value. -/
def InteractiveMode.ofValue? (v : Value) : Option InteractiveMode := do
  let word ←
    match v with
    | .scalar (.str s) => some s
    | .tagged tag (.scalar .null) => some tag
    | _ => none
  InteractiveMode.all.find? fun m => m.label == word

def ExecPlugin.ofValue? (v : Value) : Option ExecPlugin := do
  let fs : Fields ← v.fields?
  return {
    apiVersion := ← fs.text "apiVersion"
    command := ← fs.text "command"
    args := ← fs.optional "args" (listOf Value.str?)
    env := ← fs.optional "env" (listOf textMap)
    interactiveMode := ← fs.optional "interactiveMode" InteractiveMode.ofValue?
    provideClusterInfo := ← fs.defaulted "provideClusterInfo" false Value.bool? }

def User.ofValue? (v : Value) : Option User := do
  let fs : Fields ← v.fields?
  return {
    username := ← fs.text "username"
    password := ← fs.text "password"
    token := ← fs.text "token"
    tokenFile := ← fs.text "tokenFile"
    clientCertificate := ← fs.text "client-certificate"
    clientCertificateData := ← fs.text "client-certificate-data"
    clientKey := ← fs.text "client-key"
    clientKeyData := ← fs.text "client-key-data"
    impersonate := ← fs.text "as"
    impersonateGroups := ← fs.optional "as-groups" (listOf Value.str?)
    authProvider := ← fs.optional "auth-provider" AuthProvider.ofValue?
    exec := ← fs.optional "exec" ExecPlugin.ofValue? }

def Context.ofValue? (v : Value) : Option Context := do
  let fs : Fields ← v.fields?
  return {
    cluster := ← fs.required "cluster" Value.str?
    user := ← fs.text "user"
    inNamespace := ← fs.text "namespace"
    extensions := ← extensionsOf fs }

def ofValue? (v : Value) : Option Kubeconfig := do
  let fs : Fields ← v.fields?
  return {
    preferences := ← fs.optional "preferences" Preferences.ofValue?
    clusters := ← fs.defaulted "clusters" [] (listOf (named "cluster" Cluster.ofValue?))
    users := ← fs.defaulted "users" [] (listOf (named "user" User.ofValue?))
    contexts := ← fs.defaulted "contexts" [] (listOf (named "context" Context.ofValue?))
    currentContext := ← fs.text "current-context"
    extensions := ← extensionsOf fs
    kind := ← fs.text "kind"
    apiVersion := ← fs.text "apiVersion" }

/-- Appends the entries whose names are not there yet. -/
def appendNew (entries more : List (Named α)) : List (Named α) :=
  entries ++ more.filter fun e => !entries.any fun known => known.name == e.name

def disagree (a b : Option String) : Bool := a.isSome && b.isSome && a != b

def continueWith (first next : Kubeconfig) : Except KubeconfigFault Kubeconfig :=
  if disagree first.kind next.kind then .error .kindMismatch
  else if disagree first.apiVersion next.apiVersion then .error .apiVersionMismatch
  else .ok {
    preferences := first.preferences.or next.preferences
    clusters := appendNew first.clusters next.clusters
    users := appendNew first.users next.users
    contexts := appendNew first.contexts next.contexts
    currentContext := first.currentContext.or next.currentContext
    extensions := first.extensions.or next.extensions
    kind := first.kind.or next.kind
    apiVersion := first.apiVersion.or next.apiVersion }

/-- Reads the documents in order; the first fault is the one reported. -/
def ofDocuments (config : Kubeconfig) : List Yaml.Document → Except KubeconfigFault Kubeconfig
  | [] => .ok config
  | d :: more =>
    match d.value? with
    | none => .error .parse
    | some v =>
      match ofValue? v with
      | none => .error .shape
      | some next => do ofDocuments (← config.continueWith next) more

def ofYaml (text : List Char) : Except KubeconfigFault Kubeconfig :=
  let (documents, complete) := Yaml.documents text
  match ofDocuments {} documents with
  | .error e => .error e
  | .ok config => if complete then .ok config else .error .parse

def parse (octets : List UInt8) : Except Error Kubeconfig :=
  match Text.decodeUtf8 octets with
  | .error e => .error (.kubeconfigEncoding e)
  | .ok text => (ofYaml text).mapError .parseKubeconfig

/-! Writing -/

def textField (s : Option String) : Option Json := s.map .str

def textMapJson (entries : List (String × String)) : Json :=
  .obj (entries.map fun e => (e.1, .str e.2))

def namedJson (field : String) (encode : α → Json) (e : Named α) : Json :=
  Json.ofMembers [("name", some (.str e.name)), (field, e.body.map encode)]

def Extension.toJson (e : Extension) : Json := .obj [("name", .str e.name), ("extension", e.data)]

def extensionsJson (es : Option (List Extension)) : Option Json :=
  es.map fun es => .arr (es.map Extension.toJson)

def Preferences.toJson (p : Preferences) : Json :=
  Json.ofMembers [("colors", p.colors.map .bool), ("extensions", extensionsJson p.extensions)]

def Cluster.toJson (c : Cluster) : Json :=
  Json.ofMembers [
    ("server", textField c.server),
    ("insecure-skip-tls-verify", c.insecureSkipTlsVerify.map .bool),
    ("certificate-authority", textField c.certificateAuthority),
    ("certificate-authority-data", textField c.certificateAuthorityData),
    ("proxy-url", textField c.proxyUrl),
    ("disable-compression", c.disableCompression.map .bool),
    ("tls-server-name", textField c.tlsServerName),
    ("extensions", extensionsJson c.extensions)]

def AuthProvider.toJson (p : AuthProvider) : Json :=
  .obj [("name", .str p.name), ("config", textMapJson p.config)]

def ExecPlugin.toJson (e : ExecPlugin) : Json :=
  Json.ofMembers [
    ("apiVersion", textField e.apiVersion),
    ("command", textField e.command),
    ("args", e.args.map Json.ofStrings),
    ("env", e.env.map fun maps => .arr (maps.map textMapJson)),
    ("interactiveMode", e.interactiveMode.map fun m => .str m.label),
    ("provideClusterInfo", some (.bool e.provideClusterInfo))]

def User.toJson (u : User) : Json :=
  Json.ofMembers [
    ("username", textField u.username),
    ("password", textField u.password),
    ("token", textField u.token),
    ("tokenFile", textField u.tokenFile),
    ("client-certificate", textField u.clientCertificate),
    ("client-certificate-data", textField u.clientCertificateData),
    ("client-key", textField u.clientKey),
    ("client-key-data", textField u.clientKeyData),
    ("as", textField u.impersonate),
    ("as-groups", u.impersonateGroups.map Json.ofStrings),
    ("auth-provider", u.authProvider.map AuthProvider.toJson),
    ("exec", u.exec.map ExecPlugin.toJson)]

/-- The user is written even when there is none. -/
def Context.toJson (c : Context) : Json :=
  Json.ofMembers [
    ("cluster", some (.str c.cluster)),
    ("user", some (Json.ofOption .str c.user)),
    ("namespace", textField c.inNamespace),
    ("extensions", extensionsJson c.extensions)]

def toMembers (c : Kubeconfig) : List (String × Json) :=
  [("preferences", c.preferences.map Preferences.toJson),
    ("clusters", some (.arr (c.clusters.map (namedJson "cluster" Cluster.toJson)))),
    ("users", some (.arr (c.users.map (namedJson "user" User.toJson)))),
    ("contexts", some (.arr (c.contexts.map (namedJson "context" Context.toJson)))),
    ("current-context", textField c.currentContext),
    ("extensions", extensionsJson c.extensions),
    ("kind", textField c.kind),
    ("apiVersion", textField c.apiVersion)].filterMap fun (name, v) => v.map (name, ·)

def toJson (c : Kubeconfig) : Json := .obj c.toMembers

def toYaml (c : Kubeconfig) : String := Yaml.render c.toMembers

end ClusterDeploy.Kubeconfig

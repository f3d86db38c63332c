import ClusterHealth.Json.MergePatch
import ClusterHealth.Kubectl.Objects
import ClusterHealth.Procedure
import ClusterHealth.Rehearsal.Script
import ClusterHealth.Text.Affix
import ClusterHealth.Transfer.Artifact

/-!
Rehearsals in a scripted world. A script says what each request is answered, how long that takes and
how the script itself changes during pauses; every request to the outside leaves a line.
-/
namespace ClusterHealth.Rehearsal
open Text (Bytes)

structure World where
  script : Json
  clock : Instant
  /-- What happens to the script during the pauses to come. -/
  pauses : List Json
  digestCommand : String
  /-- The directory for scratch files, if there is one. -/
  scratchDir : Option String
  /-- Scratch files by name. -/
  files : List (String × Bytes) := []
  /-- A line for every request, the last one first. -/
  calls : List String := []

namespace World

def entry? (w : World) (table key : String) : Option Json :=
  ((w.script.field? table).bind (Json.field? key)).filter (!·.isNull)

def advance (w : World) (millis : Int) : World := { w with clock := ⟨w.clock.millis + millis⟩ }

def patch (w : World) (change : Json) : World := { w with script := w.script.patched change }

/-- Notes a request and lets the time pass that requests of its kind take. -/
def note (w : World) (kind line : String) : World :=
  let cost := Script.int kind (Script.field "costs_ms" w.script)
  { w with calls := line :: w.calls }.advance cost

/-- What is left of a queue when its first item is taken; the last item stays. -/
def afterTaking : List Json → List Json
  | _ :: next :: rest => next :: rest
  | items => items

def setField (script : Json) (key : String) (value : Json) : Json :=
  .object (Json.insertField key value (script.object?.getD []))

def listPods (w : World) (start : String) : Except LookupError (List Pod) :=
  match w.entry? "pods_error" start with
  | some reason => .error (.queryFailed (Script.textOf reason))
  | none =>
    let pods := (Script.items "pods" w.script).map Script.pod
    .ok ((pods.filter (Text.startsWith ·.name start)).mergeSort Kubectl.inOrder)

def claimPhase (w : World) (name : String) : Except LookupError String :=
  match w.entry? "pvcs" name with
  | some phase => .ok (Script.textOf phase)
  | none => .error (.queryFailed s!"pvc {name} not found")

def configMapField (w : World) (name field : String) : Except LookupError (Option String) :=
  match w.entry? "config_maps" name with
  | some map => .ok (Script.text? field map)
  | none => .error (.queryFailed s!"config map {name} not found")

def findService (w : World) (nspace name : String) : Except LookupError Endpoint :=
  match w.entry? "services" name with
  | some service => .ok (Script.endpoint service)
  | none => .error (.serviceNotFound nspace name "not in world")

/-- The failure that is scripted for a path. -/
def apiError (path : String) (script : Json) : ApiError :=
  match script.field? "status", script.field? "token", script.field? "request" with
  | some code, _, _ => .status path (Script.intOf code).toNat
  | _, some reason, _ => .token (Script.textOf reason)
  | _, _, some reason => .request path (Script.textOf reason)
  | _, _, _ => .decode path (Script.text "decode" script)

def getJson (w : World) (path : String) : Except ApiError Json :=
  match w.entry? "api_errors" path with
  | some script => .error (apiError path script)
  | none =>
    match (w.script.field? "api").bind (Json.field? path) with
    | some body => .ok body
    | none => .error (.status path 404)

/-! Commands. -/

def fits (line target : String) (script : Json) : Bool :=
  Script.text? "cmd" script == some line && (Script.text? "on" script).all (· == target)

/-- Takes a reply from the first of the scripted commands that fits. -/
def takeReply (line target : String) : List Json → Option (Json × List Json)
  | [] => none
  | script :: rest =>
    if fits line target script then
      match Script.items "replies" script with
      | [] => none
      | reply :: others =>
        let left := setField script "replies" (.array (afterTaking (reply :: others)))
        some (reply, left :: rest)
    else (takeReply line target rest).map fun (reply, others) => (reply, script :: others)

def execReply (line : String) (reply : Json) : Except ExecError String :=
  match Script.text? "out" reply, Script.text? "launch" reply with
  | some output, _ => .ok output
  | none, some reason => .error (.launch line reason)
  | none, none => .error (.failed line (Script.text "status" reply) (Script.text "stderr" reply))

def unscripted (line complaint : String) : Except ExecError String :=
  .error (.failed line "exit status: 127" complaint)

/-- The scripted output of the digest command for a content. -/
def scriptedDigest? (w : World) (content : Bytes) : Option String := do
  let table := Script.field "local_md5" w.script
  let whole := (Text.decodeUtf8? content).bind (Script.text? · table)
  whole <|> Script.text? s!"len:{content.length}" table <|> Script.text? "*" table

/-- Replaces the mark for the path in a scripted output. -/
def withPath (path : String) : List Char → List Char
  | '\x7b' :: 'p' :: 'a' :: 't' :: 'h' :: '\x7d' :: rest => path.toList ++ withPath path rest
  | c :: rest => c :: withPath path rest
  | [] => []

def scratchFile? (w : World) (path : String) : Option Bytes := do
  let dir ← w.scratchDir
  (w.files.find? fun (name, _) => Transfer.joined dir name = path).map (·.2)

/-- Digests a scratch file. -/
def digestFile (w : World) (line : String) (args : List String) : Except ExecError String :=
  let path := args.headD ""
  match w.scratchFile? path with
  | none => unscripted line "no such file"
  | some content =>
    match w.scriptedDigest? content with
    | some output => .ok (.ofList (withPath path output.toList))
    | none => unscripted line "no scripted digest"

def exec (w : World) (target : Target) (command : String) (args : List String) :
    Except ExecError String × World :=
  let line := " ".intercalate (command :: args)
  match takeReply line target.text (Script.items "exec" w.script) with
  | some (reply, left) =>
    (execReply line reply, { w with script := setField w.script "exec" (.array left) })
  | none =>
    if target = .host ∧ command = w.digestCommand then (w.digestFile line args, w)
    else (unscripted line "not scripted", w)

/-! Transfers. -/

def connect (w : World) (remote : String) : Except TransferError Session :=
  match w.entry? "connect_errors" remote with
  | some reason => .error (.connect remote (Script.textOf reason))
  | none => .ok ⟨remote⟩

def transferReply (session : Session) (artifact : String) (script : Json) :
    Except TransferError Transfer.Delivery :=
  match Script.text? "receive_error" script, Script.text? "unsupported" script with
  | some reason, _ => .error (.receive session.address artifact reason)
  | none, some mode => .error (.unsupportedMode mode)
  | none, none => .ok (Script.delivery script)

def receive (w : World) (session : Session) (artifact : String) :
    Except TransferError Transfer.Delivery × World :=
  match Script.items "tftp" w.script with
  | [] => (.error (.receive session.address artifact "nothing to serve"), w)
  | script :: rest =>
    let left := Json.array (afterTaking (script :: rest))
    (transferReply session artifact script,
      { w with script := setField w.script "tftp" left })

/-! Scratch files. -/

/-- File names are no longer than this many bytes. -/
def nameBound : Nat := 255

def createFile (w : World) (dir name : String) : Bool × World :=
  if w.scratchDir = some dir ∧ name.utf8ByteSize ≤ nameBound ∧ !name.toList.contains '\x00' then
    (true, { w with files := (name, []) :: w.files })
  else (false, w)

def mapFiles (w : World) (path : String)
    (change : String × Bytes → Option (String × Bytes)) : World :=
  let isMeant (name : String) := w.scratchDir.any (Transfer.joined · name = path)
  { w with
    files := w.files.filterMap fun (name, content) =>
      if isMeant name then change (name, content) else some (name, content) }

def writeFile (w : World) (path : String) (content : Bytes) : Except WriteError Unit × World :=
  (if (w.scratchFile? path).isSome then .ok () else .error .file,
    w.mapFiles path fun (name, _) => some (name, content))

/-- Names of the scratch files in their order. -/
def fileNames (w : World) : List String :=
  (w.files.map (·.1)).mergeSort fun first second => !(second < first)

/-- Lets time pass, and changes the script as planned for this pause. -/
def sleep (w : World) (seconds : Nat) : World :=
  let w := (w.note "sleep" s!"sleep {seconds * 1000}").advance (seconds * 1000)
  match w.pauses with
  | [] => w
  | change :: rest => { if change.isObject then w.patch change else w with pauses := rest }

/-- The tag that a scratch file gets. -/
def tag : String := "XXXXXX"

def answer : (r : Request) → World → Reply r × World
  | .listPods nspace start, w =>
    let w := w.note "pods" s!"pods {nspace} {start}"
    (w.listPods start, w)
  | .claimPhase nspace name, w =>
    let w := w.note "pvc" s!"pvc {nspace} {name}"
    (w.claimPhase name, w)
  | .configMapField nspace name field, w =>
    let w := w.note "config_map" s!"config_map {nspace} {name} {field}"
    (w.configMapField name field, w)
  | .findService nspace name, w =>
    let w := w.note "service" s!"service {nspace} {name}"
    (w.findService nspace name, w)
  | .getJson path, w =>
    let w := w.note "api" s!"api {path}"
    (w.getJson path, w)
  | .exec target command args, w =>
    let line := " ".intercalate (s!"exec [{target.text}]" :: command :: args)
    (w.note "exec" line).exec target command args
  | .connect remote, w =>
    let w := w.note "connect" s!"connect {remote}"
    (w.connect remote, w)
  | .receive session artifact mode, w =>
    let names := " ".intercalate w.fileNames
    (w.note "receive" s!"receive {artifact} {mode.name} [{names}]").receive session artifact
  | .launch .., w => (.error "there are no programs here", w)
  | .postForm .., w => (.error "there is no network here", w)
  | .fetch .., w => (.error "there is no network here", w)
  | .createFile dir lead tail, w =>
    let (created, w) := w.createFile dir (lead ++ tag ++ tail)
    (if created then some tag else none, w)
  | .writeFile path content, w => w.writeFile path content
  | .removeFile path, w => ((), w.mapFiles path fun _ => none)
  | .openLog .., w => (false, w)
  | .now, w => (w.clock, w)
  | .sleep seconds, w => ((), w.sleep seconds)

end World
end ClusterHealth.Rehearsal

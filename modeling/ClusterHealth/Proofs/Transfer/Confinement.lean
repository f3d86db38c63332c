import ClusterHealth.Proofs.FileTree
import ClusterHealth.Proofs.Transfer.Course
import ClusterHealth.Rehearsal.Attempts

/-! Scratch files lie in the scratch directory and not below or beside it, whatever an artifact is
called. -/
namespace ClusterHealth.Transfer
open FileTree

section Stem
variable {name part : String}

theorem stem_eq (name : String) : stem name = (names name).getLast?.getD "artifact" := by
  rw [stem, names, ← List.head?_filter, List.filter_reverse, List.head?_reverse]

theorem stem_eq_iff : stem name = part ↔
    LastName name part ∨ (∀ c ∈ name.toList, c = '/') ∧ part = "artifact" := by
  rw [stem_eq]
  constructor
  · rintro rfl
    by_cases hslashes : ∀ c ∈ name.toList, c = '/'
    · refine .inr ⟨hslashes, ?_⟩
      rw [names_of_slashes hslashes]
      rfl
    · obtain ⟨last, hlast⟩ := exists_lastName hslashes
      rw [hlast.getLast?_names]
      exact .inl hlast
  · rintro (hlast | ⟨hslashes, rfl⟩)
    · rw [hlast.getLast?_names]
      rfl
    · rw [names_of_slashes hslashes]
      rfl

theorem stem_plain (name : String) : stem name ≠ "" ∧ '/' ∉ (stem name).toList := by
  rcases stem_eq_iff.1 (rfl : stem name = stem name) with ⟨hne, hplain, -⟩ | ⟨-, hdefault⟩
  · exact ⟨hne, hplain⟩
  · rw [hdefault]
    decide

end Stem

section Joined
variable {dir entry : String}

theorem joined_cases (dir entry : String) :
    dir = "" ∧ joined dir entry = entry ∨
    (∃ rest, dir = rest ++ "/" ∧ joined dir entry = rest ++ "/" ++ entry) ∨
    dir ≠ "" ∧ joined dir entry = dir ++ "/" ++ entry := by
  by_cases hempty : dir = ""
  · exact .inl ⟨hempty, by simp [joined, hempty]⟩
  by_cases hslash : dir.toList.getLast? = some '/'
  · obtain ⟨chars, hchars⟩ := List.getLast?_eq_some_iff.1 hslash
    have hdir : dir = String.ofList chars ++ "/" := String.toList_injective (by simp [hchars])
    refine .inr (.inl ⟨.ofList chars, hdir, ?_⟩)
    simp [joined, hslash, ← hdir]
  · refine .inr (.inr ⟨hempty, ?_⟩)
    rw [joined, if_neg (by simp [hempty, hslash])]
    rfl

theorem names_joined (hne : entry ≠ "") (hplain : '/' ∉ entry.toList) :
    names (joined dir entry) = names dir ++ [entry] := by
  rcases joined_cases dir entry with ⟨rfl, hjoined⟩ | ⟨rest, rfl, hjoined⟩ | ⟨-, hjoined⟩
  · rw [hjoined, names_of_plain hne hplain]
    rfl
  · rw [hjoined, names_append_slash, names_append_slashes rest (by simp),
      names_of_plain hne hplain]
  · rw [hjoined, names_append_slash, names_of_plain hne hplain]

theorem startsWith_slash_joined (hplain : '/' ∉ entry.toList) :
    Text.startsWith (joined dir entry) "/" = Text.startsWith dir "/" := by
  rcases joined_cases dir entry with ⟨rfl, hjoined⟩ | ⟨rest, rfl, hjoined⟩ | ⟨hdir, hjoined⟩
  · rw [hjoined]
    exact startsWith_slash_of_plain hplain
  · rw [hjoined, startsWith_slash_append (by simp)]
  · rw [hjoined, String.append_assoc, startsWith_slash_append hdir]

theorem getLast?_joined (hne : entry ≠ "") :
    (joined dir entry).toList.getLast? = entry.toList.getLast? := by
  have hend : ∃ front, joined dir entry = front ++ entry := by
    rcases joined_cases dir entry with ⟨-, hjoined⟩ | ⟨rest, -, hjoined⟩ | ⟨-, hjoined⟩
    · exact ⟨"", by rw [hjoined, String.empty_append]⟩
    · exact ⟨_, hjoined⟩
    · exact ⟨_, hjoined⟩
  obtain ⟨front, hfront⟩ := hend
  rw [hfront, String.toList_append, List.getLast?_append_of_ne_nil]
  simpa using hne

theorem isChild_joined (hne : entry ≠ "") (hplain : '/' ∉ entry.toList) (hdot : entry ≠ ".")
    (hdots : entry ≠ "..") : IsChild dir entry (joined dir entry) := by
  refine .of_names (names_joined hne hplain) (startsWith_slash_joined hplain) ?_ hdot hdots
  rw [getLast?_joined hne]
  exact fun hslash => hplain (List.mem_of_getLast? hslash)

end Joined

/-- What the scratch file of an artifact is called. -/
def scratchName (tag artifact : String) : String :=
  "cmsdev-ipxetftp-" ++ tag ++ "-" ++ stem artifact ++ ".tmp"

theorem toList_scratchName (tag artifact : String) : (scratchName tag artifact).toList =
    "cmsdev-ipxetftp-".toList ++ tag.toList ++ "-".toList ++ (stem artifact).toList ++
      ".tmp".toList := by
  unfold scratchName
  simp only [String.toList_append]

theorem scratchTail_eq (artifact : String) :
    scratchTail artifact = "-" ++ stem artifact ++ ".tmp" := rfl

theorem scratchPath_eq (dir tag artifact : String) :
    scratchPath dir tag artifact = joined dir (scratchName tag artifact) := by
  unfold scratchPath scratchLead scratchName
  rw [scratchTail_eq, ← String.append_assoc, ← String.append_assoc]

theorem isChild_scratchPath {tag : String} (htag : '/' ∉ tag.toList) (dir artifact : String) :
    IsChild dir (scratchName tag artifact) (scratchPath dir tag artifact) := by
  have hplain : '/' ∉ (scratchName tag artifact).toList := by
    simp only [toList_scratchName, List.mem_append, not_or]
    exact ⟨⟨⟨⟨by decide, htag⟩, by decide⟩, (stem_plain artifact).2⟩, by decide⟩
  have hhead : (scratchName tag artifact).toList.head? = some 'c' := by
    have hlead : "cmsdev-ipxetftp-".toList.head? = some 'c' := by decide
    simp only [toList_scratchName, List.head?_append, hlead, Option.some_or]
  have hne (text : String) (h : text.toList.head? ≠ some 'c') : scratchName tag artifact ≠ text :=
    fun heq => h (heq ▸ hhead)
  rw [scratchPath_eq]
  exact isChild_joined (hne "" (by decide)) hplain (hne "." (by decide)) (hne ".." (by decide))

namespace Verifier
variable {v : Verifier} {artifact : Artifact} {session : Session} {remote file : String}
  {before : Digest} {all events : List Event}

/-- Files are created in the scratch directory and named after the artifact, only files that were
created are written and removed, and the artifact is received by its full name. -/
def Confined (v : Verifier) (artifact : Artifact) (all : List Event) : Event → Prop
  | .exchanged (.createFile dir lead tail) _ =>
    dir = v.scratchDir ∧ lead = "cmsdev-ipxetftp-" ∧ tail = "-" ++ stem artifact.name ++ ".tmp"
  | .exchanged (.writeFile path _) _ | .exchanged (.removeFile path) _ =>
    ∃ tag, v.created artifact (some tag) ∈ all ∧ path = v.scratch artifact tag
  | .exchanged (.receive _ name _) _ => name = artifact.name
  | .exchanged (.openLog ..) _ => False
  | _ => True

@[simp] theorem confined_logged (entry : Log.Entry) : v.Confined artifact all (.logged entry) :=
  trivial

@[simp] theorem confined_connected (reply : Except TransferError Session) :
    v.Confined artifact all (connected remote reply) := trivial

@[simp] theorem confined_probed (reply : Except ExecError String) :
    v.Confined artifact all (v.probed artifact reply) := trivial

@[simp] theorem confined_digested (reply : Except ExecError String) :
    v.Confined artifact all (v.digested file reply) := trivial

@[simp] theorem confined_received (reply : Except TransferError Delivery) :
    v.Confined artifact all (v.received session artifact reply) := rfl

@[simp] theorem confined_created (tag : Option String) :
    v.Confined artifact all (v.created artifact tag) := ⟨rfl, rfl, rfl⟩

theorem Transferred.confined {tag : String} {result : Except ProbeError Finding}
    (h : v.Transferred session remote artifact before (v.scratch artifact tag) events result)
    (htag : v.created artifact (some tag) ∈ all) :
    ∀ event ∈ events, v.Confined artifact all event := by
  have hwritten (d : Delivery) (reply : Except WriteError Unit) :
      v.Confined artifact all (written (v.scratch artifact tag) d reply) := ⟨tag, htag, rfl⟩
  cases h <;> simp [arrival, hwritten]

theorem Attempted.confined {result : Except ProbeError Finding}
    (h : v.Attempted session remote artifact before events result) (hall : events ⊆ all) :
    ∀ event ∈ events, v.Confined artifact all event := by
  cases h with
  | fileless => simp
  | filed tag h =>
    have htag : v.created artifact (some tag) ∈ all := hall (by simp)
    have hremoved : v.Confined artifact all (removed (v.scratch artifact tag)) := ⟨tag, htag, rfl⟩
    simp only [List.cons_append, List.forall_mem_cons, List.forall_mem_append]
    exact ⟨confined_created _, h.confined htag, hremoved, List.forall_mem_nil _⟩

theorem Settled.confined {redos : Nat} {result : Except ProbeError Bool}
    (h : v.Settled session remote artifact redos before events result) (hall : events ⊆ all) :
    ∀ event ∈ events, v.Confined artifact all event := by
  induction h with
  | failed e h => exact h.confined hall
  | ended equal h => exact h.confined hall
  | exhausted after h => exact h.confined hall
  | redone after h hrest ih =>
    obtain ⟨hfirst, hlater⟩ := List.append_subset.1 hall
    simp only [List.forall_mem_cons, List.forall_mem_append]
    exact ⟨h.confined hfirst, confined_logged _, ih (List.subset_of_cons_subset hlater)⟩

theorem Verified.confined {value : Bool} (h : v.Verified remote artifact events value) :
    ∀ event ∈ events, v.Confined artifact events event := by
  cases h with
  | unconnected e => simp
  | unprobed session reply entry e h => simp
  | judged session before equal h =>
    simp only [List.forall_mem_cons]
    exact ⟨confined_connected _, confined_probed _, h.confined fun event hevent => by simp [hevent]⟩
  | rejected session before e h =>
    simp only [List.cons_append, List.forall_mem_cons, List.forall_mem_append]
    exact ⟨confined_connected _, confined_probed _, h.confined fun event hevent => by simp [hevent],
      confined_logged _, List.forall_mem_nil _⟩

/-- The stem of an artifact's name is a plain part of it, so that the path of a scratch file leads
to an entry of the scratch directory, whatever plain tag it has. A run uses no other paths, but it
receives the artifact by its full name. -/
theorem verifyEndpoint_confined {σ : Type} (v : Verifier) (remote : String) (artifact : Artifact)
    (answer : (r : Request) → σ → Reply r × σ) (state : σ) :
    let last := stem artifact.name
    (last ≠ "" ∧ '/' ∉ last.toList ∧ ∀ part, last = part ↔
      LastName artifact.name part ∨ (∀ c ∈ artifact.name.toList, c = '/') ∧ part = "artifact") ∧
      (∀ tag : String, '/' ∉ tag.toList →
        IsChild v.scratchDir ("cmsdev-ipxetftp-" ++ tag ++ "-" ++ last ++ ".tmp")
          (v.scratch artifact tag)) ∧
      let events := ((v.verifyEndpoint remote artifact).run answer state).events
      ∀ event ∈ events, v.Confined artifact events event := by
  obtain ⟨hne, hplain⟩ := stem_plain artifact.name
  refine ⟨⟨hne, hplain, fun part => stem_eq_iff⟩, fun tag htag => ?_, ?_⟩
  · exact isChild_scratchPath htag v.scratchDir artifact.name
  · exact ((v.verifyEndpoint_always remote artifact).run answer state).confined

/-- Neither dots nor slashes in the name lead out of the directory. -/
theorem verifyEndpoint_confined_upward :
    let artifact : Artifact := ⟨"../arm64//ipxe.efi/", "/var/lib/tftpboot/ipxe.efi", .host⟩
    stem artifact.name = "ipxe.efi" ∧
      IsChild "/var/tmp/" "cmsdev-ipxetftp-a1B2c3-ipxe.efi.tmp"
        (scratchPath "/var/tmp/" "a1B2c3" artifact.name) := by
  intro artifact
  obtain ⟨⟨-, -, hlast⟩, hchild, -⟩ := verifyEndpoint_confined
    ⟨"services", "md5sum", "/var/tmp/", 3, .octet⟩ "10.92.100.60" artifact
    (fun r (state : Unit) => (Rehearsal.refusal r, state)) ()
  have hname : LastName artifact.name "ipxe.efi" :=
    ⟨by decide, by decide, "../arm64//", "/", by decide, .inr ⟨"../arm64/", by decide⟩, by simp⟩
  have hstem : stem artifact.name = "ipxe.efi" := (hlast "ipxe.efi").2 (.inl hname)
  rw [hstem] at hchild
  exact ⟨hstem, hchild "a1B2c3" (by decide)⟩

end Verifier
end ClusterHealth.Transfer

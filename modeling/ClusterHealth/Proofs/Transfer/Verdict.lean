import ClusterHealth.Proofs.Replies
import ClusterHealth.Proofs.Transfer.Failure
import Mathlib.Order.Bounds.Defs

/-! The verdict on an artifact and the calls that lead to it, by the replies that the ports give. -/
namespace ClusterHealth.Transfer
open Procedure

namespace Verifier
variable (v : Verifier) (artifact : Artifact) (session : Session) (b : Replies)

/-- What the digest number `i` of the artifact is, counted from zero. -/
def probe (i : Nat) : Except ProbeError Digest :=
  reading artifact.path (b (.exec artifact.source v.digestCommand [artifact.path]) i)

/-- The file that the artifact is completely received in by transfer number `i`, if it is. -/
def landing? (i : Nat) : Option String := do
  let tag ← b (.createFile v.scratchDir scratchLead (scratchTail artifact.name)) i
  let d ← (b (.receive session artifact.name v.mode) i).toOption
  (b (.writeFile (v.scratch artifact tag) d.landed) i).toOption
  if d.interruption = none then some (v.scratch artifact tag) else none

/-- What digest number `i` of all is, if it is that of a received file. -/
def comparison (file : String) (i : Nat) : Except ProbeError Digest :=
  reading file (b (.exec .host v.digestCommand [file]) i)

/-- Transfer number `i` succeeds between two digests that differ. -/
def Restless (i : Nat) : Prop :=
  (∃ file, v.landing? artifact session b i = some file) ∧
    ∃ x y, v.probe artifact b i = .ok x ∧ v.probe artifact b (i + 1) = .ok y ∧ x ≠ y

/-- Transfer number `k` is the first between two digests that agree; everything up to the second of
them succeeds. It is received in `file`, and the digest is `x`. -/
structure Stable (k : Nat) (file : String) (x : Digest) : Prop where
  least : IsLeast {i | ∃ y, v.probe artifact b i = .ok y ∧ v.probe artifact b (i + 1) = .ok y} k
  probes : ∀ i ≤ k + 1, ∃ y, v.probe artifact b i = .ok y
  landings : ∀ i < k, ∃ file, v.landing? artifact session b i = some file
  landing : v.landing? artifact session b k = some file
  digest : v.probe artifact b (k + 1) = .ok x

/-- From transfer number `i` on, number `k` is the first between two digests that agree. -/
structure SettlesAt (i k : Nat) (file : String) (x : Digest) : Prop where
  le : i ≤ k
  restless : ∀ j, i ≤ j → j < k → v.Restless artifact session b j
  landing : v.landing? artifact session b k = some file
  before : v.probe artifact b k = .ok x
  after : v.probe artifact b (k + 1) = .ok x

def probeCall : Request := .exec artifact.source v.digestCommand [artifact.path]

/-- The calls of a transfer that is not cut short: the artifact is received into a new file and
probed again. -/
def round : List Request :=
  [.createFile v.scratchDir scratchLead (scratchTail artifact.name),
    .receive session artifact.name v.mode, v.probeCall artifact]

def comparisonCall (file : String) : Request := .exec .host v.digestCommand [file]

/-- The number of requests made before transfer number `i`. -/
structure AtRound (t : Tally) (i : Nat) : Prop where
  exec : t .exec = i + 1
  createFile : t .createFile = i
  receive : t .receive = i
  writeFile : t .writeFile = i

/-- The number of requests made when transfer number `i` arrived. -/
structure Landed (t : Tally) (i : Nat) : Prop where
  exec : t .exec = i + 1
  createFile : t .createFile = i + 1
  receive : t .receive = i + 1
  writeFile : t .writeFile = i + 1

variable {v artifact session b} {remote : String} {t last : Tally} {i : Nat} {before : Digest}
  {events rest : List Event}

theorem landing?_eq_some {file : String} :
    v.landing? artifact session b i = some file ↔ ∃ tag d,
      b (.createFile v.scratchDir scratchLead (scratchTail artifact.name)) i = some tag ∧
      b (.receive session artifact.name v.mode) i = .ok d ∧ d.interruption = none ∧
      b (.writeFile (v.scratch artifact tag) d.landed) i = .ok () ∧
      v.scratch artifact tag = file := by
  have htoOption {ε α : Type} (reply : Except ε α) (a : α) :
      reply.toOption = some a ↔ reply = .ok a := by
    cases reply <;> simp [Except.toOption]
  simp only [landing?, Option.bind_eq_bind, Option.bind_eq_some_iff, htoOption]
  constructor
  · intro h
    obtain ⟨tag, htag, d, hd, _, hwritten, h⟩ := h
    split at h
    · exact ⟨tag, d, htag, hd, ‹_›, hwritten, Option.some.inj h⟩
    · cases h
  · intro h
    obtain ⟨tag, d, htag, hd, whole, hwritten, rfl⟩ := h
    exact ⟨tag, htag, d, hd, (), hwritten, if_pos whole⟩

/-- Reads the numbered replies off a complete delivery into a new scratch file. -/
theorem follows_landing {tag : String} {d : Delivery} (ht : AtRound t i)
    (whole : d.interruption = none)
    (h : Follows (Answers b.answer) t
      (v.created artifact (some tag) ::
        (v.arrival session artifact (v.scratch artifact tag) d ++ rest)) last) :
    v.landing? artifact session b i = some (v.scratch artifact tag) ∧
      ∃ middle, Landed middle i ∧ Follows (Answers b.answer) middle rest last := by
  simp only [created, arrival, received, written, List.cons_append, List.nil_append,
    Replies.follows_exchanged] at h
  obtain ⟨hcreate, hreceive, hwrite, hrest⟩ := h
  simp only [Request.kind, Tally.count_apply, ht.createFile, ht.receive, ht.writeFile,
    reduceCtorEq, if_false] at hcreate hreceive hwrite
  refine ⟨landing?_eq_some.2 ⟨tag, d, hcreate, hreceive, whole, hwrite, rfl⟩, _,
    ⟨?_, ?_, ?_, ?_⟩, hrest⟩ <;>
    simp [Request.kind, Tally.count_apply, ht.exec, ht.createFile, ht.receive, ht.writeFile]

/-- Reads them off a delivery that does not arrive as a whole. -/
theorem landing?_eq_none {tag : String} {reply : Except TransferError Delivery} (ht : AtRound t i)
    (hf : Follows (Answers b.answer) t
      (v.created artifact (some tag) :: v.received session artifact reply :: rest) last)
    (h : ∀ d, reply = .ok d → d.interruption = none →
      ∃ e, b (.writeFile (v.scratch artifact tag) d.landed) i = .error e) :
    v.landing? artifact session b i = none := by
  obtain ⟨hcreate, hreceived⟩ := Replies.follows_exchanged.1 hf
  obtain ⟨hreceive, -⟩ := Replies.follows_exchanged.1 hreceived
  simp only [Request.kind, Tally.count_apply, ht.createFile, ht.receive, reduceCtorEq,
    if_false] at hcreate hreceive
  refine Option.eq_none_iff_forall_ne_some.2 fun file hfile => ?_
  obtain ⟨tag', d, htag, hd, whole, hwrite, -⟩ := landing?_eq_some.1 hfile
  obtain rfl : tag = tag' := Option.some.inj (hcreate.symm.trans htag)
  obtain ⟨e, he⟩ := h d (hreceive.symm.trans hd) whole
  rw [he] at hwrite
  cases hwrite

theorem Landed.probe (ht : Landed t i) {reply : Except ExecError String}
    (h : Follows (Answers b.answer) t (v.probed artifact reply :: rest) last) :
    v.probe artifact b (i + 1) = reading artifact.path reply := by
  obtain ⟨hreply, -⟩ := Replies.follows_exchanged.1 h
  rw [Request.kind, ht.exec] at hreply
  rw [Verifier.probe, hreply]

theorem Landed.comparison (ht : Landed t i) {file : String} {reply reply' : Except ExecError String}
    (h : Follows (Answers b.answer) t
      (v.probed artifact reply :: v.digested file reply' :: rest) last) :
    v.comparison b file (i + 2) = reading file reply' := by
  obtain ⟨-, hrest⟩ := Replies.follows_exchanged.1 h
  obtain ⟨hreply, -⟩ := Replies.follows_exchanged.1 hrest
  rw [Request.kind, Tally.count_apply, if_pos (by rfl), Request.kind, ht.exec] at hreply
  rw [Verifier.comparison, hreply]

theorem Attempted.of_changed {after : Digest} (ht : AtRound t i)
    (hbefore : v.probe artifact b i = .ok before)
    (h : v.Attempted session remote artifact before events (.ok (.changed after)))
    (hf : Follows (Answers b.answer) t events last) :
    v.Restless artifact session b i ∧ v.probe artifact b (i + 1) = .ok after ∧
      AtRound last (i + 1) ∧ calls events = v.round artifact session := by
  cases h with
  | filed tag h =>
    cases h with
    | changed d after whole hne =>
      simp only [List.cons_append, List.append_assoc, List.nil_append] at hf
      obtain ⟨hlanding, middle, hmiddle, hrest⟩ := follows_landing ht whole hf
      have hafter : v.probe artifact b (i + 1) = .ok after := by
        rw [hmiddle.probe hrest, reading_line]
      refine ⟨⟨⟨_, hlanding⟩, before, after, hbefore, hafter, hne.symm⟩, hafter, ?_, rfl⟩
      obtain ⟨-, hremoved⟩ := Replies.follows_exchanged.1 hrest
      obtain ⟨-, hlast⟩ := Replies.follows_exchanged.1 hremoved
      have hlast : last = _ := hlast
      rw [hlast]
      constructor <;>
        simp [Request.kind, Tally.count_apply, hmiddle.exec, hmiddle.createFile, hmiddle.receive,
          hmiddle.writeFile]

theorem Attempted.of_settled {equal : Bool} (ht : AtRound t i)
    (h : v.Attempted session remote artifact before events (.ok (.settled equal)))
    (hf : Follows (Answers b.answer) t events last) :
    ∃ file got, v.landing? artifact session b i = some file ∧
      v.probe artifact b (i + 1) = .ok before ∧ v.comparison b file (i + 2) = .ok got ∧
      (equal = true ↔ got = before) ∧
      calls events = v.round artifact session ++ [v.comparisonCall file] := by
  cases h with
  | filed tag h =>
    cases h with
    | unequal d got entry whole hne =>
      simp only [List.cons_append, List.append_assoc, List.nil_append] at hf
      obtain ⟨hlanding, middle, hmiddle, hrest⟩ := follows_landing ht whole hf
      refine ⟨_, got, hlanding, ?_, ?_, by simp [hne], rfl⟩
      · rw [hmiddle.probe hrest, reading_line]
      · rw [hmiddle.comparison hrest, reading_line]
    | equal d whole =>
      simp only [List.cons_append, List.append_assoc, List.nil_append] at hf
      obtain ⟨hlanding, middle, hmiddle, hrest⟩ := follows_landing ht whole hf
      refine ⟨_, before, hlanding, ?_, ?_, by simp, rfl⟩
      · rw [hmiddle.probe hrest, reading_line]
      · rw [hmiddle.comparison hrest, reading_line]

/-- Only the digest of the received file is left to fail once the transfer is through. -/
theorem Attempted.of_error {e : ProbeError} (ht : AtRound t i)
    (h : v.Attempted session remote artifact before events (.error e))
    (hf : Follows (Answers b.answer) t events last) :
    v.landing? artifact session b i = none ∨ (∃ e', v.probe artifact b (i + 1) = .error e') ∨
      ∃ file e', v.landing? artifact session b i = some file ∧
        v.probe artifact b (i + 1) = .ok before ∧ v.comparison b file (i + 2) = .error e' ∧
        calls events = v.round artifact session ++ [v.comparisonCall file] := by
  cases h with
  | fileless =>
    obtain ⟨hcreate, -⟩ := Replies.follows_exchanged.1 hf
    simp only [Request.kind, ht.createFile] at hcreate
    refine .inl (Option.eq_none_iff_forall_ne_some.2 fun file hfile => ?_)
    obtain ⟨tag, d, htag, -⟩ := landing?_eq_some.1 hfile
    rw [hcreate] at htag
    cases htag
  | filed tag h =>
    cases h with
    | refused e =>
      exact .inl (landing?_eq_none ht hf (by simp))
    | unwritten d e =>
      refine .inl (landing?_eq_none ht hf fun d' hd' _ => ⟨e, ?_⟩)
      obtain rfl := Except.ok.inj hd'
      simp only [created, received, written, List.cons_append, List.nil_append,
        Replies.follows_exchanged] at hf
      obtain ⟨-, -, hwrite, -⟩ := hf
      simpa only [Request.kind, Tally.count_apply, ht.writeFile, reduceCtorEq, if_false]
        using hwrite
    | interrupted d reason h =>
      refine .inl (landing?_eq_none ht hf fun d' hd' whole => ?_)
      obtain rfl := Except.ok.inj hd'
      rw [whole] at h
      cases h
    | unprobed d reply entry e whole h =>
      simp only [List.cons_append, List.append_assoc, List.nil_append] at hf
      obtain ⟨-, middle, hmiddle, hrest⟩ := follows_landing ht whole hf
      exact .inr (.inl ⟨e, by rw [hmiddle.probe hrest, h]⟩)
    | undigested d reply entry e whole h =>
      simp only [List.cons_append, List.append_assoc, List.nil_append] at hf
      obtain ⟨hlanding, middle, hmiddle, hrest⟩ := follows_landing ht whole hf
      refine .inr (.inr ⟨_, e, hlanding, ?_, ?_, rfl⟩)
      · rw [hmiddle.probe hrest, reading_line]
      · rw [hmiddle.comparison hrest, h]

theorem Restless.not_same {x : Digest} (h : v.Restless artifact session b i)
    (hbefore : v.probe artifact b i = .ok x) : v.probe artifact b (i + 1) ≠ .ok x := by
  intro hafter
  obtain ⟨-, x', y', hx, hy, hne⟩ := h
  rw [hbefore] at hx
  rw [hafter] at hy
  exact hne ((Except.ok.inj hx).symm.trans (Except.ok.inj hy))

/-- The first two digests that agree are preceded by transfers between digests that do not. -/
theorem stable_iff {k : Nat} {file : String} {x : Digest} :
    v.Stable artifact session b k file x ↔ v.SettlesAt artifact session b 0 k file x := by
  constructor
  · intro h
    obtain ⟨y, hy, hy'⟩ := h.least.1
    obtain rfl : y = x := Except.ok.inj (hy'.symm.trans h.digest)
    refine ⟨Nat.zero_le k, fun j _ hj => ⟨h.landings j hj, ?_⟩, h.landing, hy, hy'⟩
    obtain ⟨before, hbefore⟩ := h.probes j (by omega)
    obtain ⟨after, hafter⟩ := h.probes (j + 1) (by omega)
    refine ⟨before, after, hbefore, hafter, ?_⟩
    intro hsame
    subst hsame
    have hle : k ≤ j := h.least.2 ⟨before, hbefore, hafter⟩
    omega
  · intro h
    refine ⟨⟨⟨x, h.before, h.after⟩, ?_⟩, ?_, fun j hj => (h.restless j (by omega) hj).1,
      h.landing, h.after⟩
    · intro j hsame
      obtain ⟨y, hy, hy'⟩ := hsame
      by_contra hj
      exact (h.restless j (by omega) (by omega)).not_same hy hy'
    · intro j hj
      by_cases hlast : j = k + 1
      · exact ⟨x, hlast ▸ h.after⟩
      · by_cases hk : j = k
        · exact ⟨x, hk ▸ h.before⟩
        · obtain ⟨-, y, -, hy, -⟩ := h.restless j (by omega) (by omega)
          exact ⟨y, hy⟩

theorem SettlesAt.next {k : Nat} {file : String} {x : Digest}
    (h : v.SettlesAt artifact session b i k file x) (hi : v.Restless artifact session b i) :
    v.SettlesAt artifact session b (i + 1) k file x := by
  have hne : i ≠ k := by
    intro hik
    subst hik
    exact hi.not_same h.before h.after
  have hle := h.le
  exact ⟨by omega, fun j hj => h.restless j (by omega), h.landing, h.before, h.after⟩

/-- Once two digests in a row agree there is no other transfer. -/
theorem SettlesAt.eq_of_same {k : Nat} {file : String} {x y : Digest}
    (h : v.SettlesAt artifact session b i k file x) (hbefore : v.probe artifact b i = .ok y)
    (hafter : v.probe artifact b (i + 1) = .ok y) : k = i := by
  by_contra hne
  have hle := h.le
  exact (h.restless i (Nat.le_refl i) (by omega)).not_same hbefore hafter

theorem SettlesAt.through {k : Nat} {file : String} {x : Digest}
    (h : v.SettlesAt artifact session b i k file x) :
    (∃ file', v.landing? artifact session b i = some file') ∧
      ∃ y, v.probe artifact b (i + 1) = .ok y := by
  by_cases hi : i = k
  · subst hi
    exact ⟨⟨file, h.landing⟩, x, h.after⟩
  · have hle := h.le
    obtain ⟨hlanding, -, y, -, hy, -⟩ := h.restless i (Nat.le_refl i) (by omega)
    exact ⟨hlanding, y, hy⟩

/-- The events of a transfer that is redone, and those that follow it. -/
theorem follows_redone {first : List Event} {after : Digest} {redos : Nat} (ht : AtRound t i)
    (hbefore : v.probe artifact b i = .ok before)
    (h : v.Attempted session remote artifact before first (.ok (.changed after)))
    (hf : Follows (Answers b.answer) t
      (first ++ .logged (v.redoEntry remote artifact redos) :: rest) last) :
    v.Restless artifact session b i ∧ v.probe artifact b (i + 1) = .ok after ∧
      calls first = v.round artifact session ∧
      ∃ middle, AtRound middle (i + 1) ∧ Follows (Answers b.answer) middle rest last := by
  obtain ⟨middle, hfirst, hlogged⟩ := follows_append.1 hf
  obtain ⟨hrestless, hafter, hmiddle, hcalls⟩ := h.of_changed ht hbefore hfirst
  exact ⟨hrestless, hafter, hcalls, middle, hmiddle, Replies.follows_logged.1 hlogged⟩

theorem Settled.of_settlesAt {redos k : Nat} {file : String} {x : Digest}
    {result : Except ProbeError Bool}
    (h : v.Settled session remote artifact redos before events result) (ht : AtRound t i)
    (hbefore : v.probe artifact b i = .ok before) (hf : Follows (Answers b.answer) t events last)
    (hs : v.SettlesAt artifact session b i k file x) (hk : k ≤ i + redos) :
    calls events = (List.replicate (k + 1 - i) (v.round artifact session)).flatten ++
        [v.comparisonCall file] ∧
      (result = .ok true ↔ v.comparison b file (k + 2) = .ok x) := by
  induction h generalizing t i with
  | failed e h =>
    obtain ⟨⟨_, hlanding⟩, _, hafter⟩ := hs.through
    obtain hnone | ⟨e', he⟩ | ⟨file', e', hlanding', hafter', he, hcalls⟩ := h.of_error ht hf
    · rw [hlanding] at hnone
      cases hnone
    · rw [hafter] at he
      cases he
    · obtain rfl := hs.eq_of_same hbefore hafter'
      obtain rfl : file' = file := Option.some.inj (hlanding'.symm.trans hs.landing)
      simp [hcalls, he]
  | ended equal h =>
    obtain ⟨file', got, hlanding, hafter, hgot, hequal, hcalls⟩ := h.of_settled ht hf
    obtain rfl := hs.eq_of_same hbefore hafter
    obtain rfl : file' = file := Option.some.inj (hlanding.symm.trans hs.landing)
    obtain rfl := Except.ok.inj (hbefore.symm.trans hs.before)
    simp [hcalls, hgot, hequal]
  | exhausted after h =>
    obtain ⟨hrestless, -⟩ := h.of_changed ht hbefore hf
    have hle := (hs.next hrestless).le
    omega
  | redone after h hrest ih =>
    obtain ⟨hrestless, hafter, hcalls, middle, hmiddle, hf⟩ := follows_redone ht hbefore h hf
    have hnext := hs.next hrestless
    have hle := hnext.le
    obtain ⟨hcalls', hresult⟩ := ih hmiddle hafter hf hnext (by omega)
    refine ⟨?_, hresult⟩
    -- One round more than from the next transfer on.
    have hcount : k + 1 - i = (k + 1 - (i + 1)) + 1 := by omega
    rw [calls_append, calls_logged, hcalls, hcalls', hcount, List.replicate_succ,
      List.flatten_cons, List.append_assoc]

/-- Every digest differs from the one before it: the repetitions run out. -/
theorem Settled.of_restless {redos : Nat} {result : Except ProbeError Bool}
    (h : v.Settled session remote artifact redos before events result) (ht : AtRound t i)
    (hbefore : v.probe artifact b i = .ok before) (hf : Follows (Answers b.answer) t events last)
    (hr : ∀ j, i ≤ j → j ≤ i + redos → v.Restless artifact session b j) :
    calls events = (List.replicate (redos + 1) (v.round artifact session)).flatten ∧
      result = .error (v.unstable artifact) := by
  induction h generalizing t i with
  | failed e h =>
    obtain ⟨⟨_, hlanding⟩, _, _, hx, hafter, hne⟩ := hr i (Nat.le_refl i) (by omega)
    obtain hnone | ⟨e', he⟩ | ⟨_, _, _, hafter', -⟩ := h.of_error ht hf
    · rw [hlanding] at hnone
      cases hnone
    · rw [hafter] at he
      cases he
    · exact absurd hafter' ((hr i (Nat.le_refl i) (by omega)).not_same hbefore)
  | ended equal h =>
    obtain ⟨_, _, _, hafter, -⟩ := h.of_settled ht hf
    exact absurd hafter ((hr i (Nat.le_refl i) (by omega)).not_same hbefore)
  | exhausted after h =>
    obtain ⟨-, -, -, hcalls⟩ := h.of_changed ht hbefore hf
    simp [hcalls]
  | redone after h hrest ih =>
    obtain ⟨-, hafter, hcalls, middle, hmiddle, hf⟩ := follows_redone ht hbefore h hf
    obtain ⟨hcalls', hresult⟩ := ih hmiddle hafter hf fun j hj hj' => hr j (by omega) (by omega)
    refine ⟨?_, hresult⟩
    rw [calls_append, calls_logged, hcalls, hcalls', ← List.flatten_cons, ← List.replicate_succ]

/-- A verdict comes from two digests in a row that agree. -/
theorem Settled.settlesAt {redos : Nat} {equal : Bool} {result : Except ProbeError Bool}
    (h : v.Settled session remote artifact redos before events result) (ht : AtRound t i)
    (hbefore : v.probe artifact b i = .ok before) (hf : Follows (Answers b.answer) t events last)
    (hresult : result = .ok equal) :
    ∃ k file x, k ≤ i + redos ∧ v.SettlesAt artifact session b i k file x := by
  induction h generalizing t i with
  | failed e h => cases hresult
  | exhausted after h => cases hresult
  | @ended _ before _ _ h =>
    obtain ⟨file, _, hlanding, hafter, -⟩ := h.of_settled ht hf
    exact ⟨i, file, before, by omega, Nat.le_refl i, fun j hj hj' => by omega, hlanding, hbefore,
      hafter⟩
  | redone after h hrest ih =>
    obtain ⟨hrestless, hafter, -, middle, hmiddle, hf⟩ := follows_redone ht hbefore h hf
    obtain ⟨k, file, x, hk, hs⟩ := ih hmiddle hafter hf hresult
    have hle := hs.le
    refine ⟨k, file, x, by omega, by omega, fun j hj hj' => ?_, hs.landing, hs.before, hs.after⟩
    by_cases hji : j = i
    · exact hji ▸ hrestless
    · exact hs.restless j (by omega) hj'

theorem follows_connected {reply : Except TransferError Session}
    (hf : Follows (Answers b.answer) Tally.zero (connected remote reply :: rest) last) :
    b (.connect remote) 0 = reply := (Replies.follows_exchanged.1 hf).1

/-- What comes before the first transfer. -/
theorem follows_probed {reply : Except TransferError Session} {reply' : Except ExecError String}
    (hf : Follows (Answers b.answer) Tally.zero
      (connected remote reply :: v.probed artifact reply' :: rest) last) :
    v.probe artifact b 0 = reading artifact.path reply' ∧
      ∃ t, AtRound t 0 ∧ Follows (Answers b.answer) t rest last := by
  obtain ⟨-, hprobed⟩ := Replies.follows_exchanged.1 hf
  obtain ⟨hreply, hrest⟩ := Replies.follows_exchanged.1 hprobed
  refine ⟨congrArg (reading artifact.path) hreply, _, ⟨?_, ?_, ?_, ?_⟩, hrest⟩ <;> rfl

theorem calls_probed (reply : Except TransferError Session) (reply' : Except ExecError String) :
    calls (connected remote reply :: v.probed artifact reply' :: rest) =
      .connect remote :: v.probeCall artifact :: calls rest := rfl

/-- Once there is a connection and a first digest, the attempts decide. -/
theorem Verified.settled {value : Bool} {y : Digest} (h : v.Verified remote artifact events value)
    (hf : Follows (Answers b.answer) Tally.zero events last)
    (hconnect : b (.connect remote) 0 = .ok session) (hprobe : v.probe artifact b 0 = .ok y) :
    ∃ attempts result t last',
      v.Settled session remote artifact v.maxRedos y attempts result ∧ AtRound t 0 ∧
      Follows (Answers b.answer) t attempts last' ∧
      calls events = .connect remote :: v.probeCall artifact :: calls attempts ∧
      (value = true ↔ result = .ok true) ∧
      ∀ e, result = .error e → .logged (failureEntry remote artifact e) ∈ events := by
  cases h with
  | unconnected e =>
    rw [follows_connected hf] at hconnect
    cases hconnect
  | unprobed session reply entry e h =>
    rw [(follows_probed hf).1, h] at hprobe
    cases hprobe
  | judged session' before equal h =>
    obtain rfl := Except.ok.inj ((follows_connected hf).symm.trans hconnect)
    obtain ⟨hbefore, t, ht, hattempts⟩ := follows_probed hf
    rw [hprobe, reading_line] at hbefore
    obtain rfl := Except.ok.inj hbefore
    exact ⟨_, _, t, _, h, ht, hattempts, calls_probed .., by simp, by simp⟩
  | rejected session' before e h =>
    obtain rfl := Except.ok.inj ((follows_connected hf).symm.trans hconnect)
    obtain ⟨hbefore, t, ht, hrest⟩ := follows_probed hf
    obtain ⟨middle, hattempts, -⟩ := follows_append.1 hrest
    rw [hprobe, reading_line] at hbefore
    obtain rfl := Except.ok.inj hbefore
    refine ⟨_, _, t, _, h, ht, hattempts, ?_, by simp, by simp⟩
    rw [List.cons_append, List.cons_append, calls_probed, calls_append, calls_logged]
    simp [calls]

/-- The artifact settles in time: the digest of the received file decides. -/
theorem Verified.of_stable {value : Bool} {k : Nat} {file : String} {x : Digest}
    (h : v.Verified remote artifact events value)
    (hf : Follows (Answers b.answer) Tally.zero events last)
    (hconnect : b (.connect remote) 0 = .ok session) (hs : v.Stable artifact session b k file x)
    (hk : k ≤ v.maxRedos) :
    calls events = .connect remote :: v.probeCall artifact ::
        (List.replicate (k + 1) (v.round artifact session)).flatten ++
          [v.comparisonCall file] ∧
      (value = true ↔ v.comparison b file (k + 2) = .ok x) := by
  obtain ⟨y, hy⟩ := hs.probes 0 (Nat.zero_le _)
  obtain ⟨attempts, result, t, last', h, ht, hf, hcalls, hvalue, -⟩ := h.settled hf hconnect hy
  obtain ⟨hattempts, hresult⟩ := h.of_settlesAt ht hy hf (stable_iff.1 hs) (by omega)
  refine ⟨?_, hvalue.trans hresult⟩
  rw [hcalls, hattempts, Nat.sub_zero]
  rfl

/-- The artifact never settles in time. -/
theorem Verified.of_restless {value : Bool} (h : v.Verified remote artifact events value)
    (hf : Follows (Answers b.answer) Tally.zero events last)
    (hconnect : b (.connect remote) 0 = .ok session)
    (hr : ∀ i ≤ v.maxRedos, v.Restless artifact session b i) :
    calls events = .connect remote :: v.probeCall artifact ::
        (List.replicate (v.maxRedos + 1) (v.round artifact session)).flatten ∧
      .logged (failureEntry remote artifact (v.unstable artifact)) ∈ events ∧ value = false := by
  obtain ⟨-, y, -, hy, -⟩ := hr 0 (Nat.zero_le _)
  obtain ⟨attempts, result, t, last', h, ht, hf, hcalls, hvalue, hlogged⟩ :=
    h.settled hf hconnect hy
  obtain ⟨hattempts, hresult⟩ := h.of_restless ht hy hf fun j _ hj => hr j (by omega)
  refine ⟨by rw [hcalls, hattempts], hlogged _ hresult, Bool.eq_false_iff.2 fun htrue => ?_⟩
  rw [hvalue.1 htrue] at hresult
  cases hresult

theorem Verified.stable (h : v.Verified remote artifact events true)
    (hf : Follows (Answers b.answer) Tally.zero events last) :
    ∃ session k file x, b (.connect remote) 0 = .ok session ∧ k ≤ v.maxRedos ∧
      v.Stable artifact session b k file x := by
  cases h with
  | judged session before equal h =>
    have hconnect := follows_connected hf
    obtain ⟨hprobe, t, ht, hf⟩ := follows_probed hf
    rw [reading_line] at hprobe
    obtain ⟨k, file, x, hk, hs⟩ := h.settlesAt ht hprobe hf rfl
    exact ⟨session, k, file, x, hconnect, by omega, stable_iff.2 hs⟩

/-- The verdict on an artifact and the calls that lead to it, for any behaviour of the ports. -/
theorem verifyEndpoint_verdict (v : Verifier) (remote : String) (artifact : Artifact)
    (b : Replies) :
    let run := (v.verifyEndpoint remote artifact).run b.answer Tally.zero
    (run.value = true ↔ ∃ session k file x, b (.connect remote) 0 = .ok session ∧
      k ≤ v.maxRedos ∧ v.Stable artifact session b k file x ∧
        v.comparison b file (k + 2) = .ok x) ∧
    (∀ session k file x, b (.connect remote) 0 = .ok session → k ≤ v.maxRedos →
      v.Stable artifact session b k file x →
        calls run.events = .connect remote :: v.probeCall artifact ::
          (List.replicate (k + 1) (v.round artifact session)).flatten ++
            [v.comparisonCall file]) ∧
    (∀ session, b (.connect remote) 0 = .ok session →
      (∀ i ≤ v.maxRedos, v.Restless artifact session b i) →
        calls run.events = .connect remote :: v.probeCall artifact ::
          (List.replicate (v.maxRedos + 1) (v.round artifact session)).flatten ∧
        .logged (failureEntry remote artifact (v.unstable artifact)) ∈ run.events ∧
        run.value = false) ∧
    FailsOnce run.events ∧ ((∃ e ∈ run.events, Failed e) → run.value = false) := by
  intro run
  have h : v.Verified remote artifact run.events run.value :=
    (v.verifyEndpoint_always remote artifact).run b.answer Tally.zero
  have hf : Follows (Answers b.answer) Tally.zero run.events run.state :=
    follows_run (v.verifyEndpoint remote artifact) b.answer Tally.zero
  refine ⟨⟨fun htrue => ?_, ?_⟩, ?_, ?_, h.failsOnce, ?_⟩
  · obtain ⟨session, k, file, x, hconnect, hk, hs⟩ := (htrue ▸ h).stable hf
    exact ⟨session, k, file, x, hconnect, hk, hs, (h.of_stable hf hconnect hs hk).2.1 htrue⟩
  · intro hstable
    obtain ⟨session, k, file, x, hconnect, hk, hs, hx⟩ := hstable
    exact (h.of_stable hf hconnect hs hk).2.2 hx
  · exact fun session k file x hconnect hk hs => (h.of_stable hf hconnect hs hk).1
  · exact fun session hconnect hr => h.of_restless hf hconnect hr
  · intro hfails
    obtain ⟨e, he, hfailed⟩ := hfails
    exact Bool.eq_false_iff.2 fun htrue => h.not_failed htrue e he hfailed

/-- A server that replaces its artifact once, while it is transferred first, and a host with room
for some scratch files. -/
def replacedOnce (digestOf : Text.Bytes → Digest) (old new : Text.Bytes) (room : Nat) : Replies
  | .connect remote, _ => .ok ⟨remote⟩
  | .exec _ _ [path], i => .ok ((digestOf (if i = 0 then old else new)).line path)
  | .createFile .., i => if i < room then some "Hk3vQ9" else none
  | .receive .., i => .ok { content := if i = 0 then old else new }
  | .writeFile .., _ => .ok ()
  | r, _ => Rehearsal.refusal r

/-- The events of a verification at such a server until the artifact settles, with room for two
files. -/
def transfersOnce (digestOf : Text.Bytes → Digest) (old new : Text.Bytes) : List Event :=
  let session : Session := ⟨"10.92.100.60"⟩
  let probe (content : Text.Bytes) := sampleVerifier.probed sampleArtifact
    (.ok ((digestOf content).line sampleArtifact.path))
  let created := sampleVerifier.created sampleArtifact (some "Hk3vQ9")
  [connected session.address (.ok session), probe old, created] ++
    sampleVerifier.arrival session sampleArtifact sampleFile { content := old } ++
    [probe new, removed sampleFile,
      .logged (sampleVerifier.redoEntry session.address sampleArtifact 0), created] ++
    sampleVerifier.arrival session sampleArtifact sampleFile { content := new } ++ [probe new]

/-- All events of that verification. -/
def eventsOnce (digestOf : Text.Bytes → Digest) (old new : Text.Bytes) : List Event :=
  transfersOnce digestOf old new ++
    [sampleVerifier.digested sampleFile (.ok ((digestOf new).line sampleFile)), removed sampleFile]

section Once
variable (digestOf : Text.Bytes → Digest) (old new : Text.Bytes) (room : Nat)

theorem probe_replacedOnce (i : Nat) :
    sampleVerifier.probe sampleArtifact (replacedOnce digestOf old new room) i =
      .ok (digestOf (if i = 0 then old else new)) := reading_line ..

theorem landing?_replacedOnce {i : Nat} (hi : i < room) :
    sampleVerifier.landing? sampleArtifact session (replacedOnce digestOf old new room) i =
      some sampleFile := by
  simp [landing?, replacedOnce, hi, sampleFile, Except.toOption]

theorem stable_replacedOnce (hne : digestOf new ≠ digestOf old) :
    sampleVerifier.Stable sampleArtifact session (replacedOnce digestOf old new 2) 1 sampleFile
      (digestOf new) where
  least := by
    refine ⟨⟨digestOf new, probe_replacedOnce .., probe_replacedOnce ..⟩, fun i hi => ?_⟩
    obtain ⟨y, hy, hy'⟩ := hi
    by_contra hlt
    obtain rfl : i = 0 := by omega
    rw [probe_replacedOnce] at hy hy'
    exact hne ((Except.ok.inj hy').trans (Except.ok.inj hy).symm)
  probes i _ := ⟨_, probe_replacedOnce ..⟩
  landings i hi := ⟨_, landing?_replacedOnce _ _ _ _ (by omega)⟩
  landing := landing?_replacedOnce _ _ _ _ (by decide)
  digest := probe_replacedOnce ..

theorem events_replacedOnce (hne : digestOf new ≠ digestOf old) :
    ((sampleVerifier.verifyEndpoint "10.92.100.60" sampleArtifact).run
      (replacedOnce digestOf old new 2).answer Tally.zero).events =
        eventsOnce digestOf old new := by
  simp [verifyEndpoint, transferAndCompare, settle, attempt, createScratch, transfer, fetch,
    compare, readDigest, Digest.ofOutput_line, Except.map, warn, logged, Procedure.run,
    Procedure.bind, Procedure.request, Bind.bind, Pure.pure, Replies.answer, replacedOnce,
    Tally.zero, Tally.count_apply, Request.kind, hne, sampleVerifier, sampleArtifact]
  rfl

theorem created_replacedOnce (hne : digestOf new ≠ digestOf old) :
    sampleVerifier.created sampleArtifact none ∈
      ((sampleVerifier.verifyEndpoint "10.92.100.60" sampleArtifact).run
        (replacedOnce digestOf old new 1).answer Tally.zero).events := by
  simp [verifyEndpoint, transferAndCompare, settle, attempt, createScratch, transfer, fetch,
    readDigest, Digest.ofOutput_line, warn, logged, Procedure.reject, Procedure.error,
    Procedure.run, Procedure.bind, Procedure.request, Bind.bind, Pure.pure, Replies.answer,
    replacedOnce, Tally.zero, Tally.count_apply, Request.kind, hne, sampleVerifier, sampleArtifact,
    created]

end Once

/-- With room for two files the second transfer settles the artifact. With room for one its file
cannot be created, and nothing is called behind that. -/
theorem verifyEndpoint_verdict_by_room :
    let run (room : Nat) := (sampleVerifier.verifyEndpoint "10.92.100.60" sampleArtifact).run
      (replacedOnce Rehearsal.Md5.digestOf [1] [2] room).answer Tally.zero
    (run 2).value = true ∧
    calls (run 2).events =
      [.connect "10.92.100.60", sampleVerifier.probeCall sampleArtifact] ++
        sampleVerifier.round sampleArtifact ⟨"10.92.100.60"⟩ ++
        sampleVerifier.round sampleArtifact ⟨"10.92.100.60"⟩ ++
        [sampleVerifier.comparisonCall sampleFile] ∧
    (run 1).value = false ∧ sampleVerifier.created sampleArtifact none ∈ (run 1).events ∧
      FailsOnce (run 1).events := by
  intro run
  have hne : Rehearsal.Md5.digestOf [2] ≠ Rehearsal.Md5.digestOf [1] := by decide +kernel
  have verdict (room : Nat) := verifyEndpoint_verdict sampleVerifier "10.92.100.60" sampleArtifact
    (replacedOnce Rehearsal.Md5.digestOf [1] [2] room)
  have hstable : sampleVerifier.Stable sampleArtifact ⟨"10.92.100.60"⟩
      (replacedOnce Rehearsal.Md5.digestOf [1] [2] 2) 1 sampleFile _ :=
    stable_replacedOnce _ _ _ hne
  obtain ⟨hpasses, hcalls, -⟩ := verdict 2
  obtain ⟨-, -, -, honce, hfails⟩ := verdict 1
  have hcreated := created_replacedOnce Rehearsal.Md5.digestOf [1] [2] hne
  refine ⟨?_, ?_, hfails ⟨_, hcreated, rfl⟩, hcreated, honce⟩
  · exact hpasses.2 ⟨_, 1, _, _, rfl, Nat.le_refl 1, hstable, reading_line ..⟩
  · exact hcalls _ 1 _ _ rfl (Nat.le_refl 1) hstable

end Verifier
end ClusterHealth.Transfer

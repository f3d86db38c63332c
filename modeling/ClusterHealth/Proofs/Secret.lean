import ClusterHealth.Gateway
import ClusterHealth.Proofs.Json.Paths
import ClusterHealth.Proofs.Json.Records
import ClusterHealth.Proofs.Text.Base64
import ClusterHealth.Proofs.Text.Blank

/-! The secret in a document of the cluster: whatever text is encoded is read back without the white
space around it, and nothing else is accepted. -/
namespace ClusterHealth.Gateway

/-- The text that a document has under a key in its data. -/
def dataText? (json key : String) : Option String := do
  (← (← Json.parse? json).at? ["data", key]).string?

/-- The text under the key is what `text` is encoded as, with white space around it or not. -/
def Carries (json key text : String) : Prop :=
  ∃ front back, Text.blank front = true ∧ Text.blank back = true ∧ dataText? json key =
    some (front ++ .ofList (Text.Base64.encode (Text.encodeUtf8 text)) ++ back)

variable {json key encoded text secret : String}

theorem dataText?_eq_some_iff : dataText? json key = some encoded ↔
    ∃ document, Json.parse? json = some document ∧
      (document.field? "data").bind (Json.field? key) = some (.string encoded) := by
  have hpath (document : Json) :
      document.at? ["data", key] = (document.field? "data").bind (Json.field? key) := by
    rw [Json.at?]
    exact congrArg _ (funext fun value => Json.at?_singleton value key)
  unfold dataText?
  simp only [Option.bind_eq_bind, Option.bind_eq_some_iff, hpath, Json.string?_eq_some]
  simp

/-! What the text under the key stands for. -/

/-- The text that is encoded, if it is one. -/
def decoded? (encoded : String) : Option String :=
  (Text.Base64.decode? (Text.trim encoded).toList).bind Text.decodeUtf8?

theorem decoded?_eq_some_iff : decoded? encoded = some text ↔
    ∃ front back, Text.blank front = true ∧ Text.blank back = true ∧
      encoded = front ++ .ofList (Text.Base64.encode (Text.encodeUtf8 text)) ++ back := by
  have htrimmed : Text.Trimmed
      (String.ofList (Text.Base64.encode (Text.encodeUtf8 text))).toList := by
    rw [String.toList_ofList]
    exact .of_forall (Text.Base64.not_isBlank_encode _)
  have hplain : decoded? encoded = some text ↔
      Text.trim encoded = .ofList (Text.Base64.encode (Text.encodeUtf8 text)) := by
    unfold decoded?
    rw [Option.bind_eq_some_iff]
    simp only [Text.Base64.decode?_eq_some_iff, Text.decodeUtf8?_eq_some_iff]
    rw [← String.toList_inj, String.toList_ofList]
    constructor
    · rintro ⟨bytes, hbytes, rfl⟩
      exact hbytes
    · intro h
      exact ⟨_, h, rfl⟩
  rw [hplain, Text.trim_eq_iff]
  exact and_iff_right htrimmed

theorem carries_iff : Carries json key text ↔ (dataText? json key).bind decoded? = some text := by
  rw [Option.bind_eq_some_iff]
  simp only [decoded?_eq_some_iff]
  constructor
  · rintro ⟨front, back, hfront, hback, htext⟩
    exact ⟨_, htext, front, back, hfront, hback, rfl⟩
  · rintro ⟨encoded, htext, front, back, hfront, hback, rfl⟩
    exact ⟨front, back, hfront, hback, htext⟩

theorem Carries.unique {other : String} (h : Carries json key text)
    (hother : Carries json key other) : text = other := by
  rw [carries_iff] at h hother
  exact Option.some.inj (h.symm.trans hother)

/-- The text that is carried is returned without the white space around it, unless there is no
more to it. Nothing else is returned. -/
theorem secretOfJson_cases (json key : String) :
    (∃ text, Carries json key text ∧ Text.blank text = false ∧
      secretOfJson json key = .ok (Text.trim text)) ∨
    (∀ text, Carries json key text → Text.blank text = true) ∧
      ∃ reason, secretOfJson json key = .error (.token reason) := by
  simp only [carries_iff]
  cases hencoded : dataText? json key with
  | none =>
    refine .inr ⟨nofun, ?_⟩
    unfold secretOfJson
    split
    · rename_i document hdocument
      split
      · rename_i encoded hfield
        rw [dataText?_eq_some_iff.2 ⟨document, hdocument, hfield⟩] at hencoded
        cases hencoded
      · exact ⟨_, rfl⟩
    · exact ⟨_, rfl⟩
  | some encoded =>
    obtain ⟨document, hdocument, hfield⟩ := dataText?_eq_some_iff.1 hencoded
    rw [Option.bind_some]
    unfold secretOfJson decoded?
    rw [hdocument]
    dsimp only
    rw [hfield]
    dsimp only
    cases hbytes : Text.Base64.decode? (Text.trim encoded).toList with
    | none => exact .inr ⟨nofun, _, rfl⟩
    | some bytes =>
      rw [Option.bind_some]
      dsimp only
      cases Text.decodeUtf8? bytes with
      | none => exact .inr ⟨nofun, _, rfl⟩
      | some text =>
        dsimp only
        cases hblank : Text.blank text with
        | true =>
          refine .inr ⟨fun other hother => ?_, ?_⟩
          · obtain rfl := Option.some.inj hother
            exact hblank
          · rw [Text.trim_eq_empty_iff.2 hblank]
            exact ⟨_, rfl⟩
        | false =>
          refine .inl ⟨text, rfl, hblank, ?_⟩
          have hfilled : (Text.trim text).isEmpty = false := by
            rw [← Bool.not_eq_true, String.isEmpty_iff, Text.trim_eq_empty_iff, hblank]
            exact Bool.false_ne_true
          rw [hfilled]
          rfl

/-- Any text can stand under any key. -/
theorem exists_dataText? (key value : String) : ∃ json, dataText? json key = some value := by
  obtain ⟨label, hlabel⟩ := Json.exists_spells key.toList
  obtain ⟨body, hbody⟩ := Json.exists_spells value.toList
  have hdata : Json.Spells ['d', 'a', 't', 'a'] "data".toList := .of_plain (by decide)
  have hinner : (Json.Document.object [(label, .string body)]).Writable :=
    Json.writable_object (List.forall_mem_singleton.2 ⟨hlabel.isBody, _, .string hbody.isBody⟩)
  have houter :
      (Json.Document.object [(['d', 'a', 't', 'a'], .object [(label, .string body)])]).Writable :=
    Json.writable_object (List.forall_mem_singleton.2 ⟨hdata.isBody, hinner⟩)
  obtain ⟨chars, hchars⟩ := houter
  obtain ⟨json, rfl⟩ : ∃ json : String, json.toList = chars := ⟨.ofList chars, String.toList_ofList⟩
  have hparse : Json.parse? json =
      some (.ofFields [("data", .ofFields [(key, .string value)])]) := by
    unfold Json.parse?
    rw [Json.parse?_of_written hchars]
    simp [Json.ofDocument?, Json.ofMembers?, Json.depthBound, Json.decodeText?_of_spells hdata,
      Json.decodeText?_of_spells hlabel, Json.decodeText?_of_spells hbody]
  refine ⟨json, dataText?_eq_some_iff.2 ⟨_, hparse, ?_⟩⟩
  have hfield (name : String) (inner : Json) :
      (Json.ofFields [(name, inner)]).field? name = some inner :=
    Json.field?_ofFields (List.pairwise_singleton _ _) List.mem_cons_self
  rw [hfield, Option.bind_some, hfield]

/-- A text with more than white space in it is returned, without the white space around it, from
every document that has it encoded under the key. Whatever is returned comes from such a document,
and in all other cases there is no token. -/
theorem secretOfJson_decodes :
    (∀ key value, ∃ json, dataText? json key = some value) ∧ ∀ json key,
      (∀ text, Carries json key text → Text.blank text = false →
        secretOfJson json key = .ok (Text.trim text)) ∧
      (∀ secret, secretOfJson json key = .ok secret → secret ≠ "" ∧ Text.Trimmed secret.toList ∧
        ∃ text, Carries json key text ∧ Text.trim text = secret) ∧
      ((∀ text, Carries json key text → Text.blank text = true) →
        ∃ reason, secretOfJson json key = .error (.token reason)) := by
  refine ⟨exists_dataText?, fun json key => ?_⟩
  rcases secretOfJson_cases json key with ⟨text, htext, hblank, hok⟩ | ⟨hnone, reason, herror⟩
  · refine ⟨fun other hother _ => ?_, fun secret hsecret => ?_, fun hnone => ?_⟩
    · rw [hother.unique htext, hok]
    · obtain rfl := Except.ok.inj (hok.symm.trans hsecret)
      refine ⟨fun hempty => ?_, (Text.trim_eq_iff.1 rfl).1, text, htext, rfl⟩
      rw [Text.trim_eq_empty_iff, hblank] at hempty
      cases hempty
    · rw [hnone text htext] at hblank
      cases hblank
  · refine ⟨fun text htext hblank => ?_, fun secret hsecret => ?_, fun _ => ⟨reason, herror⟩⟩
    · rw [hnone text htext] at hblank
      cases hblank
    · rw [herror] at hsecret
      cases hsecret

/-- A secret as the cluster keeps it. -/
def keptSecret : String := "\x7b\"data\": \x7b\"client-secret\": \" czM+YzM/dA==\"\x7d\x7d"

theorem secretOfJson_decodes_kept :
    secretOfJson keptSecret "client-secret" = .ok "s3>c3?t" ∧
      ∃ reason, secretOfJson keptSecret "secret" = .error (.token reason) := by
  have hcarries : Carries keptSecret "client-secret" "s3>c3?t" :=
    ⟨" ", "", by decide, by decide, by decide +kernel⟩
  have hnone : (dataText? keptSecret "secret").bind decoded? = none := by decide +kernel
  refine ⟨(secretOfJson_decodes.2 keptSecret _).1 "s3>c3?t" hcarries (by decide), ?_⟩
  refine (secretOfJson_decodes.2 keptSecret "secret").2.2 fun text htext => ?_
  rw [carries_iff, hnone] at htext
  cases htext

end ClusterHealth.Gateway

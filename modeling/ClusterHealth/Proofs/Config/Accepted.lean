import ClusterHealth.Config.Validation
import ClusterHealth.Harness
import ClusterHealth.Log.Settings
import Mathlib.Data.List.Basic

/-! What an accepted configuration says is in effect, its rotation apart: texts for that are not
looked at before the log is set up. -/
namespace ClusterHealth

namespace Transfer.Mode

/-- A text of any case names a mode. -/
theorem parse?_eq_some {text : String} {mode : Mode} :
    parse? text = some mode ↔ Text.lowercase text = mode.name := by
  constructor
  · intro h
    unfold parse? at h
    split at h
    · rename_i hname
      obtain rfl := Option.some.inj h
      exact hname
    · rename_i hname
      obtain rfl := Option.some.inj h
      exact hname
    · cases h
  · intro h
    unfold parse?
    rw [h]
    cases mode with
    | octet => rfl
    | netascii => rfl

end Transfer.Mode

namespace Log

def Threshold.name : Threshold → String
  | .trace => "trace"
  | .debug => "debug"
  | .info => "info"
  | .warn => "warn"
  | .error => "error"

theorem Threshold.parse?_name (t : Threshold) : parse? t.name = some t := by
  cases t <;> decide

theorem Format.name_parse {text : String} (h : text ∈ Config.logFormats) :
    (Format.parse text).name = text := by
  revert text
  decide

theorem Rotation.parse_name (r : Rotation) : Rotation.parse r.name = r := by
  cases r <;> rfl

theorem Rotation.parse_of_unnamed {text : String} (h : ∀ r : Rotation, r.name ≠ text) :
    Rotation.parse text = .daily := by
  unfold Rotation.parse
  split
  · exact absurd rfl (h .hourly)
  · exact absurd rfl (h .never)
  · rfl

/-- The log is written as a configuration says. Only a text that names no rotation is replaced. -/
structure Settings.Follows (s : Settings) (logging : Config.Logging) : Prop where
  level : s.level = logging.level
  threshold : ∃ t, Threshold.parse? s.level = some t ∧ t.name = logging.level
  format : s.format.name = logging.format
  dir : s.dir = logging.dir
  rotation : s.rotation.name = logging.rotation ∨
    s.rotation = .daily ∧ ∀ r : Rotation, r.name ≠ logging.rotation

theorem Settings.ofConfig_follows {logging : Config.Logging}
    (hlevel : logging.level ∈ Config.logLevels) (hformat : logging.format ∈ Config.logFormats) :
    (ofConfig logging).Follows logging where
  level := rfl
  threshold := by
    have hnamed : ∀ text ∈ Config.logLevels, ∃ t : Threshold, t.name = text := by
      simp only [Config.logLevels, List.forall_mem_cons, List.not_mem_nil, IsEmpty.forall_iff,
        implies_true, and_true]
      exact ⟨⟨.trace, rfl⟩, ⟨.debug, rfl⟩, ⟨.info, rfl⟩, ⟨.warn, rfl⟩, ⟨.error, rfl⟩⟩
    obtain ⟨t, ht⟩ := hnamed _ hlevel
    have hname : (ofConfig logging).level = t.name := ht.symm
    refine ⟨t, ?_, ht⟩
    rw [hname]
    exact t.parse?_name
  format := Format.name_parse hformat
  dir := rfl
  rotation := by
    by_cases hnamed : ∃ r : Rotation, r.name = logging.rotation
    · obtain ⟨r, hr⟩ := hnamed
      change (Rotation.parse logging.rotation).name = _ ∨ _
      rw [← hr, r.parse_name]
      exact .inl rfl
    · rw [not_exists] at hnamed
      exact .inr ⟨Rotation.parse_of_unnamed hnamed, hnamed⟩

end Log

namespace Config
variable {c : Config}

theorem validate_eq_ok_iff_fault? : c.validate = .ok () ↔ c.fault? = none := by
  unfold validate
  cases c.fault? with
  | none => exact ⟨fun _ => rfl, fun _ => rfl⟩
  | some e => exact ⟨nofun, nofun⟩

/-- What is accepted. -/
structure Acceptable (c : Config) : Prop where
  nspace : Text.blank c.nspace = false
  defaultSeconds : c.timeouts.defaultSeconds ≠ 0
  services : ∀ entry ∈ c.timeouts.perService, (ServiceKey.parse? entry.1).isSome = true
  artifactDir : Text.startsWith c.transfers.artifactDir "/" = true
  maxRedos : c.transfers.maxRedos ≠ 0
  mode : (Transfer.Mode.parse? c.transfers.mode).isSome = true
  baseUrl : isWebUrl c.gateway.baseUrl = true
  level : c.logging.level ∈ logLevels
  format : c.logging.format ∈ logFormats

theorem ite_some_eq_none {p : Prop} [Decidable p] {α : Type} {a : α} {rest : Option α} :
    (if p then some a else rest) = none ↔ ¬p ∧ rest = none := by
  by_cases hp : p
  · simp [hp]
  · simp [hp]

theorem find?_perService {services : NameMap Nat} :
    services.find? (fun (key, _) => (ServiceKey.parse? key).isNone) = none ↔
      ∀ entry ∈ services, (ServiceKey.parse? entry.1).isSome = true := by
  simp [List.find?_eq_none, Option.isSome_iff_ne_none]

theorem validate_eq_ok_iff : c.validate = .ok () ↔ c.Acceptable := by
  rw [validate_eq_ok_iff_fault?]
  unfold fault?
  rw [ite_some_eq_none, ite_some_eq_none]
  constructor
  · rintro ⟨hnspace, hdefault, h⟩
    split at h
    · cases h
    · rename_i hfind
      simp only [ite_some_eq_none] at h
      obtain ⟨hdir, hredos, hmode, hurl, hlevel, hformat, -⟩ := h
      exact ⟨by simpa using hnspace, hdefault, find?_perService.1 hfind, by simpa using hdir,
        hredos, by simpa [Option.isSome_iff_ne_none] using hmode, by simpa using hurl,
        by simpa using hlevel, by simpa using hformat⟩
  · intro h
    refine ⟨by simp [h.nspace], h.defaultSeconds, ?_⟩
    rw [find?_perService.2 h.services]
    simp only [ite_some_eq_none]
    exact ⟨by simp [h.artifactDir], h.maxRedos, by simpa [Option.isSome_iff_ne_none] using h.mode,
      by simp [h.baseUrl], by simpa using h.level, by simpa using h.format, trivial⟩

/-- What an accepted configuration says is in effect: its mode, its level and its format have their
names in it. Its rotation is replaced by the daily one unless it is named, and is not looked at. -/
theorem validate_in_effect (h : c.validate = .ok ()) :
    (∃ mode, Harness.ofConfig c = .ok ⟨c, mode⟩ ∧
        Text.lowercase c.transfers.mode = mode.name) ∧
      (Log.Settings.ofConfig c.logging).Follows c.logging ∧
      ∀ rotation,
        ({ c with logging := { c.logging with rotation } } : Config).validate = .ok () := by
  have hc := validate_eq_ok_iff.1 h
  refine ⟨?_, Log.Settings.ofConfig_follows hc.level hc.format, fun rotation => h⟩
  obtain ⟨mode, hmode⟩ := Option.isSome_iff_exists.1 hc.mode
  refine ⟨mode, ?_, Transfer.Mode.parse?_eq_some.1 hmode⟩
  unfold Harness.ofConfig
  rw [hmode]

/-- The defaults, but for the text that a rotation has. -/
def rotated (rotation : String) : Config :=
  { default with logging := { Logging.default with rotation } }

theorem validate_in_effect_rotated :
    (rotated "weekly").validate = .ok () ∧
      (∃ mode, Harness.ofConfig (rotated "weekly") = .ok ⟨rotated "weekly", mode⟩) ∧
      (Log.Settings.ofConfig (rotated "weekly").logging).Follows (rotated "weekly").logging ∧
      (rotated "hourly").validate = .ok () := by
  have hvalid : (rotated "weekly").validate = .ok () := rfl
  obtain ⟨⟨mode, hmode, -⟩, hfollows, hany⟩ := validate_in_effect hvalid
  exact ⟨hvalid, ⟨mode, hmode⟩, hfollows, hany "hourly"⟩

/-- A rotation that is accepted may be neither in effect as it is nor in lower case. -/
theorem exists_rotation_replaced :
    ¬∀ c : Config, c.validate = .ok () →
      (Log.Settings.ofConfig c.logging).rotation.name = c.logging.rotation ∨
        (Log.Settings.ofConfig c.logging).rotation.name = Text.lowercase c.logging.rotation := by
  intro h
  have hreplaced := h (rotated "Hourly") rfl
  revert hreplaced
  decide +kernel

end Config
end ClusterHealth

import ClusterHealth.Config.Validation

/-! Which timeouts of an accepted configuration take effect. White space around the name of a
service is accepted, but a timeout under such a name is never looked up. -/
namespace ClusterHealth
namespace ServiceKey
variable {text : String} {key : ServiceKey}

theorem trim_of_parse? (h : parse? text = some key) : Text.trim text = key.name := by
  unfold parse? at h
  have hname := List.find?_some h
  exact (beq_iff_eq.1 hname).symm

theorem parse?_name (key : ServiceKey) : parse? key.name = some key := by
  cases key with
  | _ => decide +kernel

/-- A text that is not itself the name of the key that it stands for is the name of none. -/
theorem ne_name_of_parse? (h : parse? text = some key) (hplain : text ≠ key.name)
    (other : ServiceKey) : other.name ≠ text := by
  rintro rfl
  obtain rfl := Option.some.inj ((parse?_name other).symm.trans h)
  exact hplain rfl

end ServiceKey

namespace Config
variable {c : Config} {name : String} {seconds : Nat}

/-- An accepted configuration has timeouts of services only. -/
theorem exists_key_of_validate (h : c.validate = .ok ())
    (hentry : (name, seconds) ∈ c.timeouts.perService) :
    ∃ key, ServiceKey.parse? name = some key := by
  have hfault : c.fault? = none := by
    unfold validate at h
    split at h
    · cases h
    · assumption
  have hknown :
      c.timeouts.perService.find? (fun entry => (ServiceKey.parse? entry.1).isNone) = none := by
    unfold fault? at hfault
    split at hfault
    · cases hfault
    · split at hfault
      · cases hfault
      · split at hfault
        · cases hfault
        · rename_i hnone
          exact hnone
  have hname := List.find?_eq_none.1 hknown (name, seconds) hentry
  exact Option.ne_none_iff_exists'.1 fun hnone => hname (Option.isNone_iff_eq_none.2 hnone)

namespace Timeouts
variable {t : Timeouts}

theorem forService_of_mem {key : ServiceKey} (hnames : (t.perService.map Prod.fst).Nodup)
    (hentry : (key.name, seconds) ∈ t.perService) : t.forService key = seconds := by
  obtain ⟨before, behind, hsplit⟩ := List.append_of_mem hentry
  have hlookup : t.perService.lookup key.name = some seconds := by
    refine List.lookup_eq_some_iff.2 ⟨before, behind, hsplit, fun entry hbefore => ?_⟩
    rw [hsplit, List.map_append, List.map_cons] at hnames
    have hnew := (List.nodup_append.1 hnames).2.2 entry.1 (List.mem_map_of_mem hbefore)
    exact bne_iff_ne.2 fun hsame => hnew _ List.mem_cons_self hsame.symm
  rw [forService, hlookup]
  rfl

/-- The timeouts without those under a name. -/
def without (t : Timeouts) (name : String) : Timeouts :=
  { t with perService := t.perService.filter (·.1 ≠ name) }

theorem forService_without (h : ∀ key : ServiceKey, key.name ≠ name) (key : ServiceKey) :
    (t.without name).forService key = t.forService key := by
  have hlookup : (t.without name).perService.lookup key.name = t.perService.lookup key.name := by
    unfold without
    dsimp only
    induction t.perService with
    | nil => rfl
    | cons entry rest ih =>
      by_cases hentry : entry.1 = name
      · have hother : (key.name == entry.1) = false := beq_eq_false_iff_ne.2 (hentry ▸ h key)
        rw [List.filter_cons_of_neg (by simpa using hentry), List.lookup_cons, hother]
        exact ih
      · rw [List.filter_cons_of_pos (by simpa using hentry), List.lookup_cons, List.lookup_cons,
          ih]
  rw [forService, hlookup]
  rfl

end Timeouts

/-- A timeout takes effect under the plain name of its service, and none otherwise. -/
theorem forService_of_validate (h : c.validate = .ok ())
    (hnames : (c.timeouts.perService.map Prod.fst).Nodup)
    (hentry : (name, seconds) ∈ c.timeouts.perService) :
    ∃ key, ServiceKey.parse? name = some key ∧ Text.trim name = key.name ∧
      if name = key.name then c.timeouts.forService key = seconds
      else ∀ other, (c.timeouts.without name).forService other = c.timeouts.forService other := by
  obtain ⟨key, hkey⟩ := exists_key_of_validate h hentry
  refine ⟨key, hkey, ServiceKey.trim_of_parse? hkey, ?_⟩
  split
  · rename_i hplain
    subst hplain
    exact Timeouts.forService_of_mem hnames hentry
  · rename_i hpadded
    exact Timeouts.forService_without (ServiceKey.ne_name_of_parse? hkey hpadded)

/-- The default configuration with one more timeout, under a name with a blank before it. -/
def padded : Config :=
  let perService := (" ims", 100) :: Timeouts.default.perService
  { default with timeouts := { Timeouts.default with perService } }

theorem forService_of_validate_default_padded :
    (default.validate = .ok () ∧ default.timeouts.forService .bos = 300) ∧
      padded.validate = .ok () ∧ ∀ other,
        (padded.timeouts.without " ims").forService other = padded.timeouts.forService other := by
  have hdefault : default.validate = .ok () := rfl
  have hpadded : padded.validate = .ok () := rfl
  have hbos : ("bos", 300) ∈ default.timeouts.perService := by decide
  have hims : (" ims", 100) ∈ padded.timeouts.perService := List.mem_cons_self
  obtain ⟨key, hkey, -, hplain⟩ := forService_of_validate hdefault (by decide) hbos
  obtain ⟨other, hother, -, hnone⟩ := forService_of_validate hpadded (by decide) hims
  obtain rfl : ServiceKey.bos = key := Option.some.inj ((by decide +kernel : _ = _).trans hkey)
  obtain rfl : ServiceKey.ims = other := Option.some.inj ((by decide +kernel : _ = _).trans hother)
  rw [if_pos (by decide)] at hplain
  rw [if_neg (by decide)] at hnone
  exact ⟨⟨hdefault, hplain⟩, hpadded, hnone⟩

/-- Not every accepted timeout takes effect. -/
theorem exists_ignored_timeout :
    ¬∀ (c : Config) (name : String) (seconds : Nat) (key : ServiceKey),
      c.validate = .ok () → (c.timeouts.perService.map Prod.fst).Nodup →
      (name, seconds) ∈ c.timeouts.perService → ServiceKey.parse? name = some key →
        c.timeouts.forService key = seconds := by
  intro h
  have hims : (" ims", 100) ∈ padded.timeouts.perService := List.mem_cons_self
  have hseconds := h padded " ims" 100 .ims rfl (by decide) hims (by decide +kernel)
  exact absurd hseconds (by decide +kernel)

end Config
end ClusterHealth

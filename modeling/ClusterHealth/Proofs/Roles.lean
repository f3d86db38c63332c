import ClusterHealth.Checks.Vcs
import ClusterHealth.Proofs.Text.Names
import Mathlib.Data.List.Basic

/-! The pods of version control, told apart by their names: each name shows one role at most, so
that roles can be looked for in any order. -/
namespace ClusterHealth.Checks.Vcs

/-- The names of the pods in a role. -/
def Role.Names : Role → String → Prop
  | .waitJob, name => JobNamed "gitea-vcs-wait-for-postgres-" name
  | .backup, name => Text.startsWith name "gitea-vcs-postgresql-db-backup-" = true
  | .postgres, name => Text.startsWith name "gitea-vcs-postgres-" = true
  | .other, _ => False

instance (role : Role) (name : String) : Decidable (role.Names name) :=
  match role with
  | .waitJob => decidable_of_iff _ isJobName_iff
  | .backup | .postgres => inferInstanceAs (Decidable (_ = true))
  | .other => inferInstanceAs (Decidable False)

/-- The roles that have names of their own. -/
def Role.named : List Role := [.waitJob, .backup, .postgres]

/-- How all names of a role begin. -/
def Role.stem : Role → String
  | .waitJob => "gitea-vcs-wait-for-postgres-"
  | .backup => "gitea-vcs-postgresql-db-backup-"
  | .postgres => "gitea-vcs-postgres-"
  | .other => ""

theorem Role.Names.startsWith {role : Role} {name : String} (h : role.Names name) :
    Text.startsWith name role.stem = true := by
  cases role with
  | waitJob => exact JobNamed.startsWith h
  | backup => exact h
  | postgres => exact h
  | other => exact h.elim

theorem Role.Names.mem_named {role : Role} {name : String} (h : role.Names name) :
    role ∈ Role.named := by
  cases role with
  | other => exact h.elim
  | _ => decide

theorem Role.Names.unique {a b : Role} {name : String} (ha : a.Names name) (hb : b.Names name) :
    a = b := by
  have hapart : ∀ a ∈ Role.named, ∀ b ∈ Role.named, a ≠ b →
      ¬(a.stem.toList <+: b.stem.toList ∨ b.stem.toList <+: a.stem.toList) := by decide
  by_contra hne
  have hstems := hapart a ha.mem_named b hb.mem_named hne
  have hother := Text.not_startsWith_of_apart ha.startsWith hstems
  exact Bool.false_ne_true (hother.symm.trans hb.startsWith)

/-- The first of some roles that has the name of a pod. -/
def roleIn (order : List Role) (pod : Pod) : Role :=
  (order.find? (·.Names pod.name)).getD .other

theorem find?_role_eq_some_iff {order : List Role} (h : order.Perm Role.named) {name : String}
    {role : Role} : order.find? (·.Names name) = some role ↔ role.Names name := by
  constructor
  · intro hfound
    have hfits := List.find?_some hfound
    exact of_decide_eq_true hfits
  · intro hname
    have hmem : role ∈ order := h.mem_iff.2 hname.mem_named
    cases hfound : order.find? (·.Names name) with
    | none => exact absurd (decide_eq_true hname) (List.find?_eq_none.1 hfound role hmem)
    | some found =>
      have hfits := List.find?_some hfound
      rw [(of_decide_eq_true hfits).unique hname]

theorem roleIn_eq_of_perm {order order' : List Role} (h : order.Perm Role.named)
    (h' : order'.Perm Role.named) (pod : Pod) : roleIn order pod = roleIn order' pod := by
  have hfound : order.find? (·.Names pod.name) = order'.find? (·.Names pod.name) :=
    Option.ext fun role => (find?_role_eq_some_iff h).trans (find?_role_eq_some_iff h').symm
  rw [roleIn, hfound, roleIn]

theorem role_eq_roleIn_named (pod : Pod) : role pod = roleIn Role.named pod := by
  have hjob : decide (Role.waitJob.Names pod.name) = isWaitJob pod := by
    rw [Bool.eq_iff_iff, decide_eq_true_iff]
    exact isJobName_iff.symm
  have hbackup : decide (Role.backup.Names pod.name) = isBackup pod := by
    rw [Bool.eq_iff_iff, decide_eq_true_iff]
    rfl
  have hpostgres : decide (Role.postgres.Names pod.name) = isPostgres pod := by
    rw [Bool.eq_iff_iff, decide_eq_true_iff]
    rfl
  unfold role roleIn Role.named
  simp only [List.find?_cons, hjob, hbackup, hpostgres]
  cases isWaitJob pod with
  | true => rfl
  | false =>
    cases isBackup pod with
    | true => rfl
    | false =>
      cases isPostgres pod with
      | true => rfl
      | false => rfl

/-- The order in which roles are tried is of no account. -/
theorem roleIn_eq_role {order : List Role} (h : order.Perm Role.named) : roleIn order = role :=
  funext fun pod => (roleIn_eq_of_perm h (.refl _) pod).trans (role_eq_roleIn_named pod).symm

/-- No name has to be tried for other roles first. -/
theorem role_eq_iff {pod : Pod} {named : Role} (hnamed : named ≠ .other) :
    role pod = named ↔ named.Names pod.name := by
  rw [role_eq_roleIn_named, ← find?_role_eq_some_iff (.refl Role.named), roleIn,
    Option.getD_eq_iff]
  exact or_iff_left fun h => hnamed h.2.symm

end ClusterHealth.Checks.Vcs

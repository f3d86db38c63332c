import ClusterHealth.Checks.BootArtifacts
import ClusterHealth.Proofs.Runs

/-! Artifacts are transferred one after another, each of them from each service. -/
namespace ClusterHealth.Checks.BootArtifacts
open Procedure
variable (b : BootArtifacts)

/-- Each service with each artifact of each builder. -/
def combinations (builders : List Builder) : List (String × Transfer.Artifact) :=
  b.settings.services.flatMap fun service =>
    builders.flatMap fun builder =>
      builder.artifacts.map fun name =>
        (service, .inDir name b.settings.artifactDir (b.container builder.pod))

theorem transfers_eq (builders : List Builder) :
    b.transfers builders = forAll (b.combinations builders) fun item =>
      b.verifier.verifyService item.1 item.2 := by
  unfold combinations
  simp only [forAll_flatMap, forAll_map]
  rfl

/-- What comes of transfers that are made one after another. They pass if each of them does. -/
def Transferred (answer : (r : Request) → σ → Reply r × σ) (state : σ) (builders : List Builder)
    (events : List Event) (passed : Bool) : Prop :=
  let outcomes := runsInTurn answer
    ((b.combinations builders).map fun item => b.verifier.verifyService item.1 item.2) state
  events = outcomes.flatMap (·.events) ∧
    (passed = true ↔ ∀ outcome ∈ outcomes, outcome.value = true)

theorem transferred_run (answer : (r : Request) → σ → Reply r × σ) (state : σ)
    (builders : List Builder) :
    b.Transferred answer state builders ((b.transfers builders).run answer state).events
      ((b.transfers builders).run answer state).value := by
  obtain ⟨hevents, hvalue⟩ := run_forAll answer (b.combinations builders)
    (fun item => b.verifier.verifyService item.1 item.2) state
  rw [transfers_eq]
  refine ⟨hevents, ?_⟩
  rw [hvalue, List.all_eq_true]

end ClusterHealth.Checks.BootArtifacts

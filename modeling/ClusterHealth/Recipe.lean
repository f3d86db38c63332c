import ClusterHealth.Text.Affix

/-! Image recipes. -/
namespace ClusterHealth

/-- A recipe and the distribution that it builds. -/
structure Recipe where
  name : String
  distro : String
  deriving DecidableEq

namespace Recipe

def text (r : Recipe) : String := s!"{r.name} ({r.distro})"

/-- Pods that import a recipe have its name, and more after a dash, behind a common beginning. -/
def ownsInitPod (r : Recipe) (pod : String) : Bool :=
  Text.startsWith pod s!"cray-init-recipe-{r.name}-"

end Recipe
end ClusterHealth

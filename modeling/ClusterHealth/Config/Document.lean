import ClusterHealth.Config.Loading

/-!
The configuration in a document that is read as it is: nothing lies under it, and defaults stand
only for the settings that it leaves out.
-/
namespace ClusterHealth.Config
open Yaml (Node Document)

/-- The entries of a mapping by the texts of their keys, with references followed. -/
def entriesIn? (d : Document) (node : Node) : Option (List (String × Node)) := do
  (← node.entries?).mapM fun (key, value) => do
    return (← (d.resolve key).text?, d.resolve value)

/-- The values of known settings, each of which is given once at most; a list gives them in the
order of their names. -/
def sectionIn? (d : Document) (names : List String) : Node → Option (List (String × Node))
  | .sequence _ items =>
    if items.length ≤ names.length then some (names.zip (items.map d.resolve)) else none
  | node => do
    let entries ← entriesIn? d node
    if ((entries.map Prod.fst).filter (· ∈ names)).Nodup then some entries else none

def textsIn? (d : Document) (node : Node) : Option (List String) := do
  (← node.items?).mapM fun item => (d.resolve item).text?

/-- Of several entries of one name the last counts. -/
def mapIn? (d : Document) (read : Node → Option α) (node : Node) : Option (NameMap α) := do
  let values ← (← entriesIn? d node).mapM fun (name, value) => (read value).map (name, ·)
  some (values.foldl (fun fields (name, value) => Json.insertField name value fields) [])

def nodeReader (d : Document) : Reader Node where
  fields? := sectionIn? d
  nat? := Node.nat?
  bool? := Node.bool?
  text? := Node.text?
  optionalText? := Node.optionalText?
  texts? := textsIn? d
  map? := mapIn? d

/-- The configuration that the document `text` holds. -/
def ofDocument? (env : Environment) (text : String) : Option Config := do
  let d ← Yaml.parse? text
  read? (nodeReader d) (defaultIn env) (d.resolve d.root)

end ClusterHealth.Config

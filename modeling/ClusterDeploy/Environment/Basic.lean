import ClusterDeploy.Text.Blank
import ClusterDeploy.Text.Upper
/-!
# Environment values

A finite map from names to texts, kept sorted by name, and the names under which a deploy records
the properties of a service.
-/
namespace ClusterDeploy

/-- Values by name, in ascending order of the names. -/
structure Environment where
  entries : List (String × String)
  sorted : entries.Pairwise fun a b => a.1 < b.1

namespace Environment

instance : DecidableEq Environment := fun a b =>
  decidable_of_iff (a.entries = b.entries) (by cases a; cases b; simp)

instance : Repr Environment where
  reprPrec e n := reprPrec e.entries n

def empty : Environment := ⟨[], .nil⟩

instance : Inhabited Environment := ⟨empty⟩

def get? (e : Environment) (name : String) : Option String :=
  (e.entries.find? fun entry => entry.1 == name).map (·.2)

/-- Puts an entry in its place; one of the same name is replaced. -/
def insertEntry (name value : String) : List (String × String) → List (String × String)
  | [] => [(name, value)]
  | (n, v) :: more =>
    if name < n then (name, value) :: (n, v) :: more
    else if name = n then (name, value) :: more
    else (n, v) :: insertEntry name value more

theorem mem_insertEntry {name value : String} {entries : List (String × String)}
    {entry : String × String} (h : entry ∈ insertEntry name value entries) :
    entry = (name, value) ∨ entry ∈ entries := by
  induction entries with
  | nil => simpa [insertEntry] using h
  | cons e more ih =>
    obtain ⟨n, v⟩ := e
    rw [insertEntry] at h
    split at h
    · grind
    · split at h <;> grind

theorem insertEntry_sorted (name value : String) {entries : List (String × String)}
    (h : entries.Pairwise fun a b => a.1 < b.1) :
    (insertEntry name value entries).Pairwise fun a b => a.1 < b.1 := by
  induction entries with
  | nil => simp [insertEntry]
  | cons e more ih =>
    obtain ⟨n, v⟩ := e
    rw [List.pairwise_cons] at h
    rw [insertEntry]
    split
    · next lt =>
      refine List.pairwise_cons.2 ⟨fun b hb => ?_, List.pairwise_cons.2 h⟩
      rcases List.mem_cons.1 hb with rfl | hb
      · exact lt
      · exact String.lt_trans lt (h.1 b hb)
    · next nlt =>
      split
      · next eq =>
        subst eq
        exact List.pairwise_cons.2 ⟨fun b hb => h.1 b hb, h.2⟩
      · next ne =>
        refine List.pairwise_cons.2 ⟨fun b hb => ?_, ih h.2⟩
        rcases mem_insertEntry hb with rfl | hb
        · show n < name
          rw [← Decidable.not_not (p := n < name), String.not_lt]
          exact fun le => ne (String.le_antisymm le (String.not_lt.1 nlt))
        · exact h.1 b hb

def set (e : Environment) (name value : String) : Environment :=
  ⟨insertEntry name value e.entries, insertEntry_sorted name value e.sorted⟩

/-- Of several values of one name the last one counts. -/
def ofList (entries : List (String × String)) : Environment :=
  entries.foldl (fun e entry => e.set entry.1 entry.2) empty

/-- The name of a property of a service: its name in upper case, with underscores for hyphens. -/
def propertyKey (service key : String) : String :=
  let name := (Text.upper service.toList).map fun c => if c = '-' then '_' else c
  s!"SERVICE_{String.ofList name}_{key}"

def subscriptionVar : String := "AZURE_SUBSCRIPTION_ID"

def resourceGroupVar : String := "AZURE_RESOURCE_GROUP"

def clusterVar : String := "AZURE_AKS_CLUSTER_NAME"

def kubeconfigVar : String := "KUBECONFIG"

def endpointProperty : String := "ENDPOINT_URL"

end Environment

end ClusterDeploy

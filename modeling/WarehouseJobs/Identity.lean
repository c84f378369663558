-- Who owns a job and what it is called. The service takes the pair of project and job id as
-- its key: a second job of the same pair is a duplicate, wherever it runs.
import WarehouseJobs.Text.Split

namespace WarehouseJobs

/-! ## Names -/

structure ProjectId where
  text : String
deriving DecidableEq, Repr

structure JobId where
  text : String
deriving DecidableEq, Repr

/-- Why a name is refused. -/
inductive NameFault where
  | blankProject
  | emptyJob
deriving DecidableEq, Repr

def NameFault.message : NameFault → String
  | .blankProject => "Project ID cannot be empty"
  | .emptyJob => "Job ID cannot be empty"

/-- A project needs a name with more in it than white space. -/
def ProjectId.ofText (s : String) : Except NameFault ProjectId :=
  if Text.isBlank s then .error .blankProject else .ok ⟨s⟩

/-- A job id needs at least one character, and white space will do. -/
def JobId.ofText (s : String) : Except NameFault JobId :=
  if s.isEmpty then .error .emptyJob else .ok ⟨s⟩

/-- The number of characters. -/
def JobId.length (id : JobId) : Nat := id.text.length

/-! ## References -/

/-- A job of a project. The location tells a look-up where to search. -/
structure JobReference where
  project : ProjectId
  id : JobId
  location : Option String := none
deriving DecidableEq, Repr

namespace JobReference

/-- Both name one job; the location does not tell jobs apart. -/
def sameJob (a b : JobReference) : Bool := a.project = b.project && a.id = b.id

def shown (r : JobReference) : String := r.project.text ++ ":" ++ r.id.text

theorem sameJob_iff {a b : JobReference} :
    a.sameJob b = true ↔ a.project = b.project ∧ a.id = b.id := by
  simp [sameJob]

theorem sameJob_refl (a : JobReference) : a.sameJob a = true := by simp [sameJob]

end JobReference
end WarehouseJobs

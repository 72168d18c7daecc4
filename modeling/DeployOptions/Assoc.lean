/-! Lists of pairs as finite maps that keep the order in which keys were first stored. -/
namespace DeployOptions.Assoc

variable {κ : Type} {α : Type} [DecidableEq κ]

def get? (key : κ) : List (κ × α) → Option α
  | [] => none
  | (k, v) :: r => if k = key then some v else get? key r

/-- Stores a value: under a key that is present in its old place, else at the end. -/
def put (key : κ) (value : α) : List (κ × α) → List (κ × α)
  | [] => [(key, value)]
  | (k, v) :: r => if k = key then (k, value) :: r else (k, v) :: put key value r

def erase (key : κ) (m : List (κ × α)) : List (κ × α) := m.filter fun e => e.1 ≠ key

def update (m layer : List (κ × α)) : List (κ × α) :=
  layer.foldl (fun acc e => put e.1 e.2 acc) m

@[simp] theorem get?_put (key k : κ) (value : α) (m : List (κ × α)) :
    get? k (put key value m) = if key = k then some value else get? k m := by
  induction m with
  | nil => simp [put, get?]
  | cons e r ih =>
    obtain ⟨j, v⟩ := e
    by_cases hj : j = key
    · subst hj
      by_cases hk : j = k <;> simp [put, get?, hk]
    · by_cases hk : j = k
      · subst hk
        simp [put, get?, hj, Ne.symm hj]
      · simp [put, get?, hj, hk, ih]

end DeployOptions.Assoc

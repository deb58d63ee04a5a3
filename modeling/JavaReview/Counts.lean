import JavaReview.Finding
import JavaReview.Word

/-!
Counts of findings by category. The total is always the sum of the four, as far as a word holds it, so
a finding of an unknown category is counted nowhere.
-/

namespace JavaReview

/-- The number of findings of each category. -/
@[ext]
structure Counts where
  errors : Int := 0
  warnings : Int := 0
  optimizations : Int := 0
  security : Int := 0
deriving DecidableEq, Repr

namespace Counts

/-- The number of findings of a known category, in a word of 64 bits with sign: what does not fit wraps
around. -/
def total (c : Counts) : Int :=
  (c.errors + c.warnings + c.optimizations + c.security).bmod wordValues

/-- The sums by category. -/
def add (a b : Counts) : Counts where
  errors := a.errors + b.errors
  warnings := a.warnings + b.warnings
  optimizations := a.optimizations + b.optimizations
  security := a.security + b.security

instance : Add Counts := ⟨add⟩

/-- How many findings have this category. -/
def ofCategory (c : Category) (fs : List Finding) : Int := fs.countP (·.category = c)

/-- The counts of a list of findings. -/
def tally (fs : List Finding) : Counts where
  errors := ofCategory .error fs
  warnings := ofCategory .warning fs
  optimizations := ofCategory .optimization fs
  security := ofCategory .security fs

@[simp] theorem ofCategory_nil (c : Category) : ofCategory c [] = 0 := rfl

@[simp] theorem ofCategory_append (c : Category) (fs gs : List Finding) :
    ofCategory c (fs ++ gs) = ofCategory c fs + ofCategory c gs := by
  simp [ofCategory, List.countP_append]

@[simp] theorem errors_add (a b : Counts) : (a + b).errors = a.errors + b.errors := rfl

@[simp] theorem warnings_add (a b : Counts) : (a + b).warnings = a.warnings + b.warnings := rfl

@[simp] theorem optimizations_add (a b : Counts) :
    (a + b).optimizations = a.optimizations + b.optimizations := rfl

@[simp] theorem security_add (a b : Counts) : (a + b).security = a.security + b.security := rfl

@[simp] theorem tally_nil : tally [] = {} := rfl

@[simp] theorem tally_append (fs gs : List Finding) : tally (fs ++ gs) = tally fs + tally gs := by
  ext <;> simp [tally]

end Counts

end JavaReview

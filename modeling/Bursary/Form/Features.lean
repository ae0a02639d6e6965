import Bursary.Features
import Bursary.Form.Basic

/-! Forms of features. -/

namespace Bursary

/-- The features of a student with respect to a scholarship, and how outcomes became numbers. -/
structure FeatureVector where
  convention : Convention
  of : Feature → Binary64

namespace Form

/-- A number of the unit interval. -/
def proportion (v : Value) : Checked Binary64 := ((number v).bind (atMost 1)).bind (atLeast 0)

/-- The features of a list, all of which must be there; others are zero. -/
def featuresOf (r : Record) : List Feature → Checked (Feature → Binary64)
  | [] => .ok fun _ => 0
  | f :: fs =>
    (fun x of g => if g = f then x else of g)
      <$> required r f.name proportion <*> featuresOf r fs

/-- Reads the fields of features, which are graded unless they say otherwise. -/
def features (r : Record) : Checked FeatureVector :=
  (fun of convention => FeatureVector.mk convention of)
    <$> featuresOf r Feature.all <*> field r "convention" .graded (choice Convention.ofWord?)

end Form

end Bursary

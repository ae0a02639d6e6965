import Bursary.Failure
import Bursary.Value.Basic

/-! Reports of the failures that a caller can act on. -/

namespace Bursary.Failure

/-- The report of a refused request or of an unreadable model store; other failures have
only their message. -/
def report? (failure : Failure) : Option Record :=
  let reportOf (kind : String) (details : Record) : Option Record := some [
    ("error", .text kind), ("message", .text failure.message), ("details", .record details)]
  match failure with
  | negativeLimit limit => reportOf "InvalidInputError" [("limit", .whole limit)]
  | notAnObject field => reportOf "InvalidInputError" [("field", .text field)]
  | lookupFailed filters =>
    reportOf "ModelRegistryError" (filters.map fun (key, wanted) => (key, .text wanted))
  | tooManyDigits | tooDeep | unknownChoice .. | malformed _ | incomparable .. | unsupported ..
  | noNumberLayout _ | integerTooLarge | quotientTooLarge | unsendableNumber => none

end Bursary.Failure

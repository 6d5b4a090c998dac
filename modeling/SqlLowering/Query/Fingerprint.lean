import SqlLowering.Json.Printer
import SqlLowering.Query.Encode
import SqlLowering.Sha256

/-!
The fingerprint of a query: the hash of its document on one line. Equal queries have equal
fingerprints, and the values of inputs are no part of a query.
-/

namespace SqlLowering.Select

/-- The text that stands for a select: its document on one line. -/
def canonicalText (select : Select) : String :=
  select.toJson.compact

/-- The hash of the text that stands for a select, in hexadecimal. -/
def fingerprint (select : Select) : String :=
  Sha256.hexDigest select.canonicalText

end SqlLowering.Select

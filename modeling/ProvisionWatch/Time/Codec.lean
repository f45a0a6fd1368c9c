import ProvisionWatch.Json.Decoder
import ProvisionWatch.Time.Rfc3339

/-!
# Instants as JSON values

An instant is written as its text and read with the lenient reader.  The
cluster itself writes its own times coarser than they were read, and only what
the strict reader reads of that is kept.
-/

namespace ProvisionWatch
namespace Instant

/-- The instant as a JSON value. -/
def encode (t : Instant) : Json :=
  .str t.text

/-- Read an instant. -/
def decode : Json → Option Instant
  | .str s => read? s
  | _ => none

/-- What is wrong with a text that names no instant. -/
def flaw? (s : String) : Option Json.Flaw :=
  match readLoosely s with
  | .ok _ => none
  | .error reason => some (.unreadable reason.words)

/-- Instants as the cluster writes them. -/
def decoder : Json.Decoder Instant :=
  { form := .checked "an RFC 3339 formatted date and time string" flaw?, decode := decode }

/-- The time a value names by the strict reader; other values name none. -/
def ofValue? : Json → Option Instant
  | .str s => readStrict? s
  | _ => none

end Instant
end ProvisionWatch

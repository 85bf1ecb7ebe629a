import CloudOps.Domain.Label
import CloudOps.Text.Percent
import CloudOps.Url.Address

/-!
# Hosts

What a URL names in front of its path.

* `isHost`: whether a text is the host of a web or file URL: a numeric address or a domain name.
* `isOpaqueHost`: whether a text is a host that only its scheme understands.
-/

namespace CloudOps

namespace Url

/-- An address in brackets, if the text begins with a bracket. -/
def bracketed? : List Char → Option Bool
  | '[' :: rest => some (rest.getLast? = some ']' && Address.isLong rest.dropLast)
  | _ => none

/-- The labels are those of a domain name that is not empty, or of a numeric address. -/
def isDomainOrAddress (labels : List (List Char)) : Bool :=
  labels ≠ [[]] && (!Address.endsInNumeral labels || Address.isShort labels)

/-- The text is the host of a web or file URL. -/
def isHost (text : List Char) : Bool :=
  (bracketed? text).getD
    (((Text.percentDecoded? text).bind Domain.labels?).any isDomainOrAddress)

/-- The characters that a host may not have even where only its scheme understands it. -/
def barred : List Char :=
  ['\x00', '\t', '\n', '\r', ' ', '#', '/', ':', '<', '>', '?', '@', '[', '\\', ']', '^', '|']

/-- The text is a host that only its scheme understands. It may be empty. -/
def isOpaqueHost (text : List Char) : Bool := (bracketed? text).getD (text.all (· ∉ barred))

end Url

end CloudOps

/-! # Document identities -/

namespace Excerpt

/-- Identifies a host document, usually by its path. Two spellings of one path are two
identities. -/
structure DocumentId where
  name : String
  deriving DecidableEq, Repr

end Excerpt

import DiagnosticReplay.Message
import DiagnosticReplay.Modifier
import DiagnosticReplay.SortedMap
import DiagnosticReplay.Token

/-! # Records

Diagnostics as a document records them. A record keeps what the document says: a stage that is not
given stays open, and the operator of a token is still the text of an operator.
-/

namespace DiagnosticReplay.Record

/-- A scanned token as recorded. -/
structure TokenEntry where
  kind : Token
  operator : Option String := none
  stringValue : String := ""
deriving DecidableEq, Repr

/-- The value of an argument as recorded. -/
inductive ArgumentEntry where
  | text (value : String)
  | token (kind : Token)
  | tokenData (entry : TokenEntry)
  | modifier (modifier : Modifier)
  | access (modifier : AccessModifier)
deriving DecidableEq, Repr

/-- A diagnostic as recorded. The arguments are told apart by their exact names. -/
structure Entry where
  id : UInt32
  filePath : String
  line : UInt32
  column : UInt32
  warning : Bool := false
  stage : Option Stage := none
  arguments : SortedMap String ArgumentEntry := .empty

end DiagnosticReplay.Record

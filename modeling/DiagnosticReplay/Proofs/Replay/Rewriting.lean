import DiagnosticReplay.Proofs.Record.Rewriting
import DiagnosticReplay.Proofs.Replay.Records

/-! # Rewriting documents

What is loaded of a document hangs on what it says and not on how it is spelled. The members of the
document, of a record and of a token can change places, and other members can be put among them,
whatever values these hold; the arguments of a record can change places if no name is repeated;
and blanks can stand between any two lexemes. Only the records have to keep their order.
-/

namespace DiagnosticReplay

namespace Record

open Json

/-- A token is rewritten. -/
def RewritesToken : Node → Node → Prop :=
  Node.RewritesRecord tokenShape.names fun _ => Eq

/-- An argument is rewritten, which changes nothing but a token. -/
def RewritesArgument : Node → Node → Prop :=
  Node.RewritesTagged ArgumentTag.tokenData.label RewritesToken

/-- A recorded diagnostic is rewritten. -/
def RewritesEntry : Node → Node → Prop :=
  Node.RewritesRecord entryShape.names
    (OnlyUnder "arguments" (Node.RewritesMap RewritesArgument))

/-- A document is rewritten. -/
def RewritesDocument : Node → Node → Prop :=
  Node.RewritesRecord documentShape.names
    (OnlyUnder "diagnostics" (Node.RewritesList RewritesEntry))

/-- A text is written anew as another: its value is rewritten, and the blanks of the other are its
own. -/
inductive Rewrites (text written : String) : Prop where
  | document {node other : Node} : node.Spells text.toList → RewritesDocument node other →
      other.Spells written.toList → Rewrites text written

theorem keepsFields_rewritesRecord : RecordRewriting.KeepsFields Node.RewritesRecord :=
  fun rewritten named _ keeps shaped => rewritten.isShaped named keeps shaped

/-- A document that is written anew describes the same records. -/
theorem Rewrites.describes {text written : String} (rewrites : Rewrites text written)
    {entries : List Entry} (describes : Describes text entries) : Describes written entries := by
  obtain ⟨spelled, rewritten, spelledAnew⟩ := rewrites
  exact describes.rewritten spelled
    (keepsFields_rewritesRecord.document entries _ _ rewritten) spelledAnew

end Record

namespace Replay

/-- A document that is loaded is loaded as the same however it is written anew, with the same scripts
and the same event. -/
theorem loadText_of_rewrites (origin : String) {text written : String} {loaded : Loaded}
    (rewrites : Record.Rewrites text written) (isLoaded : loadText origin text = .ok loaded) :
    loadText origin written = .ok loaded ∧
      loadEvents origin (loadText origin written) = loadEvents origin (loadText origin text) := by
  obtain ⟨entries, read, -⟩ := loadText_eq_ok isLoaded
  have readAnew : Record.ofText written = .ok entries :=
    Record.ofText_eq_ok_iff.mpr (rewrites.describes (Record.ofText_eq_ok_iff.mp read))
  have same : loadText origin written = loadText origin text := by
    rw [loadText, loadText, read, readAnew]
  rw [same]
  exact ⟨isLoaded, rfl⟩

section Respelled

open Json Record

/-- A string literal without escapes. -/
def unescaped (text : String) : StringLiteral :=
  ⟨text.toList.map .character, .closed⟩

theorem denotes_unescaped (text : String) : (unescaped text).Denotes text := by
  refine .closed ?_
  induction text.toList with
  | nil => exact .nil
  | cons character rest ih => exact .character ih

/-- Members with keys without escapes. -/
def membersOf (pairs : List (String × Node)) : Members :=
  pairs.foldr (fun pair rest => .member (unescaped pair.1) pair.2 rest) .closed

theorem are_membersOf (pairs : List (String × Node)) : (membersOf pairs).Are pairs := by
  induction pairs with
  | nil => exact .closed
  | cons pair rest ih => exact .member (denotes_unescaped pair.1) ih

/-- How a map is written of its own members and some others. -/
abbrev Writing := List (String × Node) → List (String × Node) → Members

/-- Without the others. -/
def Writing.plain : Writing := fun own _ => membersOf own

/-- In the opposite order, with the others before its own. -/
def Writing.turned : Writing := fun own others => membersOf (own ++ others).reverse

theorem rewritesRecord_turned {names : List String} {rewrites : String → Node → Node → Prop}
    {own ownTurned others : List (String × Node)}
    (each : List.Forall₂ (RewritesMember rewrites) own ownTurned)
    (foreign : ∀ name ∈ others.map Prod.fst, name ∉ names) :
    Node.RewritesRecord names rewrites (.map (Writing.plain own others))
      (.map (Writing.turned ownTurned others)) := by
  refine .map (are_membersOf _) (are_membersOf _) (.among each ?_ (List.reverse_perm _))
  exact fun pair member => foreign pair.1 (List.mem_map_of_mem member)

theorem rewritesMap_turned {rewrites : Node → Node → Prop} {own ownTurned : List (String × Node)}
    (each : List.Forall₂ (RewritesMember fun _ => rewrites) own ownTurned)
    (distinct : (own.map Prod.fst).Nodup) :
    Node.RewritesMap rewrites (.map (Writing.plain own []))
      (.map (Writing.turned ownTurned [])) := by
  refine .map (are_membersOf _) (are_membersOf _) each (.inr ⟨distinct, ?_⟩)
  rw [List.append_nil]
  exact List.reverse_perm ownTurned

def sampleText (text : String) : Node :=
  .string (unescaped text)

def sampleToken (write : Writing) : Node :=
  .map (write [("kind", sampleText "keyword"), ("stringValue", sampleText "x")] [("more", .null)])

def sampleArguments (write : Writing) : Node :=
  .map (write [("t", .map (membersOf [("tokenData", sampleToken write)])),
    ("u", .map (membersOf [("text", sampleText "y")]))] [])

def sampleEntry (write : Writing) : Node :=
  .map (write [("id", .number (.ofNat 0)), ("filePath", sampleText "/a"),
    ("line", .number (.ofNat 1)), ("column", .number (.ofNat 0)),
    ("arguments", sampleArguments write)] [("seen", .boolean true)])

def sampleDocument (write : Writing) : Node :=
  .map (write [("diagnostics", .list (.item (sampleEntry write) .closed))]
    [("note", .list (.item (.map (membersOf [("x", .list .closed)])) .closed))])

theorem rewritesToken_turned : RewritesToken (sampleToken .plain) (sampleToken .turned) :=
  rewritesRecord_turned (.cons ⟨rfl, rfl⟩ (.cons ⟨rfl, rfl⟩ .nil)) (by decide)

theorem rewritesArguments_turned :
    (sampleArguments .plain).RewritesMap RewritesArgument (sampleArguments .turned) := by
  refine rewritesMap_turned (.cons ⟨rfl, ?_⟩ (.cons ⟨rfl, .same⟩ .nil)) (by decide)
  exact .map (denotes_unescaped _) (denotes_unescaped _) rewritesToken_turned

theorem rewritesEntry_turned : RewritesEntry (sampleEntry .plain) (sampleEntry .turned) :=
  rewritesRecord_turned (.cons ⟨rfl, .same⟩ (.cons ⟨rfl, .same⟩ (.cons ⟨rfl, .same⟩
    (.cons ⟨rfl, .same⟩ (.cons ⟨rfl, .rewritten rewritesArguments_turned⟩ .nil))))) (by decide)

theorem rewritesDocument_turned :
    RewritesDocument (sampleDocument .plain) (sampleDocument .turned) := by
  refine rewritesRecord_turned (.cons ⟨rfl, .rewritten ?_⟩ .nil) (by decide)
  exact .list (.item .closed) (.item .closed) (.cons rewritesEntry_turned .nil)

def plainText : String :=
  "\x7b\"diagnostics\":[\x7b\"id\":0,\"filePath\":\"/a\",\"line\":1,\"column\":0,\"arguments\":\x7b\"t\":\x7b\"tokenData\":\x7b\"kind\":\"keyword\",\"stringValue\":\"x\"\x7d\x7d,\"u\":\x7b\"text\":\"y\"\x7d\x7d\x7d]\x7d"

/-- The document turned around, with blanks and with members that no record has. -/
def turnedText : String :=
  "\x7b \"note\":[\x7b\"x\" : [ ]\x7d]\n,\"diagnostics\":[\x7b\"seen\":true,\"arguments\":\x7b\"u\":\x7b\"text\":\"y\"\x7d,\"t\":\x7b\"tokenData\":\x7b\"more\":null,\"stringValue\":\"x\",\"kind\":\"keyword\"\x7d\x7d\x7d,\"column\":0,\"line\":1,\"filePath\":\"/a\",\"id\":0\x7d]\x7d"

/-- The tree of a text can be built from the characters that spell it. -/
theorem ofText_of_spelled {text : String} {characters : List Char} {document : Document}
    (spelled : text = String.ofList characters)
    (built : Document.build [] .value (Lexeme.scan characters) = document) :
    Document.ofText text = document := by
  rw [Document.ofText, spelled, String.toList_ofList, built]

set_option maxRecDepth 4000 in
theorem rewrites_turnedText : Rewrites plainText turnedText := by
  have spelled : (sampleDocument .plain).Spells plainText.toList :=
    Node.spells_iff.mpr ⟨ofText_of_spelled rfl (by with_unfolding_all rfl), rfl⟩
  have spelledTurned : (sampleDocument .turned).Spells turnedText.toList :=
    Node.spells_iff.mpr ⟨ofText_of_spelled rfl (by with_unfolding_all rfl), rfl⟩
  exact .document spelled rewritesDocument_turned spelledTurned

theorem loadText_of_rewrites_turnedText :
    ∃ loaded, loadText "d.json" plainText = .ok loaded ∧ loaded.collection.size = 1 ∧
      loadText "d.json" turnedText = .ok loaded := by
  have one : (loadText "d.json" plainText).map (·.collection.size) = .ok 1 := by decide +kernel
  obtain ⟨loaded, isLoaded, size⟩ := Result.map_eq_ok_iff.mp one
  exact ⟨loaded, isLoaded, size,
    (loadText_of_rewrites "d.json" rewrites_turnedText isLoaded).1⟩

end Respelled

end Replay

end DiagnosticReplay

import DiagnosticReplay.Proofs.Json.Forms
import DiagnosticReplay.Proofs.Replay.Rewriting

/-! # Documents in either form

A document, each recorded diagnostic in it and each token of these can be written as a map of all its
fields or as the list of their values. Which of them are written in which form makes no difference to
what is loaded.
-/

namespace DiagnosticReplay

namespace Record

open Json

/-- A text is written anew as another: any of its records in their other form, and with blanks of its
own. -/
inductive Reforms (text written : String) : Prop where
  | document {node other : Node} : node.Spells text.toList →
      RecordRewriting.Document Node.ReformsRecord node other → other.Spells written.toList →
      Reforms text written

theorem keepsFields_reformsRecord : RecordRewriting.KeepsFields Node.ReformsRecord :=
  fun reforms named distinct keeps shaped => reforms.isShaped named distinct keeps shaped

/-- A document with some records in their other form describes the same records. -/
theorem Reforms.describes {text written : String} (reforms : Reforms text written)
    {entries : List Entry} (describes : Describes text entries) : Describes written entries := by
  obtain ⟨spelled, reformed, spelledAnew⟩ := reforms
  exact describes.rewritten spelled
    (keepsFields_reformsRecord.document entries _ _ reformed) spelledAnew

end Record

namespace Replay

/-- A document that is loaded is loaded as the same diagnostics, which share the same scripts, in
whatever form its records are written. -/
theorem loadText_of_reforms (origin : String) {text written : String} {loaded : Loaded}
    (reforms : Record.Reforms text written) (isLoaded : loadText origin text = .ok loaded) :
    loadText origin written = .ok loaded := by
  obtain ⟨entries, read, -⟩ := loadText_eq_ok isLoaded
  have readAnew : Record.ofText written = .ok entries :=
    Record.ofText_eq_ok_iff.mpr (reforms.describes (Record.ofText_eq_ok_iff.mp read))
  rw [← isLoaded, loadText, loadText, read, readAnew]

section Mixed

open Json Record

/-- Items one after the other. -/
def itemsOf (nodes : List Node) : Items :=
  nodes.foldr .item .closed

theorem are_itemsOf (nodes : List Node) : (itemsOf nodes).Are nodes := by
  induction nodes with
  | nil => exact .closed
  | cons node rest ih => exact .item ih

/-- A map that gives these names their values, in the order of the names. -/
def mapOf (names : List String) (values : List Node) : Node :=
  .map (membersOf (names.zip values))

section Records

variable {names : List String} {rewrites : String → Node → Node → Prop} {values others : List Node}
  (each : List.Forall₂ (RewritesMember rewrites) (names.zip values) (names.zip others))

include each

theorem reformsRecord_mapOf : (mapOf names values).ReformsRecord names rewrites (mapOf names others) :=
  .kept (.map (are_membersOf _) (are_membersOf _)
    (.among each (List.forall_mem_nil _) (.of_eq (List.append_nil _).symm)))

theorem reformsRecord_itemsOf (whole : others.length = names.length) :
    (mapOf names values).ReformsRecord names rewrites (.list (itemsOf others)) :=
  .listed (are_membersOf _) each ⟨whole, .refl _⟩ (are_itemsOf _)

end Records

def mixedToken : List Node := [sampleText "keyword", .null, sampleText "x"]

def mixedArguments (token : Node) : Node :=
  mapOf ["t"] [mapOf ["tokenData"] [token]]

def firstMixed (token : Node) : List Node :=
  [.number (.ofNat 0), sampleText "/a", .number (.ofNat 1), .number (.ofNat 0), .boolean false, .null,
    mixedArguments token]

def secondMixed : List Node :=
  [.number (.ofNat 13), sampleText "/a", .number (.ofNat 2), .number (.ofNat 5), .boolean true,
    sampleText "verify", mapOf [] []]

/-- Two recorded diagnostics as maps, the second one with its members in the opposite order. -/
def mapEntries : Node :=
  .list (itemsOf [mapOf entryShape.names (firstMixed (mapOf tokenShape.names mixedToken)),
    .map (membersOf (entryShape.names.zip secondMixed).reverse)])

/-- The token of the first one and the second one as lists. -/
def mixedEntries : Node :=
  .list (itemsOf [mapOf entryShape.names (firstMixed (.list (itemsOf mixedToken))),
    .list (itemsOf secondMixed)])

def mapText : String :=
  "\x7b\"diagnostics\":[\x7b\"id\":0,\"filePath\":\"/a\",\"line\":1,\"column\":0,\"warning\":false,\"kind\":null,\"arguments\":\x7b\"t\":\x7b\"tokenData\":\x7b\"kind\":\"keyword\",\"operator\":null,\"stringValue\":\"x\"\x7d\x7d\x7d\x7d,\x7b\"arguments\":\x7b\x7d,\"kind\":\"verify\",\"warning\":true,\"column\":5,\"line\":2,\"filePath\":\"/a\",\"id\":13\x7d]\x7d"

def mixedText : String :=
  "[[\x7b\"id\":0,\"filePath\":\"/a\",\"line\":1,\"column\":0,\"warning\":false,\"kind\":null,\"arguments\":\x7b\"t\":\x7b\"tokenData\":[\"keyword\",null,\"x\"]\x7d\x7d\x7d,\n [13,\"/a\",2,5,true,\"verify\",\x7b\x7d]]]"

theorem reforms_mixedArguments : Node.RewritesMap (RecordRewriting.Argument Node.ReformsRecord)
    (mixedArguments (mapOf tokenShape.names mixedToken))
    (mixedArguments (.list (itemsOf mixedToken))) := by
  have token : RecordRewriting.Token Node.ReformsRecord (mapOf tokenShape.names mixedToken)
      (.list (itemsOf mixedToken)) :=
    reformsRecord_itemsOf (List.forall₂_same.mpr fun _ _ => ⟨rfl, rfl⟩) rfl
  have argument : RecordRewriting.Argument Node.ReformsRecord
      (mapOf ["tokenData"] [mapOf tokenShape.names mixedToken])
      (mapOf ["tokenData"] [.list (itemsOf mixedToken)]) :=
    .map (denotes_unescaped _) (denotes_unescaped _) token
  have each : List.Forall₂ (RewritesMember fun _ => RecordRewriting.Argument Node.ReformsRecord)
      [("t", mapOf ["tokenData"] [mapOf tokenShape.names mixedToken])]
      [("t", mapOf ["tokenData"] [.list (itemsOf mixedToken)])] := .cons ⟨rfl, argument⟩ .nil
  exact .map (are_membersOf _) (are_membersOf _) each (.inl rfl)

theorem reforms_mixedEntries :
    Node.RewritesList (RecordRewriting.Entry Node.ReformsRecord) mapEntries mixedEntries := by
  have first : RecordRewriting.Entry Node.ReformsRecord
      (mapOf entryShape.names (firstMixed (mapOf tokenShape.names mixedToken)))
      (mapOf entryShape.names (firstMixed (.list (itemsOf mixedToken)))) :=
    reformsRecord_mapOf (.cons ⟨rfl, .same⟩ (.cons ⟨rfl, .same⟩ (.cons ⟨rfl, .same⟩
      (.cons ⟨rfl, .same⟩ (.cons ⟨rfl, .same⟩ (.cons ⟨rfl, .same⟩
        (.cons ⟨rfl, .rewritten reforms_mixedArguments⟩ .nil)))))))
  have second : RecordRewriting.Entry Node.ReformsRecord
      (.map (membersOf (entryShape.names.zip secondMixed).reverse)) (.list (itemsOf secondMixed)) :=
    .listed (are_membersOf _) (List.forall₂_same.mpr fun _ _ => ⟨rfl, .same⟩)
      ⟨rfl, List.reverse_perm _⟩ (are_itemsOf _)
  exact .list (are_itemsOf _) (are_itemsOf _) (.cons first (.cons second .nil))

set_option maxRecDepth 4000 in
theorem spells_mapText : (mapOf documentShape.names [mapEntries]).Spells mapText.toList :=
  Node.spells_iff.mpr ⟨ofText_of_spelled rfl (by with_unfolding_all rfl), rfl⟩

set_option maxRecDepth 4000 in
theorem spells_mixedText : (Node.list (itemsOf [mixedEntries])).Spells mixedText.toList :=
  Node.spells_iff.mpr ⟨ofText_of_spelled rfl (by with_unfolding_all rfl), rfl⟩

theorem reforms_mixedText : Reforms mapText mixedText := by
  refine .document spells_mapText ?_ spells_mixedText
  exact reformsRecord_itemsOf (.cons ⟨rfl, .rewritten reforms_mixedEntries⟩ .nil) rfl

/-- The two diagnostics are loaded with their one script from either document. -/
theorem loadText_of_reforms_mixedText :
    Reforms mapText mixedText ∧
      ∃ loaded, loadText "d.json" mapText = .ok loaded ∧ loaded.scriptOwners = [0, 0] ∧
        loadText "d.json" mixedText = .ok loaded := by
  have shared : (loadText "d.json" mapText).map Loaded.scriptOwners = .ok [0, 0] := by
    rw [loadText, ofText_of_spells spells_mapText]
    decide +kernel
  obtain ⟨loaded, isLoaded, owners⟩ := Result.map_eq_ok_iff.mp shared
  exact ⟨reforms_mixedText, loaded, isLoaded, owners,
    loadText_of_reforms "d.json" reforms_mixedText isLoaded⟩

end Mixed

end Replay

end DiagnosticReplay

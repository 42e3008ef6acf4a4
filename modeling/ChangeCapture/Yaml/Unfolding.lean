import ChangeCapture.Yaml.Value

namespace ChangeCapture.Yaml

-- A document is a tree. Collections that several nodes share are unfolded wherever
-- they stand, and those that lead back to themselves down to a depth that no check
-- of a specification goes beyond.

abbrev Documents := Array (Option Document)

namespace Documents

def known? (documents : Documents) (id : NodeId) : Option Document := (documents[id]?).join

def count (documents : Documents) : Nat := documents.countP Option.isSome

end Documents

def Value.document? (known? : NodeId → Option Document) : Value → Option Document
  | .scalar read => some read.document
  | .collection id => known? id

namespace Contents

def couple? (known? : NodeId → Option Document) (couple : Value × Value) : Option Document := do
  let key ← couple.1.document? known?
  let value ← couple.2.document? known?
  some (.list [key, value])

def pair? (known? : NodeId → Option Document) (entry : Read × Value) : Option (Document × Document) :=
  (entry.2.document? known?).map fun value => (entry.1.document, value)

def document? (known? : NodeId → Option Document) : Contents → Option Document
  | .list items => (items.mapM (Value.document? known?)).map .list
  | .couples items => (items.mapM (couple? known?)).map .list
  | .set members => some (.set (members.map Read.document))
  | .mapping entries => (entries.mapM (pair? known?)).map .mapping

def folded : Contents → Document
  | .list _ | .couples _ => .again false
  | .set _ | .mapping _ => .again true

end Contents

abbrev Collections := Array (Option Contents)

namespace Collections

def settleOne (collections : Collections) (documents : Documents) (id : NodeId) : Documents :=
  match documents.known? id, (collections[id]?).join with
  | none, some contents => documents.setIfInBounds id (contents.document? documents.known?)
  | _, _ => documents

-- Most collections lead to later ones only, so the last ones come first.
def settleAll (collections : Collections) (documents : Documents) : Documents :=
  (List.range collections.size).reverse.foldl collections.settleOne documents

def settled (collections : Collections) : Nat → Documents → Documents
  | 0, documents => documents
  | fuel + 1, documents =>
    let next := collections.settleAll documents
    if next.count = documents.count then documents else collections.settled fuel next

def depth : Nat := 5

def unfolded (collections : Collections) (settled : Documents) : Nat → Documents
  | 0 => (settled.zip collections).map fun (document, contents) => document.or (contents.map Contents.folded)
  | level + 1 =>
    let deeper := collections.unfolded settled level
    (settled.zip collections).map fun (document, contents) =>
      document.or (contents.bind fun contents => contents.document? deeper.known?)

def documents (collections : Collections) : Documents :=
  let settled := collections.settled (collections.size + 1) (collections.map fun _ => none)
  collections.unfolded settled depth

end Collections

def read (text : Text) : Except Fault Document := do
  match ← Nodes.ofTokens (Token.ofText text) with
  | (none, _) => .ok .null
  | (some root, nodes) =>
    let (value, collections) ← nodes.value root
    .ok ((value.document? (Collections.documents collections).known?).getD .null)

end ChangeCapture.Yaml

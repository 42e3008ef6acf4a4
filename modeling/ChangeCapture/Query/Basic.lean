import ChangeCapture.Spec.Basic

namespace ChangeCapture

def reservedWords : List Text := [
  "ACCESS", "AUDIT", "COLUMN", "COMMENT", "DATE", "FILE", "GROUP", "LEVEL",
  "MODE", "NUMBER", "ORDER", "RESOURCE", "ROW", "ROWID", "ROWNUM", "SELECT",
  "SESSION", "SIZE", "START", "TABLE", "UID", "USER", "VALUES", "WHERE"]

def quoteName (name : Text) : Text :=
  if reservedWords.contains name.upper then "\"" ++ name.upper ++ "\"" else name

def rangeFrom : Text := "range_from"

def rangeTo : Text := "range_to"

def placeholder (name : Text) : Text := ("$\x7b" : Text) ++ name ++ "\x7d"

-- What a clause lists: a name with its qualifiers, every column, the end of a
-- window, or a comparison of a column with such an end.
inductive Fragment where
  | name (parts : List Text)
  | star
  | bound (edge : Text)
  | condition (column : List Text) (operator : Text) (edge : Text)

namespace Fragment

def renderName (parts : List Text) : Text := Text.joined "." (parts.map quoteName)

def renderBound (edge : Text) : Text :=
  "TO_TIMESTAMP(" ++ placeholder edge ++ ", 'YYYY-MM-DD HH24:MI:SS.FF')"

def render : Fragment → Text
  | .name parts => renderName parts
  | .star => "*"
  | .bound edge => renderBound edge
  | .condition column operator edge =>
    renderName column ++ " " ++ operator ++ " " ++ renderBound edge

end Fragment

structure Clause where
  keyword : Text
  fragments : List Fragment

def Clause.render (clause : Clause) : Text :=
  clause.keyword ++ " " ++ Text.joined ", " (clause.fragments.map Fragment.render)

structure Query where
  clauses : List Clause

namespace Query

def render (query : Query) : Text := Text.joined " " (query.clauses.map Clause.render)

def namesOf : List Fragment → Option (List Text)
  | [] => some []
  | .name parts :: rest =>
    match parts.getLast?, namesOf rest with
    | some name, some names => some (name :: names)
    | _, _ => none
  | _ :: rest => namesOf rest

def orderings? (query : Query) : Option (List (List Text)) :=
  (query.clauses.filter fun clause => clause.keyword = Text.ofString "ORDER BY").mapM
    fun clause => namesOf clause.fragments

def boundNames (query : Query) : List Text :=
  query.clauses.flatMap fun clause => clause.fragments.filterMap fun
    | .bound name => some name
    | .condition _ _ name => some name
    | _ => none

def boundCounts (query : Query) : List (Text × Nat) :=
  let names := query.boundNames
  names.eraseDups.map fun name => (name, names.count name)

def ofSpec (spec : Spec) : Query :=
  let watermark := [spec.table.watermark]
  let projection := match spec.columnNames with
    | some (first :: rest) => (first :: rest).map fun name => Fragment.name [name]
    | _ => [.star]
  ⟨[⟨"SELECT", projection⟩,
    ⟨"FROM", [.name [spec.table.schema, spec.tableName]]⟩,
    ⟨"WHERE", [.condition watermark ">=" rangeFrom]⟩,
    ⟨"AND", [.condition watermark "<" rangeTo]⟩,
    ⟨"ORDER BY", [.name watermark]⟩]⟩

end Query

end ChangeCapture

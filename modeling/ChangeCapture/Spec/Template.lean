import ChangeCapture.Text.Case

namespace ChangeCapture.Spec

namespace Template

def table (upper lower : Text) : List Text := [
  "# " ++ upper ++ " CDC Specification",
  "",
  "table:",
  "  name: " ++ upper,
  "  schema: CDC_TEST",
  "  primary_key: ID",
  "  cdc_key: UPDATED_AT",
  "  description: \"CDC table for " ++ lower ++ "\"",
  ""]

def columns : List Text := [
  "columns:",
  "  - name: ID",
  "    type: NUMBER",
  "    nullable: false",
  "  - name: NAME",
  "    type: VARCHAR2(100)",
  "    nullable: true",
  "  - name: UPDATED_AT",
  "    type: TIMESTAMP",
  "    nullable: false",
  ""]

def destination (lower : Text) : List Text := [
  "elasticsearch:",
  "  index: " ++ lower,
  "  id_field: ID",
  "  mapping:",
  "    dynamic: strict",
  "    properties:",
  "      ID:",
  "        type: long",
  "      NAME:",
  "        type: keyword",
  "      UPDATED_AT:",
  "        type: date",
  ""]

def windows : List Text := [
  "range:",
  "  default: 5m",
  "  options:",
  "    - 5m",
  "    - 15m",
  "    - 30m",
  "    - 60m",
  ""]

def capture : List Text := [
  "cdc:",
  "  mode: timestamp",
  "  delete_handling: ignore",
  "  update_handling: upsert"]

-- The table's name goes in unquoted, in upper case as the name and in lower case
-- as the index.
def lines (upper lower : Text) : List Text :=
  table upper lower ++ columns ++ destination lower ++ windows ++ capture

end Template

def template (table : Text) : Text :=
  (Template.lines table.upper table.lower).flatMap fun line => line ++ [.char '\n']

end ChangeCapture.Spec

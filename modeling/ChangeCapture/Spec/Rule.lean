import ChangeCapture.Text.Utf8

namespace ChangeCapture

inductive Expected where
  | text
  | boolean
  | list
  | mapping
  | part (model : Text)
  deriving DecidableEq, Repr

inductive Rule where
  | required
  | wrongKind (expected : Expected)
  | undecided
  | notUnicode
  | identifier (value : Text)
  | noWindows
  | window (value : Text)
  | repeatedWindow
  | unknownDefault (value : Text)
  | blankIndex
  | noColumns
  | repeatedColumn
  | mode (value : Text)
  | update (value : Text)
  | keyMismatch (idField primaryKey : Text)
  | missingColumn (field value : Text)
  deriving DecidableEq, Repr

structure Issue where
  path : List Text
  rule : Rule
  deriving DecidableEq, Repr

-- Why a document is no specification: it is no mapping, or it breaks rules, of
-- which the first is told and all are counted. A value that a rule would tell may
-- have no UTF-8 form.
inductive SpecFault where
  | noMapping (kind : Text)
  | invalid (first : Issue) (count : Nat)
  | unwritable (error : Utf8EncodeError)
  | fileName (name table : Text)
  deriving DecidableEq, Repr

namespace Rule

def name : Rule → Text
  | .required => "required"
  | .wrongKind _ | .undecided => "type"
  | .notUnicode => "string_unicode"
  | .identifier _ => "identifier"
  | .noWindows | .blankIndex | .noColumns => "non_empty"
  | .window _ => "range_token"
  | .repeatedWindow | .repeatedColumn => "unique"
  | .unknownDefault _ => "default_in_options"
  | .mode _ => "cdc_mode"
  | .update _ => "upsert"
  | .keyMismatch _ _ => "I1"
  | .missingColumn _ _ => "column_missing"

-- A sentence with named places is filled in one name after the other, so a value
-- may bring in a later name, which is filled in its turn.
def fill (sentence : Text) (values : List (Text × Text)) : Text :=
  values.foldl (fun filled value => Text.replaced ("\x7b" ++ value.1 ++ "\x7d") value.2 filled) sentence

def sentence : Rule → Text
  | .required => "Field required"
  | .wrongKind .text => "Input should be a valid string"
  | .wrongKind .boolean => "Input should be a valid boolean"
  | .wrongKind .list => "Input should be a valid list"
  | .wrongKind .mapping => "Input should be a valid dictionary"
  | .wrongKind (.part model) => "Input should be a valid dictionary or instance of " ++ model
  | .undecided => "Input should be a valid boolean, unable to interpret input"
  | .notUnicode => "Input should be a valid string, unable to parse raw data as a unicode string"
  | .identifier _ => "'\x7bvalue\x7d' is not a valid SQL identifier"
  | .noWindows => "range.options must not be empty"
  | .window _ => "'\x7btoken\x7d' does not match ^[0-9]+m$"
  | .repeatedWindow => "range.options contains duplicate windows"
  | .unknownDefault _ => "range.default '\x7bdefault\x7d' is not one of range.options"
  | .blankIndex => "elasticsearch.index must not be empty"
  | .noColumns => "columns must not be empty when given"
  | .repeatedColumn => "columns contains duplicate names"
  | .mode _ => "cdc.mode must be 'timestamp', got '\x7bvalue\x7d'"
  | .update _ => "cdc.update_handling must be 'upsert', got '\x7bvalue\x7d'"
  | .keyMismatch _ _ => "elasticsearch.id_field '\x7bid_field\x7d' must equal table.primary_key '\x7bprimary_key\x7d'"
  | .missingColumn _ _ => "\x7bfield\x7d '\x7bvalue\x7d' is not among the enumerated columns"

def values : Rule → List (Text × Text)
  | .identifier value | .mode value | .update value => [("value", value)]
  | .window value => [("token", value)]
  | .unknownDefault value => [("default", value), ("field", "range.default")]
  | .keyMismatch idField primaryKey =>
    [("field", "elasticsearch.id_field"), ("id_field", idField), ("primary_key", primaryKey)]
  | .missingColumn field value => [("field", field), ("value", value)]
  | _ => []

def message (rule : Rule) : Text := fill rule.sentence rule.values

def writable (rule : Rule) : Except Utf8EncodeError Unit :=
  rule.values.forM fun value => (Utf8.encode value.2).map fun _ => ()

def ownField? : Rule → Option Text
  | .unknownDefault _ => some "range.default"
  | .keyMismatch _ _ => some "elasticsearch.id_field"
  | .missingColumn field _ => some field
  | _ => none

end Rule

def Issue.field (issue : Issue) : Text :=
  match issue.rule.ownField? with
  | some field => field
  | none =>
    let path := Text.joined "." issue.path
    if path.isEmpty then "<root>" else path

end ChangeCapture

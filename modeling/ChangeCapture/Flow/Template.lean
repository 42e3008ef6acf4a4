import ChangeCapture.Json.Basic
import ChangeCapture.Number.Integer

namespace ChangeCapture

-- The processor graph that carries changes from the database to the index: a
-- tick, the binding of a query, its look-up, the window, the query and the sink.
namespace FlowTemplate

def groupId : Text := "oracle-cdc-group"

def tick : Text := "generate-flowfile"
def binding : Text := "update-attribute-init"
def lookup : Text := "lookup-attribute"
def window : Text := "update-attribute-range"
def reader : Text := "query-database-table-record"
def sink : Text := "put-elasticsearch-record"

def processorIds : List Text := [tick, binding, lookup, window, reader, sink]

structure Edge where
  id : Text
  source : Text
  destination : Text
  deriving DecidableEq, Repr

def edges : List Edge := [
  ⟨"conn-generate-to-init", tick, binding⟩,
  ⟨"conn-init-to-lookup", binding, lookup⟩,
  ⟨"conn-lookup-to-range", lookup, window⟩,
  ⟨"conn-range-to-query", window, reader⟩,
  ⟨"conn-query-to-es", reader, sink⟩]

def lookupService : Text := "sql-lookup-service"
def databasePool : Text := "oracle-dbcp"
def indexClient : Text := "elasticsearch-client"
def recordReader : Text := "json-record-reader"
def recordWriter : Text := "json-record-writer"

def serviceIds : List Text := [lookupService, databasePool, indexClient, recordReader, recordWriter]

def sqlIdProperty : Text := "sql_id"
def indexProperty : Text := "es_index"
def idFieldProperty : Text := "es_id_field"
def watermarkProperty : Text := "Maximum-value Columns"
def operationProperty : Text := "Index Operation"
def upsert : Text := "upsert"

def texts (values : List Text) : Json := .list (values.map .text)

def properties (values : List (Text × Text)) : Json := .object (values.map fun value => (value.1, .text value.2))

def bundle (artifact : Text) : Json :=
  properties [("artifact", artifact), ("group", "org.apache.nifi"), ("version", "1.25.0")]

def processorJson (id name type artifact : Text) (values : List (Text × Text)) (ended : List Text)
    (period : Text) : Json :=
  .object [
    ("identifier", .text id),
    ("name", .text name),
    ("type", .text type),
    ("bundle", bundle artifact),
    ("groupIdentifier", .text groupId),
    ("properties", properties values),
    ("schedulingPeriod", .text period),
    ("schedulingStrategy", .text "TIMER_DRIVEN"),
    ("autoTerminatedRelationships", texts ended),
    ("concurrentlySchedulableTaskCount", .int 1),
    ("scheduledState", .text "ENABLED")]

def serviceJson (id name type artifact : Text) (values : List (Text × Text)) : Json :=
  .object [
    ("identifier", .text id),
    ("name", .text name),
    ("type", .text type),
    ("bundle", bundle artifact),
    ("groupIdentifier", .text groupId),
    ("properties", properties values),
    ("scheduledState", .text "ENABLED")]

def endJson (id : Text) : Json :=
  .object [("id", .text id), ("type", .text "PROCESSOR"), ("groupId", .text groupId)]

def connectionJson (edge : Edge) : Json :=
  .object [
    ("identifier", .text edge.id),
    ("name", .text (edge.source ++ " -> " ++ edge.destination)),
    ("groupIdentifier", .text groupId),
    ("source", endJson edge.source),
    ("destination", endJson edge.destination),
    ("selectedRelationships", texts [if edge.source = lookup then "matched" else "success"]),
    ("backPressureObjectThreshold", .int 10000),
    ("backPressureDataSizeThreshold", .text "1 GB"),
    ("flowFileExpiration", .text "0 sec")]

def expression (back : Option Text) : Text :=
  let moment : Text := match back with
    | some milliseconds => "toNumber():minus(" ++ milliseconds ++ "):"
    | none => []
  ("'$\x7bnow():" : Text) ++ moment ++ "format('yyyy-MM-dd HH:mm:ss.SSS')\x7d'"

def rangeExpression (minutes : Int) : Except IntegerFault Text :=
  if minutes = 0 then .ok (expression none)
  else (Integer.write (minutes * 60000)).map fun milliseconds => expression (some milliseconds)

def processors : List (Text × Json) := [
  (tick, processorJson tick "GenerateFlowFile (CDC tick)"
    "org.apache.nifi.processors.standard.GenerateFlowFile" "nifi-standard-nar"
    [("Batch Size", "1"), ("Data Format", "Text"), ("Unique FlowFiles", "false")] [] "5 min"),
  (binding, processorJson binding "UpdateAttribute (init)"
    "org.apache.nifi.processors.attributes.UpdateAttribute" "nifi-update-attribute-nar"
    [(sqlIdProperty, ""), (indexProperty, ""), (idFieldProperty, "")] [] "0 sec"),
  (lookup, processorJson lookup "LookupAttribute (SQL registry)"
    "org.apache.nifi.processors.standard.LookupAttribute" "nifi-standard-nar"
    [("lookup-service", lookupService), ("include-empty-values", "false"), ("sql_query", "$\x7bsql_id\x7d")]
    ["unmatched", "failure"] "0 sec"),
  (window, processorJson window "UpdateAttribute (range)"
    "org.apache.nifi.processors.attributes.UpdateAttribute" "nifi-update-attribute-nar"
    [("range_from", expression (some "300000")), ("range_to", expression none)] [] "0 sec"),
  (reader, processorJson reader "QueryDatabaseTableRecord"
    "org.apache.nifi.processors.standard.QueryDatabaseTableRecord" "nifi-standard-nar"
    [("Database Connection Pooling Service", databasePool), ("db-fetch-db-type", "Oracle"),
      ("Table Name", "$\x7bes_index\x7d"), ("db-fetch-sql-query", "$\x7bsql_query\x7d"), (watermarkProperty, ""),
      ("qdbtr-record-writer", recordWriter), ("qdbt-max-rows", "10000")] [] "0 sec"),
  (sink, processorJson sink "PutElasticsearchRecord"
    "org.apache.nifi.processors.elasticsearch.PutElasticsearchRecord" "nifi-elasticsearch-restapi-nar"
    [("el-rest-client-service", indexClient), ("put-es-record-reader", recordReader),
      ("Index", "$\x7bes_index\x7d"), (operationProperty, upsert), ("ID Record Path", "/$\x7bes_id_field\x7d"),
      ("Batch Size", "100")] ["success", "failure", "retry", "errors"] "0 sec")]

def services : List (Text × Json) := [
  (lookupService, serviceJson lookupService "SQL Registry Lookup"
    "org.apache.nifi.lookup.SimpleKeyValueLookupService" "nifi-lookup-services-nar" []),
  (databasePool, serviceJson databasePool "Oracle DBCP" "org.apache.nifi.dbcp.DBCPConnectionPool"
    "nifi-dbcp-service-nar"
    [("Database Connection URL", "jdbc:oracle:thin:@oracle:1521/XEPDB1"),
      ("Database Driver Class Name", "oracle.jdbc.OracleDriver"),
      ("database-driver-locations", "/opt/nifi/drivers/ojdbc11.jar"),
      ("Database User", "cdc_user"), ("Max Total Connections", "8")]),
  (indexClient, serviceJson indexClient "Elasticsearch Client"
    "org.apache.nifi.elasticsearch.ElasticSearchClientServiceImpl" "nifi-elasticsearch-client-service-nar"
    [("el-cs-http-hosts", "http://elasticsearch:9200"), ("HTTP Hosts", "http://elasticsearch:9200")]),
  (recordReader, serviceJson recordReader "JSON Record Reader" "org.apache.nifi.json.JsonTreeReader"
    "nifi-record-serialization-services-nar" [("schema-access-strategy", "infer-schema")]),
  (recordWriter, serviceJson recordWriter "JSON Record Writer" "org.apache.nifi.json.JsonRecordSetWriter"
    "nifi-record-serialization-services-nar"
    [("Schema Write Strategy", "no-schema"), ("Output Grouping", "output-array")])]

def processor? (id : Text) : Option Json := processors.lookup id

def service? (id : Text) : Option Json := services.lookup id

def connection? (id : Text) : Option Json := (edges.find? fun edge => edge.id = id).map connectionJson

def allProcessors : Json := .list (processors.map Prod.snd)

def allConnections : Json := .list (edges.map connectionJson)

def flow : Json :=
  .object [
    ("flowContents", .object [
      ("identifier", .text groupId),
      ("name", .text "Oracle CDC to Elasticsearch"),
      ("comments", .text "Generated by cdcspec; lookup-service SQL comes from sql-registry/oracle.json"),
      ("processors", allProcessors),
      ("connections", allConnections),
      ("controllerServices", .list (services.map Prod.snd)),
      ("processGroups", .list []),
      ("inputPorts", .list []),
      ("outputPorts", .list []),
      ("funnels", .list []),
      ("labels", .list [])]),
    ("parameterContexts", .object []),
    ("flowEncodingVersion", .text "1.0")]

end FlowTemplate

end ChangeCapture

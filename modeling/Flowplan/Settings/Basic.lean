import Flowplan.Settings.Environment
import Flowplan.Text.Numeral

namespace Flowplan

structure EngineSettings where
  baseUrl : String
  token : String
  workspace : String
deriving DecidableEq

structure DirectorySettings where
  baseUrl : String
  apiKey : String
deriving DecidableEq

namespace Settings

def defaultModel : String := "gpt-4o"

def defaultApiUrl : String := "https://api.openai.com/v1"

def defaultDatabaseUrl : String := "sqlite+aiosqlite:///dagflow.db"

def defaultWorkspace : String := "prod"

def defaultPollInterval : Double := Double.ofDecimal false 10 0

def requestTimeout : Double := Double.ofDecimal false 30 0

def defaultTraceLimit : Int := 200

def trimSlashes (url : String) : String := String.ofList (Text.trimEnd (· == '/') url.toList)

def apiUrl (environment : Environment) : String :=
  trimSlashes ((environment.first?
    ["OPENAI_API_BASE", "DAGFLOW_BASE_URL", "OPENAI_API_BASE_URL"]).getD defaultApiUrl)

def model (environment : Environment) : String :=
  (environment.first? ["MODEL_NAME", "DAGFLOW_MODEL", "OPENAI_API_MODEL"]).getD defaultModel

def apiKey (environment : Environment) : Option String :=
  environment.first? ["DAGFLOW_KEY", "OPENAI_API_KEY"]

def databaseUrl (environment : Environment) : String :=
  (environment.lookup "DAGFLOW_DATABASE_URL").getD defaultDatabaseUrl

def pollInterval (environment : Environment) : Except Text.NumeralError Double :=
  match environment.value? "JOB_POLL_INTERVAL_SECONDS" with
  | some text => Text.number text
  | none => .ok defaultPollInterval

def registryFile (environment : Environment) : Option String :=
  environment.value? "NODE_TYPE_REGISTRY_FILE"

def structuredLogs (environment : Environment) : Bool :=
  ["1", "true", "yes"].contains
    (String.ofList (((environment.lookup "DAGFLOW_STRUCTURED_LOGS").getD "").toList.map
      Char.toLower))

def traceLimit (environment : Environment) : Except Text.NumeralError Int :=
  match environment.lookup "DAGFLOW_TRACE_HISTORY_LIMIT" with
  | some text => Text.integer 10 text
  | none => .ok defaultTraceLimit

def engine (environment : Environment) : Option EngineSettings := do
  let url ← environment.value? "WINDMILL_SERVER_URL"
  let token ← environment.value? "WINDMILL_SERVER_API_KEY"
  return ⟨trimSlashes url, token, (environment.value? "WINDMILL_SERVER_WORKSPACE").getD
    defaultWorkspace⟩

def directory (environment : Environment) : Option DirectorySettings := do
  let url ← environment.value? "API_REGISTRY_SERVICE_URL"
  let key ← environment.value? "API_REGISTRY_SERVICE_API_KEY"
  return ⟨trimSlashes url, key⟩

end Settings

end Flowplan

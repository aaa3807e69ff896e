import Flowplan.Http.Exchange
import Flowplan.Settings.Basic

namespace Flowplan

structure Source where
  environment : Environment := []
  file : Option String := none
  kept : Entries (Option String) := []

namespace Source

def fileName : String := "creds.env"

def isFile (path : String) : Bool :=
  (Text.segments '/' path.toList).filter (fun step => !step.isEmpty && step != ['.']) ==
    [fileName.toList] && path.toList.head? != some '/'

def load (source : Source) : Bool × Source :=
  match source.file with
  | none => (false, source)
  | some text =>
    (!(EnvFile.table text source.environment).isEmpty,
      { source with environment := EnvFile.load text source.environment })

def keep (source : Source) (name : String) (answer : Environment → Option String) :
    Option String × Source :=
  match source.kept.lookup name with
  | some kept => (kept, source)
  | none =>
    let found := answer source.environment
    (found, { source with kept := source.kept.put name found })

def apiUrl (source : Source) : String × Source :=
  let (url, source) := source.keep "api_url" fun environment => some (Settings.apiUrl environment)
  (url.getD "", source)

def model (source : Source) : String × Source :=
  let (model, source) :=
    source.keep "base_model" fun environment => some (Settings.model environment)
  (model.getD "", source)

def apiKey (source : Source) : Option String × Source := source.keep "api_key" Settings.apiKey

def engine (source : Source) : Option EngineSettings × Source :=
  let source := source.load.2
  (Settings.engine source.environment, source)

def directory (source : Source) : Option DirectorySettings × Source :=
  let source := source.load.2
  (Settings.directory source.environment, source)

def withSlash (url : Http.Url) : Except Http.UrlError Http.Url :=
  let (path, query) := Text.cut '?' url.rawPath
  if path.getLast? == some '/' then .ok url
  else url.place (path ++ ['/'] ++ (query.map ('?' :: ·)).getD [])

def defaultModel (source : Source) : (String × Except Http.Fault String) × Source :=
  let source := source.load.2
  let (model, source) := source.model
  let (url, source) := source.apiUrl
  let (_, source) := source.apiKey
  ((model, (((Http.Url.parse url).bind withSlash).map Http.Url.text).mapError .badAddress), source)

end Source

end Flowplan

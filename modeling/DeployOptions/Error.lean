import DeployOptions.Console.Fault
import DeployOptions.Text.Base64
import DeployOptions.Url.Authority
import DeployOptions.Value.Shown
import DeployOptions.Yaml.Fault

/-! What can go wrong while options are resolved, by cause. The wording stands in one place. -/
namespace DeployOptions

inductive ErrorKind
  | general
  | secretNotFound (secret field : String)
  | secretParse
  | inconsistency
  | validation (fields : List String)
  | secretSource
  | clusterConnection
  | specParsing
deriving DecidableEq, Repr

def ErrorKind.name : ErrorKind → String
  | .general => "OptionsError"
  | .secretNotFound .. => "SecretNotFoundError"
  | .secretParse => "SecretParseError"
  | .inconsistency => "InconsistencyError"
  | .validation _ => "OptionsValidationError"
  | .secretSource => "SecretSourceError"
  | .clusterConnection => "ClusterConnectionError"
  | .specParsing => "SpecParsingError"

inductive DecodeFault
  | base64 (fault : Text.Base64.Fault)
  | utf8 (fault : Text.Utf8.Fault)
deriving DecidableEq, Repr

def DecodeFault.message : DecodeFault → String
  | .base64 f => f.message
  | .utf8 f => f.message

inductive Cause
  | notMapping (path : String) (value : Value)
  | notReplicaCount (path : String) (value : Value)
  | notBoolean (path : String) (value : Value)
  | pullSecretsNotList
  | nameMissing
  | fileMissing (path : String)
  | fileMalformed (path : String) (fault : Yaml.Fault)
  | fileHoldsMany (path : String)
  | fileEmpty (path : String)
  | fileNotMapping (path : String)
  | wrongKind (path : String) (kind : Value)
  | fieldMissing (secret field : String)
  | fieldUndecodable (field secret : String) (namespaceName : Value) (fault : DecodeFault)
  | urlMalformed (urlField secret : String) (fault : Url.Fault)
  | urlBrokenEscape (urlField secret : String)
  | urlWithoutPassword (urlField secret : String)
  | passwordMismatch (passwordField secret urlField : String)
  | requiredEmpty (record : String) (fields : List String)
  | readRefused (namespaceName : Value) (secret reason : String)
  | writeRefused (namespaceName : Value) (secret reason : String)
  | unreachable (reason : String)
  | kubeconfigInvalid (reason : String)
  | contextNotLoaded (context reason : String)
  | stated (kind : ErrorKind) (text : String)
deriving Repr

namespace Cause

def kind : Cause → ErrorKind
  | .notMapping .. | .notReplicaCount .. | .notBoolean .. | .pullSecretsNotList | .nameMissing
  | .fileMissing _ | .fileMalformed .. | .fileHoldsMany _ | .fileEmpty _ | .fileNotMapping _
  | .wrongKind .. => .specParsing
  | .fieldMissing secret field => .secretNotFound secret field
  | .fieldUndecodable .. | .urlMalformed .. | .urlBrokenEscape .. | .urlWithoutPassword .. =>
    .secretParse
  | .passwordMismatch .. => .inconsistency
  | .requiredEmpty _ fields => .validation fields
  | .readRefused .. | .writeRefused .. => .secretSource
  | .unreachable _ | .kubeconfigInvalid _ | .contextNotLoaded .. => .clusterConnection
  | .stated kind _ => kind

def message : Cause → String
  | .notMapping path value => "'" ++ path ++ "' must be a mapping, got " ++ value.kind
  | .notReplicaCount path value =>
    "'" ++ path ++ "' must be a non-negative integer, got " ++ value.shown
  | .notBoolean path value => "'" ++ path ++ "' must be a boolean, got " ++ value.shown
  | .pullSecretsNotList => "'spec.imagePullSecrets' must be a list"
  | .nameMissing => "'metadata.name' is required"
  | .fileMissing path => "Resource file '" ++ path ++ "' does not exist"
  | .fileMalformed path fault =>
    "Resource file '" ++ path ++ "' contains malformed YAML: " ++ fault.message path
  | .fileHoldsMany path =>
    "File '" ++ path ++
      "' contains multiple YAML documents. Only single document files are supported."
  | .fileEmpty path => "Resource file '" ++ path ++ "' is empty"
  | .fileNotMapping path =>
    "File '" ++ path ++
      "' does not contain a valid YAML mapping. Expected a Kubernetes resource document."
  | .wrongKind path kind =>
    "File '" ++ path ++ "' describes a '" ++ kind.plain ++ "' resource, expected 'APIManager'"
  | .fieldMissing secret field =>
    "Required field '" ++ field ++ "' of secret '" ++ secret ++ "' not found"
  | .fieldUndecodable field secret namespaceName fault =>
    "Field '" ++ field ++ "' in secret '" ++ namespaceName.plain ++ "/" ++ secret ++
      "' is not valid base64 encoded UTF-8: " ++ fault.message
  | .urlMalformed urlField secret fault =>
    "error parsing provided '" ++ urlField ++ "' field in '" ++ secret ++ "' secret: " ++
      fault.message
  | .urlBrokenEscape urlField secret =>
    "error parsing provided '" ++ urlField ++ "' field in '" ++ secret ++
      "' secret: invalid URL escape in user-info"
  | .urlWithoutPassword urlField secret =>
    "'" ++ urlField ++ "' field in '" ++ secret ++ "' secret doesn't have required password part"
  | .passwordMismatch passwordField secret urlField =>
    "'" ++ passwordField ++ "' field in secret '" ++ secret ++
      "' does not match password part in field '" ++ urlField ++ "'. Inconsistency detected"
  | .requiredEmpty record fields =>
    record ++ " is missing required fields: " ++ ", ".intercalate fields
  | .readRefused namespaceName secret reason =>
    "Failed to read secret '" ++ namespaceName.plain ++ "/" ++ secret ++ "': " ++ reason
  | .writeRefused namespaceName secret reason =>
    "Failed to write secret '" ++ namespaceName.plain ++ "/" ++ secret ++ "': " ++ reason
  | .unreachable reason => "Failed to connect to the Kubernetes cluster: " ++ reason
  | .kubeconfigInvalid reason => "Invalid or missing kubeconfig: " ++ reason
  | .contextNotLoaded context reason =>
    "Failed to load context '" ++ context ++ "': " ++ reason
  | .stated _ text => text

/-- Whether the wording of a cause can be written. It may quote a whole number of too many
digits. -/
def isWritable : Cause → Bool
  | .notReplicaCount _ value | .notBoolean _ value => value.isWritable
  | .wrongKind _ kind => kind.isWritable
  | _ => true

end Cause

/-- An options error: its cause, and the stages it has passed through, the outermost first. -/
structure OptionsError where
  cause : Cause
  stages : List String := []
deriving Repr

namespace OptionsError

instance : Coe Cause OptionsError := ⟨fun cause => ⟨cause, []⟩⟩

/-- The error as seen one stage further out; the cause stays what it is. -/
def withContext (operation : String) (e : OptionsError) : OptionsError :=
  { e with stages := operation :: e.stages }

def kind (e : OptionsError) : ErrorKind := e.cause.kind

/-- The stages from the outermost inward, then the wording of the cause. -/
def message (e : OptionsError) : String :=
  e.stages.foldr (fun stage text => stage ++ ": " ++ text) e.cause.message

end OptionsError

/-- Everything that can end an operation before it has a result: options errors, which callers
handle, and all else, which they do not. -/
inductive Failure
  | options (error : OptionsError)
  | invalidBundle (factory : String) (error : OptionsError)
  | lengthNotPositive (length : Value)
  | unsupportedComponent (component : String)
  | unknownSeverity (severity : Value)
  | alreadyRegistered (type : String)
  | constructorFailed (text : String)
  | registryFrozen
  | unknownFactory (type : String) (available : List String)
  | undefinedName (name : String)
  | strayDollar (line column : Nat)
  | foreignStoredText
  | undecodableFile (fault : Text.Utf8.Fault)
  | notAFile (path : String)
  | notAFolder (path : String)
  | pathTooLong (path : String)
  | unusablePath
  | noSuchPlace
  | unwritable
  | unreadableScalar (fault : Yaml.ScalarFault)
  | markup (fault : MarkupFault)
  | notRenderable (kind : String)
  | unsupportedOptions (kind : String)
  | unsuitableValue
  | missingOperation
  | aborted
deriving Repr

instance : Coe Cause Failure := ⟨fun cause => .options ⟨cause, []⟩⟩

/-- The failure for a cause. One that cannot be worded is no options error. -/
def Failure.ofCause (cause : Cause) : Failure :=
  if cause.isWritable then .options ⟨cause, []⟩ else .unwritable

def Failure.message : Failure → String
  | .options e => e.message
  | .invalidBundle factory e =>
    "'" ++ factory ++ "' rule factory built invalid options: " ++ e.message
  | .lengthNotPositive length =>
    "Random string length must be positive, got " ++ length.plain
  | .unsupportedComponent component => "Unsupported component: " ++ component
  | .unknownSeverity severity => severity.shown ++ " is not a valid Severity"
  | .alreadyRegistered type => "A rule factory of type '" ++ type ++ "' is already registered"
  | .constructorFailed text => text
  | .registryFrozen => "Cannot register a rule factory after the registry has been frozen"
  | .unknownFactory type available =>
    "Unknown rule factory '" ++ type ++ "'. Available: " ++ ", ".intercalate available
  | .undefinedName name => name
  | .strayDollar line column =>
    "Invalid placeholder in string: line " ++ toString line ++ ", col " ++ toString column
  | .foreignStoredText => "string argument should contain only ASCII characters"
  | .undecodableFile fault => fault.message
  | .notAFile path => "[Errno 21] Is a directory: " ++ (Value.str path).shown
  | .notAFolder path => "[Errno 20] Not a directory: " ++ (Value.str path).shown
  | .pathTooLong path => "[Errno 36] File name too long: " ++ (Value.str path).shown
  | .unusablePath => "embedded null byte"
  | .noSuchPlace => "list assignment index out of range"
  | .unwritable =>
    "Exceeds the limit (4300 digits) for integer string conversion; use " ++
      "sys.set_int_max_str_digits() to increase the limit"
  | .unreadableScalar fault => fault.message
  | .markup fault => fault.message
  | .notRenderable kind =>
    "unable to render " ++ kind ++ "; a string or other renderable object is required"
  | .unsupportedOptions kind => "Unsupported options type: " ++ kind
  | .unsuitableValue | .missingOperation | .aborted => ""

end DeployOptions

import EvmWallet.Bytes.Utf8
import EvmWallet.Json.Printer
import EvmWallet.Json.Reader
import EvmWallet.Settings.Basic

/-!
# Profiles

Settings together with the environment they are used in. A variable `RPC_` followed by the
key of a chain redirects that chain's network to another server, and one variable holds the
explorer's key. The environment never enters the settings.
-/

namespace EvmWallet

/-! ## Errors -/

/-- Why settings cannot be used. -/
inductive Settings.Error where
  | fileNotFound (path : String)
  | invalid (reason : String)
  /-- No network is configured for a chain. -/
  | networkMissing (chain : Chain)
  | io (reason : String)
  /-- A text that is no settings document. -/
  | serialization (reason : String)
  deriving DecidableEq, Repr

/-- The wording of a cause. -/
def Settings.Error.message : Settings.Error → String
  | fileNotFound path => "Configuration file not found: " ++ path
  | invalid reason => "Invalid configuration: " ++ reason
  | networkMissing chain => "Network configuration missing: " ++ chain.describe
  | io reason => "IO error: " ++ reason
  | serialization reason => "Serialization error: " ++ reason

/-! ## Environments -/

/-- Variables with their values; the first of a name counts. -/
abbrev Environment := List (String × String)

namespace Environment

/-- The value of a variable. -/
def get? (e : Environment) (name : String) : Option String := e.lookup name

/-- The beginnings of the names that concern a wallet. -/
def leads : List (List Char) := ["WALLET_".toList, "RPC_".toList]

/-- Only the variables that concern a wallet. -/
def relevant (e : Environment) : Environment :=
  e.filter fun (name, _) => leads.any (·.isPrefixOf name.toList)

end Environment

/-! ## Profiles -/

/-- Settings in an environment. -/
structure Profile where
  settings : Settings
  environment : Environment

namespace Profile

/-- The settings in the relevant part of the environment of the process. -/
def inProcess (s : Settings) (process : Environment) : Profile := ⟨s, process.relevant⟩

/-- The variable that redirects a chain. -/
def redirection (chain : Chain) : String := "RPC_" ++ chain.environmentKey

/-- The variable that holds the explorer's key. -/
def apiKeyVariable : String := "WALLET_TOKEN_EXPLORER_API_KEY"

/-- The network of a chain, redirected where the environment says so. -/
def network? (p : Profile) (chain : Chain) : Option Network :=
  (p.settings.network? chain).map fun n =>
    match p.environment.get? (redirection chain) with
    | some url => { n with rpcUrl := url }
    | none => n

/-- The network of the default chain. -/
def defaultNetwork (p : Profile) : Except Settings.Error Network :=
  match p.network? p.settings.defaultChain with
  | some n => .ok n
  | none => .error (.networkMissing p.settings.defaultChain)

/-- The explorer's key: the environment's if it has one. -/
def apiKey (p : Profile) : String :=
  (p.environment.get? apiKeyVariable).getD p.settings.explorer.apiKey

/-- The profile after a change of its settings. -/
def update (p : Profile) (f : Settings → Settings) : Profile := { p with settings := f p.settings }

/-! ## Files -/

/-- The settings that a document holds. They need a network for their default chain. -/
def readSettings (document : String) : Except Settings.Error Settings :=
  match (Json.parse? document).bind Settings.ofJson? with
  | none => .error (.serialization "not a settings document")
  | some s =>
    match s.network? s.defaultChain with
    | some _ => .ok s
    | none => .error (.networkMissing s.defaultChain)

/-- The profile of a file, given by its bytes if it can be read. -/
def ofFile (path : String) (content : Option (List UInt8)) (process : Environment) :
    Except Settings.Error Profile :=
  match content.bind Bytes.decodeUtf8? with
  | none => .error (.fileNotFound path)
  | some document => (readSettings document).map (inProcess · process)

/-- The document of a profile's settings. -/
def document (p : Profile) : String := p.settings.toJson.print

end Profile

end EvmWallet

import EvmWallet.Bytes.Utf8
import EvmWallet.Http
import EvmWallet.Settings.Profile
import EvmWallet.Token.Listing
import EvmWallet.Url.Reader

/-!
# Token explorers

A service that lists the tokens a wallet holds. The listing of a wallet lies below the
service's folder, under the wallet's address as a relative URL, and is asked for with the
service's key.
-/

namespace EvmWallet.Token

/-- A token explorer: its folder and the key to it. -/
structure Explorer where
  folder : Url
  apiKey : String

namespace Explorer

/-- A cause why a URL cannot be used. -/
def badUrl (e : Url.Error) : Error := .network ("Invalid explorer url: " ++ e.message)

/-- The explorer at a URL. -/
def ofUrl (baseUrl apiKey : String) : Except Error Explorer :=
  match Url.ofString baseUrl with
  | .ok u => .ok ⟨u.asFolder, apiKey⟩
  | .error e => .error (badUrl e)

/-- The explorer of a profile. -/
def ofProfile (p : Profile) : Except Error Explorer :=
  ofUrl p.settings.explorer.baseUrl p.apiKey

/-- The URL of a wallet's listing. -/
def listingUrl (e : Explorer) (wallet : String) : Except Error Url :=
  match e.folder.descend ("getAddressInfo/".toList ++ Text.trimChars wallet.toList) with
  | .ok u => .ok (u.addPair "apiKey" e.apiKey)
  | .error cause => .error (badUrl cause)

/-- The tokens in the answer to a request for a listing. -/
def readAnswer (request : Url) : Option Http.Response → Except Error (List Token)
  | none => .error (.network "Token explorer request failed")
  | some r =>
    match r.fault? with
    | some fault =>
      .error (.network ("Token explorer request failed: HTTP status " ++ fault ++ " error ("
        ++ r.statusText ++ ") for url (" ++ toString request ++ ")"))
    | none => ofListing (Bytes.decodeLenient r.content)

/-- The tokens of a wallet, given how requests are answered. -/
def fetch (e : Explorer) (deliver : Url → Option Http.Response) (wallet : String) :
    Except Error (List Token) :=
  (e.listingUrl wallet).bind fun u => readAnswer u (deliver u)

end Explorer

end EvmWallet.Token
